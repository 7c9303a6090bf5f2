import RichChat.Proofs.Spacing

/-!
# A buffer behind another text

A buffer that already has text can be used as if it were empty, if that text ends with an empty line
(`AtEdge`): what is written then comes behind it just the same (`Buffer.Shifted`). Spacing looks back
over the last two places of the buffer, which may not be its own any more. That is told from what
was there before only by a text that starts with a line feed (`Shifted.startBlock`).

Once there is text of its own, what is in front of it does not matter (`Behind`), and without a
marker it does not matter to writing at all (`Apart`).
-/

namespace RichChat

/-- A text behind which a line starts, with an empty line before it. -/
def Text.AtEdge (front : List Char) : Prop := front = [] ∨ ∃ rest, front = rest ++ ['\n', '\n']

/-- A range of bytes behind a text of `n` bytes. -/
def shiftRange (n : Nat) (range : Nat × Nat) : Nat × Nat := (range.1 + n, range.2 + n)

namespace Buffer

/-- Behind an edge there is no space missing. -/
theorem padNewlines_of_atEdge {b : Buffer} (h : Text.AtEdge b.text) {n : Nat} (hn : n ≤ 2) :
    b.padNewlines n = b := by
  obtain hempty | ⟨rest, hend⟩ := h
  · exact padNewlines_of_empty hempty n
  · have hfeeds : Text.lineFeeds b.text = Text.lineFeeds rest + 2 := by
      rw [hend]
      exact Text.lineFeeds_append_replicate rest 2
    exact padNewlines_of_le (by omega)

/-- Behind a text that does not end a line, space is two line feeds. -/
theorem startBlock_of_getLast?_ne {b : Buffer} (hne : b.text ≠ [])
    (hend : b.text.getLast? ≠ some '\n') : b.startBlock = b.append ['\n', '\n'] := by
  have hfeeds : Text.lineFeeds b.text = 0 := Nat.eq_zero_of_not_pos (mt Text.lineFeeds_pos_iff.1 hend)
  rw [startBlock, padNewlines_of_ne hne, hfeeds]
  rfl

/-- Behind `front` the buffer starts with an empty line, as it does where there is nothing. -/
def Behind (front : List Char) (b : Buffer) : Prop := b.text = [] → Text.AtEdge front

/-- Behind `front` the marker is due where it is due without it. -/
def Apart (front : List Char) (b : Buffer) : Prop :=
  b.text = [] → Text.AtEdge front ∨ b.marker = []

section

variable {front : List Char} {b b' : Buffer}

theorem Behind.apart (h : b.Behind front) : b.Apart front := fun hb => .inl (h hb)

theorem Behind.mono (h : b.Behind front) (hp : b.text <+: b'.text) : b'.Behind front :=
  fun hb => h (List.prefix_nil.1 (hb ▸ hp))

theorem Apart.mono (h : b.Apart front) (hp : b.text <+: b'.text) (hm : b'.marker = b.marker) :
    b'.Apart front :=
  fun hb => hm ▸ h (List.prefix_nil.1 (hb ▸ hp))

theorem Apart.append (h : b.Apart front) (cs : List Char) : (b.append cs).Apart front :=
  h.mono (List.prefix_append _ _) rfl

theorem Apart.flush (h : b.Apart front) : b.flush.Apart front := by
  rw [flush_eq_append]
  exact h.append _

theorem Apart.writePiece (h : b.Apart front) (start : Option Nat) (p : List Char) :
    (Buffer.writePiece (start, b) p).2.Apart front := by
  unfold Buffer.writePiece
  dsimp only
  split
  · exact h.append p
  · exact h.flush.append p

theorem Apart.write (h : b.Apart front) (cs : List Char) : (b.write cs).2.Apart front := by
  have hfold : ∀ (ps : List (List Char)) (start : Option Nat) {b : Buffer}, b.Apart front →
      (ps.foldl Buffer.writePiece (start, b)).2.Apart front := by
    intro ps
    induction ps with
    | nil => exact fun _ _ h => h
    | cons p ps ih => exact fun start _ h => ih _ (h.writePiece start p)
  exact hfold (Text.pieces cs) none h

end

/-- `d` has the text of `b` behind `front`. -/
structure Shifted (front : List Char) (b d : Buffer) : Prop where
  text : d.text = front ++ b.text
  marker : d.marker = b.marker

namespace Shifted

variable {front : List Char} {b d : Buffer}

theorem length (h : Shifted front b d) : d.length = b.length + Text.size front := by
  rw [Buffer.length, h.text, Text.size_append, Nat.add_comm]
  rfl

theorem append (h : Shifted front b d) (cs : List Char) :
    Shifted front (b.append cs) (d.append cs) :=
  ⟨by simp [h.text], h.marker⟩

theorem atLineStart (h : Shifted front b d) (hf : b.Behind front) :
    d.atLineStart = b.atLineStart := by
  cases hb : b.text.getLast? with
  | some x =>
    have hne : b.text ≠ [] := by
      intro hnil
      simp [hnil] at hb
    have hne' : d.text ≠ [] := by simp [h.text, hne]
    rw [Buffer.atLineStart, Buffer.atLineStart, List.isEmpty_eq_false_iff.2 hne,
      List.isEmpty_eq_false_iff.2 hne', h.text, List.getLast?_append, hb]
    rfl
  | none =>
    rw [List.getLast?_eq_none_iff] at hb
    obtain rfl | ⟨rest, rfl⟩ := hf hb <;> simp [Buffer.atLineStart, h.text, hb]

theorem markerDue (h : Shifted front b d) (hf : b.Apart front) : d.markerDue = b.markerDue := by
  by_cases hm : b.marker = []
  · simp [Buffer.markerDue, h.marker, hm]
  · rw [Buffer.markerDue, h.marker, h.atLineStart fun hb => (hf hb).resolve_right hm]
    rfl

theorem flush (h : Shifted front b d) (hf : b.Apart front) :
    Shifted front b.flush d.flush := by
  unfold Buffer.flush
  rw [h.markerDue hf, h.marker]
  split
  · exact h.append _
  · exact h

theorem writePiece (h : Shifted front b d) (hf : b.Apart front) (start : Option Nat)
    (p : List Char) :
    (Buffer.writePiece (start.map (· + Text.size front), d) p).1
        = (Buffer.writePiece (start, b) p).1.map (· + Text.size front) ∧
      Shifted front (Buffer.writePiece (start, b) p).2
        (Buffer.writePiece (start.map (· + Text.size front), d) p).2 := by
  have hnext : Shifted front (if p = ['\n'] then b else b.flush)
      (if p = ['\n'] then d else d.flush) := by
    split
    · exact h
    · exact h.flush hf
  refine ⟨?_, hnext.append p⟩
  cases start with
  | none => exact congrArg some hnext.length
  | some n => rfl

theorem writePieces (ps : List (List Char)) :
    ∀ (start : Option Nat) {b d : Buffer}, Shifted front b d → b.Apart front →
      (ps.foldl Buffer.writePiece (start.map (· + Text.size front), d)).1
          = (ps.foldl Buffer.writePiece (start, b)).1.map (· + Text.size front) ∧
        Shifted front (ps.foldl Buffer.writePiece (start, b)).2
          (ps.foldl Buffer.writePiece (start.map (· + Text.size front), d)).2 := by
  induction ps with
  | nil => exact fun _ _ _ h _ => ⟨rfl, h⟩
  | cons p ps ih =>
    intro start b d h hf
    obtain ⟨hstart, hnext⟩ := h.writePiece hf start p
    have := ih (Buffer.writePiece (start, b) p).1 hnext (hf.writePiece start p)
    rw [← hstart] at this
    exact this

theorem write (h : Shifted front b d) (hf : b.Apart front) (cs : List Char) :
    (d.write cs).1 = shiftRange (Text.size front) (b.write cs).1 ∧
      Shifted front (b.write cs).2 (d.write cs).2 := by
  obtain ⟨hstart, hnext⟩ := writePieces (Text.pieces cs) none h hf
  rw [Option.map_none] at hstart hnext
  refine ⟨?_, hnext⟩
  unfold Buffer.write shiftRange
  dsimp only
  rw [hstart, hnext.length]
  cases ((Text.pieces cs).foldl Buffer.writePiece (none, b)).1 <;> rfl

theorem ne_nil (h : Shifted front b d) (hne : b.text ≠ []) : d.text ≠ [] := by
  rw [h.text]
  simp [hne]

/-- As much space is missing, unless looking back leaves the own text. -/
theorem padNewlines (h : Shifted front b d) (hne : b.text ≠ []) {n : Nat}
    (hn : n ≤ b.text.length ∨ Text.lineFeeds b.text ≠ b.text.length) :
    Shifted front (b.padNewlines n) (d.padNewlines n) := by
  have hmissing : n - Text.lineFeeds d.text = n - Text.lineFeeds b.text := by
    rw [h.text, Text.lineFeeds_append]
    split_ifs with hall
    · have := hn.resolve_right (not_not_intro hall)
      omega
    · rfl
  rw [padNewlines_of_ne hne, padNewlines_of_ne (h.ne_nil hne), hmissing]
  exact h.append _

/-- Where there is no text, what is in front of it ends with an empty line, as if there were none. -/
theorem padNewlines_empty (h : Shifted front b d) (hf : b.Behind front) (hempty : b.text = [])
    {n : Nat} (hn : n ≤ 2) : Shifted front (b.padNewlines n) (d.padNewlines n) := by
  have hd : d.text = front := by rw [h.text, hempty, List.append_nil]
  rw [padNewlines_of_empty hempty, padNewlines_of_atEdge (by rw [hd]; exact hf hempty) hn]
  exact h

theorem ensureBreak (h : Shifted front b d) (hf : b.Behind front) :
    Shifted front b.ensureBreak d.ensureBreak := by
  by_cases hempty : b.text = []
  · exact h.padNewlines_empty hf hempty (by omega)
  · exact h.padNewlines hempty (.inl (List.length_pos_iff.2 hempty))

/-- The second place back is in front of the own text if that is a line feed alone. -/
theorem startBlock (h : Shifted front b d) (hf : b.Behind front)
    (hlead : b.text.head? ≠ some '\n') : Shifted front b.startBlock d.startBlock := by
  by_cases hempty : b.text = []
  · exact h.padNewlines_empty hf hempty (by omega)
  · exact h.padNewlines hempty (.inr (Text.lineFeeds_ne_length hempty hlead))

end Shifted

end Buffer

end RichChat
