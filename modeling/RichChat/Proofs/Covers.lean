import RichChat.Proofs.Handler

/-!
# What a range covers

A range covers a text if the bytes between its ends are that text (`Text.Covers`), that is, if it
cuts the text out (`Text.slice?_eq_some`). It goes on to do so when more is written. What is written
as one line is covered by the range that writing gives (`Canvas.slice?_write`), since a marker comes
before the range.
-/

namespace RichChat

namespace Text

theorem dropBytes?_append (as bs : List Char) : dropBytes? (size as) (as ++ bs) = some bs := by
  induction as with
  | nil => exact dropBytes?.eq_1 _
  | cons c as ih =>
    obtain ⟨n, hn⟩ := Nat.exists_eq_succ_of_ne_zero (Nat.ne_of_gt c.utf8Size_pos)
    have hsize : size (c :: as) = n + size as + 1 := by rw [size, hn]; omega
    rw [hsize, List.cons_append, dropBytes?, if_pos (by omega),
      show n + size as + 1 - c.utf8Size = size as by omega, ih]

theorem eq_append_of_dropBytes? {n : Nat} {cs rest : List Char} (h : dropBytes? n cs = some rest) :
    ∃ front, cs = front ++ rest ∧ n = size front := by
  fun_induction dropBytes? n cs with
  | case1 cs => exact ⟨[], Option.some.inj h, rfl⟩
  | case2 n => cases h
  | case3 n c cs hc ih =>
    obtain ⟨front, rfl, hn⟩ := ih h
    exact ⟨c :: front, rfl, by rw [size]; omega⟩
  | case4 n c cs hc => cases h

theorem takeBytes?_append (as bs : List Char) : takeBytes? (size as) (as ++ bs) = some as := by
  induction as with
  | nil => exact takeBytes?.eq_1 _
  | cons c as ih =>
    obtain ⟨n, hn⟩ := Nat.exists_eq_succ_of_ne_zero (Nat.ne_of_gt c.utf8Size_pos)
    have hsize : size (c :: as) = n + size as + 1 := by rw [size, hn]; omega
    rw [hsize, List.cons_append, takeBytes?, if_pos (by omega),
      show n + size as + 1 - c.utf8Size = size as by omega, ih]
    rfl

theorem prefix_of_takeBytes? {n : Nat} {cs front : List Char} (h : takeBytes? n cs = some front) :
    front <+: cs ∧ n = size front := by
  fun_induction takeBytes? n cs generalizing front with
  | case1 cs =>
    obtain rfl := Option.some.inj h
    exact ⟨List.nil_prefix, rfl⟩
  | case2 n => cases h
  | case3 n c cs hc ih =>
    obtain ⟨rest, hrest, rfl⟩ := Option.map_eq_some_iff.1 h
    obtain ⟨hp, hn⟩ := ih hrest
    exact ⟨List.cons_prefix_cons.2 ⟨rfl, hp⟩, by rw [size]; omega⟩
  | case4 n c cs hc => cases h

/-- The bytes of `text` from one offset to another are `cs`. -/
def Covers (text : List Char) (start stop : Nat) (cs : List Char) : Prop :=
  ∃ front, front ++ cs <+: text ∧ start = size front ∧ stop = size (front ++ cs)

theorem Covers.append (text cs : List Char) :
    Covers (text ++ cs) (size text) (size (text ++ cs)) cs := ⟨text, List.prefix_rfl, rfl, rfl⟩

theorem Covers.mono {text longer cs : List Char} {start stop : Nat}
    (h : Covers text start stop cs) (hp : text <+: longer) : Covers longer start stop cs := by
  obtain ⟨front, hfront, hstart, hstop⟩ := h
  exact ⟨front, hfront.trans hp, hstart, hstop⟩

theorem slice?_eq_some {content s : String} {start stop : Nat} :
    slice? content start stop = some s ↔ Covers content.toList start stop s.toList := by
  constructor
  · intro h
    unfold slice? at h
    split at h
    · obtain ⟨cs, hcs, rfl⟩ := Option.map_eq_some_iff.1 h
      obtain ⟨rest, hrest, htake⟩ := Option.bind_eq_some_iff.1 hcs
      obtain ⟨front, hcontent, hstart⟩ := eq_append_of_dropBytes? hrest
      obtain ⟨hp, hlength⟩ := prefix_of_takeBytes? htake
      rw [hcontent, String.toList_ofList]
      exact ⟨front, (List.prefix_append_right_inj front).2 hp, hstart, by rw [size_append]; omega⟩
    · cases h
  · rintro ⟨front, ⟨rest, hcontent⟩, rfl, rfl⟩
    have hlength : size (front ++ s.toList) - size front = size s.toList := by
      rw [size_append]; omega
    rw [slice?, if_pos (by rw [size_append]; omega), hlength, ← hcontent, List.append_assoc,
      dropBytes?_append, Option.bind_some, takeBytes?_append, Option.map_some, String.ofList_toList]

/-- More text at the end does not change what is cut out. -/
theorem slice?_mono {text longer : List Char} (hp : text <+: longer) {start stop : Nat} {s : String}
    (h : slice? (String.ofList text) start stop = some s) :
    slice? (String.ofList longer) start stop = some s := by
  rw [slice?_eq_some, String.toList_ofList] at h ⊢
  exact h.mono hp

theorem slice?_append (text : List Char) (s : String) :
    slice? (String.ofList (text ++ s.toList)) (size text) (size (text ++ s.toList)) = some s := by
  rw [slice?_eq_some, String.toList_ofList]
  exact .append _ _

/-- A line is one piece. -/
theorem pieces_line {cs : List Char} (h : '\n' ∉ cs) (hne : cs ≠ []) : pieces cs = [cs] := by
  induction cs with
  | nil => exact absurd rfl hne
  | cons c cs ih =>
    have hc : c ≠ '\n' := fun hc => h (by simp [hc])
    have hcs : '\n' ∉ cs := fun hcs => h (List.mem_cons_of_mem c hcs)
    rw [pieces, if_neg hc]
    cases cs with
    | nil => rfl
    | cons d ds => rw [ih hcs (List.cons_ne_nil d ds)]

end Text

namespace Canvas

variable (c : Canvas)

/-- A line with text is written behind a marker that was due. -/
theorem write_line {text : String} (h : '\n' ∉ text.toList) (hne : text ≠ "") :
    c.write text = ((c.flush.buffer.flush.length, (c.flush.buffer.flush.append text.toList).length),
      { c.flush with buffer := c.flush.buffer.flush.append text.toList }) := by
  have hpieces := Text.pieces_line h (mt String.toList_eq_nil_iff.1 hne)
  have hnewline : text.toList ≠ ['\n'] := fun heq => h (by simp [heq])
  simp [write, hpieces, writePiece, hnewline, Buffer.write_piece _ hpieces hnewline]

theorem slice?_write {text : String} (h : '\n' ∉ text.toList) :
    Text.slice? (c.write text).2.content (c.write text).1.1 (c.write text).1.2 = some text := by
  by_cases hne : text = ""
  · subst hne
    have := Text.slice?_append c.buffer.text ""
    rwa [String.toList_empty, List.append_nil] at this
  · rw [c.write_line h hne]
    exact Text.slice?_append _ _

theorem le_writeBuffer (b : Buffer) {p : List Char} (hp : Text.pieces p = [p]) :
    b.length ≤ (b.write p).1.1 := by
  by_cases hn : p = ['\n']
  · have hstart : (b.write p).1.1 = b.length := by rw [hn, Buffer.write_newline]
    exact Nat.le_of_eq hstart.symm
  · rw [Buffer.write_piece _ hp hn, Buffer.flush_eq_append, Buffer.append_length]
    exact Nat.le_add_right _ _

theorem length_le_flush : c.length ≤ c.flush.length := by
  rw [length, length, flush_buffer, Buffer.flush_eq_append, Buffer.append_length]
  exact Nat.le_add_right _ _

theorem le_pieces {n : Nat} (ps : List (List Char)) (hps : ∀ p ∈ ps, Text.pieces p = [p])
    (range : Option (Nat × Nat)) (c : Canvas) (hc : n ≤ c.length) (h : ∀ r ∈ range, n ≤ r.1) :
    n ≤ (ps.foldl writePiece (range, c)).2.length ∧
      ∀ r ∈ (ps.foldl writePiece (range, c)).1, n ≤ r.1 := by
  induction ps generalizing range c with
  | nil => exact ⟨hc, h⟩
  | cons p ps ih =>
    have hp := hps p List.mem_cons_self
    have hflush : c.length ≤ (if p = ['\n'] then c else c.flush).buffer.length := by
      split
      · exact Nat.le_refl _
      · exact c.length_le_flush
    refine ih (fun q hq => hps q (List.mem_cons_of_mem _ hq)) _ _ ?_ fun r hr => ?_
    · exact Nat.le_trans hc (Text.size_mono (prefix_writePiece {} range c hp))
    · obtain rfl := Option.some.inj hr
      cases range with
      | none => exact Nat.le_trans hc (Nat.le_trans hflush (le_writeBuffer _ hp))
      | some s => exact h s rfl

/-- What is written comes behind what was there. -/
theorem le_write (text : String) : c.length ≤ (c.write text).1.1 := by
  obtain ⟨hlength, hrange⟩ := le_pieces (Text.pieces text.toList) (fun _ => Text.pieces_of_mem)
    none c (Nat.le_refl c.length) nofun
  unfold write
  dsimp only
  cases hr : ((Text.pieces text.toList).foldl writePiece (none, c)).1 with
  | none => exact hlength
  | some r => exact hrange r hr

end Canvas

end RichChat
