import Mathlib.Data.List.Basic
import Mathlib.Tactic.Common
import RichChat.Proofs.Growth

/-!
# Space between blocks

Spacing adds the line feeds that are missing at the end of a text, and none to a buffer without text
(`padNewlines_eq`). So of two spaces that are asked for in turn the greater one is left
(`padNewlines_padNewlines`).

Spacing looks back while it adds. As long as all places so far had line feeds, or have got them, the
place that it looks at is one of the line feeds at the end or the one in front of them
(`foldl_padAt`). There the last byte of a character tells whether it is a line feed as the character
does (`byte_eq_newline_iff`).
-/

namespace RichChat

/-- Behind something else than `x`, looking back tells how often `x` has been added. -/
theorem getElem?_reverse_append_replicate {α : Type} {front : List α} {x : α} {i k : Nat}
    (hfront : front.getLast? ≠ some x) (hi : i ≤ k) :
    (front ++ List.replicate k x).reverse[i]? = some x ↔ i < k := by
  rw [List.reverse_append, List.reverse_replicate]
  rcases Nat.lt_or_ge i k with hlt | hge
  · simp [hlt, List.getElem?_append_left]
  · obtain rfl : i = k := Nat.le_antisymm hi hge
    rw [List.getElem?_append_right (by simp), List.length_replicate, Nat.sub_self,
      ← List.head?_eq_getElem?, List.head?_reverse]
    simpa using hfront

namespace Text

/-- How many line feeds a text ends with. -/
def lineFeeds (cs : List Char) : Nat := (cs.reverse.takeWhile (· = '\n')).length

theorem exists_eq_append_lineFeeds (cs : List Char) :
    ∃ front, cs = front ++ List.replicate (lineFeeds cs) '\n' ∧ front.getLast? ≠ some '\n' := by
  have hfeeds : cs.reverse.takeWhile (· = '\n') = List.replicate (lineFeeds cs) '\n' :=
    List.eq_replicate_of_mem fun c hc => by
      simpa using List.all_eq_true.1 List.all_takeWhile c hc
  refine ⟨(cs.reverse.dropWhile (· = '\n')).reverse, ?_, ?_⟩
  · rw [← List.reverse_replicate, ← hfeeds, ← List.reverse_append, List.takeWhile_append_dropWhile,
      List.reverse_reverse]
  · have hfirst := List.head?_dropWhile_not (· = '\n') cs.reverse
    rw [List.getLast?_reverse]
    intro hend
    simp [hend] at hfirst

theorem lineFeeds_append (front cs : List Char) : lineFeeds (front ++ cs)
    = if lineFeeds cs = cs.length then lineFeeds front + cs.length else lineFeeds cs := by
  by_cases hall : lineFeeds cs = cs.length
  · rw [if_pos hall]
    unfold lineFeeds at hall ⊢
    rw [List.reverse_append, List.takeWhile_append, List.length_reverse, if_pos hall,
      List.length_append, List.length_reverse, Nat.add_comm]
  · rw [if_neg hall]
    unfold lineFeeds at hall ⊢
    rw [List.reverse_append, List.takeWhile_append, List.length_reverse, if_neg hall]

theorem lineFeeds_append_replicate (cs : List Char) (k : Nat) :
    lineFeeds (cs ++ List.replicate k '\n') = lineFeeds cs + k := by
  have hall : lineFeeds (List.replicate k '\n') = k := by simp [lineFeeds]
  rw [lineFeeds_append, hall, List.length_replicate, if_pos rfl]

theorem lineFeeds_pos_iff {cs : List Char} : 0 < lineFeeds cs ↔ cs.getLast? = some '\n' := by
  obtain ⟨front, htext, hfront⟩ := exists_eq_append_lineFeeds cs
  have hlast := getElem?_reverse_append_replicate hfront (Nat.zero_le (lineFeeds cs))
  rw [← htext, ← List.head?_eq_getElem?, List.head?_reverse] at hlast
  exact hlast.symm

/-- Only a text of line feeds ends with as many as it is long. -/
theorem lineFeeds_ne_length {cs : List Char} (hne : cs ≠ []) (hlead : cs.head? ≠ some '\n') :
    lineFeeds cs ≠ cs.length := by
  intro heq
  obtain ⟨front, htext, -⟩ := exists_eq_append_lineFeeds cs
  obtain rfl : front = [] := by
    have hlength := congrArg List.length htext
    rw [List.length_append, List.length_replicate, heq] at hlength
    exact List.eq_nil_of_length_eq_zero (by omega)
  rw [htext, List.nil_append, heq, List.head?_replicate,
    if_neg (fun hzero => hne (List.eq_nil_of_length_eq_zero hzero))] at hlead
  exact hlead rfl

/-- The UTF-8 form of a text. -/
def bytes (cs : List Char) : List UInt8 := cs.flatMap String.utf8EncodeChar

/-- The last byte of a character of several bytes is none of a character of one byte. -/
theorem getLast?_utf8EncodeChar_ne {c : Char} (hc : c ≠ '\n') :
    (String.utf8EncodeChar c).getLast? ≠ some 10 := by
  have hval : c.val.toNat ≠ 10 := fun h => hc (Char.ext (UInt32.toNat.inj h))
  have hbyte {n : Nat} (hn : n < 256) (hne : n ≠ 10) : UInt8.ofNat n ≠ 10 := fun heq =>
    hne ((UInt8.toNat_ofNat_of_lt' hn).symm.trans (congrArg UInt8.toNat heq))
  have hlast : c.val.toNat % 64 + 128 < 256 := by omega
  unfold String.utf8EncodeChar
  dsimp only
  split_ifs with hshort
  · simpa using hbyte (by omega) hval
  all_goals simpa using hbyte hlast (by omega)

theorem getLast?_bytes_ne {cs : List Char} (h : cs.getLast? ≠ some '\n') :
    (bytes cs).getLast? ≠ some 10 := by
  rcases List.eq_nil_or_concat cs with rfl | ⟨front, c, rfl⟩
  · simp [bytes]
  · have hc : c ≠ '\n' := by simpa using h
    have hne : String.utf8EncodeChar c ≠ [] := by
      rw [← List.length_pos_iff, String.length_utf8EncodeChar]
      exact c.utf8Size_pos
    rw [bytes, List.concat_eq_append, List.flatMap_append, List.flatMap_singleton,
      List.getLast?_append_of_ne_nil _ hne]
    exact getLast?_utf8EncodeChar_ne hc

end Text

namespace Buffer

section Spacing

variable {b : Buffer}

/-- At the line feeds at the end, and at the place in front of them, looking back tells where they
start. -/
theorem fromEnd?_eq_newline_iff {i : Nat} (hi : i ≤ Text.lineFeeds b.text) :
    b.fromEnd? (i + 1) = some '\n' ↔ i < Text.lineFeeds b.text := by
  obtain ⟨front, htext, hfront⟩ := Text.exists_eq_append_lineFeeds b.text
  have hplace := getElem?_reverse_append_replicate hfront hi
  rwa [← htext] at hplace

/-- There it does not matter whether bytes or characters are looked at. -/
theorem byte_eq_newline_iff {i : Nat} (hi : i ≤ Text.lineFeeds b.text) :
    (Text.bytes b.text).reverse[i]? = some 10 ↔ b.fromEnd? (i + 1) = some '\n' := by
  obtain ⟨front, htext, hfront⟩ := Text.exists_eq_append_lineFeeds b.text
  have hbytes : Text.bytes b.text
      = Text.bytes front ++ List.replicate (Text.lineFeeds b.text) 10 := by
    conv_lhs => rw [htext]
    rw [Text.bytes, List.flatMap_append, List.flatMap_replicate]
    exact congrArg _ List.flatten_replicate_singleton
  rw [fromEnd?_eq_newline_iff hi, hbytes]
  exact getElem?_reverse_append_replicate (Text.getLast?_bytes_ne hfront) hi

theorem padAt_succ {i : Nat} (hi : i ≤ Text.lineFeeds b.text) :
    b.padAt (i + 1) = if i < Text.lineFeeds b.text then b else b.append ['\n'] := by
  rw [padAt, write_newline]
  simp only [fromEnd?_eq_newline_iff hi]

/-- After `n` places there are `n` line feeds at the end, if there were not more of them before. -/
theorem foldl_padAt (n : Nat) : (List.range n).foldl (fun b i => b.padAt (i + 1)) b
    = b.append (List.replicate (n - Text.lineFeeds b.text) '\n') := by
  induction n with
  | zero => simp
  | succ n ih =>
    have hplace := Text.lineFeeds_append_replicate b.text (n - Text.lineFeeds b.text)
    rw [List.range_succ, List.foldl_append, ih, List.foldl_cons, List.foldl_nil,
      padAt_succ (by rw [append_text, hplace]; omega), append_text, hplace]
    split
    · rw [show n - Text.lineFeeds b.text = 0 by omega,
        show n + 1 - Text.lineFeeds b.text = 0 by omega]
    · rw [show n + 1 - Text.lineFeeds b.text = n - Text.lineFeeds b.text + 1 by omega,
        List.replicate_succ', append_append]

theorem padNewlines_eq (n : Nat) : b.padNewlines n
    = if b.text = [] then b else b.append (List.replicate (n - Text.lineFeeds b.text) '\n') := by
  rw [padNewlines, foldl_padAt, isEmpty]
  simp only [List.isEmpty_iff]

theorem padNewlines_of_empty (h : b.text = []) (n : Nat) : b.padNewlines n = b := by
  rw [padNewlines_eq, if_pos h]

theorem padNewlines_of_ne (h : b.text ≠ []) (n : Nat) :
    b.padNewlines n = b.append (List.replicate (n - Text.lineFeeds b.text) '\n') := by
  rw [padNewlines_eq, if_neg h]

theorem padNewlines_eq_append (b : Buffer) (n : Nat) :
    ∃ k, b.padNewlines n = b.append (List.replicate k '\n') := by
  rw [padNewlines_eq]
  split
  · exact ⟨0, by simp⟩
  · exact ⟨_, rfl⟩

theorem padNewlines_of_le {n : Nat} (h : n ≤ Text.lineFeeds b.text) : b.padNewlines n = b := by
  rw [padNewlines_eq, Nat.sub_eq_zero_of_le h]
  simp

/-- Of two spaces the greater one is left. -/
theorem padNewlines_padNewlines (m n : Nat) :
    (b.padNewlines m).padNewlines n = b.padNewlines (max m n) := by
  by_cases hempty : b.text = []
  · simp only [padNewlines_of_empty hempty]
  · have hlonger : (b.append (List.replicate (m - Text.lineFeeds b.text) '\n')).text ≠ [] := by
      simp [hempty]
    rw [padNewlines_of_ne hempty, padNewlines_of_ne hempty, padNewlines_of_ne hlonger, append_text,
      Text.lineFeeds_append_replicate, append_append, List.replicate_append_replicate]
    congr 2
    omega

theorem lineFeeds_padNewlines (hne : b.text ≠ []) (n : Nat) :
    Text.lineFeeds (b.padNewlines n).text = max (Text.lineFeeds b.text) n := by
  rw [padNewlines_of_ne hne, append_text, Text.lineFeeds_append_replicate]
  omega

theorem getLast?_padNewlines {n : Nat} (hn : 0 < n) (hne : (b.padNewlines n).text ≠ []) :
    (b.padNewlines n).text.getLast? = some '\n' := by
  by_cases hempty : b.text = []
  · rw [padNewlines_of_empty hempty] at hne
    exact absurd hempty hne
  · rw [← Text.lineFeeds_pos_iff, lineFeeds_padNewlines hempty]
    omega

theorem atLineStart_padNewlines (b : Buffer) {n : Nat} (hn : 0 < n) :
    (b.padNewlines n).atLineStart = true := by
  by_cases hne : (b.padNewlines n).text = []
  · simp [atLineStart, hne]
  · simp [atLineStart, getLast?_padNewlines hn hne]

end Spacing

/-- Spacing leaves a buffer without text as it is. Otherwise it adds just the line feeds that are
missing at the end, whatever marker is due, so that to ask for as many or fewer of them once more
adds nothing. -/
theorem padNewlines_exact (b : Buffer) (n : Nat) :
    (b.padNewlines n = if b.text = [] then b
      else b.append (List.replicate (n - min n (Text.lineFeeds b.text)) '\n')) ∧
    (b.padNewlines n).padNewlines n = b.padNewlines n ∧
    ∀ m ≤ n, (b.padNewlines n).padNewlines m = b.padNewlines n := by
  have hmissing : n - min n (Text.lineFeeds b.text) = n - Text.lineFeeds b.text := by omega
  have hagain (m : Nat) (hm : m ≤ n) : (b.padNewlines n).padNewlines m = b.padNewlines n := by
    rw [padNewlines_padNewlines, Nat.max_eq_left hm]
  refine ⟨?_, hagain n (Nat.le_refl n), hagain⟩
  rw [hmissing]
  exact padNewlines_eq n

/-- Of three places the last two are in front of the text, and a marker is due behind it. -/
theorem padNewlines_exact_short :
    let b : Buffer := { text := ['\n'], marker := ['>', ' '] }
    b.markerDue = true ∧ b.padNewlines 3 = b.append ['\n', '\n'] ∧
      2 ≤ 3 ∧ (b.padNewlines 3).padNewlines 2 = b.padNewlines 3 :=
  ⟨by decide, (padNewlines_exact _ 3).1, by decide, (padNewlines_exact _ 3).2.2 2 (by decide)⟩

end Buffer

end RichChat
