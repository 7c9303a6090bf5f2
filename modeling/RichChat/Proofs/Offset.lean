import Mathlib.Data.List.Basic
import Mathlib.Tactic.Common
import RichChat.Text.Bytes

/-!
# Boundaries of a text

A boundary is a byte offset between two characters of a text, or at one of its ends. Boundaries
stay where they are when text is added (`Boundary.mono`), and they are the valid positions of
the text as a string (`boundary_iff_isValid`).
-/

namespace RichChat.Text

theorem size_eq_zero {cs : List Char} : size cs = 0 ↔ cs = [] := by
  cases cs with
  | nil => simp [size]
  | cons c cs =>
    have := c.utf8Size_pos
    simp only [size, reduceCtorEq, iff_false]
    omega

@[simp] theorem size_reverse (cs : List Char) : size cs.reverse = size cs := by
  induction cs with
  | nil => rfl
  | cons c cs ih =>
    simp only [List.reverse_cons, size_append, ih, size]
    omega

theorem size_mono {as bs : List Char} (h : as <+: bs) : size as ≤ size bs := by
  obtain ⟨cs, rfl⟩ := h
  simp

/-- Of two beginnings of a text, the one with fewer bytes is the beginning of the other. -/
theorem prefix_of_size_le {as bs cs : List Char} (ha : as <+: cs) (hb : bs <+: cs)
    (h : size as ≤ size bs) : as <+: bs := by
  rcases List.prefix_or_prefix_of_prefix ha hb with hab | hba
  · exact hab
  · obtain ⟨ds, rfl⟩ := hba
    have : ds = [] := size_eq_zero.1 (by rw [size_append] at h; omega)
    simp [this]

theorem utf8ByteSize_ofList (cs : List Char) : (String.ofList cs).utf8ByteSize = size cs := by
  induction cs with
  | nil => rfl
  | cons c cs ih =>
    rw [String.ofList_cons, String.utf8ByteSize_append, ih, String.utf8ByteSize_singleton, size]

/-- An offset between two characters of a text, or at one of its ends. -/
def Boundary (cs : List Char) (n : Nat) : Prop := ∃ front, front <+: cs ∧ size front = n

namespace Boundary

variable {as bs cs : List Char} {n : Nat}

theorem zero (cs : List Char) : Boundary cs 0 := ⟨[], List.nil_prefix, rfl⟩

theorem size (cs : List Char) : Boundary cs (size cs) := ⟨cs, List.prefix_rfl, rfl⟩

theorem mono (h : Boundary as n) (hab : as <+: bs) : Boundary bs n := by
  obtain ⟨front, hf, rfl⟩ := h
  exact ⟨front, hf.trans hab, rfl⟩

theorem le (h : Boundary cs n) : n ≤ Text.size cs := by
  obtain ⟨front, hf, rfl⟩ := h
  exact size_mono hf

theorem max {m : Nat} (hn : Boundary cs n) (hm : Boundary cs m) : Boundary cs (max n m) := by
  rcases Nat.le_total n m with h | h
  · rwa [Nat.max_eq_right h]
  · rwa [Nat.max_eq_left h]

/-- What is left after a trailing part ends at a boundary. -/
theorem dropWhile_reverse (p : Char → Bool) (cs : List Char) :
    Boundary cs (Text.size (cs.reverse.dropWhile p)) := by
  refine ⟨(cs.reverse.dropWhile p).reverse, ?_, size_reverse _⟩
  rw [← List.reverse_suffix, List.reverse_reverse]
  exact List.dropWhile_suffix p

end Boundary

theorem boundary_cons {c : Char} {cs : List Char} {n : Nat} :
    Boundary (c :: cs) n ↔ n = 0 ∨ ∃ m, Boundary cs m ∧ n = c.utf8Size + m := by
  constructor
  · rintro ⟨front, hf, rfl⟩
    rcases List.prefix_cons_iff.1 hf with rfl | ⟨t, rfl, ht⟩
    · exact .inl rfl
    · exact .inr ⟨size t, ⟨t, ht, rfl⟩, rfl⟩
  · rintro (rfl | ⟨m, ⟨t, ht, rfl⟩, rfl⟩)
    · exact .zero _
    · exact ⟨c :: t, by simpa using ht, rfl⟩

/-- The bytes of a text can be dropped up to each boundary and no other offset. -/
theorem isSome_dropBytes? (n : Nat) (cs : List Char) :
    (dropBytes? n cs).isSome ↔ Boundary cs n := by
  fun_induction dropBytes? n cs with
  | case1 => simp [Boundary.zero]
  | case2 n =>
    simp only [Option.isSome_none, Bool.false_eq_true, false_iff]
    intro h
    have := h.le
    simp [size] at this
  | case3 n c cs hc ih =>
    rw [ih, boundary_cons]
    constructor
    · exact fun h => .inr ⟨_, h, by omega⟩
    · rintro (h | ⟨m, hm, h⟩)
      · omega
      · rwa [show n + 1 - c.utf8Size = m by omega]
  | case4 n c cs hc =>
    simp only [Option.isSome_none, Bool.false_eq_true, false_iff, boundary_cons]
    rintro (h | ⟨m, -, h⟩) <;> omega

/-- Boundaries are the valid positions of the text as a string. -/
theorem boundary_iff_isValid {cs : List Char} {n : Nat} :
    Boundary cs n ↔ (⟨n⟩ : String.Pos.Raw).IsValid (String.ofList cs) := by
  rw [String.Pos.Raw.isValid_iff_exists_append]
  constructor
  · rintro ⟨front, ⟨rest, rfl⟩, rfl⟩
    refine ⟨String.ofList front, String.ofList rest, String.ofList_append, ?_⟩
    rw [String.Pos.Raw.ext_iff, String.byteIdx_rawEndPos, utf8ByteSize_ofList]
  · rintro ⟨s, t, h, hn⟩
    refine ⟨s.toList, ⟨t.toList, ?_⟩, ?_⟩
    · rw [← String.toList_append, ← h, String.toList_ofList]
    · rw [← utf8ByteSize_ofList, String.ofList_toList, ← String.byteIdx_rawEndPos, ← hn]

end RichChat.Text
