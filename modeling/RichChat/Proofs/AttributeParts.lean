import Mathlib.Data.List.Forall2
import Mathlib.Data.List.TakeWhile
import RichChat.Proofs.Digits
import RichChat.Rich.AttributeText

/-!
# The parts of the text of an attribute set

The text of a set is its parts with bars and blanks between them, and each part is read as one of the
sets that `Attribute.flags` gives. Their union is the set again (`Attribute.ofString?_toString`).
-/

namespace RichChat

namespace Text

theorem splitAt_of_not_mem {sep : Char} {cs : List Char} (h : sep ∉ cs) :
    splitAt sep cs = [cs] := by
  induction cs with
  | nil => rfl
  | cons c cs ih =>
    simp only [List.mem_cons, not_or] at h
    rw [splitAt, if_neg (Ne.symm h.1), ih h.2]

theorem splitAt_append {sep : Char} {p : List Char} (h : sep ∉ p) (cs : List Char) :
    splitAt sep (p ++ sep :: cs) = p :: splitAt sep cs := by
  induction p with
  | nil => simp [splitAt]
  | cons c p ih =>
    simp only [List.mem_cons, not_or] at h
    rw [List.cons_append, splitAt, if_neg (Ne.symm h.1), ih h.2]

theorem trim_ne_nil {cs : List Char} {c : Char} (hmem : c ∈ cs) (hc : isBlank c = false) :
    trim cs ≠ [] := by
  simp only [trim, trimEnd, trimStart, ne_eq, List.reverse_eq_nil_iff, List.dropWhile_eq_nil_iff,
    List.mem_reverse]
  intro hall
  rw [← List.takeWhile_append_dropWhile (p := isBlank) (l := cs), List.mem_append] at hmem
  rcases hmem with hmem | hmem
  · simpa [hc] using List.mem_takeWhile_imp hmem
  · simpa [hc] using hall c hmem

/-- A text without bars and blanks. -/
structure IsPart (cs : List Char) : Prop where
  ne_nil : cs ≠ []
  bar : '|' ∉ cs
  blank : ∀ c ∈ cs, isBlank c = false

theorem IsPart.dropWhile {b cs : List Char} (h : IsPart cs) (hb : ∀ c ∈ b, isBlank c = true)
    (rest : List Char) : (b ++ (cs ++ rest)).dropWhile isBlank = cs ++ rest := by
  obtain ⟨c, cs, rfl⟩ := List.exists_cons_of_ne_nil h.ne_nil
  rw [List.dropWhile_append_of_pos hb, List.cons_append,
    List.dropWhile_cons_of_neg (by simp [h.blank c List.mem_cons_self])]

theorem IsPart.reverse {cs : List Char} (h : IsPart cs) : IsPart cs.reverse :=
  ⟨by simpa using h.ne_nil, by simpa using h.bar, by simpa using h.blank⟩

theorem IsPart.trim_append {b cs e : List Char} (h : IsPart cs) (hb : ∀ c ∈ b, isBlank c = true)
    (he : ∀ c ∈ e, isBlank c = true) : trim (b ++ (cs ++ e)) = cs := by
  have hend := h.reverse.dropWhile (b := e.reverse) (by simpa using he) []
  rw [List.append_nil] at hend
  rw [trim, trimStart, h.dropWhile hb, trimEnd, List.reverse_append, hend, List.reverse_reverse]

/-- The parts between bars come back, without the blanks around the bars. -/
theorem map_trim_splitAt {b p : List Char} {ps : List (List Char)} (hb : b ⊆ [' '])
    (hps : ∀ q ∈ p :: ps, IsPart q) :
    (splitAt '|' (b ++ [' ', '|', ' '].intercalate (p :: ps))).map trim = p :: ps := by
  have hblank {b : List Char} (hb : b ⊆ [' ']) : ∀ c ∈ b, isBlank c = true := by
    intro c hc
    obtain rfl := List.mem_singleton.1 (hb hc)
    rfl
  have hbar {b : List Char} (hb : b ⊆ [' ']) : '|' ∉ b := fun hc => by simpa using hb hc
  induction ps generalizing b p with
  | nil =>
    have hp := hps p List.mem_cons_self
    have htrim := hp.trim_append (hblank hb) (e := []) (by simp)
    rw [List.append_nil] at htrim
    rw [List.intercalate_singleton, splitAt_of_not_mem (by simp [hbar hb, hp.bar]),
      List.map_singleton, htrim]
  | cons q qs ih =>
    have hp := hps p List.mem_cons_self
    -- The blank after the bar goes to the next part.
    have hcut : b ++ [' ', '|', ' '].intercalate (p :: q :: qs)
        = (b ++ (p ++ [' '])) ++ '|' :: ([' '] ++ [' ', '|', ' '].intercalate (q :: qs)) := by
      simp [List.intercalate_cons_cons]
    rw [hcut, splitAt_append (by simp [hbar hb, hp.bar]), List.map_cons,
      hp.trim_append (hblank hb) (hblank (List.Subset.refl _)),
      ih (List.Subset.refl _) fun r hr => hps r (List.mem_cons_of_mem _ hr)]

theorem trim_intercalate_ne_nil {p : List Char} (hp : IsPart p) (sep : List Char)
    (ps : List (List Char)) : trim (sep.intercalate (p :: ps)) ≠ [] := by
  obtain ⟨c, cs, rfl⟩ := List.exists_cons_of_ne_nil hp.ne_nil
  refine trim_ne_nil (c := c) ?_ (hp.blank c List.mem_cons_self)
  cases ps <;> simp [List.intercalate_cons_cons]

end Text

namespace Attribute

/-- A part of the text of a set, and what it adds to the set. -/
def IsFlag (part : String) (flag : Attribute) : Prop :=
  Text.IsPart part.toList ∧ readFlag? part.toList = some flag

theorem isFlag_named : ∀ p ∈ named, IsFlag p.1 p.2 := by
  simp only [named, List.forall_mem_cons]
  refine ⟨?_, ?_, ?_, ?_, ?_, ?_, by simp⟩ <;>
    exact ⟨⟨by decide, by decide, by simp [Text.isBlank]⟩, by decide⟩

theorem isFlag_hexDigits (a : Attribute) :
    IsFlag ("0x" ++ String.ofList (Text.hexDigits a.bits.toNat)) a := by
  have hread := Text.readNat?_toDigits (show 1 < 16 by decide) (by decide) a.bits.toNat
  have hdigit {c : Char} (hc : c ∈ Text.hexDigits a.bits.toNat) :
      c ≠ '+' ∧ c ≠ '|' ∧ Text.isBlank c = false := by
    obtain ⟨v, hv, rfl⟩ := Text.eq_digitChar_of_mem_toDigits hc
    clear hc
    revert v
    decide
  have htext : ("0x" ++ String.ofList (Text.hexDigits a.bits.toNat)).toList
      = '0' :: 'x' :: Text.hexDigits a.bits.toNat := by
    simp
  rw [IsFlag, htext]
  refine ⟨⟨by simp, by simpa using fun hc => (hdigit hc).2.1 rfl, ?_⟩, ?_⟩
  · simp only [List.forall_mem_cons]
    exact ⟨by decide, by decide, fun c hc => (hdigit hc).2.2⟩
  · obtain ⟨d, ds, hds⟩ : ∃ d ds, Text.hexDigits a.bits.toNat = d :: ds :=
      List.exists_cons_of_ne_nil Nat.toDigits_ne_nil
    have hplus : d ≠ '+' := (hdigit (hds ▸ List.mem_cons_self)).1
    rw [← Text.hexDigits, hds] at hread
    rw [hds]
    simp [readFlag?, readHex?, hplus, hread, a.bits.isLt]

/-- The texts that the text of a set puts together. -/
def parts (a : Attribute) : List String :=
  ((named.filter fun p => a.contains p.2).map fun p => p.1)
    ++ if a.isKnown then [] else ["0x" ++ String.ofList (Text.hexDigits a.unknown.bits.toNat)]

theorem forall₂_parts (a : Attribute) : List.Forall₂ IsFlag a.parts a.flags := by
  refine List.rel_append ?_ ?_
  · rw [List.filter_map, List.forall₂_map_left_iff, List.forall₂_map_right_iff]
    exact List.forall₂_same.2 fun p hp => isFlag_named p (List.mem_of_mem_filter hp)
  · split
    · exact .nil
    · exact .cons (isFlag_hexDigits a.unknown) .nil

theorem foldl_flags : ∀ a : Attribute, a.flags.foldl union empty = a := by
  rintro ⟨bits⟩
  revert bits
  decide

theorem foldlM_parts {parts : List String} {flags : List Attribute}
    (h : List.Forall₂ IsFlag parts flags) (a : Attribute) :
    (parts.map String.toList).foldlM (fun a part => (readFlag? part).map a.union) a
      = some (flags.foldl union a) := by
  induction h generalizing a with
  | nil => rfl
  | cons hpart _ ih => simp [hpart.2, ih]

theorem toString_eq (a : Attribute) : a.toString = " | ".intercalate a.parts := rfl

theorem ofString?_toString (a : Attribute) : ofString? a.toString = some a := by
  have htext : a.toString.toList = [' ', '|', ' '].intercalate (a.parts.map String.toList) := by
    rw [toString_eq, String.toList_intercalate]
    rfl
  have hfold := foldlM_parts a.forall₂_parts empty
  rw [foldl_flags] at hfold
  have hparts : ∀ p ∈ a.parts.map String.toList, Text.IsPart p :=
    List.forall_mem_map.2 (List.forall₂_and_left _ _ |>.1 a.forall₂_parts).1
  cases hcs : a.parts.map String.toList with
  | nil =>
    rw [hcs] at htext hfold
    rw [ofString?, htext]
    exact hfold
  | cons p ps =>
    rw [hcs] at htext hfold hparts
    have hsplit := Text.map_trim_splitAt (b := []) (by simp) hparts
    have hne := Text.trim_intercalate_ne_nil (hparts p List.mem_cons_self) [' ', '|', ' '] ps
    rw [List.nil_append, ← htext] at hsplit
    rw [← htext] at hne
    rw [← hsplit, List.foldlM_map] at hfold
    rw [ofString?, if_neg (by simpa using hne)]
    exact hfold

end Attribute

end RichChat
