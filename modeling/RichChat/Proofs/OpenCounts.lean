import Mathlib.Data.List.Basic
import Mathlib.Data.List.Nodup
import Mathlib.Logic.Function.Iterate
import Mathlib.Tactic.Common
import RichChat.Render.Runs

/-!
# Which attributes are open

A set of attributes that is entered is counted by those of its bits that have a meaning, and by the
one that has none if there is just one of them (`Attribute.indices_eq`). The attributes of a run are
those with a count (`getLsbD_active`). So only this is seen of the counts, which of them are not
zero (`SameOpen`). To enter a set and then another one opens the same attributes as to enter their
union (`SameOpen.opened_opened`).
-/

namespace RichChat

/-- A number is changed as often as its index is in the list. -/
theorem getElem?_foldl_modify (f : Nat → Nat) (is counts : List Nat) (i : Nat) :
    (is.foldl (fun counts j => counts.modify j f) counts)[i]? = counts[i]?.map f^[is.count i] := by
  induction is generalizing counts with
  | nil => simp
  | cons j is ih =>
    rw [List.foldl_cons, ih, List.getElem?_modify, List.count_cons]
    by_cases hj : j = i
    · simp [hj, Function.comp_def]
    · simp [hj]

theorem length_foldl_modify (f : Nat → Nat) (is counts : List Nat) :
    (is.foldl (fun counts j => counts.modify j f) counts).length = counts.length := by
  induction is generalizing counts with
  | nil => rfl
  | cons j is ih => exact (ih _).trans (List.length_modify _ _ _)

/-- Leaving attributes takes back what entering them did. -/
theorem foldl_modify_cancel (is counts : List Nat) :
    is.foldl (fun counts i => counts.modify i (· - 1))
      (is.foldl (fun counts i => counts.modify i (· + 1)) counts) = counts := by
  have hback : Function.LeftInverse (fun n : Nat => n - 1) (fun n => n + 1) :=
    fun n => Nat.add_sub_cancel n 1
  ext i
  rw [getElem?_foldl_modify, getElem?_foldl_modify, Option.map_map,
    (hback.iterate (is.count i)).comp_eq_id, Option.map_id, id_eq]

namespace Attribute

theorem ext_bits {a b : Attribute} (h : ∀ i < 8, a.bits.getLsbD i = b.bits.getLsbD i) : a = b :=
  congrArg Attribute.mk (BitVec.eq_of_getLsbD_eq h)

theorem getLsbD_single {i j : Nat} (hj : j < 8) : (single i).bits.getLsbD j = decide (j = i) := by
  simp [single, hj]

theorem contains_single (a : Attribute) {i : Nat} (hi : i < 8) :
    a.contains (single i) = a.bits.getLsbD i := by
  have hne : (0 : BitVec 8) ≠ BitVec.twoPow 8 i := fun h => by
    have := congrArg (·.getLsbD i) h
    simp [hi] at this
  rw [contains, single, BitVec.and_twoPow]
  cases a.bits.getLsbD i with
  | true => simp
  | false => simpa using hne

theorem index?_single : ∀ i < 8, (single i).index? = some i := by decide

theorem index?_eq_some_iff {a : Attribute} {i : Nat} :
    a.index? = some i ↔ i < 8 ∧ a = single i := by
  constructor
  · intro h
    have honly : (List.range 8).filter (fun j => a.bits.getLsbD j) = [i] := by
      unfold index? at h
      split at h
      · rename_i heq
        rw [heq, Option.some.inj h]
      · cases h
    have hbit (j : Nat) : j < 8 ∧ a.bits.getLsbD j = true ↔ j = i := by
      rw [← List.mem_range, ← List.mem_filter, honly, List.mem_singleton]
    refine ⟨((hbit i).2 rfl).1, ext_bits fun j hj => ?_⟩
    rw [getLsbD_single hj, Bool.eq_iff_iff, decide_eq_true_iff, ← hbit j]
    exact (and_iff_right hj).symm
  · rintro ⟨hi, rfl⟩
    exact index?_single i hi

theorem getLsbD_unknown (a : Attribute) {i : Nat} (hi : i < 8) :
    a.unknown.bits.getLsbD i = (a.bits.getLsbD i && decide (count ≤ i)) := by
  have hmask : ∀ j < 8, (0xC0 : BitVec 8).getLsbD j = decide (count ≤ j) := by decide
  rw [unknown, BitVec.getLsbD_and, hmask i hi]

theorem getLsbD_known (a : Attribute) {i : Nat} (hi : i < 8) :
    a.known.bits.getLsbD i = (a.bits.getLsbD i && decide (i < count)) := by
  have hmask : ∀ j < 8, (0x3F : BitVec 8).getLsbD j = decide (j < count) := by decide
  rw [known, BitVec.getLsbD_and, hmask i hi]

theorem le_of_index?_unknown {a : Attribute} {i : Nat} (h : a.unknown.index? = some i) :
    count ≤ i := by
  obtain ⟨hi, hsingle⟩ := index?_eq_some_iff.1 h
  have hbit := a.getLsbD_unknown hi
  rw [hsingle, getLsbD_single hi, decide_eq_true rfl] at hbit
  exact of_decide_eq_true (Bool.and_eq_true_iff.1 hbit.symm).2

/-- A set is counted by the bits with a meaning, and by the one without if there is only one. -/
theorem indices_eq (a : Attribute) : a.indices
    = (List.range count).filter (fun i => a.bits.getLsbD i) ++ a.unknown.index?.toList := by
  have hnamed : named.map (·.2) = (List.range count).map single := rfl
  have hsmall {i : Nat} (hi : i ∈ List.range count) : i < 8 :=
    Nat.lt_trans (List.mem_range.1 hi) (by decide)
  have hknown : (((List.range count).map single).filter a.contains).filterMap index?
      = (List.range count).filter fun i => a.bits.getLsbD i := by
    have hfilter : (List.range count).filter (a.contains ∘ single)
        = (List.range count).filter fun i => a.bits.getLsbD i :=
      List.filter_congr fun i hi => a.contains_single (hsmall hi)
    have hindex : ∀ i ∈ (List.range count).filter fun i => a.bits.getLsbD i,
        (index? ∘ single) i = some i :=
      fun i hi => index?_single i (hsmall (List.mem_filter.1 hi).1)
    rw [List.filter_map, List.filterMap_map, hfilter, List.filterMap_congr hindex]
    exact List.filterMap_some
  have hunknown : (if a.isKnown then [] else [a.unknown]).filterMap index?
      = a.unknown.index?.toList := by
    split
    · rename_i hnone
      have hempty : a.unknown = empty := congrArg Attribute.mk (beq_iff_eq.1 hnone)
      rw [hempty]
      rfl
    · cases h : a.unknown.index? with
      | none => simp [h]
      | some i => simp [h]
  rw [indices, flags, hnamed, List.filterMap_append, hknown, hunknown]

/-- A set is counted by those of its bits that have a meaning. -/
theorem mem_indices {a : Attribute} {i : Nat} (hi : i < count) :
    i ∈ a.indices ↔ a.bits.getLsbD i = true := by
  have hlone : i ∉ a.unknown.index?.toList := fun h =>
    absurd (le_of_index?_unknown (Option.mem_toList.1 h)) (Nat.not_le.2 hi)
  rw [indices_eq, List.mem_append, or_iff_left hlone, List.mem_filter, List.mem_range]
  exact and_iff_right hi

theorem mem_indices_union {a b : Attribute} {i : Nat} (hi : i < count) :
    i ∈ (a ∪ b).indices ↔ i ∈ a.indices ∨ i ∈ b.indices := by
  have hunion : (a ∪ b).bits = a.bits ||| b.bits := rfl
  simp [mem_indices hi, hunion]

theorem indices_known (a : Attribute) :
    a.known.indices = (List.range count).filter fun i => a.bits.getLsbD i := by
  have hunknown : a.known.unknown = empty := ext_bits fun i hi => by
    rw [getLsbD_unknown _ hi, getLsbD_known _ hi]
    by_cases hcount : i < count
    · simp [Nat.not_le.2 hcount, empty]
    · simp [hcount, empty]
  have hnone : a.known.unknown.index? = none := by
    rw [hunknown]
    rfl
  rw [indices_eq, hnone, Option.toList_none, List.append_nil]
  refine List.filter_congr fun i hi => ?_
  have hcount : i < count := List.mem_range.1 hi
  rw [getLsbD_known _ (Nat.lt_trans hcount (by decide)), decide_eq_true hcount, Bool.and_true]

/-- What the bits without a meaning add to the indices. -/
theorem indices_eq_known (a : Attribute) :
    a.indices = a.known.indices ++ a.unknown.index?.toList := by
  rw [indices_eq, indices_known]

theorem lt_of_mem_indices_known {a : Attribute} {i : Nat} (h : i ∈ a.known.indices) :
    i < count := by
  rw [indices_known] at h
  exact List.mem_range.1 (List.mem_filter.1 h).1

theorem nodup_indices (a : Attribute) : a.indices.Nodup := by
  rw [indices_eq_known, List.nodup_append]
  refine ⟨?_, ?_, ?_⟩
  · rw [indices_known]
    exact List.nodup_range.filter _
  · cases a.unknown.index? <;> simp
  · rintro i hi j hj rfl
    exact absurd (lt_of_mem_indices_known hi)
      (Nat.not_lt.2 (le_of_index?_unknown (Option.mem_toList.1 hj)))

/-- The counts after the attributes are entered. -/
def opened (a : Attribute) (counts : List Nat) : List Nat :=
  a.indices.foldl (fun counts i => counts.modify i (· + 1)) counts

theorem length_opened (a : Attribute) (counts : List Nat) :
    (a.opened counts).length = counts.length := length_foldl_modify _ _ _

theorem getElem?_opened (a : Attribute) (counts : List Nat) (i : Nat) :
    (a.opened counts)[i]? = counts[i]?.map (· + a.indices.count i) := by
  have hiterate (k : Nat) : (fun n : Nat => n + 1)^[k] = (· + k) := by
    induction k with
    | zero => rfl
    | succ k ih =>
      funext n
      rw [Function.iterate_succ_apply', ih, Nat.add_assoc]
  rw [opened, getElem?_foldl_modify, hiterate]

/-- After attributes are entered those are open that were, and they are. -/
theorem pos_opened {a : Attribute} {counts : List Nat} {i : Nat} :
    0 < (a.opened counts).getD i 0 ↔
      0 < counts.getD i 0 ∨ i < counts.length ∧ i ∈ a.indices := by
  rw [← List.count_pos_iff, List.getD_eq_getElem?_getD, getElem?_opened,
    List.getD_eq_getElem?_getD]
  by_cases hi : i < counts.length
  · simp only [List.getElem?_eq_getElem hi, Option.map_some, Option.getD_some, hi, true_and]
    omega
  · simp [hi]

/-- Attributes that are entered raise each count once at most. -/
theorem exists_of_mem_opened {a : Attribute} {counts : List Nat} {n : Nat}
    (h : n ∈ a.opened counts) : ∃ m ∈ counts, n ≤ m + 1 := by
  obtain ⟨i, hi⟩ := List.mem_iff_getElem?.1 h
  rw [getElem?_opened] at hi
  obtain ⟨m, hm, rfl⟩ := Option.map_eq_some_iff.1 hi
  exact ⟨m, List.mem_of_getElem? hm,
    Nat.add_le_add_left (List.nodup_iff_count_le_one.1 a.nodup_indices i) m⟩

end Attribute

/-- The bits of the attributes that are open are those with a count. -/
theorem getLsbD_active (r : Runs) {i : Nat} (hi : i < 8) :
    r.active.bits.getLsbD i = decide (i < Attribute.count ∧ 0 < r.counts.getD i 0) := by
  have hall (is : List Nat) : ∀ a : Attribute,
      (is.foldl (fun a j => if 0 < r.counts.getD j 0 then a ∪ Attribute.single j else a)
          a).bits.getLsbD i
        = (a.bits.getLsbD i || decide (i ∈ is ∧ 0 < r.counts.getD i 0)) := by
    induction is with
    | nil => simp
    | cons j is ih =>
      intro a
      rw [List.foldl_cons, ih]
      by_cases hj : 0 < r.counts.getD j 0
      · have hunion : (a ∪ Attribute.single j).bits.getLsbD i
            = (a.bits.getLsbD i || decide (i = j)) := by
          show (a.bits ||| BitVec.twoPow 8 j).getLsbD i = _
          simp [hi]
        rw [if_pos hj, hunion]
        by_cases hij : i = j
        · subst hij
          simp only [hj, decide_true, Bool.or_true, Bool.true_or, List.mem_cons, true_or, and_self]
        · simp only [hij, decide_false, Bool.or_false, List.mem_cons, false_or]
      · rw [if_neg hj]
        by_cases hij : i = j
        · subst hij
          simp only [hj, and_false]
        · simp only [hij, List.mem_cons, false_or]
  refine (hall (List.range Attribute.count) .empty).trans ?_
  simp [Attribute.empty]

/-- Which attributes are active is said by which counts are not zero. -/
theorem active_eq_iff {r s : Runs} : r.active = s.active ↔
    ∀ i < Attribute.count, (0 < r.counts.getD i 0 ↔ 0 < s.counts.getD i 0) := by
  constructor
  · intro h i hi
    have hbit := congrArg (fun a : Attribute => a.bits.getLsbD i) h
    have hi8 : i < 8 := Nat.lt_trans hi (by decide)
    simpa [getLsbD_active _ hi8, hi] using hbit
  · intro h
    have hbits : r.active.bits = s.active.bits := by
      refine BitVec.eq_of_getLsbD_eq fun i hi => ?_
      rw [getLsbD_active r hi, getLsbD_active s hi, decide_eq_decide]
      exact and_congr_right fun hcount => h i hcount
    exact congrArg Attribute.mk hbits

/-- The same attributes are open, though maybe not as often. -/
structure SameOpen (k l : List Nat) : Prop where
  length : k.length = l.length
  pos : ∀ i < Attribute.count, (0 < k.getD i 0 ↔ 0 < l.getD i 0)

namespace SameOpen

variable {k l m : List Nat}

theorem refl (k : List Nat) : SameOpen k k := ⟨rfl, fun _ _ => .rfl⟩

theorem active (h : SameOpen k l) (start start' : Nat) :
    (⟨start, k⟩ : Runs).active = (⟨start', l⟩ : Runs).active :=
  active_eq_iff.2 h.pos

/-- Entering the same attributes keeps it so. Leaving them may not: some may stay open. -/
theorem opened (h : SameOpen k l) (a : Attribute) : SameOpen (a.opened k) (a.opened l) where
  length := by rw [a.length_opened, a.length_opened, h.length]
  pos i hi := by rw [a.pos_opened, a.pos_opened, h.pos i hi, h.length]

/-- Two sets that are entered one after the other are open as their union is. -/
theorem opened_opened (a b : Attribute) (k : List Nat) :
    SameOpen (b.opened (a.opened k)) ((a ∪ b).opened k) where
  length := by simp only [Attribute.length_opened]
  pos i hi := by
    rw [Attribute.pos_opened, Attribute.pos_opened, Attribute.pos_opened, Attribute.length_opened,
      Attribute.mem_indices_union hi, or_assoc, and_or_left]

end SameOpen

/-- If two sets have opened no attribute that was not open before, nor has the first of them. -/
theorem active_opened {a b : Attribute} {start : Nat} {k : List Nat}
    (h : (⟨start, b.opened (a.opened k)⟩ : Runs).active = (⟨start, k⟩ : Runs).active) :
    (⟨start, a.opened k⟩ : Runs).active = (⟨start, k⟩ : Runs).active := by
  rw [active_eq_iff] at h ⊢
  refine fun i hi => ⟨fun hpos => (h i hi).1 (Attribute.pos_opened.2 (.inl hpos)), fun hpos => ?_⟩
  exact Attribute.pos_opened.2 (.inl hpos)

end RichChat
