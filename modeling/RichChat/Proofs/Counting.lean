import Mathlib.Logic.Function.Iterate
import Mathlib.Tactic.Common
import RichChat.Proofs.OpenCounts

/-!
# Counting in an array

How often each attribute is open can be kept in an array with one number of 32 bits for each of
them. Then a call that enters or leaves attributes may fail, as `Runs.Call.change?` says: there may
be no number at an index, or it may be full. As long as no call fails the counts are those of a run
(`Accounts`, `Answers`).

The index of a set is looked up for each of its attributes, and once more for its bits without a
meaning. One such bit alone has an index, and that lies outside of the array. This is the only way
for a call to fail before there have been `UInt32.size` of them (`run?_fresh`). Otherwise the bits
without a meaning change nothing (`run_known`).
-/

namespace RichChat

/-- Why a count cannot be changed. -/
inductive CountFault where
  /-- There is no count at this index. -/
  | missing (index : Nat)
  /-- The count at this index is the greatest number of 32 bits. -/
  | full (index : Nat)
  deriving DecidableEq, Repr

namespace Runs

/-- Attributes that are entered, or else left, at an offset. -/
structure Call where
  enters : Bool
  attributes : Attribute
  offset : Nat

namespace Call

/-- The call without the bits that have no meaning. -/
def known (call : Call) : Call := { call with attributes := call.attributes.known }

/-- What becomes of each count of the attributes. -/
def count (call : Call) (n : Nat) : Nat := if call.enters then n + 1 else n - 1

/-- Changes one count of an array of numbers of 32 bits. -/
def change? (call : Call) (counts : List Nat) (i : Nat) : Except CountFault (List Nat) :=
  match counts[i]? with
  | none => .error (.missing i)
  | some n =>
    if call.enters && UInt32.size ≤ n + 1 then .error (.full i)
    else .ok (counts.set i (call.count n))

end Call

def call (r : Runs) (call : Call) : Runs :=
  if call.enters then (r.enter call.attributes call.offset).2
  else (r.exit call.attributes call.offset).2

def run (r : Runs) (calls : List Call) : Runs := calls.foldl Runs.call r

/-- A call with the counts in an array. -/
def call? (r : Runs) (call : Call) : Except CountFault Runs := do
  let counts ← call.attributes.indices.foldlM call.change? r.counts
  return (r.change call.offset counts).2

def run? (r : Runs) (calls : List Call) : Except CountFault Runs := calls.foldlM Runs.call? r

end Runs

namespace Attribute

/-- Exactly one of the two bits without a meaning is in the set. -/
def HasLoneUnknown (a : Attribute) : Prop := ∃ i < 8, a.unknown = single i

theorem index?_unknown_eq_none_iff {a : Attribute} :
    a.unknown.index? = none ↔ ¬ a.HasLoneUnknown := by
  rw [Option.eq_none_iff_forall_ne_some]
  simp only [ne_eq, index?_eq_some_iff, HasLoneUnknown, not_exists]

/-- Of the two bits without a meaning one is in a set, or none, or both. -/
theorem unknown_cases (a : Attribute) :
    a.HasLoneUnknown ∨ a.unknown = empty ∨ a.unknown = ⟨0xC0⟩ := by
  have hbits : ∀ bits : BitVec 8, (∃ i < 8, bits &&& 0xC0 = BitVec.twoPow 8 i) ∨
      bits &&& 0xC0 = 0 ∨ bits &&& 0xC0 = 0xC0 := by decide
  simpa [HasLoneUnknown, unknown, single, empty] using hbits a.bits

theorem not_hasLoneUnknown_union {a b : Attribute} (ha : ¬ a.HasLoneUnknown)
    (hb : ¬ b.HasLoneUnknown) : ¬ (a ∪ b).HasLoneUnknown := by
  have hunion : (a ∪ b).unknown = a.unknown ∪ b.unknown :=
    congrArg Attribute.mk (BitVec.and_or_distrib_right ..)
  unfold HasLoneUnknown
  rw [hunion]
  rcases a.unknown_cases.resolve_left ha with hin | hin <;>
    rcases b.unknown_cases.resolve_left hb with hin' | hin' <;> rw [hin, hin'] <;> decide

theorem forall_lt_count_iff {a : Attribute} :
    (∀ i ∈ a.indices, i < count) ↔ ¬ a.HasLoneUnknown := by
  rw [← index?_unknown_eq_none_iff, indices_eq_known]
  constructor
  · intro h
    rw [Option.eq_none_iff_forall_not_mem]
    intro i hi
    exact absurd (h i (List.mem_append_right _ (Option.mem_toList.2 hi)))
      (Nat.not_lt.2 (le_of_index?_unknown hi))
  · intro h i hi
    rw [h, Option.toList_none, List.append_nil] at hi
    exact lt_of_mem_indices_known hi

end Attribute

namespace Runs

namespace Call

/-- What a change of counts one after the other has to say. -/
def Accounts (call : Call) (counts is : List Nat) : Except CountFault (List Nat) → Prop
  | .ok after => (∀ i ∈ is, i < counts.length) ∧
      after = is.foldl (fun counts i => counts.modify i call.count) counts
  | .error (.missing i) => i ∈ is ∧ counts.length ≤ i
  | .error (.full i) => i ∈ is ∧ call.enters = true ∧ UInt32.size ≤ counts.getD i 0 + 1

theorem change?_of_le (call : Call) {counts : List Nat} {i : Nat} (h : counts.length ≤ i) :
    call.change? counts i = .error (.missing i) := by
  rw [change?, List.getElem?_eq_none h]

theorem change?_of_lt (call : Call) {counts : List Nat} {i : Nat} (h : i < counts.length) :
    call.change? counts i = .error (.full i) ∧ call.enters = true ∧
        UInt32.size ≤ counts.getD i 0 + 1 ∨
      call.change? counts i = .ok (counts.modify i call.count) := by
  have hat : counts[i]? = some counts[i] := List.getElem?_eq_getElem h
  rw [change?, hat]
  dsimp only
  split
  · rename_i hfull
    obtain ⟨henters, hsize⟩ := Bool.and_eq_true_iff.1 hfull
    refine .inl ⟨rfl, henters, ?_⟩
    rw [List.getD_eq_getElem?_getD, hat]
    exact of_decide_eq_true hsize
  · rw [List.modify_eq_set_getElem?]
    exact .inr (by simp [hat])

/-- As no index comes twice, a count that is full was so before. -/
theorem accounts_foldlM (call : Call) {is : List Nat} (hnodup : is.Nodup) (counts : List Nat) :
    call.Accounts counts is (is.foldlM call.change? counts) := by
  induction is generalizing counts with
  | nil => exact ⟨nofun, rfl⟩
  | cons i is ih =>
    obtain ⟨hi, hrest⟩ := List.nodup_cons.1 hnodup
    rw [List.foldlM_cons]
    rcases Nat.lt_or_ge i counts.length with hlt | hge
    · rcases change?_of_lt call hlt with ⟨hfull, hroom⟩ | hok
      · rw [hfull]
        exact ⟨List.mem_cons_self, hroom⟩
      · rw [hok]
        have hnext := ih hrest (counts.modify i call.count)
        show call.Accounts counts (i :: is) (is.foldlM call.change? (counts.modify i call.count))
        cases h : is.foldlM call.change? (counts.modify i call.count) with
        | ok after =>
          rw [h] at hnext
          obtain ⟨hall, hafter⟩ := hnext
          rw [List.length_modify] at hall
          exact ⟨List.forall_mem_cons.2 ⟨hlt, hall⟩, hafter⟩
        | error fault =>
          rw [h] at hnext
          cases fault with
          | missing j =>
            obtain ⟨hj, hle⟩ := hnext
            rw [List.length_modify] at hle
            exact ⟨List.mem_cons_of_mem _ hj, hle⟩
          | full j =>
            obtain ⟨hj, henters, hroom⟩ := hnext
            have hne : i ≠ j := fun heq => hi (heq ▸ hj)
            rw [List.getD_eq_getElem?_getD, List.getElem?_modify_ne _ _ hne,
              ← List.getD_eq_getElem?_getD] at hroom
            exact ⟨List.mem_cons_of_mem _ hj, henters, hroom⟩
    · rw [change?_of_le call hge]
      exact ⟨List.mem_cons_self, hge⟩

end Call

variable {r : Runs} {call : Call} {calls : List Call}

theorem counts_change (r : Runs) (offset : Nat) (counts : List Nat) :
    (r.change offset counts).2.counts = counts := by
  unfold change
  dsimp only
  split <;> rfl

theorem call_eq (r : Runs) (call : Call) : r.call call
    = (r.change call.offset (call.attributes.indices.foldl
        (fun counts i => counts.modify i call.count) r.counts)).2 := by
  obtain ⟨enters, attributes, offset⟩ := call
  cases enters <;> rfl

theorem length_call (r : Runs) (call : Call) : (r.call call).counts.length = r.counts.length := by
  rw [call_eq, counts_change, length_foldl_modify]

/-- A call raises a count once at most. -/
theorem getD_call_le (r : Runs) (call : Call) (i : Nat) :
    (r.call call).counts.getD i 0 ≤ r.counts.getD i 0 + 1 := by
  have honce := List.nodup_iff_count_le_one.1 call.attributes.nodup_indices i
  rw [call_eq, counts_change, List.getD_eq_getElem?_getD, getElem?_foldl_modify,
    List.getD_eq_getElem?_getD]
  cases r.counts[i]? with
  | none => simp
  | some n =>
    have hcount : call.count n ≤ n + 1 := by
      unfold Call.count
      split <;> omega
    obtain hzero | hone :
        call.attributes.indices.count i = 0 ∨ call.attributes.indices.count i = 1 := by
      omega
    · simp [hzero]
    · simpa [hone] using hcount

/-- The bits without a meaning have no count that could be changed. -/
theorem call_known (hlen : r.counts.length = Attribute.count) (call : Call) :
    r.call call.known = r.call call := by
  have hsame : call.known.attributes.indices.foldl
        (fun counts i => counts.modify i call.count) r.counts
      = call.attributes.indices.foldl (fun counts i => counts.modify i call.count) r.counts := by
    rw [call.attributes.indices_eq_known, List.foldl_append]
    cases h : call.attributes.unknown.index? with
    | none => rfl
    | some i =>
      have hout : Attribute.count ≤ i := Attribute.le_of_index?_unknown h
      refine (List.modify_eq_self ?_).symm
      rwa [length_foldl_modify, hlen]
  rw [call_eq, call_eq, ← hsame]
  rfl

theorem run_known (hlen : r.counts.length = Attribute.count) (calls : List Call) :
    r.run (calls.map Call.known) = r.run calls := by
  induction calls generalizing r with
  | nil => rfl
  | cons call calls ih =>
    show (r.call call.known).run (calls.map Call.known) = (r.call call).run calls
    rw [call_known hlen]
    exact ih ((length_call r call).trans hlen)

/-- What the calls have to say after as many others as `past`. -/
def Answers (r : Runs) (past : Nat) (calls : List Call) : Except CountFault Runs → Prop
  | .ok after => (∀ call ∈ calls, ¬ call.attributes.HasLoneUnknown) ∧ after = r.run calls
  | .error (.missing i) =>
    Attribute.count ≤ i ∧ ∃ call ∈ calls, call.attributes.HasLoneUnknown
  | .error (.full _) => UInt32.size ≤ past + calls.length

theorem answers_call? {past : Nat} (hlen : r.counts.length = Attribute.count)
    (hpast : ∀ i, r.counts.getD i 0 ≤ past) (call : Call) :
    r.Answers past [call] (r.call? call) := by
  have haccounts := call.accounts_foldlM call.attributes.nodup_indices r.counts
  unfold call?
  cases h : call.attributes.indices.foldlM call.change? r.counts with
  | ok after =>
    rw [h] at haccounts
    obtain ⟨hall, rfl⟩ := haccounts
    rw [hlen] at hall
    refine ⟨?_, (call_eq r call).symm⟩
    rw [List.forall_mem_singleton]
    exact Attribute.forall_lt_count_iff.1 hall
  | error fault =>
    rw [h] at haccounts
    cases fault with
    | missing i =>
      obtain ⟨hi, hout⟩ := haccounts
      rw [hlen] at hout
      refine ⟨hout, call, List.mem_singleton_self _, ?_⟩
      by_contra hnone
      exact absurd (Attribute.forall_lt_count_iff.2 hnone i hi) (Nat.not_lt.2 hout)
    | full i =>
      obtain ⟨-, -, hroom⟩ := haccounts
      exact Nat.le_trans hroom (Nat.add_le_add_right (hpast i) 1)

theorem Answers.head {past : Nat} {fault : CountFault}
    (h : r.Answers past [call] (.error fault)) (calls : List Call) :
    r.Answers past (call :: calls) (.error fault) := by
  cases fault with
  | missing i =>
    obtain ⟨hout, other, hmem, hlone⟩ := h
    exact ⟨hout, other, List.mem_cons.2 (.inl (List.mem_singleton.1 hmem)), hlone⟩
  | full i =>
    have hroom : UInt32.size ≤ past + 1 := h
    exact Nat.le_trans hroom (Nat.add_le_add_left (Nat.le_add_left 1 calls.length) past)

theorem Answers.tail {past : Nat} {answer : Except CountFault Runs}
    (hnone : ¬ call.attributes.HasLoneUnknown)
    (h : (r.call call).Answers (past + 1) calls answer) :
    r.Answers past (call :: calls) answer := by
  match answer, h with
  | .ok after, ⟨hall, hafter⟩ => exact ⟨List.forall_mem_cons.2 ⟨hnone, hall⟩, hafter⟩
  | .error (.missing i), ⟨hout, other, hmem, hlone⟩ =>
    exact ⟨hout, other, List.mem_cons_of_mem _ hmem, hlone⟩
  | .error (.full i), hroom =>
    have hroom : UInt32.size ≤ past + 1 + calls.length := hroom
    show UInt32.size ≤ past + (calls.length + 1)
    omega

theorem answers_run? {past : Nat} (hlen : r.counts.length = Attribute.count)
    (hpast : ∀ i, r.counts.getD i 0 ≤ past) (calls : List Call) :
    r.Answers past calls (r.run? calls) := by
  induction calls generalizing r past with
  | nil => exact ⟨nofun, rfl⟩
  | cons call calls ih =>
    have hfirst := answers_call? hlen hpast call
    rw [run?, List.foldlM_cons]
    cases h : r.call? call with
    | ok after =>
      rw [h] at hfirst
      obtain ⟨hnone, rfl⟩ := hfirst
      refine .tail (hnone call (List.mem_singleton_self _)) ?_
      exact ih ((length_call r call).trans hlen) fun i =>
        Nat.le_trans (getD_call_le r call i) (Nat.add_le_add_right (hpast i) 1)
    | error fault =>
      rw [h] at hfirst
      exact hfirst.head calls

/-- Calls on counts that start at 0 and are kept in an array. The indices that a call uses are those
of the array, unless its set has exactly one bit without a meaning. If there is such a call they
fail, and if not they do what they do to a run, or there are so many of them that a count is full.
To a run the bits without a meaning make no difference. -/
theorem run?_fresh (start : Nat) (calls : List Call) :
    (∀ call ∈ calls, (∀ i ∈ call.attributes.indices, i < Attribute.count) ↔
      ¬ call.attributes.HasLoneUnknown) ∧
    (match ({ start } : Runs).run? calls with
      | .ok after => (∀ call ∈ calls, ¬ call.attributes.HasLoneUnknown) ∧
          after = ({ start } : Runs).run calls
      | .error (.missing i) =>
          Attribute.count ≤ i ∧ ∃ call ∈ calls, call.attributes.HasLoneUnknown
      | .error (.full _) => UInt32.size ≤ calls.length) ∧
    ({ start } : Runs).run (calls.map Call.known) = ({ start } : Runs).run calls := by
  have hlen : ({ start } : Runs).counts.length = Attribute.count := rfl
  have hzero (i : Nat) : ({ start } : Runs).counts.getD i 0 ≤ 0 := by
    rw [List.getD_eq_getElem?_getD, List.getElem?_replicate]
    split <;> exact Nat.le_refl 0
  refine ⟨fun _ _ => Attribute.forall_lt_count_iff, ?_, run_known hlen calls⟩
  have hanswers := answers_run? hlen hzero calls
  cases hrun : ({ start } : Runs).run? calls with
  | ok after =>
    rw [hrun] at hanswers
    exact hanswers
  | error fault =>
    rw [hrun] at hanswers
    cases fault with
    | missing i => exact hanswers
    | full i =>
      have hfull : UInt32.size ≤ 0 + calls.length := hanswers
      omega

/-- The last but one bit of a set has no meaning and no count. -/
theorem not_counted_unknown :
    let call : Call := ⟨true, ⟨0x40⟩, 0⟩
    call.attributes.indices = [6] ∧ ¬ 6 < Attribute.count ∧
      ({ start := 0 } : Runs).run? [call] = .error (.missing 6) :=
  ⟨by decide, by decide, rfl⟩

end Runs

end RichChat
