import Mathlib.Tactic.IntervalCases
import Mathlib.Tactic.Ring
import RichChat.Text.Decimal

/-!
# Digits

A number is read back from its digits, in every base that the digits up to `f` serve, and from its
last digits as far as they go.
-/

namespace RichChat

namespace Text

variable {base : Nat}

theorem readDigits?_append (cs ds : List Char) (acc : Nat) :
    readDigits? base (cs ++ ds) acc = (readDigits? base cs acc).bind (readDigits? base ds) := by
  induction cs generalizing acc with
  | nil => rfl
  | cons c cs ih =>
    simp only [List.cons_append, readDigits?, Option.bind_assoc]
    exact Option.bind_congr fun v _ => ih _

theorem digitValue?_digitChar {v : Nat} (hv : v < base) (hbase : base ≤ 16) :
    digitValue? base (Nat.digitChar v) = some v := by
  have hv' : v < 16 := by omega
  unfold digitValue?
  interval_cases v <;> simp [Nat.digitChar, hv]

theorem digitChar_eq {v : Nat} (hv : v < 16) : digitChar v = Nat.digitChar v := by
  interval_cases v <;> rfl

/-- A number is read back from all of its digits. -/
theorem readDigits?_toDigits (hbase : 1 < base) (hle : base ≤ 16) (n : Nat) :
    readDigits? base (Nat.toDigits base n) 0 = some n := by
  induction n using Nat.strongRecOn with
  | ind n ih =>
    rcases Nat.lt_or_ge n base with hlt | hge
    · rw [Nat.toDigits_of_lt_base hlt, readDigits?, digitValue?_digitChar hlt hle]
      simp [readDigits?]
    · rw [Nat.toDigits_of_base_le hbase hge, readDigits?_append,
        ih _ (Nat.div_lt_self (by omega) hbase), Option.bind_some, readDigits?,
        digitValue?_digitChar (Nat.mod_lt _ (by omega)) hle]
      simp [readDigits?, Nat.div_add_mod']

theorem readNat?_toDigits (hbase : 1 < base) (hle : base ≤ 16) (n : Nat) :
    readNat? base (Nat.toDigits base n) = some n := by
  rw [readNat?, if_neg (by simp), readDigits?_toDigits hbase hle]

/-- What its last digits keep of a number. -/
theorem readDigits?_lastDigits (hbase : 0 < base) (hle : base ≤ 16) (width n acc : Nat) :
    readDigits? base (lastDigits base width n) acc
      = some (acc * base ^ width + n % base ^ width) := by
  induction width generalizing n with
  | zero => simp [lastDigits, readDigits?, Nat.mod_one]
  | succ width ih =>
    have hmod : n % base < base := Nat.mod_lt _ hbase
    rw [lastDigits, readDigits?_append, ih, Option.bind_some, readDigits?,
      digitChar_eq (by omega), digitValue?_digitChar hmod hle]
    simp only [Option.bind_some, readDigits?, Option.some.injEq]
    rw [Nat.pow_succ', Nat.mod_mul]
    ring

/-- Only zero is written with a zero in front. -/
theorem eq_zero_of_toDigits {n : Nat} {ds : List Char} (h : Nat.toDigits 10 n = '0' :: ds) :
    n = 0 := by
  induction n using Nat.strongRecOn generalizing ds with
  | ind n ih =>
    rcases Nat.lt_or_ge n 10 with hlt | hge
    · rw [Nat.toDigits_of_lt_base hlt, List.cons.injEq, Nat.digitChar_eq_zero] at h
      exact h.1
    · rw [Nat.toDigits_of_base_le (by decide) hge] at h
      obtain ⟨hnil, -⟩ | ⟨ds', hds, -⟩ := List.append_eq_cons_iff.1 h
      · exact absurd hnil Nat.toDigits_ne_nil
      · have hdiv := ih _ (by omega) hds
        omega

theorem eq_digitChar_of_mem_toDigits {n : Nat} {c : Char} (h : c ∈ Nat.toDigits 16 n) :
    ∃ v < 16, c = Nat.digitChar v := by
  induction n using Nat.strongRecOn with
  | ind n ih =>
    rcases Nat.lt_or_ge n 16 with hlt | hge
    · rw [Nat.toDigits_of_lt_base hlt, List.mem_singleton] at h
      exact ⟨n, hlt, h⟩
    · rw [Nat.toDigits_of_base_le (by decide) hge, List.mem_append, List.mem_singleton] at h
      rcases h with h | h
      · exact ih _ (by omega) h
      · exact ⟨n % 16, Nat.mod_lt _ (by decide), h⟩

end Text

end RichChat
