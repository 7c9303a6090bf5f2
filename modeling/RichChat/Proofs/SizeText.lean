import Mathlib
import RichChat.Proofs.Digits
import RichChat.Proofs.Fitting

/-!
# Sizes in words

The size of a file is written with one decimal in the greatest unit that leaves at least 1
(`fileSize_text`). The unit is chosen before the number is rounded, so from half a tenth of the unit
below the next one on the text is `1024.0` of the smaller unit (`IsTenths.eq_next_iff`). What is
written is off by half a tenth of the unit at most. Only a number of bytes from `2⁵³` on is rounded
once more before, to the 53 bits of double precision (`keptBytes`).
-/

namespace RichChat

/-- An even number is reached from half of 1 below it on. -/
theorem le_divNearestEven_iff {m : Nat} (hm : m % 2 = 0) (n : Nat) {d : Nat} (hd : 0 < d) :
    m ≤ divNearestEven n d ↔ 2 * (m * d) ≤ 2 * n + d := by
  have hdiv := Nat.div_add_mod n d
  have hmod := Nat.mod_lt n hd
  have hfloor : n / d ≤ divNearestEven n d ∧ divNearestEven n d ≤ n / d + 1 := by
    unfold divNearestEven
    dsimp only
    split_ifs <;> omega
  rcases Nat.lt_trichotomy m (n / d + 1) with hlt | rfl | hgt
  · have hmul : m * d ≤ n / d * d := Nat.mul_le_mul_right d (Nat.lt_succ_iff.1 hlt)
    rw [Nat.mul_comm (n / d)] at hmul
    exact ⟨fun _ => by omega, fun _ => by omega⟩
  · have hup : (n / d + 1) * d = d * (n / d) + d := by ring
    unfold divNearestEven
    dsimp only
    split_ifs <;> omega
  · have hmul : (n / d + 2) * d ≤ m * d := Nat.mul_le_mul_right d hgt
    have hup : (n / d + 2) * d = d * (n / d) + 2 * d := by ring
    exact ⟨fun _ => by omega, fun _ => by omega⟩

theorem divNearestEven_le_of_le {m n d : Nat} (hd : 0 < d) (h : n ≤ m * d) :
    divNearestEven n d ≤ m := by
  by_contra hlt
  have hnear := (divNearestEven_near n hd).1
  have hmul : (m + 1) * d ≤ divNearestEven n d * d := Nat.mul_le_mul_right d (Nat.not_le.1 hlt)
  rw [Nat.succ_mul] at hmul
  omega

theorem divNearestEven_mul_right (m : Nat) {d : Nat} (hd : 0 < d) :
    divNearestEven (m * d) d = m := by
  simp [divNearestEven, Nat.mul_div_cancel _ hd, Nat.mul_mod_left, hd]

theorem divNearestEven_mul_mul (n d : Nat) {c : Nat} (hc : 0 < c) :
    divNearestEven (n * c) (d * c) = divNearestEven n d := by
  have hlt (a b : Nat) : a * c < b * c ↔ a < b := Nat.mul_lt_mul_right hc
  unfold divNearestEven
  simp only [Nat.mul_div_mul_right _ _ hc, Nat.mul_mod_mul_right, ← Nat.mul_assoc, hlt]

/-- The number of bytes in double precision: the nearest one with 53 bits. -/
def keptBytes (bytes : Nat) : Nat :=
  divNearestEven bytes (2 ^ (bytes.log2 - 52)) * 2 ^ (bytes.log2 - 52)

theorem keptBytes_of_lt {bytes : Nat} (h : bytes < 2 ^ 53) : keptBytes bytes = bytes := by
  have hlog : bytes.log2 - 52 = 0 := by
    rcases Nat.eq_zero_or_pos bytes with rfl | hpos
    · rfl
    · have := (Nat.log2_lt hpos.ne').2 h
      omega
  simpa [keptBytes, hlog] using divNearestEven_mul_right bytes Nat.one_pos

theorem abs_keptBytes_sub_le {bytes : Nat} (h : bytes < 2 ^ 64) :
    |(keptBytes bytes : ℚ) - bytes| ≤ 1024 := by
  rcases Nat.eq_zero_or_pos bytes with rfl | hpos
  · rw [keptBytes_of_lt (by norm_num)]
    norm_num
  have hlog : bytes.log2 - 52 ≤ 11 := by
    have := (Nat.log2_lt hpos.ne').2 h
    omega
  have hstep : ((2 ^ (bytes.log2 - 52) : ℕ) : ℚ) ≤ 2 ^ 11 := by
    exact_mod_cast Nat.pow_le_pow_right two_pos hlog
  have hnear := abs_divNearestEven_mul_sub_le bytes (Nat.two_pow_pos (bytes.log2 - 52))
  rw [keptBytes, Nat.cast_mul]
  linarith

theorem le_keptBytes {bytes : Nat} (hbytes : bytes < 2 ^ 64) (h : 1024 ≤ bytes) :
    1024 ≤ keptBytes bytes := by
  rcases Nat.lt_or_ge bytes (2 ^ 53) with hlow | hhigh
  · rwa [keptBytes_of_lt hlow]
  · have hnear := (abs_sub_le_iff.1 (abs_keptBytes_sub_le hbytes)).2
    have hhigh' : (2 : ℚ) ^ 53 ≤ bytes := by exact_mod_cast hhigh
    have hle : ((1024 : ℕ) : ℚ) ≤ keptBytes bytes := by
      push_cast
      linarith
    exact_mod_cast hle

theorem toDouble_natCast {bytes : Nat} (h : bytes ≠ 0) :
    ∃ c, 0 < c ∧ Fraction.toDouble ⟨bytes, 1⟩ = ⟨keptBytes bytes * c, c⟩ := by
  have hlog := Nat.log2_self_le h
  refine ⟨2 ^ (53 - bytes.log2), Nat.two_pow_pos _, ?_⟩
  have hone : Nat.log2 1 = 0 := by decide
  have hlarge : ¬ bytes * 2 ^ (53 - bytes.log2) < 2 ^ (bytes.log2 - 53) * 2 ^ 53 := by
    rw [Nat.not_lt, ← Nat.pow_add]
    calc 2 ^ (bytes.log2 - 53 + 53) = 2 ^ bytes.log2 * 2 ^ (53 - bytes.log2) := by
          rw [← Nat.pow_add]
          congr 1
          omega
      _ ≤ bytes * 2 ^ (53 - bytes.log2) := Nat.mul_le_mul_right _ hlog
  simp only [Fraction.toDouble, h, if_false, hone, Nat.zero_add, Nat.shiftLeft_eq, Nat.one_mul,
    hlarge, Fraction.mk.injEq, and_true]
  rcases Nat.lt_or_ge bytes.log2 53 with hsmall | hbig
  · rw [keptBytes_of_lt ((Nat.log2_lt h).1 hsmall), Nat.sub_eq_zero_of_le hsmall.le]
    obtain ⟨j, hj⟩ : ∃ j, 53 - bytes.log2 = j + 1 := ⟨52 - bytes.log2, by omega⟩
    rw [hj, Nat.pow_succ, ← Nat.mul_assoc]
    simp [divNearestEven_mul_right]
  · obtain ⟨j, hj⟩ : ∃ j, bytes.log2 = j + 53 := ⟨bytes.log2 - 53, by omega⟩
    rw [keptBytes, hj, Nat.sub_eq_zero_of_le (Nat.le_add_left _ _), Nat.add_sub_cancel,
      show j + 53 - 52 = j + 1 by omega, Nat.pow_succ', Nat.pow_zero, Nat.mul_one,
      Nat.mul_assoc, Nat.mul_one]

/-- The greatest unit that leaves at least 1 is a power of 1024. -/
theorem sizeUnit_eq {num den : Nat} {units : List String} (hunits : units ≠ []) (h : den ≤ num) :
    ∃ i unit, units[i]? = some unit ∧ sizeUnit ⟨num, den⟩ units = (⟨num, den * 1024 ^ i⟩, unit) ∧
      den * 1024 ^ i ≤ num ∧ (i + 1 < units.length → num < den * 1024 ^ (i + 1)) := by
  induction units generalizing den with
  | nil => exact absurd rfl hunits
  | cons unit units ih =>
    rcases units with _ | ⟨next, units⟩
    · exact ⟨0, unit, rfl, by simp [sizeUnit], by simpa using h, by simp⟩
    have hstep : sizeUnit ⟨num, den⟩ (unit :: next :: units)
        = if 1024 * den ≤ num then sizeUnit ⟨num, den * 1024⟩ (next :: units)
          else (⟨num, den⟩, unit) := rfl
    rw [hstep]
    split
    · rename_i hnext
      rw [Nat.mul_comm] at hnext
      obtain ⟨i, last, hlast, hunit, hle, hlt⟩ := ih (List.cons_ne_nil _ _) hnext
      refine ⟨i + 1, last, hlast, ?_, ?_, fun hi => ?_⟩
      · rw [hunit, Nat.pow_succ', Nat.mul_assoc]
      · rwa [Nat.pow_succ', ← Nat.mul_assoc]
      · rw [Nat.pow_succ', ← Nat.mul_assoc]
        exact hlt (Nat.lt_of_succ_lt_succ hi)
    · rename_i hnext
      refine ⟨0, unit, rfl, by simp, by simpa using h, fun _ => ?_⟩
      rw [Nat.zero_add, Nat.pow_one, Nat.mul_comm]
      exact Nat.lt_of_not_le hnext

theorem ofList_oneDecimal (value : Fraction) :
    let tenths := divNearestEven (value.num * 10) value.den
    String.ofList (oneDecimal value) = toString (tenths / 10) ++ "." ++ toString (tenths % 10) := by
  intro tenths
  have hlt : tenths % 10 < 10 := Nat.mod_lt _ (by decide)
  have hdigit : (toString (tenths % 10)).toList = [Text.digitChar (tenths % 10)] := by
    rw [Text.digitChar_eq (by omega)]
    exact Nat.toList_repr.trans (Nat.toDigits_of_lt_base hlt)
  apply String.toList_injective
  simp only [oneDecimal, String.toList_ofList, String.toList_append, hdigit]
  simp [tenths]

/-- The number of tenths of a unit that is written for a number of bytes, the unit being a power of
1024. -/
structure IsTenths (bytes power tenths : Nat) : Prop where
  one_le : 10 ≤ tenths
  le_next : power < 4 → tenths ≤ 10240
  eq_next_iff : power < 4 →
    (tenths = 10240 ↔ (1024 : ℚ) ^ (power + 1) - 0.05 * 1024 ^ power ≤ bytes)
  near : bytes < 2 ^ 53 → |(tenths / 10 : ℚ) * 1024 ^ power - bytes| ≤ 0.05 * 1024 ^ power
  near_kept : |(tenths / 10 : ℚ) * 1024 ^ power - bytes| ≤ 0.05 * 1024 ^ power + 1024

/-- What is rounded is the number of bytes that is kept, and it is below 1 in the next unit. -/
theorem isTenths {bytes power : Nat} (hbytes : bytes < 2 ^ 64)
    (hle : 1024 ^ power ≤ keptBytes bytes)
    (hlt : power < 4 → keptBytes bytes < 1024 ^ (power + 1)) :
    IsTenths bytes power (divNearestEven (keptBytes bytes * 10) (1024 ^ power)) := by
  have hunit : 0 < 1024 ^ power := Nat.pow_pos (by decide)
  have hkept := abs_keptBytes_sub_le hbytes
  have hnear : |((divNearestEven (keptBytes bytes * 10) (1024 ^ power) : ℕ) / 10 : ℚ) * 1024 ^ power
      - keptBytes bytes| ≤ 0.05 * 1024 ^ power := by
    have htenths := abs_divNearestEven_mul_sub_le (keptBytes bytes * 10) hunit
    push_cast [abs_sub_le_iff] at htenths ⊢
    constructor <;> linarith
  have hexact (hpower : power < 4) : keptBytes bytes = bytes := by
    have hpow : 1024 ^ (power + 1) ≤ 1024 ^ 4 := Nat.pow_le_pow_right (by decide) hpower
    have hbound : (keptBytes bytes : ℚ) ≤ 1024 ^ 4 := by exact_mod_cast (hlt hpower).le.trans hpow
    have hlow : (bytes : ℚ) < 2 ^ 53 := by
      rw [abs_sub_le_iff] at hkept
      linarith
    exact keptBytes_of_lt (by exact_mod_cast hlow)
  have hnext (hpower : power < 4) :
      divNearestEven (keptBytes bytes * 10) (1024 ^ power) ≤ 10240 :=
    divNearestEven_le_of_le hunit (by rw [Nat.pow_succ] at hlt; linarith [hlt hpower])
  refine ⟨?_, hnext, fun hpower => ?_, fun hlow => ?_, ?_⟩
  · exact (le_divNearestEven_iff rfl _ hunit).2 (by omega)
  · rw [← (hnext hpower).ge_iff_eq, le_divNearestEven_iff rfl _ hunit, hexact hpower,
      ← Nat.cast_le (α := ℚ)]
    push_cast [pow_succ]
    constructor <;> intro h <;> linarith
  · simpa only [keptBytes_of_lt hlow] using hnear
  · exact (abs_sub_le _ _ _).trans (add_le_add hnear hkept)

/-- A size is written to the byte below 1024, and from there on in tenths of the greatest unit that
leaves at least 1 before it is rounded. -/
theorem fileSize_text (bytes : UInt64) :
    if bytes.toNat < 1024 then fileSize bytes.toNat = toString bytes.toNat ++ " B"
    else ∃ i unit tenths, ["KB", "MB", "GB", "TB"][i]? = some unit ∧
      fileSize bytes.toNat
        = toString (tenths / 10) ++ "." ++ toString (tenths % 10) ++ " " ++ unit ∧
      IsTenths bytes.toNat (i + 1) tenths := by
  split
  · rename_i hsmall
    rw [fileSize, if_pos hsmall]
  · rename_i hlarge
    have hne : bytes.toNat ≠ 0 := by omega
    obtain ⟨c, hc, hdouble⟩ := toDouble_natCast hne
    have hstart : c * 1024 ≤ keptBytes bytes.toNat * c := by
      rw [Nat.mul_comm c]
      exact Nat.mul_le_mul_right c (le_keptBytes bytes.toNat_lt (Nat.not_lt.1 hlarge))
    obtain ⟨i, unit, hunit, hvalue, hle, hlt⟩ := sizeUnit_eq (List.cons_ne_nil _ _) hstart
    have hpow (j : Nat) : c * 1024 * 1024 ^ j = 1024 ^ (j + 1) * c := by ring
    rw [hpow] at hle hlt
    have htenths : divNearestEven (keptBytes bytes.toNat * c * 10) (c * 1024 * 1024 ^ i)
        = divNearestEven (keptBytes bytes.toNat * 10) (1024 ^ (i + 1)) := by
      rw [hpow, Nat.mul_right_comm, divNearestEven_mul_mul _ _ hc]
    refine ⟨i, unit, _, hunit, ?_, isTenths bytes.toNat_lt (Nat.le_of_mul_le_mul_right hle hc)
      fun hi => Nat.lt_of_mul_lt_mul_right (hlt hi)⟩
    rw [fileSize, if_neg hlarge, hdouble]
    simp only [hvalue, ofList_oneDecimal, htenths]

theorem fileSize_below_megabyte :
    fileSize 1048575 = "1024.0 KB" ∧ fileSize 1048576 = "1.0 MB" := by decide +kernel

end RichChat
