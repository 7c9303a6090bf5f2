import Mathlib
import RichChat.Render.Size

/-!
# Sizes that fit a box

The scale of an image is a quotient in double precision, and so is each side at this scale. Each of
the two roundings changes a number by a factor of at most `1 ± 2⁻⁵³` (`near_toDouble`), which is too
little to get a side of fewer than `2³²` pixels a quarter of a pixel away from where it is at the
exact scale. So the side that is rounded to an integer, or to one pixel, is less than a pixel away
from that (`sideNear_scaledSide`). The rest follows, because a side that is less than a pixel away
from an integer is that integer: no side exceeds the image or the box, an image that fits the box
keeps its size, and one that does not reaches an edge of the box (`scaledDown_fit`).
-/

namespace RichChat

/-- What is nearest to a fraction is half of 1 away from it at most. -/
theorem divNearestEven_near (n : Nat) {d : Nat} (hd : 0 < d) :
    2 * (divNearestEven n d * d) ≤ 2 * n + d ∧ 2 * n ≤ 2 * (divNearestEven n d * d) + d := by
  have hdiv := Nat.div_add_mod n d
  have hmod := Nat.mod_lt n hd
  have hdown : n / d * d = d * (n / d) := Nat.mul_comm _ _
  have hup : (n / d + 1) * d = d * (n / d) + d := by ring
  unfold divNearestEven
  dsimp only
  split_ifs <;> omega

theorem abs_divNearestEven_mul_sub_le (n : Nat) {d : Nat} (hd : 0 < d) :
    |(divNearestEven n d : ℚ) * d - n| ≤ d / 2 := by
  obtain ⟨hup, hdown⟩ := divNearestEven_near n hd
  have hup' : 2 * ((divNearestEven n d : ℚ) * d) ≤ 2 * n + d := by exact_mod_cast hup
  have hdown' : (2 : ℚ) * n ≤ 2 * (divNearestEven n d * d) + d := by exact_mod_cast hdown
  refine abs_sub_le_iff.2 ⟨?_, ?_⟩ <;> linarith

theorem abs_divNearestUp_sub_le (n : Nat) {d : Nat} (hd : 0 < d) :
    |(divNearestUp n d : ℚ) - n / d| ≤ 1 / 2 := by
  have hfloor : divNearestUp n d * (2 * d) ≤ 2 * n + d := Nat.div_mul_le_self _ _
  have hnext : 2 * n + d ≤ (divNearestUp n d + 1) * (2 * d) :=
    ((Nat.div_lt_iff_lt_mul (by omega)).1 (Nat.lt_succ_self _)).le
  have hd' : (0 : ℚ) < d := by exact_mod_cast hd
  have hfloor' : (divNearestUp n d : ℚ) * (2 * d) ≤ 2 * n + d := by exact_mod_cast hfloor
  have hnext' : 2 * (n : ℚ) + d ≤ (divNearestUp n d + 1) * (2 * d) := by exact_mod_cast hnext
  have hmul : (n : ℚ) / d * d = n := div_mul_cancel₀ _ hd'.ne'
  refine abs_sub_le_iff.2 ⟨?_, ?_⟩ <;> refine le_of_mul_le_mul_right ?_ hd' <;> linarith

namespace Fraction

/-- The rational number that a fraction is. -/
def val (a : Fraction) : ℚ := a.num / a.den

/-- Half a unit in the last place of a number between 1 and 2. -/
def epsilon : ℚ := 1 / 2 ^ 53

/-- A number that is `x` but for one rounding. -/
structure Near (x y : ℚ) : Prop where
  ge : x * (1 - epsilon) ≤ y
  le : y ≤ x * (1 + epsilon)

namespace Near

variable {x y x' y' : ℚ}

theorem of_abs_le (h : |y - x| ≤ x * epsilon) : Near x y := by
  obtain ⟨hle, hge⟩ := abs_sub_le_iff.1 h
  exact ⟨by linarith, by linarith⟩

theorem refl (h : 0 ≤ x) : Near x x := of_abs_le (by rw [sub_self, abs_zero, epsilon]; positivity)

theorem mul_right (h : Near x y) {c : ℚ} (hc : 0 ≤ c) : Near (x * c) (y * c) where
  ge := by rw [mul_right_comm]; exact mul_le_mul_of_nonneg_right h.ge hc
  le := by rw [mul_right_comm]; exact mul_le_mul_of_nonneg_right h.le hc

theorem min (h : Near x y) (h' : Near x' y') : Near (min x x') (min y y') where
  ge := by
    have hpos : 0 ≤ 1 - epsilon := by norm_num [epsilon]
    exact le_min ((mul_le_mul_of_nonneg_right (min_le_left _ _) hpos).trans h.ge)
      ((mul_le_mul_of_nonneg_right (min_le_right _ _) hpos).trans h'.ge)
  le := by
    rw [min_mul_of_nonneg _ _ (by norm_num [epsilon])]
    exact min_le_min h.le h'.le

/-- Two roundings change a number of up to 32 bits by less than a quarter. -/
theorem abs_sub_le_of_trans {z : ℚ} (h : Near x y) (h' : Near y z) (hx : x ≤ 2 ^ 32) :
    |z - x| ≤ 1 / 4 := by
  have hle := h.le
  have hge := h.ge
  have hle' := h'.le
  have hge' := h'.ge
  rw [epsilon] at hle hge hle' hge'
  refine abs_sub_le_iff.2 ⟨?_, ?_⟩ <;> linarith

end Near

/-- The numerator is brought to at least 53 bits before it is rounded. -/
theorem two_pow_le_scaled {n d : Nat} (hn : n ≠ 0) :
    d * 2 ^ (n.log2 - (d.log2 + 53)) * 2 ^ 52 ≤ n * 2 ^ (d.log2 + 53 - n.log2) := by
  have hd : d ≤ 2 ^ (d.log2 + 1) := Nat.lt_log2_self.le
  calc d * 2 ^ (n.log2 - (d.log2 + 53)) * 2 ^ 52
      ≤ 2 ^ (d.log2 + 1) * 2 ^ (n.log2 - (d.log2 + 53)) * 2 ^ 52 := by gcongr
    _ = 2 ^ n.log2 * 2 ^ (d.log2 + 53 - n.log2) := by
      rw [← Nat.pow_add, ← Nat.pow_add, ← Nat.pow_add]
      congr 1
      omega
    _ ≤ n * 2 ^ (d.log2 + 53 - n.log2) := by
      gcongr
      exact Nat.log2_self_le hn

/-- Half of 1 is little next to a number of 53 bits. -/
theorem near_nearest {n d : Nat} (hd : 0 < d) (h : d * 2 ^ 52 ≤ n) :
    Near (n / d) (divNearestEven n d) := by
  have hd' : (0 : ℚ) < d := by exact_mod_cast hd
  have hbits : (d : ℚ) * 2 ^ 52 ≤ n := by exact_mod_cast h
  have hmul : (n : ℚ) / d * d = n := div_mul_cancel₀ _ hd'.ne'
  obtain ⟨hup, hdown⟩ := abs_sub_le_iff.1 (abs_divNearestEven_mul_sub_le n hd)
  refine .of_abs_le (abs_sub_le_iff.2 ⟨?_, ?_⟩) <;> refine le_of_mul_le_mul_right ?_ hd' <;>
    rw [epsilon] <;> linarith

theorem toDouble_eq {a : Fraction} (hn : a.num ≠ 0) (hd : 0 < a.den) :
    ∃ m p q : Nat, 0 < p ∧ 0 < q ∧ a.toDouble = ⟨m * q, p⟩ ∧
      Near ((a.num * p : ℕ) / (a.den * q : ℕ)) m := by
  have hbits := two_pow_le_scaled (d := a.den) hn
  unfold toDouble
  rw [if_neg hn]
  simp only [Nat.shiftLeft_eq, Nat.one_mul]
  generalize hp : 2 ^ (a.den.log2 + 53 - a.num.log2) = p at hbits ⊢
  generalize hq : 2 ^ (a.num.log2 - (a.den.log2 + 53)) = q at hbits ⊢
  have hppos : 0 < p := hp ▸ Nat.two_pow_pos _
  have hqpos : 0 < q := hq ▸ Nat.two_pow_pos _
  have hpos : 0 < a.den * q := Nat.mul_pos hd hqpos
  split
  · exact ⟨_, p, q, hppos, hqpos, rfl, near_nearest hpos hbits⟩
  · rename_i hlarge
    refine ⟨_, p, q, hppos, hqpos, rfl, ?_⟩
    have hmore : 2 * (a.den * q) * 2 ^ 52 ≤ a.num * p :=
      calc 2 * (a.den * q) * 2 ^ 52 = a.den * q * 2 ^ 53 := by ring
        _ ≤ a.num * p := not_lt.1 hlarge
    have heven := (near_nearest (Nat.mul_pos two_pos hpos) hmore).mul_right (c := 2) (by norm_num)
    have hdiv : ((a.num * p : ℕ) : ℚ) / (2 * (a.den * q) : ℕ) * 2
        = (a.num * p : ℕ) / (a.den * q : ℕ) := by
      push_cast
      rw [mul_comm (2 : ℚ), div_mul_eq_div_div, div_mul_cancel₀ _ two_ne_zero]
    rw [hdiv] at heven
    exact_mod_cast heven

theorem den_toDouble_pos (a : Fraction) : 0 < a.toDouble.den := by
  unfold toDouble
  split
  · exact Nat.one_pos
  · dsimp only
    split <;> simp [Nat.shiftLeft_eq]

/-- Double precision changes a number by half a unit in the last place at most. -/
theorem near_toDouble {a : Fraction} (hd : 0 < a.den) : Near a.val a.toDouble.val := by
  by_cases hn : a.num = 0
  · simpa [toDouble, hn, val] using Near.refl le_rfl
  · obtain ⟨m, p, q, hp, hq, heq, hm⟩ := toDouble_eq hn hd
    have hd' : (0 : ℚ) < a.den := by exact_mod_cast hd
    have hp' : (0 : ℚ) < p := by exact_mod_cast hp
    have hq' : (0 : ℚ) < q := by exact_mod_cast hq
    have hscaled := hm.mul_right (c := q / p) (by positivity)
    have hval : ((a.num * p : ℕ) : ℚ) / (a.den * q : ℕ) * (q / p) = a.val := by
      rw [val]
      push_cast
      field_simp
    have hdouble : (m : ℚ) * (q / p) = a.toDouble.val := by
      rw [heq, val]
      push_cast
      exact (mul_div_assoc _ _ _).symm
    rwa [hval, hdouble] at hscaled

theorem val_min {a b : Fraction} (ha : 0 < a.den) (hb : 0 < b.den) :
    (min a b).val = min a.val b.val := by
  have ha' : (0 : ℚ) < a.den := by exact_mod_cast ha
  have hb' : (0 : ℚ) < b.den := by exact_mod_cast hb
  have hle : a.num * b.den ≤ b.num * a.den ↔ a.val ≤ b.val := by
    rw [val, val, div_le_div_iff₀ ha' hb']
    norm_cast
  show (Fraction.min a b).val = _
  unfold Fraction.min
  split
  · rename_i h
    exact (min_eq_left (hle.1 h)).symm
  · rename_i h
    exact (min_eq_right (not_le.1 (mt hle.2 h)).le).symm

theorem den_min_pos {a b : Fraction} (ha : 0 < a.den) (hb : 0 < b.den) : 0 < (min a b).den := by
  show 0 < (Fraction.min a b).den
  unfold Fraction.min
  split
  · exact ha
  · exact hb

theorem near_divide (n : Nat) {d : Nat} (hd : 0 < d) : Near (n / d) (divide n d).val :=
  near_toDouble (a := ⟨n, d⟩) hd

theorem near_scale {a : Fraction} (hd : 0 < a.den) (n : Nat) :
    Near (a.val * n) (a.scale n).val := by
  have hval : (a * ofNat n).val = a.val * n := by
    show ((a.num * n : ℕ) : ℚ) / (a.den * 1 : ℕ) = a.num / a.den * n
    rw [Nat.mul_one, Nat.cast_mul, mul_div_right_comm]
  rw [← hval]
  refine near_toDouble ?_
  show 0 < a.den * 1
  rwa [Nat.mul_one]

theorem abs_round_sub_le {a : Fraction} (hd : 0 < a.den) : |(a.round : ℚ) - a.val| ≤ 1 / 2 :=
  abs_divNearestUp_sub_le a.num hd

end Fraction

open Fraction

theorem one_le_of_ne {n : UInt32} (hn : n ≠ 0) : 1 ≤ n :=
  UInt32.le_iff_toNat_le.2 (Nat.one_le_iff_ne_zero.2 fun h0 => hn (UInt32.toNat.inj h0))

theorem toNat_pos_of_ne {n : UInt32} (hn : n ≠ 0) : (0 : ℚ) < n.toNat := by
  exact_mod_cast UInt32.le_iff_toNat_le.1 (one_le_of_ne hn)

/-- Less than a pixel away from at most `n` is at most `n`. -/
theorem le_of_abs_sub_lt {m n : Nat} {x : ℚ} (h : |(m : ℚ) - x| < 1) (hx : x ≤ n) : m ≤ n := by
  have hlt : (m : ℚ) < (n + 1 : ℕ) := by
    push_cast
    linarith [(abs_sub_lt_iff.1 h).1]
  exact Nat.lt_succ_iff.1 (by exact_mod_cast hlt)

/-- Less than a pixel away from `n` is `n`. -/
theorem eq_of_abs_sub_lt {m n : Nat} (h : |(m : ℚ) - n| < 1) : m = n :=
  (le_of_abs_sub_lt h le_rfl).antisymm (le_of_abs_sub_lt (abs_sub_comm (m : ℚ) n ▸ h) le_rfl)

/-- A side of at least one pixel that is less than a pixel away from `x`. -/
structure SideNear (x : ℚ) (side : UInt32) : Prop where
  one_le : 1 ≤ side.toNat
  near : |(side.toNat : ℚ) - x| < 1

theorem SideNear.eq {bound side : UInt32} (h : SideNear bound.toNat side) : side = bound :=
  UInt32.toNat.inj (eq_of_abs_sub_lt h.near)

/-- A side at a scale of at most 1 is near to where it is at the exact ratio, if that is not 0. -/
theorem sideNear_scaledSide {ratio : ℚ} {scale : Fraction} {side : UInt32} (hd : 0 < scale.den)
    (hscale : Near ratio scale.val) (hpos : 0 < ratio) (hone : ratio ≤ 1) (hside : side ≠ 0) :
    SideNear (side.toNat * ratio) (scaledSide scale side) := by
  have hsidepos := toNat_pos_of_ne hside
  have hsidelt : (side.toNat : ℚ) ≤ 2 ^ 32 := by exact_mod_cast side.toNat_lt.le
  have hexact : 0 < side.toNat * ratio := mul_pos hsidepos hpos
  have hle : side.toNat * ratio ≤ side.toNat := mul_le_of_le_one_right hsidepos.le hone
  have hproduct : Near (side.toNat * ratio) (scale.val * side.toNat) :=
    mul_comm ratio _ ▸ hscale.mul_right hsidepos.le
  have hrounded : |((scale.scale side.toNat).round : ℚ) - side.toNat * ratio| ≤ 1 / 2 + 1 / 4 :=
    (abs_sub_le _ _ _).trans (add_le_add (abs_round_sub_le (den_toDouble_pos _))
      (hproduct.abs_sub_le_of_trans (near_scale hd _) (hle.trans hsidelt)))
  have hround : (scale.scale side.toNat).round ≤ side.toNat :=
    le_of_abs_sub_lt (hrounded.trans_lt (by norm_num)) hle
  have hmax : max (scale.scale side.toNat).round 1 ≤ side.toNat :=
    max_le hround (by exact_mod_cast hsidepos)
  have htoNat : (scaledSide scale side).toNat = max (scale.scale side.toNat).round 1 :=
    UInt32.toNat_ofNat_of_lt' (Nat.lt_of_le_of_lt hmax side.toNat_lt)
  constructor
  · rw [htoNat]
    exact le_max_right _ _
  · rw [htoNat]
    rcases Nat.eq_zero_or_pos (scale.scale side.toNat).round with hzero | hpixel
    · have hsmall := (abs_sub_le_iff.1 hrounded).2
      rw [hzero, Nat.cast_zero] at hsmall
      rw [hzero, max_eq_right (Nat.zero_le 1), Nat.cast_one]
      exact abs_sub_lt_iff.2 ⟨by linarith, by linarith⟩
    · rw [max_eq_left hpixel]
      exact hrounded.trans_lt (by norm_num)

/-- A size with both sides of at least one pixel. -/
structure HasArea (size : UInt32 × UInt32) : Prop where
  width_ne : size.1 ≠ 0
  height_ne : size.2 ≠ 0

/-- A size of at least one pixel each way that does not exceed a box. -/
structure FitsBox (size box : UInt32 × UInt32) : Prop where
  one_le_width : 1 ≤ size.1
  width_le : size.1 ≤ box.1
  one_le_height : 1 ≤ size.2
  height_le : size.2 ≤ box.2

/-- The scale at which an image reaches an edge of a box and is within it. -/
def boxRatio (image box : UInt32 × UInt32) : ℚ :=
  min ((box.1.toNat : ℚ) / image.1.toNat) ((box.2.toNat : ℚ) / image.2.toNat)

/-- How an image is shown in a box: as it is, if it fits the box, and otherwise as large as the box
admits, each side brought to pixels. -/
structure ScaledDown (image box size : UInt32 × UInt32) : Prop where
  in_image : FitsBox size image
  in_box : FitsBox size box
  kept : image.1 ≤ box.1 ∧ image.2 ≤ box.2 → size = image
  touches : ¬ (image.1 ≤ box.1 ∧ image.2 ≤ box.2) → size.1 = box.1 ∨ size.2 = box.2
  near_width : ¬ (image.1 ≤ box.1 ∧ image.2 ≤ box.2) →
    |(size.1.toNat : ℚ) - image.1.toNat * boxRatio image box| < 1
  near_height : ¬ (image.1 ≤ box.1 ∧ image.2 ≤ box.2) →
    |(size.2.toNat : ℚ) - image.2.toNat * boxRatio image box| < 1

section Box

variable {image box : UInt32 × UInt32}

theorem FitsBox.of_near {size : UInt32 × UInt32} {x y : ℚ} (hx : SideNear x size.1)
    (hy : SideNear y size.2) (hxle : x ≤ box.1.toNat) (hyle : y ≤ box.2.toNat) :
    FitsBox size box where
  one_le_width := UInt32.le_iff_toNat_le.2 hx.one_le
  width_le := UInt32.le_iff_toNat_le.2 (le_of_abs_sub_lt hx.near hxle)
  one_le_height := UInt32.le_iff_toNat_le.2 hy.one_le
  height_le := UInt32.le_iff_toNat_le.2 (le_of_abs_sub_lt hy.near hyle)

theorem boxRatio_pos (hi : HasArea image) (hb : HasArea box) : 0 < boxRatio image box :=
  lt_min (div_pos (toNat_pos_of_ne hb.width_ne) (toNat_pos_of_ne hi.width_ne))
    (div_pos (toNat_pos_of_ne hb.height_ne) (toNat_pos_of_ne hi.height_ne))

theorem mul_boxRatio_le (hi : HasArea image) (box : UInt32 × UInt32) :
    image.1.toNat * boxRatio image box ≤ box.1.toNat ∧
      image.2.toNat * boxRatio image box ≤ box.2.toNat :=
  ⟨(le_div_iff₀' (toNat_pos_of_ne hi.width_ne)).1 (min_le_left _ _),
    (le_div_iff₀' (toNat_pos_of_ne hi.height_ne)).1 (min_le_right _ _)⟩

theorem mul_boxRatio_eq (hi : HasArea image) (box : UInt32 × UInt32) :
    image.1.toNat * boxRatio image box = box.1.toNat ∨
      image.2.toNat * boxRatio image box = box.2.toNat := by
  rw [mul_comm, mul_comm (image.2.toNat : ℚ), ← eq_div_iff (toNat_pos_of_ne hi.width_ne).ne',
    ← eq_div_iff (toNat_pos_of_ne hi.height_ne).ne']
  exact min_choice _ _

/-- It is the images that fit the box which would be enlarged. -/
theorem one_le_boxRatio_iff (hi : HasArea image) :
    1 ≤ boxRatio image box ↔ image.1 ≤ box.1 ∧ image.2 ≤ box.2 := by
  rw [boxRatio, le_min_iff, one_le_div (toNat_pos_of_ne hi.width_ne),
    one_le_div (toNat_pos_of_ne hi.height_ne), Nat.cast_le, Nat.cast_le, UInt32.le_iff_toNat_le,
    UInt32.le_iff_toNat_le]

/-- The scale is that of the box or 1, each quotient being rounded once. -/
theorem near_fitScale (hi : HasArea image) (box : UInt32 × UInt32) :
    let scale := fitScale image.1.toNat image.2.toNat box.1.toNat box.2.toNat
    0 < scale.den ∧ Near (min (boxRatio image box) 1) scale.val := by
  intro scale
  have hw := UInt32.le_iff_toNat_le.1 (one_le_of_ne hi.width_ne)
  have hh := UInt32.le_iff_toNat_le.1 (one_le_of_ne hi.height_ne)
  have hdw : 0 < (Fraction.divide box.1.toNat image.1.toNat).den := den_toDouble_pos _
  have hdh : 0 < (Fraction.divide box.2.toNat image.2.toNat).den := den_toDouble_pos _
  have hden := den_min_pos hdw hdh
  have hval : scale.val = min (min (Fraction.divide box.1.toNat image.1.toNat).val
      (Fraction.divide box.2.toNat image.2.toNat).val) 1 := by
    show (min _ (⟨1, 1⟩ : Fraction)).val = _
    rw [val_min hden Nat.one_pos, val_min hdw hdh]
    simp [val]
  rw [hval]
  exact ⟨den_min_pos hden Nat.one_pos,
    ((near_divide _ hw).min (near_divide _ hh)).min (.refl zero_le_one)⟩

theorem sideNear_fit (hi : HasArea image) (hb : HasArea box) :
    let size := fit image.1 image.2 box.1 box.2
    SideNear (image.1.toNat * min (boxRatio image box) 1) size.1 ∧
      SideNear (image.2.toNat * min (boxRatio image box) 1) size.2 := by
  intro size
  obtain ⟨hd, hscale⟩ := near_fitScale hi box
  have hpos : 0 < min (boxRatio image box) 1 := lt_min (boxRatio_pos hi hb) one_pos
  have hsize : size = _ := if_neg (not_or.2 ⟨hi.width_ne, hi.height_ne⟩)
  rw [hsize]
  exact ⟨sideNear_scaledSide hd hscale hpos (min_le_right _ _) hi.width_ne,
    sideNear_scaledSide hd hscale hpos (min_le_right _ _) hi.height_ne⟩

theorem fitsBox_fit_of_hasArea (hi : HasArea image) (hb : HasArea box) :
    FitsBox (fit image.1 image.2 box.1 box.2) box := by
  obtain ⟨hwidth, hheight⟩ := sideNear_fit hi hb
  obtain ⟨hwle, hhle⟩ := mul_boxRatio_le hi box
  have hratio := min_le_left (boxRatio image box) 1
  exact .of_near hwidth hheight
    ((mul_le_mul_of_nonneg_left hratio (toNat_pos_of_ne hi.width_ne).le).trans hwle)
    ((mul_le_mul_of_nonneg_left hratio (toNat_pos_of_ne hi.height_ne).le).trans hhle)

end Box

/-- Whatever the size of an image is said to be, it is shown at a size that fits the box. -/
theorem fitsBox_fit (width height : UInt32) {maxWidth maxHeight : UInt32} (hw : maxWidth ≠ 0)
    (hh : maxHeight ≠ 0) :
    FitsBox (fit width height maxWidth maxHeight) (maxWidth, maxHeight) := by
  by_cases hknown : width = 0 ∨ height = 0
  · rw [fit, if_pos hknown]
    exact ⟨one_le_of_ne hw, UInt32.le_refl _, one_le_of_ne hh, UInt32.le_refl _⟩
  · have hi : HasArea (width, height) := ⟨(not_or.1 hknown).1, (not_or.1 hknown).2⟩
    have hb : HasArea (maxWidth, maxHeight) := ⟨hw, hh⟩
    have hfits := fitsBox_fit_of_hasArea hi hb
    exact hfits

/-- An image of a known size is shown within the box and no larger than it is. It keeps its size if
that fits the box, and otherwise it reaches an edge of the box, both sides being scaled by the same
ratio to less than a pixel. -/
theorem scaledDown_fit {image box : UInt32 × UInt32} (hi : HasArea image) (hb : HasArea box) :
    ScaledDown image box (fit image.1 image.2 box.1 box.2) := by
  obtain ⟨hwidth, hheight⟩ := sideNear_fit hi hb
  have hone := min_le_right (boxRatio image box) 1
  have hratio (hlarge : ¬ (image.1 ≤ box.1 ∧ image.2 ≤ box.2)) :
      min (boxRatio image box) 1 = boxRatio image box :=
    min_eq_left (not_le.1 (mt (one_le_boxRatio_iff hi).1 hlarge)).le
  exact {
    in_image := .of_near hwidth hheight
      (mul_le_of_le_one_right (toNat_pos_of_ne hi.width_ne).le hone)
      (mul_le_of_le_one_right (toNat_pos_of_ne hi.height_ne).le hone)
    in_box := fitsBox_fit_of_hasArea hi hb
    kept := fun hfits => by
      rw [min_eq_right ((one_le_boxRatio_iff hi).2 hfits), mul_one] at hwidth hheight
      exact Prod.ext hwidth.eq hheight.eq
    touches := fun hlarge => by
      rw [hratio hlarge] at hwidth hheight
      refine (mul_boxRatio_eq hi box).imp (fun hedge => ?_) fun hedge => ?_
      · rw [hedge] at hwidth
        exact hwidth.eq
      · rw [hedge] at hheight
        exact hheight.eq
    near_width := fun hlarge => hratio hlarge ▸ hwidth.near
    near_height := fun hlarge => hratio hlarge ▸ hheight.near }

/-- A line of one pixel stays one, though at this scale it is less than half of one. -/
theorem scaledDown_fit_line :
    HasArea (4000000000, 1) ∧ HasArea (400, 300) ∧ fit 4000000000 1 400 300 = (400, 1) ∧
      ScaledDown (4000000000, 1) (400, 300) (fit 4000000000 1 400 300) :=
  have hi : HasArea (4000000000, 1) := ⟨by decide, by decide⟩
  have hb : HasArea (400, 300) := ⟨by decide, by decide⟩
  ⟨hi, hb, by decide +kernel, scaledDown_fit hi hb⟩

end RichChat
