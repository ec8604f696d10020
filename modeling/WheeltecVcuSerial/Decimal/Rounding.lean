import Mathlib.Data.Rat.Floor
import Mathlib.Algebra.Order.Group.Unbundled.Int
import Mathlib.Tactic.Linarith
import Mathlib.Tactic.FieldSimp

namespace WheeltecVcuSerial.Decimal

/-- Rounding to the nearest integer, from the middle to the even one. -/
def roundHalfEven (q : ℚ) : ℤ :=
  if Int.fract q < 1 / 2 then ⌊q⌋
  else if 1 / 2 < Int.fract q then ⌊q⌋ + 1
  else if Even ⌊q⌋ then ⌊q⌋
  else ⌊q⌋ + 1

/-- `n` is nearest to `q`, and even where another integer is as near. -/
structure NearestEven (q : ℚ) (n : ℤ) : Prop where
  near : |q - n| ≤ 1 / 2
  tie : |q - n| = 1 / 2 → Even n

namespace NearestEven

variable {p q : ℚ} {m n : ℤ}

theorem unique (hm : NearestEven q m) (hn : NearestEven q n) : m = n := by
  have hmq := abs_le.mp hm.near
  have hnq := abs_le.mp hn.near
  by_contra hne
  rcases lt_or_gt_of_ne hne with hlt | hgt
  · have hstep : ((m + 1 : ℤ) : ℚ) ≤ n := Int.cast_le.mpr hlt
    push_cast at hstep
    have heven := hm.tie (by rw [abs_of_nonneg] <;> linarith)
    have heven' := hn.tie (by rw [abs_of_nonpos] <;> linarith)
    have hnext : ((m + 1 : ℤ) : ℚ) = n := by push_cast; linarith
    rw [← Int.cast_injective hnext, Int.even_add_one] at heven'
    exact heven' heven
  · have hstep : ((n + 1 : ℤ) : ℚ) ≤ m := Int.cast_le.mpr hgt
    push_cast at hstep
    have heven := hn.tie (by rw [abs_of_nonneg] <;> linarith)
    have heven' := hm.tie (by rw [abs_of_nonpos] <;> linarith)
    have hnext : ((n + 1 : ℤ) : ℚ) = m := by push_cast; linarith
    rw [← Int.cast_injective hnext, Int.even_add_one] at heven'
    exact heven' heven

theorem neg (h : NearestEven q n) : NearestEven (-q) (-n) := by
  have heq : -q - ((-n : ℤ) : ℚ) = -(q - n) := by push_cast; ring
  constructor
  · rw [heq, abs_neg]
    exact h.near
  · rw [heq, abs_neg]
    intro htie
    exact (h.tie htie).neg

end NearestEven

theorem nearestEven_roundHalfEven (q : ℚ) : NearestEven q (roundHalfEven q) := by
  have hfract := Int.fract_nonneg q
  have hless := Int.fract_lt_one q
  have hsum := Int.floor_add_fract q
  unfold roundHalfEven
  split
  · case isTrue hlow =>
    have heq : q - (⌊q⌋ : ℚ) = Int.fract q := by linarith
    constructor
    · rw [heq, abs_of_nonneg hfract]
      exact hlow.le
    · rw [heq, abs_of_nonneg hfract]
      intro htie
      exact absurd htie hlow.ne
  · case isFalse hlow =>
    have hup : q - ((⌊q⌋ + 1 : ℤ) : ℚ) = -(1 - Int.fract q) := by push_cast; linarith
    have hpos : 0 ≤ 1 - Int.fract q := by linarith
    split
    · case isTrue hhigh =>
      constructor
      · rw [hup, abs_neg, abs_of_nonneg hpos]
        linarith
      · rw [hup, abs_neg, abs_of_nonneg hpos]
        intro htie
        linarith
    · case isFalse hhigh =>
      have hhalf : Int.fract q = 1 / 2 := le_antisymm (not_lt.mp hhigh) (not_lt.mp hlow)
      split
      · case isTrue heven =>
        have heq : q - (⌊q⌋ : ℚ) = 1 / 2 := by linarith
        exact ⟨by rw [heq]; norm_num, fun _ => heven⟩
      · case isFalse hodd =>
        refine ⟨?_, fun _ => Int.even_add_one.mpr hodd⟩
        rw [hup, abs_neg, abs_of_nonneg hpos]
        linarith

theorem roundHalfEven_eq {q : ℚ} {n : ℤ} (h : NearestEven q n) : roundHalfEven q = n :=
  (nearestEven_roundHalfEven q).unique h

@[simp] theorem roundHalfEven_intCast (n : ℤ) : roundHalfEven (n : ℚ) = n := by
  apply roundHalfEven_eq
  constructor <;> simp

@[simp] theorem roundHalfEven_neg (q : ℚ) : roundHalfEven (-q) = -roundHalfEven q :=
  roundHalfEven_eq (nearestEven_roundHalfEven q).neg

theorem roundHalfEven_mono {p q : ℚ} (h : p ≤ q) : roundHalfEven p ≤ roundHalfEven q := by
  by_contra hless
  have hp := abs_le.mp (nearestEven_roundHalfEven p).near
  have hq := abs_le.mp (nearestEven_roundHalfEven q).near
  have hstep : ((roundHalfEven q + 1 : ℤ) : ℚ) ≤ roundHalfEven p :=
    Int.cast_le.mpr (not_le.mp hless)
  push_cast at hstep
  have heq : p = q := by linarith
  exact hless (heq ▸ le_rfl)

/-- Rounding to so many decimal digits. -/
def roundTo (digits : ℕ) (q : ℚ) : ℚ := roundHalfEven (q * 10 ^ digits) / 10 ^ digits

theorem pow_ten_pos (digits : ℕ) : (0 : ℚ) < 10 ^ digits := pow_pos (by norm_num) digits

theorem roundTo_mono {p q : ℚ} (digits : ℕ) (h : p ≤ q) : roundTo digits p ≤ roundTo digits q := by
  have hscaled := mul_le_mul_of_nonneg_right h (pow_ten_pos digits).le
  have hrounded : ((roundHalfEven (p * 10 ^ digits) : ℤ) : ℚ) ≤ roundHalfEven (q * 10 ^ digits) :=
    Int.cast_le.mpr (roundHalfEven_mono hscaled)
  exact div_le_div_of_nonneg_right hrounded (pow_ten_pos digits).le

@[simp] theorem roundTo_neg (digits : ℕ) (q : ℚ) : roundTo digits (-q) = -roundTo digits q := by
  rw [roundTo, neg_mul, roundHalfEven_neg, Int.cast_neg, neg_div, roundTo]

@[simp] theorem roundTo_zero (digits : ℕ) : roundTo digits 0 = 0 := by
  have hzero : roundHalfEven (0 : ℚ) = 0 := roundHalfEven_intCast 0
  rw [roundTo, zero_mul, hzero, Int.cast_zero, zero_div]

theorem abs_roundTo (digits : ℕ) (q : ℚ) : |roundTo digits q| = roundTo digits |q| := by
  rcases le_total 0 q with hq | hq
  · have hpos := roundTo_mono digits hq
    rw [roundTo_zero] at hpos
    rw [abs_of_nonneg hq, abs_of_nonneg hpos]
  · have hneg := roundTo_mono digits hq
    rw [roundTo_zero] at hneg
    rw [abs_of_nonpos hq, abs_of_nonpos hneg, roundTo_neg]

/-- What so many digits hold exactly, more digits hold too. -/
theorem roundTo_of_le {digits digits' : ℕ} {q : ℚ} (hle : digits ≤ digits')
    (h : roundTo digits q = q) : roundTo digits' q = q := by
  obtain ⟨more, rfl⟩ := Nat.exists_eq_add_of_le hle
  have hpow := pow_ten_pos digits
  have hq : q * 10 ^ digits = roundHalfEven (q * 10 ^ digits) := by
    rw [roundTo, div_eq_iff hpow.ne'] at h
    exact h.symm
  have hscaled : q * 10 ^ (digits + more) =
      ((roundHalfEven (q * 10 ^ digits) * 10 ^ more : ℤ) : ℚ) := by
    rw [pow_add, ← mul_assoc, hq]
    push_cast
    rw [roundHalfEven_intCast]
  rw [roundTo, hscaled, roundHalfEven_intCast, ← hscaled, mul_div_assoc,
    div_self (pow_ten_pos _).ne', mul_one]

end WheeltecVcuSerial.Decimal
