import Mathlib.Data.Int.Log
import WheeltecVcuSerial.Decimal.Rounding

namespace WheeltecVcuSerial

open Decimal

/-- A binary floating-point format: how many bits a significand has, the exponent of the smallest
unit, and the exponent of the first power of two that is too large. -/
structure FloatFormat where
  precision : ℕ
  minExponent : ℤ
  maxExponent : ℤ
  precision_pos : 0 < precision

namespace FloatFormat

/-- The nearest multiple of `2 ^ e`, from the middle the one with an even factor. -/
def roundOn (e : ℤ) (q : ℚ) : ℚ := roundHalfEven (q / 2 ^ e) * 2 ^ e

theorem two_zpow_pos (e : ℤ) : (0 : ℚ) < 2 ^ e := zpow_pos (by norm_num) e

theorem roundOn_mono (e : ℤ) {p q : ℚ} (h : p ≤ q) : roundOn e p ≤ roundOn e q := by
  have hscaled := div_le_div_of_nonneg_right h (two_zpow_pos e).le
  have hrounded : ((roundHalfEven (p / 2 ^ e) : ℤ) : ℚ) ≤ roundHalfEven (q / 2 ^ e) :=
    Int.cast_le.mpr (roundHalfEven_mono hscaled)
  exact mul_le_mul_of_nonneg_right hrounded (two_zpow_pos e).le

theorem roundOn_neg (e : ℤ) (q : ℚ) : roundOn e (-q) = -roundOn e q := by
  rw [roundOn, neg_div, roundHalfEven_neg, Int.cast_neg, neg_mul, roundOn]

theorem roundOn_zero (e : ℤ) : roundOn e 0 = 0 := by
  have hzero : roundHalfEven (0 : ℚ) = 0 := roundHalfEven_intCast 0
  rw [roundOn, zero_div, hzero, Int.cast_zero, zero_mul]

/-- The powers of two from `2 ^ e` on are multiples of it. -/
theorem roundOn_two_zpow {e k : ℤ} (h : e ≤ k) : roundOn e (2 ^ k) = 2 ^ k := by
  obtain ⟨n, rfl⟩ := Int.le.dest h
  have hquotient : (2 : ℚ) ^ (e + n) / 2 ^ e = ((2 ^ n : ℤ) : ℚ) := by
    rw [zpow_add₀ two_ne_zero, mul_div_cancel_left₀ _ (two_zpow_pos e).ne', zpow_natCast]
    push_cast
    rfl
  rw [roundOn, hquotient, roundHalfEven_intCast, ← hquotient,
    div_mul_cancel₀ _ (two_zpow_pos e).ne']

/-- The exponent of the unit in the last place. -/
def unitExponent (format : FloatFormat) (q : ℚ) : ℤ :=
  max (Int.log 2 |q| + 1 - format.precision) format.minExponent

/-- Rounding to the nearest number with a significand of the format, however large it is. -/
def round (format : FloatFormat) (q : ℚ) : ℚ := roundOn (format.unitExponent q) q

def overflows (format : FloatFormat) (q : ℚ) : Bool := 2 ^ format.maxExponent ≤ |format.round q|

variable (format : FloatFormat) {p q : ℚ}

theorem round_neg (q : ℚ) : format.round (-q) = -format.round q := by
  rw [round, unitExponent, abs_neg, roundOn_neg, round, unitExponent]

theorem round_mono_of_pos (hp : 0 < p) (h : p ≤ q) : format.round p ≤ format.round q := by
  have hlog : Int.log 2 p ≤ Int.log 2 q := Int.log_mono_right hp h
  have hprecision := format.precision_pos
  unfold round
  rcases eq_or_ne (format.unitExponent p) (format.unitExponent q) with heq | hne
  · rw [heq]
    exact roundOn_mono _ h
  · -- a power of two between them stands on both grids
    simp only [unitExponent, abs_of_pos hp, abs_of_pos (hp.trans_le h)] at hne ⊢
    have hless : Int.log 2 p + 1 ≤ Int.log 2 q := by omega
    have hbelow : p ≤ 2 ^ Int.log 2 q := by
      calc p ≤ ((2 : ℕ) : ℚ) ^ (Int.log 2 p + 1) := (Int.lt_zpow_succ_log_self one_lt_two p).le
        _ ≤ 2 ^ Int.log 2 q := zpow_le_zpow_right₀ (by norm_num) hless
    have habove : 2 ^ Int.log 2 q ≤ q := Int.zpow_log_le_self one_lt_two (hp.trans_le h)
    have hp' := roundOn_mono (max (Int.log 2 p + 1 - format.precision) format.minExponent) hbelow
    have hq' := roundOn_mono (max (Int.log 2 q + 1 - format.precision) format.minExponent) habove
    rw [roundOn_two_zpow (by omega)] at hp' hq'
    exact hp'.trans hq'

theorem round_nonneg (h : 0 ≤ q) : 0 ≤ format.round q := by
  rw [← roundOn_zero (format.unitExponent q)]
  exact roundOn_mono _ h

/-- Rounding keeps the order, across the changes of the unit too. -/
theorem round_mono (h : p ≤ q) : format.round p ≤ format.round q := by
  rcases lt_or_ge 0 p with hp | hp
  · exact format.round_mono_of_pos hp h
  · rcases lt_or_ge q 0 with hq | hq
    · have hneg := format.round_mono_of_pos (neg_pos.mpr hq) (neg_le_neg h)
      rw [round_neg, round_neg] at hneg
      exact neg_le_neg_iff.mp hneg
    · have hlow := format.round_nonneg (neg_nonneg.mpr hp)
      rw [round_neg, neg_nonneg] at hlow
      exact hlow.trans (format.round_nonneg hq)

/-- What stays in range keeps what is smaller in range. -/
theorem overflows_of_le (hp : 0 ≤ p) (h : p ≤ q) (hq : format.overflows q = false) :
    format.overflows p = false := by
  have hround := format.round_mono h
  simp only [overflows, decide_eq_false_iff_not, not_le, abs_of_nonneg (format.round_nonneg hp),
    abs_of_nonneg (format.round_nonneg (hp.trans h))] at hq ⊢
  exact hround.trans_lt hq

end FloatFormat

/-- The format of `double`. -/
def binary64 : FloatFormat where
  precision := 53
  minExponent := -1074
  maxExponent := 1024
  precision_pos := by decide

example : binary64.round (1 / 10) = 3602879701896397 / 2 ^ 55 := by decide +kernel

end WheeltecVcuSerial
