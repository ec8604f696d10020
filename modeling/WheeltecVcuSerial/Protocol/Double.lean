import Mathlib.Data.Rat.Floor
import Mathlib.Tactic.Linarith
import WheeltecVcuSerial.Arithmetic.FloatFormat

namespace WheeltecVcuSerial

/-- A `double` whose finite values are read exactly, as rational numbers. -/
inductive Double
  | finite (value : ℚ)
  | infinite (negative : Bool)
  | nan
  deriving DecidableEq

/-- `std::trunc`: rounding toward zero. -/
def truncate (q : ℚ) : ℤ := if 0 ≤ q then ⌊q⌋ else ⌈q⌉

theorem abs_truncate_le_floor {q bound : ℚ} (h : |q| ≤ bound) : |truncate q| ≤ ⌊bound⌋ := by
  have hq := abs_le.mp h
  unfold truncate
  split
  · case isTrue hpos =>
    rw [abs_of_nonneg (Int.floor_nonneg.mpr hpos)]
    exact Int.floor_mono hq.2
  · case isFalse hneg =>
    have hceil : ⌈q⌉ ≤ 0 := Int.ceil_le.mpr (by simpa using (not_le.mp hneg).le)
    rw [abs_of_nonpos hceil, ← Int.floor_neg]
    exact Int.floor_mono (by linarith)

theorem truncate_of_nonneg {q : ℚ} (h : 0 ≤ q) : truncate q = ⌊q⌋ := if_pos h

namespace Double

def isFinite : Double → Bool
  | .finite _ => true
  | .infinite _ => false
  | .nan => false

/-- `<` on `double`: false as soon as one side is not a number. -/
def lt : Double → Double → Bool
  | .finite x, .finite y => decide (x < y)
  | .finite _, .infinite negative => !negative
  | .infinite negative, .finite _ => negative
  | .infinite m, .infinite n => m && !n
  | .nan, _ => false
  | _, .nan => false

/-- `==` on `double`. -/
def eq : Double → Double → Bool
  | .finite x, .finite y => decide (x = y)
  | .infinite m, .infinite n => m == n
  | _, _ => false

def le (x y : Double) : Bool := x.lt y || x.eq y

/-- `std::abs` and `std::fabs`. -/
def abs : Double → Double
  | .finite x => .finite |x|
  | .infinite _ => .infinite false
  | .nan => .nan

/-- Multiplication by a positive constant, exact on finite values. -/
def scale (factor : ℚ) : Double → Double
  | .finite x => .finite (x * factor)
  | .infinite negative => .infinite negative
  | .nan => .nan

def neg : Double → Double
  | .finite x => .finite (-x)
  | .infinite negative => .infinite !negative
  | .nan => .nan

/-- The `double` for an exact number, be it a literal or the result of an operation: the nearest
one, from the middle the even one, and infinite where the number is too large. -/
def rounded (q : ℚ) : Double :=
  if binary64.overflows q then .infinite (decide (q < 0)) else .finite (binary64.round q)

/-- `*` on `double`. -/
def mul : Double → Double → Double
  | .finite x, .finite y => rounded (x * y)
  | .finite x, .infinite negative => if x = 0 then .nan else .infinite (negative != decide (x < 0))
  | .infinite negative, .finite x => if x = 0 then .nan else .infinite (negative != decide (x < 0))
  | .infinite m, .infinite n => .infinite (m != n)
  | .nan, _ => .nan
  | _, .nan => .nan

/-- `/` on `double`; zero has no sign. -/
def div : Double → Double → Double
  | .finite x, .finite y =>
    if y ≠ 0 then rounded (x / y) else if x = 0 then .nan else .infinite (decide (x < 0))
  | .finite _, .infinite _ => .finite 0
  | .infinite negative, .finite x => .infinite (negative != decide (x < 0))
  | .infinite _, .infinite _ => .nan
  | .nan, _ => .nan
  | _, .nan => .nan

def trunc : Double → Double
  | .finite x => .finite (truncate x)
  | .infinite negative => .infinite negative
  | .nan => .nan

/-- The cast of a finite `double` to an integer type that can hold it. -/
def toInt : Double → ℤ
  | .finite x => truncate x
  | .infinite _ => 0
  | .nan => 0

theorem isFinite_iff {x : Double} : x.isFinite = true ↔ ∃ q, x = .finite q := by
  cases x <;> simp [isFinite]

@[simp] theorem isFinite_finite (q : ℚ) : (finite q).isFinite = true := rfl

@[simp] theorem lt_finite (x y : ℚ) : (finite x).lt (finite y) = decide (x < y) := rfl

@[simp] theorem eq_finite (x y : ℚ) : (finite x).eq (finite y) = decide (x = y) := rfl

@[simp] theorem le_finite (x y : ℚ) : (finite x).le (finite y) = decide (x ≤ y) := by
  simp [le, le_iff_lt_or_eq]

@[simp] theorem abs_finite (q : ℚ) : (finite q).abs = finite |q| := rfl

@[simp] theorem mul_finite (x y : ℚ) : (finite x).mul (finite y) = rounded (x * y) := rfl

@[simp] theorem trunc_finite (q : ℚ) : (finite q).trunc = finite (truncate q) := rfl

@[simp] theorem scale_finite (factor q : ℚ) : (finite q).scale factor = finite (q * factor) := rfl

/-- What is positive and below a number that rounds to at most `bound` does so too. -/
theorem rounded_of_le {p q bound : ℚ} (hp : 0 < p) (hle : p ≤ q)
    (hq : (finite bound).lt (rounded q) = false) :
    ∃ r, rounded p = finite r ∧ 0 ≤ r ∧ r ≤ bound := by
  have hpositive : ¬q < 0 := (hp.trans_le hle).le.not_gt
  unfold rounded at hq
  split at hq
  · simp [lt, hpositive] at hq
  · case isFalse hoverflows =>
    have hfits := binary64.overflows_of_le hp.le hle (Bool.eq_false_iff.mpr hoverflows)
    simp only [lt_finite, decide_eq_false_iff_not, not_lt] at hq
    refine ⟨binary64.round p, by simp [rounded, hfits], binary64.round_nonneg hp.le, ?_⟩
    exact (binary64.round_mono hle).trans hq

theorem rounded_yaw : rounded 32.767 = finite (binary64.round 32.767) := by decide +kernel

theorem le_of_lt_rounded_yaw {x : ℚ} (h : (rounded 32.767).lt (finite x) = false) :
    (finite x).le (rounded 32.767) = true := by
  rw [rounded_yaw] at h ⊢
  simpa using h

theorem lt_of_le_rounded_yaw {x : ℚ} (h : (finite x).le (rounded 32.767) = true) : x < 32.768 := by
  have hunit : binary64.round 32.767 < 32.768 := by decide +kernel
  rw [rounded_yaw, le_finite, decide_eq_true_eq] at h
  exact h.trans_lt hunit

/-- What rounds to a yaw rate that the validators accept is below the next unit of the wire. -/
theorem lt_of_rounded_le_yaw {x bound : ℚ} (hbound : (finite bound).le (rounded 32.767) = true)
    (hx : (finite bound).lt (rounded x) = false) : x < 32.768 := by
  by_contra hlarge
  obtain ⟨r, hr, -, hle⟩ := rounded_of_le (by norm_num) (not_lt.mp hlarge) hx
  have hnext : rounded 32.768 = finite (binary64.round 32.768) := by decide +kernel
  have hunit : binary64.round 32.767 < binary64.round 32.768 := by decide +kernel
  rw [hnext, finite.injEq] at hr
  rw [rounded_yaw, le_finite, decide_eq_true_eq, hr] at *
  exact absurd (hle.trans hbound) hunit.not_ge

theorem eq_zero_iff {x : Double} : x.eq (.finite 0) = true ↔ x = .finite 0 := by
  cases x <;> simp [eq]

end Double

@[simp] theorem truncate_intCast (n : ℤ) : truncate (n : ℚ) = n := by
  unfold truncate; split <;> simp

end WheeltecVcuSerial
