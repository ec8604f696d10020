import Mathlib.Algebra.Order.Ring.Int
import Mathlib.Data.Option.Basic

namespace WheeltecVcuSerial.Arithmetic

/-- The values of a signed machine integer. -/
def Signed (width : Nat) (value : Int) : Prop :=
  -2 ^ (width - 1) ≤ value ∧ value < 2 ^ (width - 1)

instance (width : Nat) (value : Int) : Decidable (Signed width value) :=
  inferInstanceAs (Decidable (_ ∧ _))

/-! Arithmetic that has no result where the machine's has none of its own. -/

def signed (width : Nat) (value : Int) : Option Int :=
  if Signed width value then some value else none

def add (width : Nat) (a b : Int) : Option Int := signed width (a + b)

def sub (width : Nat) (a b : Int) : Option Int := signed width (a - b)

/-- The time since `since`, which must not lie ahead. -/
def elapsed (width : Nat) (now since : Int) : Option Int :=
  (sub width now since).filter (0 ≤ ·)

/-- A counter of `width` bits, one further. -/
def increment (width n : Nat) : Option Nat := if n + 1 < 2 ^ width then some (n + 1) else none

/-- The connective `&&`, which leaves its right side alone unless the left side holds. -/
def both (a : Bool) (b : Option Bool) : Option Bool := if a then b else some false

/-- The connective `||`, which leaves its right side alone if the left side holds. -/
def either (a : Bool) (b : Option Bool) : Option Bool := if a then some true else b

variable {width n : Nat} {value a b now since : Int}

theorem signed_eq (h : Signed width value) : signed width value = some value := if_pos h

theorem add_eq (h : Signed width (a + b)) : add width a b = some (a + b) := signed_eq h

theorem sub_eq (h : Signed width (a - b)) : sub width a b = some (a - b) := signed_eq h

/-- A difference of times that are not negative stays in the range of the later one. -/
theorem Signed.elapsed (h : Signed width now) (hsince : 0 ≤ since) (hle : since ≤ now) :
    Signed width (now - since) := by
  obtain ⟨-, hnow⟩ := h
  have hpow : (0 : Int) ≤ 2 ^ (width - 1) := pow_nonneg (by decide) _
  refine ⟨?_, ?_⟩ <;> omega

theorem elapsed_eq (h : Signed width now) (hsince : 0 ≤ since) (hle : since ≤ now) :
    elapsed width now since = some (now - since) := by
  rw [elapsed, sub_eq (h.elapsed hsince hle), Option.filter_some, if_pos (by simpa using hle)]

theorem Signed.max (ha : Signed width a) (hb : Signed width b) : Signed width (max a b) :=
  ⟨ha.1.trans (le_max_left a b), max_lt ha.2 hb.2⟩

theorem increment_eq (h : n + 1 < 2 ^ width) : increment width n = some (n + 1) := if_pos h

theorem both_eq {a b : Bool} {x : Option Bool} (h : a = true → x = some b) :
    both a x = some (a && b) := by
  cases a with
  | false => rfl
  | true => exact h rfl

theorem either_eq {a b : Bool} {x : Option Bool} (h : a = false → x = some b) :
    either a x = some (a || b) := by
  cases a with
  | false => exact h rfl
  | true => rfl

/-- A conditional has a result if both of its branches have one. -/
theorem ite_eq_some {α : Type _} {c : Prop} [Decidable c] {x y : Option α} {a b : α}
    (hthen : c → x = some a) (helse : ¬ c → y = some b) :
    (if c then x else y) = some (if c then a else b) := by
  split
  · case isTrue h => exact hthen h
  · case isFalse h => exact helse h

theorem bind_eq {α β : Type _} {x : Option α} {f : α → Option β} {a : α} {b : β}
    (hx : x = some a) (hf : f a = some b) : (x >>= f) = some b := by
  rw [hx]
  exact hf

end WheeltecVcuSerial.Arithmetic
