import Mathlib.Algebra.Group.Nat.Defs
import WheeltecVcuSerial.Framing.Scan

universe u

namespace WheeltecVcuSerial.Framing

namespace FrameFormat

variable {F : FrameFormat α}

/-- What is left over is less than a frame. -/
theorem short_scan (data : List α) : (F.scan data).2.length < F.size := by
  fun_induction F.scan data with
  | case1 data hshort => exact hshort
  | case2 data _ _ rest ih => exact ih
  | case3 data _ _ ih => exact ih

/-- A stream that comes in two pieces: what the first one leaves goes before the second one. -/
theorem parse_append (first second : List α) :
    F.parse (first ++ second) =
      ((F.parse first).1 ++ (F.parse ((F.parse first).2 ++ second)).1,
        (F.parse ((F.parse first).2 ++ second)).2) := by
  have hread (data : List α) : F.pushAll [] data = F.parse data := Partial.nil.pushAll data
  have hsplit := pushAll_append (F := F) [] first second
  rw [hread, hread] at hsplit
  have hpartial : F.Partial (F.parse first).2 := .resync (short_scan first)
  rw [hsplit, hpartial.pushAll]

/-- Records that are told apart by their size alone. -/
def records (size : Nat) (size_pos : 0 < size) : FrameFormat α where
  size := size
  accepts _ := true
  starts _ := true
  size_pos := size_pos
  starts_of_accepts _ := rfl

variable {size : Nat} {size_pos : 0 < size}

theorem parse_records (data : List α) :
    (records size size_pos).parse data = (records size size_pos).scan data := by
  have hresync (rest : List α) : (records size size_pos).resync rest = rest := by
    cases rest <;> rfl
  rw [parse, hresync]

/-- The records of a stream, whatever the pieces it comes in. -/
theorem records_append (first second : List α) :
    (records size size_pos).scan (first ++ second) =
      (((records size size_pos).scan first).1 ++
          ((records size size_pos).scan (((records size size_pos).scan first).2 ++ second)).1,
        ((records size size_pos).scan (((records size size_pos).scan first).2 ++ second)).2) := by
  simp only [← parse_records]
  exact parse_append first second

theorem records_flatMap {β : Type u} {pack : β → List α} {items : List β} {tail : List α}
    (hitems : ∀ item ∈ items, (pack item).length = size) (htail : tail.length < size) :
    (records size size_pos).scan (items.flatMap pack ++ tail) = (items.map pack, tail) := by
  induction items with
  | nil => exact scan_of_short htail
  | cons item items ih =>
    rw [List.forall_mem_cons] at hitems
    rw [List.flatMap_cons, List.append_assoc, scan_of_accepts hitems.1 rfl, ih hitems.2]
    rfl

end FrameFormat

/-! ### Numbers in records -/

/-- The number that bytes stand for, the lowest one first. -/
def bytesValue : List UInt8 → Nat
  | [] => 0
  | byte :: bytes => byte.toNat + 256 * bytesValue bytes

/-- A number in so many bytes, the lowest one first. -/
def valueBytes : Nat → Nat → List UInt8
  | 0, _ => []
  | count + 1, value => .ofNat value :: valueBytes count (value / 256)

@[simp]
theorem length_valueBytes (count value : Nat) : (valueBytes count value).length = count := by
  induction count generalizing value with
  | zero => rfl
  | succ count ih => rw [valueBytes, List.length_cons, ih]

theorem bytesValue_valueBytes {count value : Nat} (h : value < 256 ^ count) :
    bytesValue (valueBytes count value) = value := by
  induction count generalizing value with
  | zero =>
    rw [Nat.pow_zero] at h
    exact (Nat.lt_one_iff.mp h).symm
  | succ count ih =>
    have hrest : value / 256 < 256 ^ count := by
      rw [Nat.pow_succ] at h
      exact Nat.div_lt_of_lt_mul (by omega)
    rw [valueBytes, bytesValue, ih hrest, UInt8.toNat_ofNat']
    omega

end WheeltecVcuSerial.Framing
