import WheeltecVcuSerial.Decimal.Strtoll
import WheeltecVcuSerial.Protocol.Double
import Mathlib.Data.Finmap

namespace WheeltecVcuSerial

open Arithmetic Decimal

/-- The memory behind `c_str()`. -/
def cString (text : List Char) : List Char := text ++ ['\x00']

/-- What `strtod` leaves: the value, how many characters stand before `end`, and whether `errno` is
`ERANGE`. -/
structure Strtod where
  parsed : Double
  stop : ℕ
  erange : Bool

def parseDoubleStrict (strtod : List Char → Strtod) (text : List Char) : Option Double :=
  if text = [] then none
  else
    let result := strtod (cString text)
    if result.stop = 0 || (cString text)[result.stop]? ≠ some '\x00' || result.erange then none
    else some result.parsed

def parseInt64Strict (text : List Char) : Option ℤ :=
  if text = [] then none
  else
    let result := strtoll (cString text)
    if result.stop = 0 || (cString text)[result.stop]? ≠ some '\x00' || result.erange then none
    else some result.parsed

/-- The type `std::map<std::string, std::string>`. -/
abbrev Values := Finmap fun _ : List Char => List Char

def assignUint32 (values : Values) (key : List Char) : Option ℕ :=
  match values.lookup key with
  | none => none
  | some text =>
    match parseInt64Strict text with
    | none => none
    | some parsed => if parsed < 0 || parsed.toNat > 2 ^ 32 - 1 then none else some parsed.toNat

/-- A numeral for a signed integer of 64 bits, a null character, and anything after it. -/
def Truncated (text : List Char) : Prop :=
  ∃ front back value, text = front ++ '\x00' :: back ∧ Numeral front value ∧ Signed 64 value

/-- A text that is read strictly: all of it is the numeral, and its value is what is stored. -/
structure Strict (text : List Char) : Prop where
  int64 : ∀ value, parseInt64Strict text = some value ↔ Numeral text value ∧ Signed 64 value
  uint32 : ∀ (values : Values) (key : List Char) (n : ℕ), values.lookup key = some text →
    (assignUint32 values key = some n ↔ Numeral text n ∧ n ≤ 2 ^ 32 - 1)

variable {text front back : List Char} {value : ℤ}

/-- Any null character may be taken for the end of the text. -/
theorem exists_cString_eq : (∃ back, cString text = front ++ '\x00' :: back) ↔
    text = front ∨ ∃ back, text = front ++ '\x00' :: back := by
  constructor
  · rintro ⟨back, h⟩
    rcases List.append_eq_append_iff.mp h with ⟨rest, rfl, hrest⟩ | ⟨rest, rfl, hrest⟩
    · cases rest with
      | nil => exact .inl (List.append_nil _).symm
      | cons c rest => simp at hrest
    · cases rest with
      | nil => exact .inl (List.append_nil _)
      | cons c rest =>
        cases hrest
        exact .inr ⟨rest, rfl⟩
  · rintro (rfl | ⟨back, rfl⟩)
    · exact ⟨[], rfl⟩
    · exact ⟨back ++ ['\x00'], by rw [cString, List.append_assoc, List.cons_append]⟩

/-- A numeral is read up to a null character, wherever that stands. -/
theorem parseInt64Strict_eq_some : parseInt64Strict text = some value ↔
    ∃ front, (∃ back, cString text = front ++ '\x00' :: back) ∧
      Numeral front value ∧ Signed 64 value := by
  constructor
  · intro h
    simp only [parseInt64Strict] at h
    split at h
    · cases h
    · split at h
      · cases h
      · rename_i hend
        cases h
        simp only [Bool.or_eq_true, decide_eq_true_iff, not_or, not_not, Bool.not_eq_true] at hend
        obtain ⟨⟨hstop, hend⟩, herange⟩ := hend
        obtain ⟨front, rest, hmemory, hnumeral, hvalue, hlength⟩ :=
          exists_numeral_of_strtoll hstop herange
        rw [hlength, hmemory, List.getElem?_append_right le_rfl, Nat.sub_self,
          ← List.head?_eq_getElem?, List.head?_eq_some_iff] at hend
        obtain ⟨back, rfl⟩ := hend
        exact ⟨front, ⟨back, hmemory⟩, hnumeral, hvalue⟩
  · rintro ⟨front, ⟨back, hmemory⟩, hnumeral, hvalue⟩
    have htext : text ≠ [] := by
      rintro rfl
      have hlength := congrArg List.length hmemory
      have hpos := List.length_pos_iff.mpr hnumeral.ne_nil
      simp [cString] at hlength
      omega
    have hback : ∀ c ∈ ('\x00' :: back).head?, c.isDigit = false := by simp
    have hend : (front ++ '\x00' :: back)[front.length]? = some '\x00' := by simp
    simp only [parseInt64Strict, if_neg htext, hmemory, strtoll_numeral hnumeral hback hvalue, hend]
    simp [hnumeral.ne_nil]

theorem parseInt64Strict_iff : parseInt64Strict text = some value ↔
    (Numeral text value ∨ ∃ front back, text = front ++ '\x00' :: back ∧ Numeral front value) ∧
      Signed 64 value := by
  simp only [parseInt64Strict_eq_some, exists_cString_eq]
  constructor
  · rintro ⟨front, rfl | ⟨back, rfl⟩, hnumeral, hvalue⟩
    · exact ⟨.inl hnumeral, hvalue⟩
    · exact ⟨.inr ⟨front, back, rfl, hnumeral⟩, hvalue⟩
  · rintro ⟨hnumeral | ⟨front, back, rfl, hnumeral⟩, hvalue⟩
    · exact ⟨text, .inl rfl, hnumeral, hvalue⟩
    · exact ⟨front, .inr ⟨back, rfl⟩, hnumeral, hvalue⟩

theorem assignUint32_eq_some {values : Values} {key : List Char} {n : ℕ}
    (h : values.lookup key = some text) :
    assignUint32 values key = some n ↔ parseInt64Strict text = some (n : ℤ) ∧ n ≤ 2 ^ 32 - 1 := by
  cases hparsed : parseInt64Strict text with
  | none => simp [assignUint32, h, hparsed]
  | some parsed =>
    simp only [assignUint32, h, hparsed, Option.ite_none_left_eq_some, Option.some.injEq,
      Bool.or_eq_true, decide_eq_true_iff]
    omega

/-- A text is read strictly unless a null character hides what follows a numeral. -/
theorem strict_iff (text : List Char) : Strict text ↔ ¬Truncated text := by
  constructor
  · rintro hstrict ⟨front, back, value, rfl, hnumeral, hvalue⟩
    have hparsed := parseInt64Strict_iff.mpr ⟨.inr ⟨front, back, rfl, hnumeral⟩, hvalue⟩
    exact ((hstrict.int64 value).mp hparsed).1.null_not_mem (by simp)
  · intro hnot
    have hint64 : ∀ value, parseInt64Strict text = some value ↔
        Numeral text value ∧ Signed 64 value := by
      intro value
      rw [parseInt64Strict_iff]
      constructor
      · rintro ⟨hnumeral | ⟨front, back, rfl, hnumeral⟩, hvalue⟩
        · exact ⟨hnumeral, hvalue⟩
        · exact absurd ⟨front, back, value, rfl, hnumeral, hvalue⟩ hnot
      · exact fun ⟨hnumeral, hvalue⟩ => ⟨.inl hnumeral, hvalue⟩
    refine ⟨hint64, fun values key n hlookup => ?_⟩
    rw [assignUint32_eq_some hlookup, hint64]
    constructor
    · exact fun ⟨⟨hnumeral, _⟩, hn⟩ => ⟨hnumeral, hn⟩
    · exact fun ⟨hnumeral, hn⟩ => ⟨⟨hnumeral, by constructor <;> omega⟩, hn⟩

theorem not_strict_null :
    parseInt64Strict "500\x00 ms".toList = some 500 ∧ ¬Strict "500\x00 ms".toList := by
  have hparsed : parseInt64Strict "500\x00 ms".toList = some 500 := by decide
  exact ⟨hparsed, fun hstrict => ((hstrict.int64 500).mp hparsed).1.null_not_mem (by decide)⟩

end WheeltecVcuSerial
