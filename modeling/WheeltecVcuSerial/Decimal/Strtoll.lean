import WheeltecVcuSerial.Arithmetic.Checked
import WheeltecVcuSerial.Decimal.Text
import Mathlib.Data.List.TakeWhile

/-! The function `strtoll` of the C library in base ten, and the numerals that it reads. -/

namespace WheeltecVcuSerial.Decimal

open Arithmetic

/-- The value, how many characters stand before `end`, and whether `errno` is `ERANGE`. -/
structure Strtoll where
  parsed : ℤ
  stop : ℕ
  erange : Bool
  deriving DecidableEq

/-- The result for the memory from a pointer on.  No null character is read over. -/
def strtoll (memory : List Char) : Strtoll :=
  match readInt (skipSpace memory) with
  | none => ⟨0, 0, false⟩
  | some (value, rest) =>
    let stop := memory.length - rest.length
    if Signed 64 value then ⟨value, stop, false⟩
    else ⟨if value < 0 then -2 ^ 63 else 2 ^ 63 - 1, stop, true⟩

inductive Sign : List Char → ℤ → Prop
  | none : Sign [] 1
  | plus : Sign ['+'] 1
  | minus : Sign ['-'] (-1)

/-- White space, at most one sign, and digits. -/
def Numeral (text : List Char) (value : ℤ) : Prop :=
  ∃ spaces sign digits unit, text = spaces ++ (sign ++ digits) ∧ (∀ c ∈ spaces, isSpace c = true) ∧
    Sign sign unit ∧ digits ≠ [] ∧ (∀ c ∈ digits, c.isDigit = true) ∧
    value = unit * Nat.ofDigitChars 10 digits 0

variable {text memory rest front back digits : List Char} {value : ℤ}

theorem Numeral.ne_nil (h : Numeral text value) : text ≠ [] := by
  obtain ⟨spaces, sign, digits, unit, rfl, -, -, hdigits, -⟩ := h
  simp [hdigits]

/-- A numeral has no null character. -/
theorem Numeral.null_not_mem (h : Numeral text value) : '\x00' ∉ text := by
  obtain ⟨spaces, sign, digits, unit, rfl, hspaces, hsign, -, hdigits, -⟩ := h
  simp only [List.mem_append, not_or]
  refine ⟨fun hmem => absurd (hspaces _ hmem) (by decide), ?_,
    fun hmem => absurd (hdigits _ hmem) (by decide)⟩
  cases hsign <;> decide

theorem exists_sign (text : List Char) :
    ∃ sign unit, Sign sign unit ∧ text = sign ++ (readSign text).2 ∧
      unit = if (readSign text).1 then -1 else 1 := by
  rw [readSign.eq_def]
  split
  · exact ⟨_, _, .minus, rfl, rfl⟩
  · exact ⟨_, _, .plus, rfl, rfl⟩
  · exact ⟨_, _, .none, rfl, rfl⟩

/-- The longest numeral in front is read. -/
theorem readInt_skipSpace_iff :
    readInt (skipSpace memory) = some (value, rest) ↔
      ∃ front, memory = front ++ rest ∧ Numeral front value ∧
        ∀ c ∈ rest.head?, c.isDigit = false := by
  constructor
  · intro h
    obtain ⟨sign, unit, hsign, htext, hunit⟩ := exists_sign (skipSpace memory)
    simp only [readInt] at h
    by_cases hne : (readSign (skipSpace memory)).2.takeWhile Char.isDigit = []
    · rw [if_pos hne] at h
      cases h
    · rw [if_neg hne] at h
      simp only [Option.some.injEq, Prod.mk.injEq] at h
      obtain ⟨rfl, rfl⟩ := h
      refine ⟨_, ?_, ⟨memory.takeWhile isSpace, sign, _, unit, rfl,
        fun c => List.mem_takeWhile_imp, hsign, hne, fun c => List.mem_takeWhile_imp, ?_⟩, ?_⟩
      · rw [List.append_assoc, List.append_assoc, List.takeWhile_append_dropWhile, ← htext,
          skipSpace, List.takeWhile_append_dropWhile]
      · rw [hunit]
        split <;> simp
      · intro c hc
        have hhead := List.head?_dropWhile_not Char.isDigit (readSign (skipSpace memory)).2
        rw [Option.mem_def.mp hc] at hhead
        exact hhead
  · rintro ⟨front, rfl, ⟨spaces, sign, digits, unit, rfl, hspaces, hsign, hne, hdigits, rfl⟩, hrest⟩
    have hskip : skipSpace (spaces ++ (sign ++ digits) ++ rest) = sign ++ (digits ++ rest) := by
      rw [skipSpace, List.append_assoc, List.dropWhile_append_of_pos hspaces, List.append_assoc]
      apply skipSpace_of_head
      obtain ⟨digit, digits, rfl⟩ := List.exists_cons_of_ne_nil hne
      have hdigit := isSpace_of_isDigit (hdigits digit List.mem_cons_self)
      cases hsign
      · simpa using hdigit
      · simp [isSpace]
      · simp [isSpace]
    have hsign' : readSign (sign ++ (digits ++ rest)) = (decide (unit = -1), digits ++ rest) := by
      cases hsign with
      | none => exact (readSign_digits hne hdigits : readSign (digits ++ rest) = _)
      | plus => rfl
      | minus => rfl
    rw [hskip]
    simp only [readInt, hsign', takeWhile_digits hdigits hrest, dropWhile_digits hdigits hrest, hne,
      if_false]
    cases hsign <;> simp

theorem strtoll_numeral (hnumeral : Numeral front value)
    (hrest : ∀ c ∈ rest.head?, c.isDigit = false) (hvalue : Signed 64 value) :
    strtoll (front ++ rest) = ⟨value, front.length, false⟩ := by
  have hread : readInt (skipSpace (front ++ rest)) = some (value, rest) :=
    readInt_skipSpace_iff.mpr ⟨front, rfl, hnumeral, hrest⟩
  simp only [strtoll, hread, if_pos hvalue, List.length_append, Nat.add_sub_cancel]

/-- If `end` has moved and nothing is out of range, there is a numeral before it. -/
theorem exists_numeral_of_strtoll (hstop : (strtoll memory).stop ≠ 0)
    (herange : (strtoll memory).erange = false) :
    ∃ front rest, memory = front ++ rest ∧ Numeral front (strtoll memory).parsed ∧
      Signed 64 (strtoll memory).parsed ∧ (strtoll memory).stop = front.length := by
  cases hread : readInt (skipSpace memory) with
  | none => simp [strtoll, hread] at hstop
  | some result =>
    obtain ⟨value, rest⟩ := result
    obtain ⟨front, rfl, hnumeral, hrest⟩ := readInt_skipSpace_iff.mp hread
    by_cases hvalue : Signed 64 value
    · rw [strtoll_numeral hnumeral hrest hvalue]
      exact ⟨front, rest, rfl, hnumeral, hvalue, rfl⟩
    · simp [strtoll, hread, hvalue] at herange

end WheeltecVcuSerial.Decimal
