import WheeltecVcuSerial.Decimal.Rounding
import Mathlib.Tactic.Push

namespace WheeltecVcuSerial.Decimal

/-- The decimal text of an integer. -/
def intText (n : ℤ) : List Char :=
  (if n < 0 then ['-'] else []) ++ Nat.toDigits 10 n.natAbs

/-- The digits of `n`, after so many zeros that there are `digits` of them. -/
def paddedText (digits n : ℕ) : List Char := (Nat.toDigits 10 n).leftpad digits '0'

/-- The text of `n / 10 ^ digits` with so many digits after the point. -/
def fixedText (digits : ℕ) (negative : Bool) (n : ℕ) : List Char :=
  (if negative then ['-'] else []) ++ Nat.toDigits 10 (n / 10 ^ digits) ++
    '.' :: paddedText digits (n % 10 ^ digits)

/-- The text of a number rounded to so many digits.  A zero can bear a sign, as a float can. -/
def formatFixed (digits : ℕ) (minusZero : Bool) (q : ℚ) : List Char :=
  fixedText digits (q < 0 || q = 0 && minusZero) (roundHalfEven (q * 10 ^ digits)).natAbs

/-- White space in the classic locale. -/
def isSpace (character : Char) : Bool :=
  character ∈ [' ', '\t', '\n', '\x0b', '\x0c', '\r']

def skipSpace (stream : List Char) : List Char := stream.dropWhile isSpace

def readSign : List Char → Bool × List Char
  | '-' :: text => (true, text)
  | '+' :: text => (false, text)
  | text => (false, text)

def signed (negative : Bool) (n : ℚ) : ℚ := if negative then -n else n

/-- A sign and digits, up to the first character that is no digit. -/
def readInt (text : List Char) : Option (ℤ × List Char) :=
  let (negative, text) := readSign text
  let digits := text.takeWhile Char.isDigit
  if digits = [] then none
  else
    let n : ℤ := Nat.ofDigitChars 10 digits 0
    some (if negative then -n else n, text.dropWhile Char.isDigit)

/-- The power of ten after an `e`, if there is one; `none` if it has no digits. -/
def readExponent : List Char → Option (ℤ × List Char)
  | 'e' :: text => readInt text
  | 'E' :: text => readInt text
  | text => some (0, text)

/-- A sign, digits with at most one point among them, and an exponent. -/
def readDecimal (text : List Char) : Option (ℚ × List Char) :=
  let (negative, text) := readSign text
  let whole := text.takeWhile Char.isDigit
  let (fraction, text) :=
    match text.dropWhile Char.isDigit with
    | '.' :: text => (text.takeWhile Char.isDigit, text.dropWhile Char.isDigit)
    | text => ([], text)
  if whole = [] && fraction = [] then none
  else
    (readExponent text).map fun (exponent, text) =>
      (signed negative (Nat.ofDigitChars 10 (whole ++ fraction) 0 / 10 ^ fraction.length) *
        10 ^ exponent, text)

/-- A text that a number ends before. -/
def Delimits (text : List Char) : Prop :=
  ∀ c ∈ text.head?, c.isDigit = false ∧ c ≠ '.' ∧ c ≠ 'e' ∧ c ≠ 'E'

theorem isSpace_of_isDigit {c : Char} (h : c.isDigit = true) : isSpace c = false := by
  rw [← Bool.not_eq_true]
  intro hspace
  simp only [isSpace, List.mem_cons, List.not_mem_nil, or_false, decide_eq_true_eq] at hspace
  rcases hspace with rfl | rfl | rfl | rfl | rfl | rfl <;> cases h

theorem skipSpace_of_head {text : List Char} (h : ∀ c ∈ text.head?, isSpace c = false) :
    skipSpace text = text := by
  cases text with
  | nil => rfl
  | cons c text => simp [skipSpace, h c rfl]

theorem isDigit_of_mem_toDigits {c : Char} {n : ℕ} (h : c ∈ Nat.toDigits 10 n) :
    c.isDigit = true :=
  Nat.isDigit_of_mem_toDigits (by decide) (by decide) h

/-- A text of digits has no sign. -/
theorem readSign_digits {digits text : List Char} (hne : digits ≠ [])
    (hdigits : ∀ c ∈ digits, c.isDigit = true) :
    readSign (digits ++ text) = (false, digits ++ text) := by
  cases digits with
  | nil => exact absurd rfl hne
  | cons c digits =>
    have hc := hdigits c List.mem_cons_self
    rw [List.cons_append, readSign]
    · rintro rest heq
      cases heq
      simp at hc
    · rintro rest heq
      cases heq
      simp at hc

theorem takeWhile_digits {digits text : List Char} (hdigits : ∀ c ∈ digits, c.isDigit = true)
    (htext : ∀ c ∈ text.head?, c.isDigit = false) :
    (digits ++ text).takeWhile Char.isDigit = digits := by
  rw [List.takeWhile_append_of_pos hdigits]
  cases text with
  | nil => simp
  | cons c text => simp [htext c rfl]

theorem dropWhile_digits {digits text : List Char} (hdigits : ∀ c ∈ digits, c.isDigit = true)
    (htext : ∀ c ∈ text.head?, c.isDigit = false) :
    (digits ++ text).dropWhile Char.isDigit = text := by
  rw [List.dropWhile_append_of_pos hdigits]
  cases text with
  | nil => rfl
  | cons c text => simp [htext c rfl]

/-- An integer is read back from its text. -/
theorem readInt_intText {text : List Char} (n : ℤ) (htext : ∀ c ∈ text.head?, c.isDigit = false) :
    readInt (intText n ++ text) = some (n, text) := by
  have hdigits : ∀ c ∈ Nat.toDigits 10 n.natAbs, c.isDigit = true :=
    fun c => isDigit_of_mem_toDigits
  have hsign : readSign (intText n ++ text) =
      (decide (n < 0), Nat.toDigits 10 n.natAbs ++ text) := by
    by_cases hn : n < 0
    · simp [intText, hn, readSign]
    · simp only [intText, hn, if_false, List.nil_append, decide_false]
      exact readSign_digits Nat.toDigits_ne_nil hdigits
  simp only [readInt, hsign, takeWhile_digits hdigits htext, dropWhile_digits hdigits htext,
    Nat.toDigits_ne_nil, if_false, Nat.ofDigitChars_ten_toDigits]
  by_cases hn : n < 0
  · simp only [hn, decide_true, if_true]
    congr 2
    omega
  · simp only [hn, decide_false, Bool.false_eq_true, if_false]
    congr 2
    omega

theorem length_paddedText {digits n : ℕ} (hdigits : 0 < digits) (hn : n < 10 ^ digits) :
    (paddedText digits n).length = digits := by
  have hle := (Nat.length_toDigits_le_iff (by decide) hdigits).mpr hn
  rw [paddedText, List.length_leftpad, max_eq_left hle]

theorem isDigit_of_mem_paddedText {c : Char} {digits n : ℕ} (h : c ∈ paddedText digits n) :
    c.isDigit = true := by
  rw [paddedText, List.leftpad, List.mem_append] at h
  rcases h with hzero | hdigit
  · rw [List.eq_of_mem_replicate hzero]
    rfl
  · exact isDigit_of_mem_toDigits hdigit

theorem ofDigitChars_paddedText (digits n init : ℕ) (hdigits : 0 < digits) (hn : n < 10 ^ digits) :
    Nat.ofDigitChars 10 (paddedText digits n) init = 10 ^ digits * init + n := by
  rw [Nat.ofDigitChars_eq_ofDigitChars_zero, length_paddedText hdigits hn, paddedText, List.leftpad,
    Nat.ofDigitChars_append, Nat.ofDigitChars_replicate_zero, mul_zero,
    Nat.ofDigitChars_ten_toDigits]

theorem ofDigitChars_fixedText (digits n : ℕ) (hdigits : 0 < digits) :
    Nat.ofDigitChars 10
      (Nat.toDigits 10 (n / 10 ^ digits) ++ paddedText digits (n % 10 ^ digits)) 0 =
      n := by
  have hmod : n % 10 ^ digits < 10 ^ digits := Nat.mod_lt _ (by positivity)
  rw [Nat.ofDigitChars_append, Nat.ofDigitChars_ten_toDigits,
    ofDigitChars_paddedText digits _ _ hdigits hmod, Nat.div_add_mod]

theorem readExponent_of_delimits {text : List Char} (htext : Delimits text) :
    readExponent text = some (0, text) := by
  cases text with
  | nil => rfl
  | cons c text =>
    obtain ⟨-, -, hlower, hupper⟩ := htext c rfl
    rw [readExponent]
    · rintro rest heq
      exact hlower (List.cons.inj heq).1
    · rintro rest heq
      exact hupper (List.cons.inj heq).1

/-- A fixed-point number is read back from its text. -/
theorem readDecimal_fixedText {text : List Char} {digits : ℕ} (negative : Bool) (n : ℕ)
    (hdigits : 0 < digits) (htext : Delimits text) :
    readDecimal (fixedText digits negative n ++ text) =
      some (signed negative (n / 10 ^ digits), text) := by
  set whole := Nat.toDigits 10 (n / 10 ^ digits) with hwhole
  set fraction := paddedText digits (n % 10 ^ digits) with hfraction
  have hmod : n % 10 ^ digits < 10 ^ digits := Nat.mod_lt _ (by positivity)
  have hne : whole ≠ [] := Nat.toDigits_ne_nil
  have hwholeDigits : ∀ c ∈ whole, c.isDigit = true := fun c => isDigit_of_mem_toDigits
  have hfractionDigits : ∀ c ∈ fraction, c.isDigit = true := fun c => isDigit_of_mem_paddedText
  have hsign : readSign (fixedText digits negative n ++ text) =
      (negative, whole ++ '.' :: (fraction ++ text)) := by
    cases negative with
    | true => simp [fixedText, readSign, hwhole, hfraction]
    | false =>
      rw [← readSign_digits hne hwholeDigits]
      simp [fixedText, hwhole, hfraction]
  have hpoint : ∀ c ∈ ('.' :: (fraction ++ text)).head?, c.isDigit = false := by
    rintro c ⟨⟩
    rfl
  have hrest : ∀ c ∈ text.head?, c.isDigit = false := fun c hc => (htext c hc).1
  simp only [readDecimal, hsign, takeWhile_digits hwholeDigits hpoint,
    dropWhile_digits hwholeDigits hpoint, takeWhile_digits hfractionDigits hrest,
    dropWhile_digits hfractionDigits hrest, readExponent_of_delimits htext]
  simp [hwhole, hfraction, ofDigitChars_fixedText digits n hdigits, length_paddedText hdigits hmod]

theorem signed_roundHalfEven {digits : ℕ} (minusZero : Bool) (q : ℚ) :
    signed (q < 0 || q = 0 && minusZero)
      (((roundHalfEven (q * 10 ^ digits)).natAbs : ℕ) / 10 ^ digits) =
      roundTo digits q := by
  have hpow := pow_ten_pos digits
  have hzero : roundHalfEven (0 : ℚ) = 0 := roundHalfEven_intCast 0
  rw [roundTo, Nat.cast_natAbs, Int.cast_abs]
  rcases lt_trichotomy q 0 with hneg | rfl | hpos
  · have hround : roundHalfEven (q * 10 ^ digits) ≤ roundHalfEven 0 :=
      roundHalfEven_mono (mul_nonpos_of_nonpos_of_nonneg hneg.le hpow.le)
    rw [hzero] at hround
    rw [abs_of_nonpos (Int.cast_nonpos.mpr hround)]
    simp [signed, hneg, neg_div]
  · simp [signed, hzero]
  · have hround : roundHalfEven 0 ≤ roundHalfEven (q * 10 ^ digits) :=
      roundHalfEven_mono (mul_nonneg hpos.le hpow.le)
    rw [hzero] at hround
    rw [abs_of_nonneg (Int.cast_nonneg hround)]
    simp [signed, hpos.le, hpos.ne']

/-- What is read back from the text of a number is the number rounded to the digits of the text. -/
theorem readDecimal_formatFixed {text : List Char} {digits : ℕ} (minusZero : Bool) (q : ℚ)
    (hdigits : 0 < digits) (htext : Delimits text) :
    readDecimal (formatFixed digits minusZero q ++ text) = some (roundTo digits q, text) := by
  rw [formatFixed, readDecimal_fixedText _ _ hdigits htext, signed_roundHalfEven]

/-- The text of a number begins with a sign or a digit. -/
theorem head_signed {p : Prop} [Decidable p] {digits : List Char} (hne : digits ≠ [])
    (hdigits : ∀ c ∈ digits, c.isDigit = true) (text : List Char) :
    ∀ c ∈ ((if p then ['-'] else []) ++ digits ++ text).head?, c = '-' ∨ c.isDigit = true := by
  intro c hc
  by_cases hp : p
  · simp only [hp, if_true, List.cons_append, List.head?_cons, Option.mem_def,
      Option.some.injEq] at hc
    exact .inl hc.symm
  · simp only [hp, if_false, List.nil_append] at hc
    rw [List.head?_append_of_ne_nil _ hne] at hc
    exact .inr (hdigits c (List.mem_of_mem_head? hc))

theorem head_intText (n : ℤ) (text : List Char) :
    ∀ c ∈ (intText n ++ text).head?, c = '-' ∨ c.isDigit = true :=
  head_signed Nat.toDigits_ne_nil (fun _ => isDigit_of_mem_toDigits) text

theorem head_formatFixed (digits : ℕ) (minusZero : Bool) (q : ℚ) (text : List Char) :
    ∀ c ∈ (formatFixed digits minusZero q ++ text).head?, c = '-' ∨ c.isDigit = true := by
  rw [formatFixed, fixedText, List.append_assoc]
  exact head_signed Nat.toDigits_ne_nil (fun _ => isDigit_of_mem_toDigits) _

end WheeltecVcuSerial.Decimal
