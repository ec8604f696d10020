import WheeltecVcuSerial.Cli.ProcessLine
import WheeltecVcuSerial.Teleop.Text

namespace WheeltecVcuSerial.Cli

open Decimal Teleop

/-- A text that a token ends before. -/
def EndsToken (text : List Char) : Prop := ∀ c ∈ text.head?, isSpace c = true

theorem EndsToken.delimits {text : List Char} (h : EndsToken text) : Delimits text := by
  intro c hc
  have hspace := h c hc
  simp only [isSpace, List.mem_cons, List.not_mem_nil, or_false, decide_eq_true_eq] at hspace
  rcases hspace with rfl | rfl | rfl | rfl | rfl | rfl <;> decide

theorem skipSpace_space (text : List Char) : skipSpace (' ' :: text) = skipSpace text := rfl

theorem extractToken_append {token text : List Char} (hne : token ≠ [])
    (htoken : ∀ c ∈ token, isSpace c = false) (htext : EndsToken text) :
    extractToken (token ++ text) = some (token, text) := by
  have hhead : ∀ c ∈ (token ++ text).head?, isSpace c = false := by
    intro c hc
    rw [List.head?_append_of_ne_nil _ hne] at hc
    exact htoken c (List.mem_of_mem_head? hc)
  have hnot : ∀ c ∈ token, (!isSpace c) = true := fun c hc => by rw [htoken c hc]; rfl
  have htake : text.takeWhile (!isSpace ·) = [] ∧ text.dropWhile (!isSpace ·) = text := by
    cases text with
    | nil => exact ⟨rfl, rfl⟩
    | cons c text => simp [htext c rfl]
  simp only [extractToken, skipSpace_of_head hhead]
  rw [List.takeWhile_append_of_pos hnot, List.dropWhile_append_of_pos hnot, htake.1, htake.2,
    List.append_nil, if_neg hne]

theorem extractToken_space (text : List Char) :
    extractToken (' ' :: text) = extractToken text := rfl

/-- The text of a number that is not negative is its digits. -/
theorem intText_of_nonneg {n : ℤ} (h : 0 ≤ n) : intText n = Nat.toDigits 10 n.toNat := by
  rw [intText, if_neg (not_lt.mpr h), List.nil_append]
  congr 1
  omega

theorem parseUint64Decimal_intText {n : ℤ} {text : List Char} (hpos : 0 ≤ n)
    (hlimit : n ≤ 2 ^ 64 - 1) (htext : EndsToken text) :
    ∃ value : UInt64, (value.toNat : ℤ) = n ∧
      parseUint64Decimal (' ' :: (intText n ++ text)) = some (value, text) := by
  have hdigits : ∀ c ∈ Nat.toDigits 10 n.toNat, c.isDigit = true := fun c => isDigit_of_mem_toDigits
  have hvalue : (UInt64.ofNat n.toNat).toNat = n.toNat :=
    UInt64.toNat_ofNat_of_lt' (by rw [UInt64.size]; omega)
  have hparse : parseDigits 0 (Nat.toDigits 10 n.toNat) = some (.ofNat n.toNat) := by
    rw [parseDigits_eq_some, hvalue]
    exact ⟨hdigits, Nat.ofDigitChars_ten_toDigits⟩
  refine ⟨.ofNat n.toNat, by omega, ?_⟩
  rw [parseUint64Decimal, extractToken_space, intText_of_nonneg hpos,
    extractToken_append Nat.toDigits_ne_nil (fun c hc => isSpace_of_isDigit (hdigits c hc)) htext]
  simp [hparse]

theorem skipSpace_number {text : List Char} (h : ∀ c ∈ text.head?, c = '-' ∨ c.isDigit = true) :
    skipSpace (' ' :: text) = text := by
  rw [skipSpace_space]
  apply skipSpace_of_head
  intro c hc
  rcases h c hc with rfl | hdigit
  · rfl
  · exact isSpace_of_isDigit hdigit

theorem extractInt64_intText {n : ℤ} {text : List Char} (hlow : -2 ^ 63 ≤ n)
    (hlimit : n ≤ WheeltecVcuSerial.int64Max) (htext : EndsToken text) :
    extractInt64 (' ' :: (intText n ++ text)) = some (n, text) := by
  rw [extractInt64, skipSpace_number (head_intText n text),
    readInt_intText n fun c hc => (htext.delimits c hc).1]
  exact Option.filter_some_pos (by simpa using ⟨hlow, hlimit⟩)

theorem extractDouble_formatFixed (minusZero : Bool) (q : ℚ) {text : List Char}
    (htext : EndsToken text) :
    extractDouble (' ' :: (formatFixed 9 minusZero q ++ text)) =
      some (.finite (roundTo 9 q), text) := by
  rw [extractDouble, skipSpace_number (head_formatFixed 9 minusZero q text),
    readDecimal_formatFixed minusZero q (by decide) htext.delimits]
  rfl

theorem endsToken_space (text : List Char) : EndsToken (' ' :: text) := by
  rintro c ⟨⟩
  rfl

theorem endsToken_nil : EndsToken [] := by
  rintro c ⟨⟩

/-- The call that a line stands for. -/
inductive Matches (nowNs : ℤ) : ProtocolLine → Op → Prop
  | auth {token : ℕ} : Matches nowNs (.auth token) (.authorize token nowNs)
  | command {sequence : ℕ} {created deadline : ℤ} {linear yaw : ℚ} :
      Matches nowNs (.command sequence created deadline linear yaw)
        (.submit
          { sequenceId := sequence
            createdMonotonicNs := created
            deadlineMonotonicNs := deadline
            motion :=
              { linearSpeedMps := .finite (roundTo 9 linear)
                lateralSpeedMps := .finite 0
                yawRateRadps := .finite (roundTo 9 yaw) } } nowNs)
  | stop : Matches nowNs .stop (.requestStop nowNs)
  | estop : Matches nowNs .estop (.latchEmergencyStop nowNs)
  | quit : Matches nowNs .quit (.requestStop nowNs)

/-- A command is read back field by field. -/
theorem extractCommand_text {sequence created deadline : ℤ} (linear yaw : ℚ)
    (hsequence : 0 < sequence ∧ sequence ≤ 2 ^ 64 - 1)
    (hcreated : 0 < created ∧ created ≤ WheeltecVcuSerial.int64Max)
    (hdeadline : 0 < deadline ∧ deadline ≤ WheeltecVcuSerial.int64Max) (minusZero : Bool × Bool) :
    ∃ value : ℕ, (value : ℤ) = sequence ∧
      extractCommand (' ' :: (intText sequence ++ ' ' :: (intText created ++
        ' ' :: (intText deadline ++ ' ' :: (formatFixed 9 minusZero.1 linear ++
          ' ' :: formatFixed 9 minusZero.2 yaw))))) =
        some
          ({ sequenceId := value
             createdMonotonicNs := created
             deadlineMonotonicNs := deadline
             motion :=
               { linearSpeedMps := .finite (roundTo 9 linear)
                 lateralSpeedMps := .finite 0
                 yawRateRadps := .finite (roundTo 9 yaw) } }, []) := by
  obtain ⟨value, hvalue, hparse⟩ := parseUint64Decimal_intText hsequence.1.le hsequence.2
    (endsToken_space (intText created ++ ' ' :: (intText deadline ++
      ' ' :: (formatFixed 9 minusZero.1 linear ++ ' ' :: formatFixed 9 minusZero.2 yaw))))
  have hyaw : extractDouble (' ' :: formatFixed 9 minusZero.2 yaw) =
      some (.finite (roundTo 9 yaw), []) := by
    simpa using extractDouble_formatFixed minusZero.2 yaw endsToken_nil
  refine ⟨value.toNat, hvalue, ?_⟩
  rw [extractCommand, hparse]
  simp only [Option.bind_eq_bind, Option.bind_some]
  rw [extractInt64_intText (by omega) hcreated.2 (endsToken_space _)]
  simp only [Option.bind_some]
  rw [extractInt64_intText (by omega) hdeadline.2 (endsToken_space _)]
  simp only [Option.bind_some]
  rw [extractDouble_formatFixed _ _ (endsToken_space _)]
  simp only [Option.bind_some]
  rw [hyaw]
  rfl

theorem processLine_text {line : ProtocolLine} {nowNs : ℤ} (hnow : 0 < nowNs) (hline : line.InRange)
    (minusZero : Bool × Bool) :
    ∃ op, processLine (line.text minusZero) nowNs = (op, { quit := line = .quit }) ∧
      Matches nowNs line op := by
  have hclock : ¬ nowNs ≤ 0 := not_le.mpr hnow
  cases line with
  | auth token =>
    obtain ⟨hpos, hlimit⟩ := hline
    have hlimit : token ≤ 2 ^ 64 - 1 := hlimit.trans (by decide)
    obtain ⟨value, hvalue, hparse⟩ := parseUint64Decimal_intText hpos.le hlimit endsToken_nil
    rw [List.append_nil] at hparse
    subst hvalue
    refine ⟨.authorize value.toNat nowNs, ?_, .auth⟩
    have htoken : extractToken (ProtocolLine.text minusZero (.auth value.toNat)) =
        some (['A', 'U', 'T', 'H'], ' ' :: intText value.toNat) := rfl
    rw [processLine, htoken]
    dsimp only
    rw [if_neg hclock, hparse]
    rfl
  | command sequence created deadline linear yaw =>
    obtain ⟨hsequence, hcreated, hdeadline⟩ := hline
    obtain ⟨value, hvalue, hextract⟩ := extractCommand_text linear yaw hsequence hcreated hdeadline
      minusZero
    subst hvalue
    refine ⟨_, ?_, .command⟩
    have htoken : extractToken (ProtocolLine.text minusZero
        (.command value created deadline linear yaw)) =
      some (['C', 'M', 'D'], ' ' :: (intText value ++ ' ' :: (intText created ++
        ' ' :: (intText deadline ++ ' ' :: (formatFixed 9 minusZero.1 linear ++
          ' ' :: formatFixed 9 minusZero.2 yaw))))) := rfl
    rw [processLine, htoken]
    dsimp only
    rw [if_neg hclock, hextract]
    rfl
  | stop =>
    refine ⟨_, ?_, .stop⟩
    have htoken : extractToken (ProtocolLine.text minusZero .stop) =
        some (['S', 'T', 'O', 'P'], []) := rfl
    rw [processLine, htoken]
    dsimp only
    rw [if_neg hclock]
    rfl
  | estop =>
    refine ⟨_, ?_, .estop⟩
    have htoken : extractToken (ProtocolLine.text minusZero .estop) =
        some (['E', 'S', 'T', 'O', 'P'], []) := rfl
    rw [processLine, htoken]
    dsimp only
    rw [if_neg hclock]
    rfl
  | quit =>
    refine ⟨_, ?_, .quit⟩
    have htoken : extractToken (ProtocolLine.text minusZero .quit) =
        some (['Q', 'U', 'I', 'T'], []) := rfl
    rw [processLine, htoken]
    dsimp only
    rw [if_neg hclock]
    rfl

/-- `parseUint64Decimal` takes a token if and only if it is a number that fits, and nothing wraps on
the way. -/
structure ParsesExactly (stream : List Char) : Prop where
  accepts : (parseUint64Decimal stream).isSome ↔
    ∃ token rest, extractToken stream = some (token, rest) ∧ token ≠ [] ∧
      (∀ c ∈ token, c.isDigit = true) ∧ Nat.ofDigitChars 10 token 0 ≤ 2 ^ 64 - 1
  value : ∀ value rest, parseUint64Decimal stream = some (value, rest) →
    ∃ token, extractToken stream = some (token, rest) ∧
      value.toNat = Nat.ofDigitChars 10 token 0 ∧
      ∀ front back, token = front ++ back →
        ∃ reached, parseDigits 0 front = some reached ∧
          reached.toNat = Nat.ofDigitChars 10 front 0

theorem parsesExactly (stream : List Char) : ParsesExactly stream := by
  have hzero : (0 : UInt64).toNat = 0 := rfl
  constructor
  · constructor
    · intro h
      obtain ⟨⟨value, rest⟩, hvalue⟩ := Option.isSome_iff_exists.mp h
      obtain ⟨token, hextract, hdigits, heq⟩ := parseUint64Decimal_eq_some.mp hvalue
      have hlimit := value.toNat_lt
      exact ⟨token, rest, hextract, ne_nil_of_extractToken hextract, hdigits, by omega⟩
    · rintro ⟨token, rest, hextract, -, hdigits, hlimit⟩
      have hvalue : (UInt64.ofNat (Nat.ofDigitChars 10 token 0)).toNat =
          Nat.ofDigitChars 10 token 0 := UInt64.toNat_ofNat_of_lt' (by rw [UInt64.size]; omega)
      rw [parseUint64Decimal_eq_some.mpr ⟨token, hextract, hdigits, hvalue.symm⟩]
      rfl
  · intro value rest h
    obtain ⟨token, hextract, hdigits, heq⟩ := parseUint64Decimal_eq_some.mp h
    refine ⟨token, hextract, heq.symm, ?_⟩
    rintro front back rfl
    have hparse : parseDigits 0 (front ++ back) = some value :=
      (parseDigits_eq_some _ _ _).mpr ⟨hdigits, by rw [hzero, heq]⟩
    exact parseDigits_front hparse

/-- Every line that a controller emits is read as the call that it stands for. -/
theorem encoder_agrees (config : ValidatedConfig) (calls : List Call) :
    (∀ line ∈ ((TeleopController.construct config).run calls).output,
      ∀ (minusZero : Bool × Bool) (nowNs : ℤ), 0 < nowNs →
        ∃ op, processLine (line.text minusZero) nowNs = (op, { quit := line = .quit }) ∧
          Matches nowNs line op) ∧
      ∀ stream, ParsesExactly stream := by
  refine ⟨?_, parsesExactly⟩
  intro line hline minusZero nowNs hnow
  exact processLine_text hnow (inRange_of_run (TeleopController.run_trace config calls) line hline)
    minusZero

theorem sampleLine_agrees :
    ∃ op, processLine ['A', 'U', 'T', 'H', ' ', '1', '0', '0', '0'] 5 = (op, { quit := false }) ∧
      Matches 5 (.auth 1000) op := by
  have hline : ProtocolLine.auth 1000 ∈
      ((TeleopController.construct sampleConfig).run sampleCalls).output := by decide +kernel
  exact (encoder_agrees sampleConfig sampleCalls).1 _ hline (false, false) 5 (by decide)

end WheeltecVcuSerial.Cli
