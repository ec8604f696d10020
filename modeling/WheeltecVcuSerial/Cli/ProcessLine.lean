import WheeltecVcuSerial.Decimal.Text
import WheeltecVcuSerial.Session.Machine

namespace WheeltecVcuSerial.Cli

open Decimal

/-! An input stream is the text that is left of it.  A failed extraction is `none`: no caller goes
on after one. -/

/-- `stream >> token` for a string. -/
def extractToken (stream : List Char) : Option (List Char × List Char) :=
  let stream := skipSpace stream
  let token := stream.takeWhile (!isSpace ·)
  if token = [] then none else some (token, stream.dropWhile (!isSpace ·))

/-- `stream >> value` for an `std::int64_t`. -/
def extractInt64 (stream : List Char) : Option (ℤ × List Char) :=
  (readInt (skipSpace stream)).filter fun (value, _) => -2 ^ 63 ≤ value ∧ value ≤ int64Max

/-- `stream >> value` for a `double`; decimals are read exactly. -/
def extractDouble (stream : List Char) : Option (Double × List Char) :=
  (readDecimal (skipSpace stream)).map fun (value, stream) => (.finite value, stream)

def onlyTrailingWhitespace (stream : List Char) : Bool := skipSpace stream = []

/-- `std::numeric_limits<std::uint64_t>::max()`. -/
def uint64Limit : UInt64 := 18446744073709551615

/-- The loop of `parseUint64Decimal`. -/
def parseDigits (value : UInt64) : List Char → Option UInt64
  | [] => some value
  | character :: rest =>
    if character < '0' || character > '9' then none
    else
      let digit : UInt64 := .ofNat (character.toNat - '0'.toNat)
      if value > (uint64Limit - digit) / 10 then none else parseDigits (value * 10 + digit) rest

def parseUint64Decimal (stream : List Char) : Option (UInt64 × List Char) := do
  let (token, stream) ← extractToken stream
  let value ← parseDigits 0 token
  return (value, stream)

structure LineResult where
  quit : Bool := false
  valid : Bool := true
  deriving DecidableEq

/-- The fields of a `CMD` line, in their order. -/
def extractCommand (stream : List Char) : Option (TimedMotionCommand × List Char) := do
  let (sequenceId, stream) ← parseUint64Decimal stream
  let (createdMonotonicNs, stream) ← extractInt64 stream
  let (deadlineMonotonicNs, stream) ← extractInt64 stream
  let (linearSpeedMps, stream) ← extractDouble stream
  let (yawRateRadps, stream) ← extractDouble stream
  return ({ sequenceId := sequenceId.toNat
            createdMonotonicNs := createdMonotonicNs
            deadlineMonotonicNs := deadlineMonotonicNs
            motion :=
              { linearSpeedMps := linearSpeedMps
                lateralSpeedMps := .finite 0
                yawRateRadps := yawRateRadps } }, stream)

/-- The call on the session for what `extract` finds, if nothing but white space follows it. -/
def callFor (extracted : Option (α × List Char)) (call : α → Op) : Option Op := do
  let (value, stream) ← extracted
  if onlyTrailingWhitespace stream then some (call value) else none

/-- `processLine`: the one call that it makes on the session, and its result. -/
def processLine (line : List Char) (nowNs : ℤ) : Op × LineResult :=
  let invalid : Op × LineResult := (.disarm nowNs, { valid := false })
  match extractToken line with
  | none => invalid
  | some (operation, input) =>
    if nowNs ≤ 0 then invalid
    else
      let call : Option Op :=
        match operation with
        | ['A', 'U', 'T', 'H'] => callFor (parseUint64Decimal input) fun token =>
            .authorize token.toNat nowNs
        | ['C', 'M', 'D'] => callFor (extractCommand input) fun command => .submit command nowNs
        | ['S', 'T', 'O', 'P'] => callFor (some ((), input)) fun _ => .requestStop nowNs
        | ['E', 'S', 'T', 'O', 'P'] => callFor (some ((), input)) fun _ => .latchEmergencyStop nowNs
        | ['R', 'E', 'S', 'E', 'T', '_', 'E', 'S', 'T', 'O', 'P'] =>
            callFor (parseUint64Decimal input) fun token => .resetEmergencyStop token.toNat nowNs
        | ['Q', 'U', 'I', 'T'] => callFor (some ((), input)) fun _ => .requestStop nowNs
        | _ => none
      match call with
      | none => invalid
      | some op => (op, { quit := operation = ['Q', 'U', 'I', 'T'] })

theorem digit_toNat {d : ℕ} (hd : d < 10) : (UInt64.ofNat d).toNat = d :=
  UInt64.toNat_ofNat_of_lt' (hd.trans (by decide))

/-- The guard of the loop is exact: it lets a digit pass if and only if the next value fits. -/
theorem guard_iff {value : UInt64} {d : ℕ} (hd : d < 10) :
    value ≤ (uint64Limit - .ofNat d) / 10 ↔ 10 * value.toNat + d ≤ 2 ^ 64 - 1 := by
  have hdigit := digit_toNat hd
  have hlimit : uint64Limit.toNat = 2 ^ 64 - 1 := rfl
  have hle : UInt64.ofNat d ≤ uint64Limit := by
    rw [UInt64.le_iff_toNat_le, hdigit, hlimit]
    omega
  have hten : (10 : UInt64).toNat = 10 := rfl
  rw [UInt64.le_iff_toNat_le, UInt64.toNat_div, UInt64.toNat_sub_of_le _ _ hle, hdigit, hlimit,
    hten]
  omega

/-- A value that the guard lets pass does not wrap. -/
theorem next_toNat {value : UInt64} {d : ℕ} (hd : d < 10)
    (hfits : 10 * value.toNat + d ≤ 2 ^ 64 - 1) :
    (value * 10 + .ofNat d).toNat = 10 * value.toNat + d := by
  have hdigit := digit_toNat hd
  have hten : (10 : UInt64).toNat = 10 := rfl
  rw [UInt64.toNat_add, UInt64.toNat_mul, hdigit, hten]
  omega

theorem le_ofDigitChars (token : List Char) (init : ℕ) : init ≤ Nat.ofDigitChars 10 token init := by
  rw [Nat.ofDigitChars_eq_ofDigitChars_zero]
  exact (Nat.le_mul_of_pos_left init (by positivity)).trans (Nat.le_add_right _ _)

theorem isDigit_iff (c : Char) : c.isDigit = true ↔ ¬ (c < '0' ∨ c > '9') := by
  simp [Char.isDigit, Char.lt_def]

theorem digit_lt_ten {c : Char} (h : c.isDigit = true) : c.toNat - '0'.toNat < 10 := by
  have hbounds : 48 ≤ c.toNat ∧ c.toNat ≤ 57 := by
    simpa [Char.isDigit, UInt32.le_iff_toNat_le] using h
  have hzero : '0'.toNat = 48 := rfl
  omega

theorem parseDigits_eq_some (token : List Char) (value result : UInt64) :
    parseDigits value token = some result ↔
      (∀ c ∈ token, c.isDigit = true) ∧ Nat.ofDigitChars 10 token value.toNat = result.toNat := by
  induction token generalizing value with
  | nil => simp [parseDigits, UInt64.toNat_inj]
  | cons c token ih =>
    rw [List.forall_mem_cons, Nat.ofDigitChars_cons, parseDigits]
    by_cases hc : c.isDigit = true
    · have hd := digit_lt_ten hc
      have hin : ¬ (decide (c < '0') || decide (c > '9')) = true := by
        simpa using (isDigit_iff c).mp hc
      rw [if_neg hin]
      dsimp only
      by_cases hfits : 10 * value.toNat + (c.toNat - '0'.toNat) ≤ 2 ^ 64 - 1
      · rw [if_neg (UInt64.not_lt.mpr ((guard_iff hd).mpr hfits)), ih, next_toNat hd hfits]
        simp [hc]
      · -- Later digits only add to a value that is too large already.
        rw [if_pos (UInt64.not_le.mp (mt (guard_iff hd).mp hfits))]
        have hle := le_ofDigitChars token (10 * value.toNat + (c.toNat - '0'.toNat))
        have hresult := result.toNat_lt
        constructor
        · intro h
          cases h
        · rintro ⟨-, heq⟩
          omega
    · rw [if_pos]
      · simp [hc]
      · simpa [or_iff_not_imp_left] using mt (isDigit_iff c).mpr hc

theorem ne_nil_of_extractToken {stream token rest : List Char}
    (h : extractToken stream = some (token, rest)) : token ≠ [] := by
  simp only [extractToken] at h
  split at h
  · cases h
  · case isFalse hne =>
    cases h
    exact hne

theorem parseUint64Decimal_eq_some {stream rest : List Char} {value : UInt64} :
    parseUint64Decimal stream = some (value, rest) ↔
      ∃ token, extractToken stream = some (token, rest) ∧ (∀ c ∈ token, c.isDigit = true) ∧
        Nat.ofDigitChars 10 token 0 = value.toNat := by
  have hzero : (0 : UInt64).toNat = 0 := rfl
  rw [parseUint64Decimal]
  cases hextract : extractToken stream with
  | none => simp
  | some extracted =>
    obtain ⟨token, rest'⟩ := extracted
    constructor
    · intro h
      cases hparse : parseDigits 0 token with
      | none => simp [hparse] at h
      | some result =>
        have heq : result = value ∧ rest' = rest := by simpa [hparse] using h
        obtain ⟨rfl, rfl⟩ := heq
        have hvalue := (parseDigits_eq_some token 0 result).mp hparse
        rw [hzero] at hvalue
        exact ⟨token, rfl, hvalue⟩
    · rintro ⟨_, heq, hdigits, hvalue⟩
      cases heq
      have hparse : parseDigits 0 token = some value :=
        (parseDigits_eq_some token 0 value).mpr ⟨hdigits, by rw [hzero, hvalue]⟩
      simp [hparse]

/-- The value that the loop has reached anywhere in an accepted token is the number so far. -/
theorem parseDigits_front {front back : List Char} {result : UInt64}
    (h : parseDigits 0 (front ++ back) = some result) :
    ∃ value, parseDigits 0 front = some value ∧ value.toNat = Nat.ofDigitChars 10 front 0 := by
  obtain ⟨hdigits, hresult⟩ := (parseDigits_eq_some _ _ _).mp h
  have hzero : (0 : UInt64).toNat = 0 := rfl
  rw [hzero, Nat.ofDigitChars_append] at hresult
  have hle := le_ofDigitChars back (Nat.ofDigitChars 10 front 0)
  have hlimit := result.toNat_lt
  have hvalue : (UInt64.ofNat (Nat.ofDigitChars 10 front 0)).toNat = Nat.ofDigitChars 10 front 0 :=
    UInt64.toNat_ofNat_of_lt' (by rw [UInt64.size]; omega)
  refine ⟨.ofNat (Nat.ofDigitChars 10 front 0), ?_, hvalue⟩
  rw [parseDigits_eq_some, hvalue, hzero]
  exact ⟨fun c hc => hdigits c (List.mem_append_left _ hc), rfl⟩

/-- The calls that a line can make, with what comes of them. -/
inductive LineCall (ns : ℤ) : Op × LineResult → Prop
  | invalid : LineCall ns (.disarm ns, { valid := false })
  | auth : 0 < ns → LineCall ns (.authorize token ns, {})
  | command : 0 < ns → LineCall ns (.submit command ns, {})
  | stop : 0 < ns → LineCall ns (.requestStop ns, {})
  | estop : 0 < ns → LineCall ns (.latchEmergencyStop ns, {})
  | resetEstop : 0 < ns → LineCall ns (.resetEmergencyStop token ns, {})
  | quit : 0 < ns → LineCall ns (.requestStop ns, { quit := true })

theorem callFor_eq_some {extracted : Option (α × List Char)} {call : α → Op} {op : Op}
    (h : callFor extracted call = some op) : ∃ value, op = call value := by
  obtain ⟨⟨value, stream⟩, -, hop⟩ := Option.bind_eq_some_iff.mp h
  obtain ⟨-, ⟨⟩⟩ := Option.ite_none_right_eq_some.mp hop
  exact ⟨value, rfl⟩

theorem processLine_call (line : List Char) (ns : ℤ) : LineCall ns (processLine line ns) := by
  rw [processLine]
  split
  · exact .invalid
  · dsimp only
    split
    · exact .invalid
    · case isFalse hns =>
      have hns : 0 < ns := not_le.mp hns
      split
      · exact .invalid
      · case h_2 op hop =>
        split at hop
        · obtain ⟨_, rfl⟩ := callFor_eq_some hop
          exact .auth hns
        · obtain ⟨_, rfl⟩ := callFor_eq_some hop
          exact .command hns
        · obtain ⟨_, rfl⟩ := callFor_eq_some hop
          exact .stop hns
        · obtain ⟨_, rfl⟩ := callFor_eq_some hop
          exact .estop hns
        · obtain ⟨_, rfl⟩ := callFor_eq_some hop
          exact .resetEstop hns
        · obtain ⟨_, rfl⟩ := callFor_eq_some hop
          exact .quit hns
        · cases hop

/-- A line that asks to quit, whenever it comes. -/
def quits (line : List Char) : Bool :=
  (extractToken line).any fun (operation, input) =>
    operation = ['Q', 'U', 'I', 'T'] && onlyTrailingWhitespace input

theorem processLine_of_quits {line : List Char} (h : quits line = true) (ns : ℤ) :
    processLine line ns = (.disarm ns, { valid := false }) ∨
      processLine line ns = (.requestStop ns, { quit := true }) := by
  obtain ⟨⟨operation, input⟩, hextract, hquits⟩ := (Option.any_eq_true _ _).mp h
  simp only [Bool.and_eq_true, decide_eq_true_eq] at hquits
  obtain ⟨rfl, htrailing⟩ := hquits
  rw [processLine, hextract]
  dsimp only
  split
  · exact .inl rfl
  · refine .inr ?_
    simp [callFor, htrailing]

theorem quits_of_quit {line : List Char} {ns : Int} (h : (processLine line ns).2.quit = true) :
    quits line = true := by
  rw [processLine] at h
  split at h
  · cases h
  · case h_2 operation input hextract =>
    dsimp only at h
    split at h
    · cases h
    · split at h
      · cases h
      · case h_2 op hop =>
        obtain rfl : operation = ['Q', 'U', 'I', 'T'] := by simpa using h
        have hcall : callFor (some ((), input)) (fun _ => .requestStop ns) = some op := hop
        obtain ⟨htrailing, -⟩ := Option.ite_none_right_eq_some.mp hcall
        simp [quits, hextract, htrailing]

end WheeltecVcuSerial.Cli
