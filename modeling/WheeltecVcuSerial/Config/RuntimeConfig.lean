import WheeltecVcuSerial.Protocol.Double

namespace WheeltecVcuSerial

/-- The fields of `RuntimeConfig`; the unsigned ones are natural numbers. -/
structure RuntimeConfig where
  devicePath : List Char := []
  maxLinearSpeedMps : Double := .nan
  maxAbsYawRateRadps : Double := .nan
  reconnectIntervalMs : Int := 0
  commandTimeoutMs : Int := 0
  feedbackTimeoutMs : Int := 0
  transmitPeriodMs : Int := 0
  freshCommandsRequired : Nat := 0
  writeTimeoutMs : Int := 0
  zeroRetryIntervalMs : Int := 0
  zeroRetryAttempts : Nat := 0
  minSelectedSpeedMps : Double := .nan
  initialSelectedSpeedMps : Double := .nan
  maxSelectedSpeedMps : Double := .nan
  speedStepMps : Double := .nan
  curvatureInvM : Double := .nan
  releaseTimeoutMs : Int := 0
  commandRateHz : Double := .nan
  deriving DecidableEq

inductive ConfigError
  | fileOpen
  | syntaxError
  | duplicateKey
  | unknownKey
  | missingKey
  | invalidValue
  deriving DecidableEq

/-- What a `ConfigResult` says when it is not `ok`. -/
structure ConfigFailure where
  error : ConfigError
  message : String
  deriving DecidableEq

/-- A check that fails with `invalidValue` if the values are `bad`. -/
def refuse (bad : Bool) (message : String) : Except ConfigFailure Unit :=
  if bad then .error ⟨.invalidValue, message⟩ else .ok ()

theorem bind_eq_ok {m : Except ε α} {rest : α → Except ε β} {b : β} :
    m >>= rest = .ok b ↔ ∃ a, m = .ok a ∧ rest a = .ok b := by
  cases m <;> simp [bind, Except.bind]

theorem refuse_bind {bad : Bool} {message : String} {rest : Unit → Except ConfigFailure α} {a : α} :
    (refuse bad message >>= rest) = .ok a ↔ bad = false ∧ rest () = .ok a := by
  cases bad <;> simp [refuse, bind, Except.bind]

def finitePositive (value : Double) : Bool := value.isFinite && (Double.finite 0).lt value

/-! ### Device paths -/

theorem length_lt_of_dropWhile {keeps : α → Bool} {rest next : List α} {a : α}
    (h : rest.dropWhile keeps = a :: next) : next.length < rest.length := by
  have hsuffix := (List.dropWhile_suffix (l := rest) keeps).length_le
  rw [h] at hsuffix
  exact hsuffix

/-- The loop of `validDevicePath`, on what is left of the path from `offset` on. -/
def validComponents (rest : List Char) : Bool :=
  if rest = [] then true
  else
    let component := rest.takeWhile (· ≠ '/')
    if component = [] || component = ['.'] || component = ['.', '.'] then false
    else
      match hrest : rest.dropWhile (· ≠ '/') with
      | [] => true
      | _ :: next =>
        have : next.length < rest.length := length_lt_of_dropWhile hrest
        validComponents next
termination_by rest.length

def validDevicePath (path : List Char) : Bool :=
  if path.length ≤ 5 || path.take 5 ≠ ['/', 'd', 'e', 'v', '/'] || path.getLast? = some '/' then
    false
  else validComponents (path.drop 5)

/-! ### Validation -/

def maximumWatchdogMilliseconds : Int := 60000

def validateRuntimeConfig (config : RuntimeConfig) (requireDevicePath : Bool) :
    Except ConfigFailure RuntimeConfig := do
  refuse (requireDevicePath && !validDevicePath config.devicePath)
    "serial.device must be a direct, non-traversing /dev path"
  refuse (config.devicePath ≠ [] && !validDevicePath config.devicePath)
    "serial.device is not a valid direct /dev path"
  refuse (!config.maxLinearSpeedMps.isFinite || config.maxLinearSpeedMps.le (.finite 0) ||
      (Double.finite 6).le config.maxLinearSpeedMps)
    "limits.max_linear_speed_mps must be finite, greater than 0, and less than 6.0"
  refuse (!finitePositive config.maxAbsYawRateRadps ||
      (Double.rounded 32.767).lt config.maxAbsYawRateRadps)
    "limits.max_abs_yaw_rate_radps must fit the signed int16 wire field"
  refuse (config.reconnectIntervalMs < 10 || config.reconnectIntervalMs > 60000)
    "serial.reconnect_interval_ms must be in [10, 60000]"
  refuse (config.commandTimeoutMs ≤ 0 ||
      config.commandTimeoutMs > maximumWatchdogMilliseconds ||
      config.feedbackTimeoutMs ≤ 0 ||
      config.feedbackTimeoutMs > maximumWatchdogMilliseconds ||
      config.transmitPeriodMs ≤ 0 ||
      config.transmitPeriodMs > maximumWatchdogMilliseconds ||
      config.writeTimeoutMs ≤ 0 ||
      config.writeTimeoutMs > maximumWatchdogMilliseconds ||
      config.zeroRetryIntervalMs ≤ 0 ||
      config.zeroRetryIntervalMs > maximumWatchdogMilliseconds ||
      config.freshCommandsRequired = 0 ||
      config.freshCommandsRequired > 100 ||
      config.zeroRetryAttempts = 0 || config.zeroRetryAttempts > 20)
    "watchdog values must be positive and bounded"
  refuse (config.writeTimeoutMs > config.transmitPeriodMs ||
      config.transmitPeriodMs ≥ config.commandTimeoutMs ||
      config.transmitPeriodMs ≥ config.feedbackTimeoutMs)
    "watchdog timing order must satisfy write <= tx < command and feedback timeouts"
  refuse (!finitePositive config.minSelectedSpeedMps ||
      !finitePositive config.initialSelectedSpeedMps ||
      !finitePositive config.maxSelectedSpeedMps ||
      config.initialSelectedSpeedMps.lt config.minSelectedSpeedMps ||
      config.maxSelectedSpeedMps.lt config.initialSelectedSpeedMps ||
      config.maxLinearSpeedMps.lt config.maxSelectedSpeedMps)
    "teleop selected speeds must be ordered and within the immutable speed limit"
  refuse (!finitePositive config.speedStepMps ||
      config.maxSelectedSpeedMps.lt config.speedStepMps ||
      !finitePositive config.curvatureInvM ||
      !finitePositive config.commandRateHz ||
      (Double.finite 1000).lt config.commandRateHz || config.releaseTimeoutMs ≤ 0 ||
      config.releaseTimeoutMs > config.commandTimeoutMs)
    "teleop step, curvature, rate, or release timeout is invalid"
  refuse (config.maxAbsYawRateRadps.lt (config.maxSelectedSpeedMps.mul config.curvatureInvM))
    "teleop turn command would exceed the configured yaw-rate limit"
  refuse ((Double.finite config.commandTimeoutMs).le
      ((Double.finite 1000).div config.commandRateHz))
    "teleop command period must be shorter than the command watchdog"
  return config

/-- What `validateRuntimeConfig` promises of the watchdog values. -/
structure RuntimeConfig.Timed (config : RuntimeConfig) : Prop where
  reconnect : 10 ≤ config.reconnectIntervalMs ∧ config.reconnectIntervalMs ≤ 60000
  command : 0 < config.commandTimeoutMs ∧ config.commandTimeoutMs ≤ 60000
  feedback : 0 < config.feedbackTimeoutMs ∧ config.feedbackTimeoutMs ≤ 60000
  transmit : 0 < config.transmitPeriodMs ∧ config.transmitPeriodMs ≤ 60000
  write : 0 < config.writeTimeoutMs ∧ config.writeTimeoutMs ≤ 60000
  zeroRetry : 0 < config.zeroRetryIntervalMs ∧ config.zeroRetryIntervalMs ≤ 60000
  fresh : 0 < config.freshCommandsRequired ∧ config.freshCommandsRequired ≤ 100
  attempts : 0 < config.zeroRetryAttempts ∧ config.zeroRetryAttempts ≤ 20
  writeTransmit : config.writeTimeoutMs ≤ config.transmitPeriodMs
  transmitCommand : config.transmitPeriodMs < config.commandTimeoutMs
  transmitFeedback : config.transmitPeriodMs < config.feedbackTimeoutMs

/-- What it promises of the speeds: all of them are finite. -/
structure RuntimeConfig.Bounded (config : RuntimeConfig)
    (maxLinear maxYaw minSelected maxSelected curvature : ℚ) : Prop where
  maxLinearSpeed : config.maxLinearSpeedMps = .finite maxLinear
  maxAbsYawRate : config.maxAbsYawRateRadps = .finite maxYaw
  minSelectedSpeed : config.minSelectedSpeedMps = .finite minSelected
  maxSelectedSpeed : config.maxSelectedSpeedMps = .finite maxSelected
  curvatureInv : config.curvatureInvM = .finite curvature
  linearPositive : 0 < maxLinear
  linearLimit : maxLinear < 6
  yawPositive : 0 < maxYaw
  yawLimit : (Double.finite maxYaw).le (.rounded 32.767) = true
  minPositive : 0 < minSelected
  selectedLimit : maxSelected ≤ maxLinear
  curvaturePositive : 0 < curvature
  turnLimit : (Double.finite maxYaw).lt (.rounded (maxSelected * curvature)) = false

theorem finitePositive_iff {value : Double} :
    finitePositive value = true ↔ ∃ q, value = .finite q ∧ 0 < q := by
  rw [finitePositive, Bool.and_eq_true, Double.isFinite_iff]
  constructor
  · rintro ⟨⟨q, rfl⟩, hpos⟩
    exact ⟨q, rfl, by simpa using hpos⟩
  · rintro ⟨q, rfl, hpos⟩
    exact ⟨⟨q, rfl⟩, by simpa using hpos⟩

end WheeltecVcuSerial
