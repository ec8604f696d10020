import WheeltecVcuSerial.Protocol.Double

namespace WheeltecVcuSerial.Teleop

/-- The fields of `TeleopConfig`; their floats are read exactly, as rational numbers. -/
structure TeleopConfig where
  maxLinearSpeedMps : ℚ
  minSelectedSpeedMps : ℚ
  initialSelectedSpeedMps : ℚ
  maxSelectedSpeedMps : ℚ
  speedStepMps : ℚ
  curvatureInvM : ℚ
  releaseTimeoutMs : ℚ
  commandRateHz : ℚ
  deriving DecidableEq

def int64Max : ℤ := 2 ^ 63 - 1
def uint64Max : ℤ := 2 ^ 64 - 1
def wirePositiveMax : ℚ := 32767 / 1000
def maxReleaseTimeoutMs : ℚ := 1000
def maxCommandRateHz : ℚ := 1000

namespace TeleopConfig

def releaseTimeoutNs (config : TeleopConfig) : ℤ := truncate (config.releaseTimeoutMs * 1000000)

def commandPeriodNs (config : TeleopConfig) : ℤ := ⌈1000000000 / config.commandRateHz⌉

end TeleopConfig

/-- A check that raises `ConfigurationError` with `message` unless `condition` holds. -/
def require (condition : Prop) [Decidable condition] (message : String) : Except String Unit :=
  if condition then .ok () else .error message

theorem require_bind {condition : Prop} [Decidable condition] {message : String}
    {rest : Unit → Except String α} {a : α} :
    (require condition message >>= rest) = .ok a ↔ condition ∧ rest () = .ok a := by
  by_cases hcondition : condition
  · simp [require, hcondition, bind, Except.bind]
  · simp [require, hcondition, bind, Except.bind]

theorem require_ok {condition : Prop} [Decidable condition] {message : String} :
    require condition message = .ok () ↔ condition := by
  by_cases hcondition : condition
  · simp [require, hcondition]
  · simp [require, hcondition]

/-- `validate_config`; a rational number is finite. -/
def validateConfig (config : TeleopConfig) : Except String Unit := do
  require (0 < config.maxLinearSpeedMps ∧ config.maxLinearSpeedMps < 6)
    "max_linear_speed_mps must satisfy 0 < value < 6.0"
  require (0 < config.minSelectedSpeedMps) "min_selected_speed_mps must be positive"
  require (config.minSelectedSpeedMps ≤ config.initialSelectedSpeedMps ∧
      config.initialSelectedSpeedMps ≤ config.maxSelectedSpeedMps)
    "selected speeds must satisfy min <= initial <= max"
  require (config.minSelectedSpeedMps < config.maxSelectedSpeedMps)
    "selected speed range must be non-empty"
  require (config.maxSelectedSpeedMps ≤ config.maxLinearSpeedMps)
    "max_selected_speed_mps exceeds immutable max_linear_speed_mps"
  require (0 < config.speedStepMps ∧ config.speedStepMps ≤ config.maxLinearSpeedMps)
    "speed_step_mps must be positive and no larger than the immutable limit"
  require (0 < config.curvatureInvM) "curvature_inv_m must be positive"
  require (config.maxSelectedSpeedMps * config.curvatureInvM ≤ wirePositiveMax)
    "selected speed times curvature exceeds the positive int16 wire range"
  require (0 < config.releaseTimeoutMs ∧ config.releaseTimeoutMs ≤ maxReleaseTimeoutMs)
    "release_timeout_ms must satisfy 0 < value <= 1000"
  require (0 < config.commandRateHz ∧ config.commandRateHz ≤ maxCommandRateHz)
    "command_rate_hz must satisfy 0 < value <= 1000"
  require (0 < config.releaseTimeoutNs ∧ config.releaseTimeoutNs ≤ int64Max)
    "release_timeout_ms cannot be represented in ns"
  require (0 < config.commandPeriodNs) "command_rate_hz produces an invalid period"
  require (config.commandPeriodNs < config.releaseTimeoutNs)
    "command period must be shorter than release_timeout_ms"

/-- The end of `load_config`, from the numbers of the file on. -/
def loadConfig (config : TeleopConfig) (optionalYawLimit : Option ℚ) :
    Except String TeleopConfig := do
  validateConfig config
  match optionalYawLimit with
  | none => return config
  | some maxAbsYawRateRadps =>
    require (0 < maxAbsYawRateRadps ∧ maxAbsYawRateRadps ≤ wirePositiveMax)
      "[limits] max_abs_yaw_rate_radps must fit the positive int16 wire range"
    require (config.maxSelectedSpeedMps * config.curvatureInvM ≤ maxAbsYawRateRadps)
      "teleop turn command exceeds max_abs_yaw_rate_radps"
    return config

/-- A configuration that `validate_config` lets pass. -/
structure ValidatedConfig extends TeleopConfig where
  validated : validateConfig toTeleopConfig = .ok ()
  deriving DecidableEq

/-- What `validate_config` promises. -/
structure TeleopConfig.Safe (config : TeleopConfig) : Prop where
  linearPositive : 0 < config.maxLinearSpeedMps
  linearLimit : config.maxLinearSpeedMps < 6
  minPositive : 0 < config.minSelectedSpeedMps
  initialMin : config.minSelectedSpeedMps ≤ config.initialSelectedSpeedMps
  initialMax : config.initialSelectedSpeedMps ≤ config.maxSelectedSpeedMps
  selectedLimit : config.maxSelectedSpeedMps ≤ config.maxLinearSpeedMps
  step : 0 < config.speedStepMps
  curvature : 0 < config.curvatureInvM
  timeoutPositive : 0 < config.releaseTimeoutNs
  timeoutLimit : config.releaseTimeoutNs ≤ int64Max
  periodPositive : 0 < config.commandPeriodNs
  periodLimit : config.commandPeriodNs < config.releaseTimeoutNs

theorem safe_of_validated {config : TeleopConfig} (h : validateConfig config = .ok ()) :
    config.Safe := by
  simp only [validateConfig, require_bind, require_ok] at h
  obtain ⟨hlinear, hmin, hinitial, -, hlimit, hstep, hcurvature, -, -, -, htimeout, hperiod,
    hshorter⟩ := h
  exact
    { linearPositive := hlinear.1
      linearLimit := hlinear.2
      minPositive := hmin
      initialMin := hinitial.1
      initialMax := hinitial.2
      selectedLimit := hlimit
      step := hstep.1
      curvature := hcurvature
      timeoutPositive := htimeout.1
      timeoutLimit := htimeout.2
      periodPositive := hperiod
      periodLimit := hshorter }

theorem ValidatedConfig.safe (config : ValidatedConfig) : config.toTeleopConfig.Safe :=
  safe_of_validated config.validated

/-- The yaw limits that `load_config` accepts leave room for every turn. -/
theorem yaw_of_loaded {config loaded : TeleopConfig} {maxAbsYawRateRadps : ℚ}
    (h : loadConfig config (some maxAbsYawRateRadps) = .ok loaded) :
    loaded = config ∧ validateConfig config = .ok () ∧ 0 < maxAbsYawRateRadps ∧
      maxAbsYawRateRadps ≤ wirePositiveMax ∧
      config.maxSelectedSpeedMps * config.curvatureInvM ≤ maxAbsYawRateRadps := by
  cases hvalid : validateConfig config with
  | error message => simp [loadConfig, hvalid, bind, Except.bind] at h
  | ok =>
    rw [loadConfig, hvalid] at h
    change (require _ _ >>= fun _ => require _ _ >>= fun _ => Except.ok config) = _ at h
    rw [require_bind, require_bind] at h
    exact ⟨(Except.ok.inj h.2.2).symm, rfl, h.1.1, h.1.2, h.2.1⟩

end WheeltecVcuSerial.Teleop
