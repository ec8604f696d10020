import WheeltecVcuSerial.Config.RuntimeConfig
import WheeltecVcuSerial.Protocol.Encoding
import WheeltecVcuSerial.Session.Coherence

namespace WheeltecVcuSerial

def millisecondsToNanoseconds (milliseconds : Int) : Int := milliseconds * 1000000

def makeSafetyConfig (config : RuntimeConfig) : SafetyConfig :=
  { maxLinearSpeedMps := config.maxLinearSpeedMps
    maxAbsYawRateRadps := config.maxAbsYawRateRadps
    maxCommandAgeNs := millisecondsToNanoseconds config.commandTimeoutMs
    feedbackTimeoutNs := millisecondsToNanoseconds config.feedbackTimeoutMs
    transmitPeriodNs := millisecondsToNanoseconds config.transmitPeriodMs
    writeTimeoutNs := millisecondsToNanoseconds config.writeTimeoutMs
    zeroRetryIntervalNs := millisecondsToNanoseconds config.zeroRetryIntervalMs
    maximumZeroAttempts := config.zeroRetryAttempts
    freshCommandsRequired := config.freshCommandsRequired }

namespace RuntimeConfig

/-- The arguments of `millisecondsToNanoseconds` in the CLI. -/
def convertedMilliseconds (config : RuntimeConfig) : List Int :=
  [config.commandTimeoutMs, config.feedbackTimeoutMs, config.transmitPeriodMs,
    config.writeTimeoutMs, config.zeroRetryIntervalMs, config.reconnectIntervalMs]

/-- The product of finite values without rounding. -/
def exactProduct : Double → Double → Double
  | .finite x, .finite y => .finite (x * y)
  | x, y => x.mul y

/-- The motions that the keys of the teleop stand for, with this product for the turns. -/
inductive TeleopMotion (config : RuntimeConfig) (product : Double → Double → Double) :
    MotionCommand → Prop
  | mk : config.minSelectedSpeedMps.le speed = true → speed.le config.maxSelectedSpeedMps = true →
      linear = speed ∨ linear = speed.neg →
      yaw = .finite 0 ∨ yaw = product speed config.curvatureInvM ∨
        yaw = (product speed config.curvatureInvM).neg →
      TeleopMotion config product ⟨linear, .finite 0, yaw⟩

/-- The checks of `submit` on a motion, but for the yaw limit. -/
structure Encodes (limits : SafetyConfig) (motion : MotionCommand) : Prop where
  yawFinite : motion.yawRateRadps.isFinite = true
  lateral : motion.lateralSpeedMps.eq (.finite 0) = true
  encodes : (encodeCommand motion limits.maxLinearSpeedMps).ok = true

/-- The checks of `submit` on a motion. -/
structure PassesLimits (limits : SafetyConfig) (motion : MotionCommand) : Prop
    extends Encodes limits motion where
  yawLimit : limits.maxAbsYawRateRadps.lt motion.yawRateRadps.abs = false

variable {config accepted : RuntimeConfig} {requireDevicePath : Bool}

/-! ### What validation says -/

theorem eq_of_validate (h : validateRuntimeConfig config requireDevicePath = .ok accepted) :
    accepted = config := by
  simp only [validateRuntimeConfig, refuse_bind] at h
  obtain ⟨-, -, -, -, -, -, -, -, -, -, -, heq⟩ := h
  exact (Except.ok.inj heq).symm

theorem timed_of_validate (h : validateRuntimeConfig config requireDevicePath = .ok accepted) :
    config.Timed := by
  simp only [validateRuntimeConfig, refuse_bind, Bool.or_eq_false_iff, decide_eq_false_iff_not] at h
  obtain ⟨-, -, -, -, hreconnect, hwatchdog, horder, -⟩ := h
  simp only [maximumWatchdogMilliseconds] at hwatchdog
  constructor <;> omega

theorem bounded_of_validate (h : validateRuntimeConfig config requireDevicePath = .ok accepted) :
    ∃ maxLinear maxYaw minSelected maxSelected curvature,
      config.Bounded maxLinear maxYaw minSelected maxSelected curvature := by
  simp only [validateRuntimeConfig, refuse_bind, Bool.or_eq_false_iff, Bool.not_eq_false',
    finitePositive_iff] at h
  obtain ⟨-, -, ⟨⟨hfinite, hpositive⟩, hbelow⟩, ⟨⟨maxYaw, hyaw, hyawPositive⟩, hyawLimit⟩, -, -, -,
    ⟨⟨⟨⟨⟨⟨minSelected, hmin, hminPositive⟩, -⟩, ⟨maxSelected, hmax, -⟩⟩, -⟩, -⟩, hselected⟩,
    ⟨⟨⟨⟨⟨-, ⟨curvature, hcurvature, hcurvaturePositive⟩⟩, -⟩, -⟩, -⟩, -⟩, hturn, -⟩ := h
  obtain ⟨maxLinear, hlinear⟩ := Double.isFinite_iff.mp hfinite
  rw [hlinear] at hpositive hbelow hselected
  rw [hyaw] at hyawLimit hturn
  rw [hmax] at hselected hturn
  rw [hcurvature, Double.mul_finite] at hturn
  simp only [Double.le_finite, Double.lt_finite, decide_eq_false_iff_not, not_le, not_lt]
    at hpositive hbelow hselected
  exact ⟨maxLinear, maxYaw, minSelected, maxSelected, curvature,
    { maxLinearSpeed := hlinear
      maxAbsYawRate := hyaw
      minSelectedSpeed := hmin
      maxSelectedSpeed := hmax
      curvatureInv := hcurvature
      linearPositive := hpositive
      linearLimit := hbelow
      yawPositive := hyawPositive
      yawLimit := Double.le_of_lt_rounded_yaw hyawLimit
      minPositive := hminPositive
      selectedLimit := hselected
      curvaturePositive := hcurvaturePositive
      turnLimit := hturn }⟩

/-! ### What the session makes of it -/

variable {maxLinear maxYaw minSelected maxSelected curvature : ℚ}

theorem Timed.converts (h : config.Timed) :
    ∀ milliseconds ∈ config.convertedMilliseconds,
      -2 ^ 63 ≤ millisecondsToNanoseconds milliseconds ∧
        millisecondsToNanoseconds milliseconds < 2 ^ 63 := by
  obtain ⟨hreconnect, hcommand, hfeedback, htransmit, hwrite, hretry, -, -, -, -, -⟩ := h
  simp only [convertedMilliseconds, List.forall_mem_cons, millisecondsToNanoseconds]
  refine ⟨?_, ?_, ?_, ?_, ?_, ?_, by simp⟩ <;> omega

theorem safetyConfigIsValid_makeSafetyConfig (htimed : config.Timed)
    (hbounded : config.Bounded maxLinear maxYaw minSelected maxSelected curvature) :
    safetyConfigIsValid (makeSafetyConfig config) = true := by
  have hlinear : isValidMaxLinearSpeed (.finite maxLinear) = true := by
    simp [isValidMaxLinearSpeed, hbounded.linearPositive, hbounded.linearLimit]
  have hyaw : (Double.finite 0).lt (.finite maxYaw) = true := by simpa using hbounded.yawPositive
  obtain ⟨-, hcommand, hfeedback, htransmit, hwrite, hretry, hfresh, hattempts, hwriteTransmit,
    htransmitCommand, htransmitFeedback⟩ := htimed
  simp only [safetyConfigIsValid, makeSafetyConfig, hbounded.maxLinearSpeed, hlinear,
    hbounded.maxAbsYawRate, Double.isFinite_finite, hyaw, hbounded.yawLimit, Bool.true_and,
    Bool.and_eq_true, decide_eq_true_eq, millisecondsToNanoseconds, maximumDurationNs]
  omega

/-- The finite speeds between the bounds, with the turns that `product` makes of them. -/
theorem Bounded.finite_of_motion
    (h : config.Bounded maxLinear maxYaw minSelected maxSelected curvature)
    {product : Double → Double → Double} {motion : MotionCommand}
    (hmotion : TeleopMotion config product motion) :
    ∃ q l yaw, motion = ⟨.finite l, .finite 0, yaw⟩ ∧ 0 < q ∧ q ≤ maxSelected ∧ |l| = q ∧
      (yaw = .finite 0 ∨ yaw = product (.finite q) (.finite curvature) ∨
        yaw = (product (.finite q) (.finite curvature)).neg) := by
  obtain ⟨hmin, hmax, hlinear, hyaw⟩ := hmotion
  rename_i speed linear yaw
  rw [h.minSelectedSpeed] at hmin
  rw [h.maxSelectedSpeed] at hmax
  rw [h.curvatureInv] at hyaw
  obtain ⟨q, rfl⟩ : ∃ q, speed = .finite q := by
    cases speed with
    | finite q => exact ⟨q, rfl⟩
    | infinite negative =>
      cases negative with
      | true => cases hmin
      | false => cases hmax
    | nan => cases hmin
  simp only [Double.le_finite, decide_eq_true_eq] at hmin hmax
  have hpositive : 0 < q := h.minPositive.trans_le hmin
  rcases hlinear with rfl | rfl
  · exact ⟨q, q, yaw, rfl, hpositive, hmax, abs_of_pos hpositive, hyaw⟩
  · exact ⟨q, -q, yaw, rfl, hpositive, hmax, by rw [abs_neg, abs_of_pos hpositive], hyaw⟩

theorem Bounded.encodes
    (h : config.Bounded maxLinear maxYaw minSelected maxSelected curvature) {l y : ℚ}
    (hl : |l| ≤ maxSelected) (hy : |y| < 32.768) :
    Encodes (makeSafetyConfig config) ⟨.finite l, .finite 0, .finite y⟩ := by
  have hspeed : |l| ≤ maxLinear := hl.trans h.selectedLimit
  constructor
  · rfl
  · rfl
  · rw [makeSafetyConfig, h.maxLinearSpeed]
    apply encodeCommand_finite_ok_iff.mpr
    exact
      { limitPositive := h.linearPositive
        limitBelow := h.linearLimit
        linearRange := inWireRange_of_abs_lt (by linarith [h.linearLimit])
        lateralRange := inWireRange_of_abs_lt (by norm_num)
        yawRange := inWireRange_of_abs_lt hy
        speed := hspeed }

/-- The speeds in both directions stay below the linear limit, the turns below the yaw limit. -/
theorem Bounded.passesLimits
    (h : config.Bounded maxLinear maxYaw minSelected maxSelected curvature) {motion : MotionCommand}
    (hmotion : TeleopMotion config Double.mul motion) :
    PassesLimits (makeSafetyConfig config) motion := by
  obtain ⟨q, l, yaw, rfl, hpositive, hmax, hl, hyaw⟩ := h.finite_of_motion hmotion
  have hturn : 0 < q * curvature := mul_pos hpositive h.curvaturePositive
  have hless : q * curvature ≤ maxSelected * curvature :=
    mul_le_mul_of_nonneg_right hmax h.curvaturePositive.le
  -- the rounded turn is below the rounded turn at the largest speed
  obtain ⟨r, hr, hr0, hrle⟩ := Double.rounded_of_le hturn hless h.turnLimit
  rw [Double.mul_finite, hr] at hyaw
  obtain ⟨y, rfl, hy⟩ : ∃ y, yaw = .finite y ∧ |y| ≤ r := by
    rcases hyaw with rfl | rfl | rfl
    · exact ⟨0, rfl, by simpa using hr0⟩
    · exact ⟨r, rfl, (abs_of_nonneg hr0).le⟩
    · exact ⟨-r, rfl, by rw [abs_neg, abs_of_nonneg hr0]⟩
  have hyawLimit : |y| ≤ maxYaw := hy.trans hrle
  refine ⟨h.encodes (hl.le.trans hmax) ?_, ?_⟩
  · exact hyawLimit.trans_lt (Double.lt_of_le_rounded_yaw h.yawLimit)
  · simpa [makeSafetyConfig, h.maxAbsYawRate] using hyawLimit

/-- The exact turns are encoded too, and pass the yaw limit if the largest of them does. -/
theorem Bounded.exactMotion
    (h : config.Bounded maxLinear maxYaw minSelected maxSelected curvature) {motion : MotionCommand}
    (hmotion : TeleopMotion config exactProduct motion) :
    Encodes (makeSafetyConfig config) motion ∧
      (maxSelected * curvature ≤ maxYaw → PassesLimits (makeSafetyConfig config) motion) := by
  obtain ⟨q, l, yaw, rfl, hpositive, hmax, hl, hyaw⟩ := h.finite_of_motion hmotion
  have hturn : 0 < q * curvature := mul_pos hpositive h.curvaturePositive
  have hless : q * curvature ≤ maxSelected * curvature :=
    mul_le_mul_of_nonneg_right hmax h.curvaturePositive.le
  obtain ⟨y, rfl, hy⟩ : ∃ y, yaw = .finite y ∧ |y| ≤ maxSelected * curvature := by
    rcases hyaw with rfl | rfl | rfl
    · exact ⟨0, rfl, by simpa using hturn.le.trans hless⟩
    · exact ⟨q * curvature, rfl, (abs_of_pos hturn).le.trans hless⟩
    · exact ⟨-(q * curvature), rfl, by rw [abs_neg, abs_of_pos hturn]; exact hless⟩
  have hencodes := h.encodes (hl.le.trans hmax)
    (hy.trans_lt (Double.lt_of_rounded_le_yaw h.yawLimit h.turnLimit))
  refine ⟨hencodes, fun hexact => ⟨hencodes, ?_⟩⟩
  simpa [makeSafetyConfig, h.maxAbsYawRate] using hy.trans hexact

theorem construct_configurationValid {limits : SafetyConfig}
    (hvalid : safetyConfigIsValid limits = true) (link : Link) :
    (SafetySession.construct limits (some link)).configurationValid = true := by
  rcases SafetySession.construct_cases limits link with heq | ⟨hinitial, heq | ⟨-, heq⟩⟩
  · rw [heq]
    exact hvalid
  · rw [heq]
    exact hinitial
  · rw [heq]
    exact hinitial

/-- What `SafetySession` makes of a configuration. -/
structure Suits (config : RuntimeConfig) : Prop where
  valid : safetyConfigIsValid (makeSafetyConfig config) = true
  converts : ∀ milliseconds ∈ config.convertedMilliseconds,
    -2 ^ 63 ≤ millisecondsToNanoseconds milliseconds ∧
      millisecondsToNanoseconds milliseconds < 2 ^ 63
  constructed : ∀ link,
    (SafetySession.construct (makeSafetyConfig config) (some link)).configurationValid = true
  teleop : ∀ motion, TeleopMotion config Double.mul motion →
    PassesLimits (makeSafetyConfig config) motion
  exactTeleop : ∀ motion, TeleopMotion config exactProduct motion →
    Encodes (makeSafetyConfig config) motion ∧
      (config.maxAbsYawRateRadps.lt
          (exactProduct config.maxSelectedSpeedMps config.curvatureInvM) = false →
        PassesLimits (makeSafetyConfig config) motion)

/-- A configuration that the loader accepts suits the session, as it is. -/
theorem suits_of_validate (h : validateRuntimeConfig config requireDevicePath = .ok accepted) :
    accepted = config ∧ config.Suits := by
  have htimed := timed_of_validate h
  obtain ⟨_, _, _, _, _, hbounded⟩ := bounded_of_validate h
  have hvalid := safetyConfigIsValid_makeSafetyConfig htimed hbounded
  refine ⟨eq_of_validate h, hvalid, htimed.converts, construct_configurationValid hvalid,
    fun _ => hbounded.passesLimits, fun motion hmotion => ?_⟩
  obtain ⟨hencodes, hpasses⟩ := hbounded.exactMotion hmotion
  refine ⟨hencodes, fun hexact => hpasses ?_⟩
  simpa [hbounded.maxAbsYawRate, hbounded.maxSelectedSpeed, hbounded.curvatureInv, exactProduct]
    using hexact

end RuntimeConfig

/-- The values of the configuration file that comes with the source. -/
def exampleConfig : RuntimeConfig :=
  { reconnectIntervalMs := 1000
    maxLinearSpeedMps := .finite 0.30
    maxAbsYawRateRadps := .finite 1
    commandTimeoutMs := 250
    feedbackTimeoutMs := 200
    transmitPeriodMs := 20
    freshCommandsRequired := 3
    writeTimeoutMs := 10
    zeroRetryIntervalMs := 20
    zeroRetryAttempts := 3
    minSelectedSpeedMps := .finite 0.05
    initialSelectedSpeedMps := .finite 0.10
    maxSelectedSpeedMps := .finite 0.20
    speedStepMps := .finite 0.05
    curvatureInvM := .finite 0.75
    releaseTimeoutMs := 180
    commandRateHz := .finite 20 }

theorem exampleConfig_suits : exampleConfig.Suits :=
  (RuntimeConfig.suits_of_validate
    (show validateRuntimeConfig exampleConfig false = .ok exampleConfig by decide +kernel)).2

/-- The example with turns at the yaw limit: the decimals stand for the `double`s next to them. -/
def tightConfig : RuntimeConfig :=
  { exampleConfig with
    maxLinearSpeedMps := .rounded 0.30
    maxAbsYawRateRadps := .rounded 0.03
    minSelectedSpeedMps := .rounded 0.05
    initialSelectedSpeedMps := .rounded 0.10
    maxSelectedSpeedMps := .rounded 0.10
    speedStepMps := .rounded 0.05
    curvatureInvM := .rounded 0.3 }

/-- The rounded product is not above the limit, the exact one is. -/
theorem tightConfig_exceeds :
    validateRuntimeConfig tightConfig false = .ok tightConfig ∧
      ∃ motion, RuntimeConfig.TeleopMotion tightConfig RuntimeConfig.exactProduct motion ∧
        (makeSafetyConfig tightConfig).maxAbsYawRateRadps.lt motion.yawRateRadps.abs = true :=
  ⟨by decide +kernel, ⟨.rounded 0.10, .finite 0, RuntimeConfig.exactProduct (.rounded 0.10)
    (.rounded 0.3)⟩, ⟨by decide +kernel, by decide +kernel, .inl rfl, .inr (.inl rfl)⟩,
    by decide +kernel⟩

end WheeltecVcuSerial
