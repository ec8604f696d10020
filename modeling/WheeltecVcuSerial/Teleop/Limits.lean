import WheeltecVcuSerial.Teleop.Admission
import WheeltecVcuSerial.Session.Recovery

namespace WheeltecVcuSerial.Teleop

open Decimal TeleopController

namespace TeleopConfig

/-- The lowest and the highest speed that can be selected, once it is rounded. -/
def lowestSpeed (config : TeleopConfig) : ℚ :=
  min config.initialSelectedSpeedMps (roundTo 12 config.minSelectedSpeedMps)

def highestSpeed (config : TeleopConfig) : ℚ :=
  max config.initialSelectedSpeedMps (roundTo 12 config.maxSelectedSpeedMps)

/-- No rounding, to 12 digits in `_change_speed` or to the 9 digits of a command, crosses a limit or
reaches zero. -/
structure RoundsWithin (config : TeleopConfig) (maxAbsYawRateRadps : ℚ) : Prop where
  min : config.minSelectedSpeedMps ≤ roundTo 12 config.minSelectedSpeedMps
  max : roundTo 12 config.maxSelectedSpeedMps ≤ config.maxSelectedSpeedMps
  moves : 0 < roundTo 9 config.lowestSpeed
  linear : roundTo 9 config.highestSpeed ≤ config.maxLinearSpeedMps
  yaw : roundTo 9 (config.highestSpeed * config.curvatureInvM) ≤ maxAbsYawRateRadps

end TeleopConfig

/-- The decimals of a command are inside the limits, and its speed is no zero. -/
def ProtocolLine.Limited (maxLinearSpeedMps maxAbsYawRateRadps : ℚ) : ProtocolLine → Prop
  | .command _ _ _ linearMps yawRadps =>
    0 < |roundTo 9 linearMps| ∧ |roundTo 9 linearMps| ≤ maxLinearSpeedMps ∧
      |roundTo 9 yawRadps| ≤ maxAbsYawRateRadps
  | _ => True

variable {c c' : TeleopController} {action : Action} {lines : List ProtocolLine}
  {config : ValidatedConfig} {h : List Phase} {maxAbsYawRateRadps : ℚ}

/-- The selected speed lies between the lowest and the highest one. -/
def SelectsWithin (c : TeleopController) : Prop :=
  c.config.lowestSpeed ≤ c.selectedSpeedMps ∧ c.selectedSpeedMps ≤ c.config.highestSpeed

theorem nextSpeed_within (c : TeleopController) (delta : ℚ) :
    c.config.lowestSpeed ≤ c.nextSpeed delta ∧ c.nextSpeed delta ≤ c.config.highestSpeed := by
  have hsafe := c.config.safe
  have hrange : c.config.minSelectedSpeedMps ≤ c.config.maxSelectedSpeedMps :=
    hsafe.initialMin.trans hsafe.initialMax
  constructor
  · exact (min_le_right _ _).trans (roundTo_mono 12 (le_min hrange (le_max_left _ _)))
  · exact (roundTo_mono 12 (min_le_left _ _)).trans (le_max_right _ _)

theorem SelectsWithin.effect (hc : SelectsWithin c) (h : Effect c action lines c') :
    SelectsWithin c' := by
  cases h with
  | selected => exact nextSpeed_within c _
  | halted _ _ _ _ hspeed =>
    rcases hspeed with rfl | ⟨delta, rfl⟩
    · exact hc
    · exact nextSpeed_within c delta
  | _ => exact hc

/-- A speed in the range is printed inside the limits, and so is its yaw rate. -/
theorem limited_commandLine (hc : SelectsWithin c)
    (hrounds : c.config.RoundsWithin maxAbsYawRateRadps) (direction : Direction) (nowNs : ℤ) :
    (c.commandLine direction nowNs).Limited c.config.maxLinearSpeedMps maxAbsYawRateRadps := by
  obtain ⟨hlow, hhigh⟩ := hc
  have hcurvature := c.config.safe.curvature
  have hmoves : 0 < roundTo 9 c.selectedSpeedMps := hrounds.moves.trans_le (roundTo_mono 9 hlow)
  have hlinear : roundTo 9 c.selectedSpeedMps ≤ c.config.maxLinearSpeedMps :=
    (roundTo_mono 9 hhigh).trans hrounds.linear
  have hyaw : roundTo 9 (c.selectedSpeedMps * c.config.curvatureInvM) ≤ maxAbsYawRateRadps :=
    (roundTo_mono 9 (mul_le_mul_of_nonneg_right hhigh hcurvature.le)).trans hrounds.yaw
  have hspeed : 0 < c.selectedSpeedMps := by
    by_contra hstill
    have hzero := roundTo_mono 9 (not_lt.mp hstill)
    rw [roundTo_zero] at hzero
    exact absurd hmoves (not_lt.mpr hzero)
  have hlinearAbs : |roundTo 9 c.selectedSpeedMps| = roundTo 9 c.selectedSpeedMps := by
    rw [abs_roundTo, abs_of_pos hspeed]
  have hyawAbs : |roundTo 9 (c.selectedSpeedMps * c.config.curvatureInvM)| =
      roundTo 9 (c.selectedSpeedMps * c.config.curvatureInvM) := by
    rw [abs_roundTo, abs_of_pos (mul_pos hspeed hcurvature)]
  have hstraight : (0 : ℚ) ≤ maxAbsYawRateRadps := by
    rw [← hyawAbs] at hyaw
    exact (abs_nonneg _).trans hyaw
  cases direction with
  | w =>
    simp only [ProtocolLine.Limited, commandLine, motion, roundTo_zero, abs_zero, hlinearAbs]
    exact ⟨hmoves, hlinear, hstraight⟩
  | s =>
    simp only [ProtocolLine.Limited, commandLine, motion, roundTo_neg, abs_neg, roundTo_zero,
      abs_zero, hlinearAbs]
    exact ⟨hmoves, hlinear, hstraight⟩
  | a =>
    simp only [ProtocolLine.Limited, commandLine, motion, hlinearAbs, hyawAbs]
    exact ⟨hmoves, hlinear, hyaw⟩
  | d =>
    simp only [ProtocolLine.Limited, commandLine, motion, neg_mul, roundTo_neg, abs_neg, hlinearAbs,
      hyawAbs]
    exact ⟨hmoves, hlinear, hyaw⟩

theorem selectsWithin_of_run (run : (phaseMachine config).Run h c) : SelectsWithin c :=
  invariant_of_run ⟨min_le_left _ _, le_max_left _ _⟩ (fun _ hc _ heffect => hc.effect heffect) run

theorem Effect.limited (hc : SelectsWithin c) (hrounds : c.config.RoundsWithin maxAbsYawRateRadps)
    (h : Effect c action lines c') :
    ∀ line ∈ lines, line.Limited c.config.maxLinearSpeedMps maxAbsYawRateRadps := by
  cases h with
  | halted _ _ hlines => cases hlines <;> simp [ProtocolLine.Limited]
  | granted => simp [ProtocolLine.Limited]
  | pressed => simpa using limited_commandLine hc hrounds _ _
  | paced => simpa using limited_commandLine hc hrounds _ _
  | _ => simp

theorem limited_of_run (run : (phaseMachine config).Run h c)
    (hrounds : config.RoundsWithin maxAbsYawRateRadps) :
    ∀ line ∈ c.output, line.Limited config.maxLinearSpeedMps maxAbsYawRateRadps := by
  refine output_of_run ?_ run
  intro h c action lines c' run _ heffect
  rw [← config_of_run run] at hrounds ⊢
  exact heffect.limited (selectsWithin_of_run run) hrounds

/-- The motion that a session reads from a command. -/
def printedMotion (linearMps yawRadps : ℚ) : MotionCommand :=
  { linearSpeedMps := .finite (roundTo 9 linearMps)
    lateralSpeedMps := .finite 0
    yawRateRadps := .finite (roundTo 9 yawRadps) }

/-- What the limits of a configuration and of its session ask of a controller. -/
structure WithinLimits (config : TeleopConfig) (maxAbsYawRateRadps : ℚ) (c : TeleopController) :
    Prop where
  speed : config.minSelectedSpeedMps ≤ c.selectedSpeedMps ∧
    c.selectedSpeedMps ≤ config.maxSelectedSpeedMps
  limited : ∀ line ∈ c.output, line.Limited config.maxLinearSpeedMps maxAbsYawRateRadps
  accepted : ∀ {admits : Link → Link → Prop} {safety : SafetyConfig} {h : List Event} {w : World},
    (sessionMachine admits safety).Run h w →
    safety.maxLinearSpeedMps = .finite config.maxLinearSpeedMps →
    safety.maxAbsYawRateRadps = .finite maxAbsYawRateRadps →
    ∀ sequence created deadline linear yaw,
      .command sequence created deadline linear yaw ∈ c.output →
      ∀ (link : Link) (command : TimedMotionCommand) (nowNs : ℤ),
        command.motion = printedMotion linear yaw →
        (w.session.submit link command nowNs).2 ≠ .encodingRejected ∧
          (w.session.submit link command nowNs).2 ≠ .stopAccepted

/-- A session with the same limits takes such a motion for what it is. -/
theorem moves_of_limited {safety : SafetyConfig} {maxLinearSpeedMps linear yaw : ℚ}
    {sequence created deadline : ℤ}
    (hlimited : (ProtocolLine.command sequence created deadline linear yaw).Limited
      maxLinearSpeedMps maxAbsYawRateRadps)
    (hlinear : safety.maxLinearSpeedMps = .finite maxLinearSpeedMps)
    (hyaw : safety.maxAbsYawRateRadps = .finite maxAbsYawRateRadps) :
    safety.Moves (printedMotion linear yaw) := by
  obtain ⟨hmoves, hlinearLimit, hyawLimit⟩ := hlimited
  constructor
  · rfl
  · rfl
  · simpa [printedMotion, hlinear] using hlinearLimit
  · simpa [printedMotion, hyaw] using hyawLimit
  · rfl
  · simp [commandIsExactZero, printedMotion, abs_pos.mp hmoves]

/-- Where no rounding crosses a limit, the selected speed and the commands stay inside the limits
throughout, and no session of the same configuration rejects them for their limits or takes them
for a stop. -/
theorem stays_within_limits (config : ValidatedConfig) {maxAbsYawRateRadps : ℚ}
    (hrounds : config.RoundsWithin maxAbsYawRateRadps) (calls : List Call) :
    WithinLimits config.toTeleopConfig maxAbsYawRateRadps ((construct config).run calls) := by
  have run := run_trace config calls
  have hspeed := selectsWithin_of_run run
  have hlimited := limited_of_run run hrounds
  rw [SelectsWithin, config_of_run run] at hspeed
  constructor
  · have hsafe := config.safe
    exact ⟨(le_min hsafe.initialMin hrounds.min).trans hspeed.1,
      hspeed.2.trans (max_le hsafe.initialMax hrounds.max)⟩
  · exact hlimited
  · intro admits safety h w run hlinear hyaw sequence created deadline linear yaw hcommand link
      command nowNs hmotion
    apply SafetyConfig.Moves.submit (coherent_of_run run)
    rw [WheeltecVcuSerial.config_of_run run, hmotion]
    exact moves_of_limited (hlimited _ hcommand) hlinear hyaw

/-- Limits of nine digits at most are not crossed. -/
theorem roundsWithin_of_decimal (config : ValidatedConfig)
    (hloaded : loadConfig config.toTeleopConfig (some maxAbsYawRateRadps) =
      .ok config.toTeleopConfig)
    (hmin : roundTo 9 config.minSelectedSpeedMps = config.minSelectedSpeedMps)
    (hmax : roundTo 9 config.maxSelectedSpeedMps = config.maxSelectedSpeedMps)
    (hyaw : roundTo 9 maxAbsYawRateRadps = maxAbsYawRateRadps) :
    config.RoundsWithin maxAbsYawRateRadps := by
  have hsafe := config.safe
  have hmin12 := roundTo_of_le (by decide : 9 ≤ 12) hmin
  have hmax12 := roundTo_of_le (by decide : 9 ≤ 12) hmax
  have hlowest : config.lowestSpeed = config.minSelectedSpeedMps := by
    rw [TeleopConfig.lowestSpeed, hmin12, min_eq_right hsafe.initialMin]
  have hhighest : config.highestSpeed = config.maxSelectedSpeedMps := by
    rw [TeleopConfig.highestSpeed, hmax12, max_eq_right hsafe.initialMax]
  constructor
  · exact hmin12.ge
  · exact hmax12.le
  · rw [hlowest, hmin]
    exact hsafe.minPositive
  · rw [hhighest, hmax]
    exact hsafe.selectedLimit
  · rw [hhighest, ← hyaw]
    exact roundTo_mono 9 (yaw_of_loaded hloaded).2.2.2.2

theorem sample_loaded : loadConfig sampleValues (some 1) = .ok sampleValues := by decide +kernel

theorem sample_stays_within :
    WithinLimits sampleValues 1 ((construct sampleConfig).run sampleCalls) :=
  stays_within_limits sampleConfig
    (roundsWithin_of_decimal sampleConfig sample_loaded (by decide +kernel) (by decide +kernel)
      (by decide +kernel)) sampleCalls

/-- A largest speed of ten digits. -/
def tenDigitValues : TeleopConfig :=
  { sampleValues with
    maxLinearSpeedMps := 1234567896 / 10000000000
    initialSelectedSpeedMps := 1234567896 / 10000000000
    maxSelectedSpeedMps := 1234567896 / 10000000000 }

theorem tenDigitValues_validated : validateConfig tenDigitValues = .ok () := by decide +kernel

def tenDigitConfig : ValidatedConfig := ⟨tenDigitValues, tenDigitValues_validated⟩

theorem tenDigitValues_loaded : loadConfig tenDigitValues (some 1) = .ok tenDigitValues := by
  decide +kernel

theorem tenDigitConfig_sends :
    .command 1001 1001 180001001 (1234567896 / 10000000000) 0 ∈
      ((construct tenDigitConfig).run sampleCalls).output := by
  decide +kernel

theorem tenDigits_cross_limit :
    ¬ ∀ (config : ValidatedConfig) (maxAbsYawRateRadps : ℚ) (calls : List Call),
      loadConfig config.toTeleopConfig (some maxAbsYawRateRadps) = .ok config.toTeleopConfig →
      WithinLimits config.toTeleopConfig maxAbsYawRateRadps ((construct config).run calls) := by
  intro hwithin
  have hlimited := (hwithin tenDigitConfig 1 sampleCalls tenDigitValues_loaded).limited _
    tenDigitConfig_sends
  have hcrosses : ¬ |roundTo 9 (1234567896 / 10000000000)| ≤ tenDigitValues.maxLinearSpeedMps := by
    decide +kernel
  exact hcrosses hlimited.2.1

end WheeltecVcuSerial.Teleop
