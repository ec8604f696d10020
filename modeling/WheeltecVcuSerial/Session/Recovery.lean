import WheeltecVcuSerial.Protocol.Encoding
import WheeltecVcuSerial.Session.Expiry

namespace WheeltecVcuSerial

open SafetySession

/-! ### What a motion command needs -/

theorem quantizeWireValue_of_abs_lt {q : ℚ} (h : |q| < 32.768) :
    ∃ wire, quantizeWireValue (.finite q) = some wire :=
  ⟨_, quantizeWireValue_finite (inWireRange_of_abs_lt h)⟩

theorem quantizeWireValue_of_limit {value : Double} {bound : ℚ} (hfinite : value.isFinite = true)
    (hlimit : (Double.finite bound).lt value.abs = false) (hbound : bound < 32.768) :
    ∃ wire, quantizeWireValue value = some wire := by
  obtain ⟨q, rfl⟩ := Double.isFinite_iff.mp hfinite
  simp only [Double.abs_finite, Double.lt_finite, decide_eq_false_iff_not, not_lt] at hlimit
  exact quantizeWireValue_of_abs_lt (hlimit.trans_lt hbound)

/-- A motion inside the limits of the configuration that is not exactly zero. -/
structure SafetyConfig.Moves (config : SafetyConfig) (motion : MotionCommand) : Prop where
  linearFinite : motion.linearSpeedMps.isFinite = true
  yawFinite : motion.yawRateRadps.isFinite = true
  linear : config.maxLinearSpeedMps.lt motion.linearSpeedMps.abs = false
  yaw : config.maxAbsYawRateRadps.lt motion.yawRateRadps.abs = false
  lateral : motion.lateralSpeedMps = .finite 0
  nonzero : commandIsExactZero motion = false

theorem SafetyConfig.Moves.encodes {config : SafetyConfig} {motion : MotionCommand}
    (h : config.Moves motion) (hvalid : safetyConfigIsValid config = true) :
    (encodeCommand motion config.maxLinearSpeedMps).ok = true := by
  obtain ⟨hmax, hyawFinite, _, hyawLe⟩ := safetyConfigIsValid_iff.mp hvalid
  have hparts := hmax
  simp only [isValidMaxLinearSpeed, Bool.and_eq_true] at hparts
  obtain ⟨maxLinear, hmaxLinear⟩ := Double.isFinite_iff.mp hparts.1.1
  obtain ⟨maxYaw, hmaxYaw⟩ := Double.isFinite_iff.mp hyawFinite
  have hlinearLimit := h.linear
  have hyawLimit := h.yaw
  rw [hmaxLinear] at hlinearLimit hparts
  rw [hmaxYaw] at hyawLimit hyawLe
  have hbelow : maxLinear < 6 := by simpa using hparts.2
  obtain ⟨linear, hlinear⟩ :=
    quantizeWireValue_of_limit h.linearFinite hlinearLimit (by linarith)
  obtain ⟨yaw, hyaw⟩ :=
    quantizeWireValue_of_limit h.yawFinite hyawLimit (Double.lt_of_le_rounded_yaw hyawLe)
  obtain ⟨lateral, hlateral⟩ : ∃ wire, quantizeWireValue (.finite 0) = some wire :=
    quantizeWireValue_of_abs_lt (by norm_num)
  simp [encodeCommand, hmax, h.linearFinite, h.lateral, h.yawFinite, hlinear, hlateral, hyaw,
    h.linear, EncodeResult.ok]

/-- The largest speed alone is such a motion. -/
theorem SafetyConfig.moves_maximum {config : SafetyConfig}
    (hvalid : safetyConfigIsValid config = true) :
    config.Moves { linearSpeedMps := config.maxLinearSpeedMps } := by
  obtain ⟨hmax, hyawFinite, hyawPos⟩ := safetyConfigIsValid_iff.mp hvalid
  simp only [isValidMaxLinearSpeed, Bool.and_eq_true] at hmax
  obtain ⟨maxLinear, hmaxLinear⟩ := Double.isFinite_iff.mp hmax.1.1
  obtain ⟨maxYaw, hmaxYaw⟩ := Double.isFinite_iff.mp hyawFinite
  have hpos := hmax.1.2
  rw [hmaxLinear, Double.lt_finite, decide_eq_true_eq] at hpos
  rw [hmaxYaw, Double.lt_finite, decide_eq_true_eq] at hyawPos
  constructor
  · simp [hmaxLinear]
  · rfl
  · simp [hmaxLinear, abs_of_pos hpos]
  · simp [hmaxYaw, hyawPos.le]
  · rfl
  · simp [commandIsExactZero, hmaxLinear, hpos.ne']

/-- An answer of `submit` that neither rejects the motion nor takes it for a stop. -/
def TakesMotion (answer : SafetySession × SubmissionStatus) : Prop :=
  answer.2 ≠ .encodingRejected ∧ answer.2 ≠ .stopAccepted

theorem TakesMotion.test {test : Prop} [Decidable test] {yes no : SafetySession × SubmissionStatus}
    (hyes : TakesMotion yes) (hno : TakesMotion no) : TakesMotion (if test then yes else no) :=
  iteInduction (fun _ => hyes) fun _ => hno

theorem takesMotion_rejectRevoking {s : SafetySession} {link : Link} {now : Int}
    {status : SubmissionStatus} (h : TakesMotion (s, status)) :
    TakesMotion (s.rejectRevoking link now status) := h

theorem takesMotion_rejectStopping {s : SafetySession} {link : Link} {now : Int}
    {after : SessionState} {status : SubmissionStatus} (h : TakesMotion (s, status)) :
    TakesMotion (s.rejectStopping link now after status) := h

theorem takesMotion_acceptCommand (s : SafetySession) (command : TimedMotionCommand)
    (frame : CommandFrame) (now : Int) : TakesMotion (s.acceptCommand command frame now) :=
  .test (by simp [TakesMotion]) (by simp [TakesMotion])

/-- A motion inside the limits is neither rejected for its encoding nor taken for a stop. -/
theorem SafetyConfig.Moves.submitSequenced {s : SafetySession} {link : Link} {now : Int}
    {command : TimedMotionCommand} (hmoves : s.config.Moves command.motion)
    (hvalid : safetyConfigIsValid s.config = true) (connection : ConnectionSync) :
    TakesMotion (s.submitSequenced link connection command now) := by
  have hencodes := hmoves.encodes hvalid
  have hlateral : command.motion.lateralSpeedMps.eq (.finite 0) = true :=
    Double.eq_zero_iff.mpr hmoves.lateral
  simp only [SafetySession.submitSequenced, consumeSequence_config]
  refine .test (takesMotion_rejectRevoking (by simp [TakesMotion])) ?_
  refine .test (takesMotion_rejectStopping (by simp [TakesMotion])) ?_
  refine .test (by simp [TakesMotion]) ?_
  refine .test (takesMotion_rejectStopping (by simp [TakesMotion])) ?_
  rw [if_neg (by simp [hmoves.yawFinite, hmoves.yaw, hlateral]), if_neg (by simp [hencodes]),
    if_neg (by simp [hmoves.nonzero])]
  refine .test (takesMotion_rejectStopping (by simp [TakesMotion])) ?_
  refine .test (takesMotion_acceptCommand _ _ _ _) ?_
  refine .test (takesMotion_rejectRevoking (by simp [TakesMotion])) ?_
  exact takesMotion_acceptCommand _ _ _ _

theorem SafetyConfig.Moves.submit {s : SafetySession} {link : Link} {now : Int}
    {command : TimedMotionCommand} (hs : s.Coherent) (hmoves : s.config.Moves command.motion) :
    TakesMotion (s.submit link command now) := by
  rw [SafetySession.submit]
  split
  · simp [TakesMotion]
  · case isFalse hvalid =>
    have hvalid : s.configurationValid = true := by simpa using hvalid
    rcases enter_cases hvalid (hs.wired hvalid) link now with
      ⟨-, heq⟩ | ⟨-, -, heq⟩ | ⟨s₁, connection, -, henters, heq⟩
    · simp [heq, TakesMotion]
    · simp [heq, TakesMotion]
    · have hconfig : s₁.config = s.config := by cases henters <;> rfl
      rw [← hconfig] at hmoves
      have hconfigValid : safetyConfigIsValid s₁.config = true := by
        rw [hconfig]
        exact hs.config_valid hvalid
      rw [heq]
      dsimp only
      refine .test (by simp [TakesMotion]) ?_
      refine .test (by simp [TakesMotion]) ?_
      refine .test (takesMotion_rejectRevoking (by simp [TakesMotion])) ?_
      exact hmoves.submitSequenced hconfigValid connection

/-! ### The calls that lead back to motion -/

namespace SafetySession

variable {s : SafetySession} {link : Link} {now : Int}

/-- The session stands on the connection of the link, with neither a zero pending nor a fault. -/
structure Standing (s : SafetySession) (link : Link) : Prop where
  coherent : s.Coherent
  configured : s.configurationValid = true
  up : link.Up
  known : s.connectionKnown = true
  generation : link.generation = s.connectionGeneration
  settled : s.zeroEpisodeActive = false
  sound : s.state ≠ .faulted

/-- The session at `now`, after an allowed feedback frame of that time. -/
abbrev fed (s : SafetySession) (now : Int) : SafetySession :=
  (s.observed now).noteAllowedFeedback now

namespace Standing

theorem enter_eq (hs : s.Standing link) (hclock : s.AcceptsTime now) :
    s.enter link now = .ready (s.observed now) .unchanged :=
  enter_of_known (hs.coherent.wired hs.configured) hclock hs.up hs.known hs.generation

theorem fed (hs : s.Standing link) (hclock : s.AcceptsTime now) : (s.fed now).Standing link :=
  { hs with coherent := (hs.coherent.observed hclock.2).noteAllowedFeedback now }

theorem enter_fed (hs : s.Standing link) (hclock : s.AcceptsTime now) :
    (s.fed now).enter link now = .ready (s.fed now) .unchanged :=
  (hs.fed hclock).enter_eq ⟨hclock.1, le_rfl⟩

theorem feedback (hs : s.Standing link) (hclock : s.AcceptsTime now) {frame : FeedbackFrame}
    (hok : (decodeFeedbackFrame frame).ok = true)
    (hallowed : (decodeFeedbackFrame frame).feedback.controlAllowed = true) :
    s.perform link (.observeFeedback frame now) =
      { session := s.fed now
        link := link
        response := .feedback ⟨.acceptedControlAllowed, true, true⟩ } := by
  simp [perform, observeFeedback, hs.configured, hs.enter_eq hclock, hok, hallowed]

theorem feedbackIsFresh_fed (hs : s.Standing link) (hclock : s.AcceptsTime now) :
    (s.fed now).feedbackIsFresh now = true := by
  have htimeout := (hs.coherent.limits hs.configured).feedbackPositive
  simp [feedbackIsFresh, hclock.1, htimeout.le]

theorem reset (hs : s.Standing link) (hclock : s.AcceptsTime now)
    (hlatched : s.emergencyStopLatched = true) {token : Nat}
    (htoken : s.highestEstopResetToken < token) :
    (s.fed now).perform link (.resetEmergencyStop token now) =
      { session := (s.fed now).releaseEmergencyStop token
        link := link
        response := .flag true } := by
  simp only [perform, resetEmergencyStop, noteAllowedFeedback_configurationValid,
    observed_configurationValid, hs.configured, noteAllowedFeedback_emergencyStopLatched,
    observed_emergencyStopLatched, hlatched, hs.enter_fed hclock]
  rw [if_neg (by simp), if_neg]
  simp [hs.settled, hs.sound, hs.feedbackIsFresh_fed hclock]
  omega

theorem released (hs : s.Standing link) (hclock : s.AcceptsTime now) (token : Nat) :
    ((s.fed now).releaseEmergencyStop token).Standing link :=
  { hs.fed hclock with
    coherent := (hs.fed hclock).coherent.releaseEmergencyStop hs.known hs.settled
    sound := by simp }

theorem authorize (hs : s.Standing link) (hclock : s.AcceptsTime now)
    (hlatched : s.emergencyStopLatched = false) {token : Nat}
    (htoken : s.highestAuthorizationToken < token) :
    (s.fed now).perform link (.authorize token now) =
      { session := (s.fed now).grantAuthorization token now
        link := link
        response := .authorization .authorized } := by
  simp only [perform, SafetySession.authorize, noteAllowedFeedback_configurationValid,
    observed_configurationValid, hs.configured, hs.enter_fed hclock,
    noteAllowedFeedback_emergencyStopLatched, observed_emergencyStopLatched, hlatched]
  rw [if_neg (by simp), if_neg (by simp), if_neg (by simp [hs.sound]),
    if_neg (by simp [hs.settled]), if_neg (by simp; omega),
    if_neg (by simp [hs.feedbackIsFresh_fed hclock])]

theorem granted (hs : s.Standing link) (hclock : s.AcceptsTime now)
    (hlatched : s.emergencyStopLatched = false) (token : Nat) :
    ((s.fed now).grantAuthorization token now).Standing link :=
  { hs.fed hclock with
    coherent := (hs.fed hclock).coherent.grantAuthorization hs.known hlatched hs.settled hclock.1
      le_rfl
    sound := by simp }

end Standing

/-- The middle of a recovery: the permission dates from `start`, and `count` commands have come, one
each nanosecond after it. -/
structure Rearming (s : SafetySession) (link : Link) (start : Int) (mark count : Nat) : Prop where
  standing : s.Standing link
  unlatched : s.emergencyStopLatched = false
  permitted : s.authorizationActive = true
  time : s.authorizationMonotonicNs = start
  clock : s.lastObservedMonotonicNs = start + count
  sequence : s.highestSequence = mark + count
  taken : s.consecutiveFreshCommands = count
  state : s.state =
    if count = s.config.freshCommandsRequired then .active else .recovering
  silent : count = 0 → s.latestCommandValid = false
  held : 0 < count → s.latestCommandValid = true ∧
    s.latestCommand.createdMonotonicNs = start + count ∧
    s.latestCommandReceiptNs = start + count ∧
    s.latestCommand.deadlineMonotonicNs = start + count + s.config.maxCommandAgeNs
  rate : s.lastMotionHostWriteCompletionNs + s.config.transmitPeriodNs ≤ start

/-- The command that a recovery submits next. -/
def nextCommand (config : SafetyConfig) (start : Int) (mark count : Nat) (motion : MotionCommand) :
    TimedMotionCommand :=
  { sequenceId := mark + count + 1
    createdMonotonicNs := start + count + 1
    deadlineMonotonicNs := start + count + 1 + config.maxCommandAgeNs
    motion := motion }

/-- `submit` takes an admissible command whose predecessor has not lapsed. -/
theorem submit_of_admissible {command : TimedMotionCommand} (hvalid : s.configurationValid = true)
    (henter : s.enter link now = .ready s .unchanged) (hcommand : Admissible s command now)
    (hprevious : s.latestCommandValid = true → s.previousIsStale now = false ∧
      s.latestCommand.createdMonotonicNs < command.createdMonotonicNs) :
    s.submit link command now =
      (s.consumeSequence command.sequenceId).acceptCommand command
        (encodeCommand command.motion s.config.maxLinearSpeedMps).frame now := by
  have hsequence := hcommand.sequence
  simp only [submit, hvalid, henter]
  rw [if_neg (by simp), if_neg (by simp [hcommand.unlatched]), if_neg hcommand.sound,
    if_neg (by simp only [Bool.or_eq_true, decide_eq_true_eq]; omega),
    submitSequenced_of_admissible hcommand (by simp)]
  cases hheld : s.latestCommandValid with
  | false => simp
  | true =>
    obtain ⟨hfresh, horder⟩ := hprevious hheld
    simp [hfresh, horder]

namespace Rearming

variable {start : Int} {mark count : Nat} {motion : MotionCommand}

theorem accepts (hs : s.Rearming link start mark count) (hlater : start + count ≤ now) :
    s.AcceptsTime now := by
  have hpositive := (hs.standing.coherent.permission hs.permitted).2.2.2.1
  have htime := hs.time
  have hclock := hs.clock
  exact ⟨by omega, by omega⟩

theorem authorized (hs : s.Rearming link start mark count) : s.authorized = true :=
  hs.standing.coherent.authorized_of_active hs.standing.configured hs.standing.sound hs.permitted

theorem admissible (hs : s.Rearming link start mark count) (hmotion : s.config.Moves motion) :
    Admissible (s.fed (start + count + 1)) (nextCommand s.config start mark count motion)
      (start + count + 1) := by
  have hvalid := hs.standing.coherent.config_valid hs.standing.configured
  have hlimits := safetyConfigIsValid_iff.mp hvalid
  have hperiod := hlimits.periodPositive
  have hless := hlimits.periodAge
  have hage : 0 < s.config.maxCommandAgeNs := hperiod.trans hless
  have haccepts : s.AcceptsTime (start + count + 1) := hs.accepts (by omega)
  have hpositive := haccepts.1
  exact
    { unlatched := hs.unlatched
      sound := hs.standing.sound
      sequence := by simp [nextCommand, hs.sequence]
      created := hpositive
      receipt := le_rfl
      order := by simp [nextCommand, hage]
      deadline := by simp [nextCommand, hage.le]
      age := by simp [nextCommand, hage.le]
      permitted := hs.authorized
      settled := hs.standing.settled
      postdates := by simp only [noteAllowedFeedback_authorizationMonotonicNs,
        observed_authorizationMonotonicNs, hs.time, nextCommand]; omega
      yawFinite := hmotion.yawFinite
      yawLimit := hmotion.yaw
      lateral := by simp [nextCommand, hmotion.lateral]
      encodes := hmotion.encodes hvalid
      moves := hmotion.nonzero
      feedback := hs.standing.feedbackIsFresh_fed haccepts }

theorem previous (hs : s.Rearming link start mark count)
    (hheld : s.latestCommandValid = true) :
    (s.fed (start + count + 1)).previousIsStale (start + count + 1) = false ∧
      s.latestCommand.createdMonotonicNs < start + count + 1 := by
  have hvalid := hs.standing.coherent.config_valid hs.standing.configured
  have hlimits := safetyConfigIsValid_iff.mp hvalid
  have hperiod := hlimits.periodPositive
  have hless := hlimits.periodAge
  have hcount : 0 < count := by
    by_contra hzero
    simp [hs.silent (by omega)] at hheld
  obtain ⟨_, hcreated, hreceipt, hdeadline⟩ := hs.held hcount
  refine ⟨?_, by omega⟩
  simp only [previousIsStale, noteAllowedFeedback_latestCommand, observed_latestCommand, hdeadline,
    noteAllowedFeedback_latestCommandReceiptNs, observed_latestCommandReceiptNs, hreceipt,
    noteAllowedFeedback_config, observed_config, Bool.or_eq_false_iff, decide_eq_false_iff_not]
  omega

/-- The answer to a command of a fresh run that `count` commands precede. -/
def submitStatus (config : SafetyConfig) (count : Nat) : SubmissionStatus :=
  if count + 1 = config.freshCommandsRequired then .accepted else .recoveryPending

/-- The session after one more allowed feedback frame and one more command. -/
def rearmed (s : SafetySession) (start : Int) (mark count : Nat) (motion : MotionCommand) :
    SafetySession :=
  (s.fed (start + count + 1)).admitting (nextCommand s.config start mark count motion)
    (start + count + 1)

theorem rearmed_eq (hs : s.Rearming link start mark count) (motion : MotionCommand)
    (hcount : count < s.config.freshCommandsRequired) :
    rearmed s start mark count motion =
      (((s.fed (start + count + 1)).consumeSequence (mark + count + 1)).holdCommand
        (nextCommand s.config start mark count motion)
        (encodeCommand motion s.config.maxLinearSpeedMps).frame (start + count + 1)).enterState
        (if count + 1 = s.config.freshCommandsRequired then .active else .recovering) := by
  have hnext : (s.fed (start + count + 1)).nextCount = count + 1 := by
    simp [nextCount, hs.taken, hcount]
  have hrun : (count + 1 ≥ s.config.freshCommandsRequired) =
      (count + 1 = s.config.freshCommandsRequired) := by
    rw [eq_iff_iff]
    omega
  rw [rearmed, admitting_eq, hnext]
  simp only [noteAllowedFeedback_config, observed_config, hrun]
  rfl

/-- One more command: the run grows by it. -/
theorem grows (hs : s.Rearming link start mark count)
    (hcount : count < s.config.freshCommandsRequired) (hmotion : s.config.Moves motion) :
    (rearmed s start mark count motion).Rearming link start mark (count + 1) := by
  have haccepts : s.AcceptsTime (start + count + 1) := hs.accepts (by omega)
  have hfed := hs.standing.fed haccepts
  have hcoherent := hfed.coherent.admitted (hs.admissible hmotion) le_rfl
  have heq := hs.rearmed_eq motion hcount
  have hconfig : (rearmed s start mark count motion).config = s.config := by rw [heq]; rfl
  exact
    { standing :=
        { hfed with
          coherent := hcoherent
          configured := by rw [heq]; exact hfed.configured
          known := by rw [heq]; exact hfed.known
          generation := by rw [heq]; exact hfed.generation
          settled := by rw [heq]; exact hfed.settled
          sound := by
            rw [heq, enterState_state]
            split <;> simp }
      unlatched := by rw [heq]; exact hs.unlatched
      permitted := by rw [heq]; exact hs.permitted
      time := by rw [heq]; exact hs.time
      clock := by rw [heq]; push_cast; exact (add_assoc _ _ _)
      sequence := by rw [heq]; rfl
      taken := by rw [heq]; simp [hs.taken, hcount]
      state := by rw [hconfig, heq]; rfl
      silent := by simp
      held := by
        rw [hconfig, heq]
        intro _
        simp [nextCommand]
        omega
      rate := by rw [hconfig, heq]; exact hs.rate }

theorem perform_submit (hs : s.Rearming link start mark count)
    (hcount : count < s.config.freshCommandsRequired) (hmotion : s.config.Moves motion) :
    (s.fed (start + count + 1)).perform link
        (.submit (nextCommand s.config start mark count motion) (start + count + 1)) =
      { session := rearmed s start mark count motion
        link := link
        response := .submission (submitStatus s.config count) } := by
  have haccepts : s.AcceptsTime (start + count + 1) := hs.accepts (by omega)
  have hsubmit := submit_of_admissible (s := s.fed (start + count + 1)) hs.standing.configured
    (hs.standing.enter_fed haccepts) (hs.admissible hmotion) hs.previous
  have hstatus := acceptCommand_response (s := (s.fed (start + count + 1)).consumeSequence
    (mark + count + 1)) (nextCommand s.config start mark count motion)
    (encodeCommand motion s.config.maxLinearSpeedMps).frame (start + count + 1)
  have hstate : (rearmed s start mark count motion).state = .active ↔
      count + 1 = s.config.freshCommandsRequired := by
    rw [hs.rearmed_eq motion hcount, enterState_state]
    split <;> simp_all
  simp only [perform, hsubmit, submitStatus]
  rw [← if_congr hstate rfl rfl]
  exact congrArg
    (fun status => (⟨rearmed s start mark count motion, link, .submission status, []⟩ : Outcome))
    hstatus

theorem motionReady (hs : s.Rearming link start mark count)
    (hcount : count = s.config.freshCommandsRequired) :
    MotionReady (s.fed (start + count)) (start + count) := by
  have hvalid := hs.standing.coherent.config_valid hs.standing.configured
  have hpositive : 0 < count :=
    hcount ▸ (hs.standing.coherent.limits hs.standing.configured).requiredPositive
  have hlimits := safetyConfigIsValid_iff.mp hvalid
  have hperiod := hlimits.periodPositive
  have hless := hlimits.periodAge
  have haccepts := hs.accepts le_rfl
  have hclock := haccepts.1
  have hrate := hs.rate
  obtain ⟨hheld, hcreated, hreceipt, hdeadline⟩ := hs.held hpositive
  exact
    { settled := hs.standing.settled
      unlatched := hs.unlatched
      active := by
        have hstate := hs.state
        rwa [if_pos hcount] at hstate
      permitted := hs.authorized
      feedback := hs.standing.feedbackIsFresh_fed haccepts
      command := by
        simp [commandIsFresh, hheld, hcreated, hreceipt, hdeadline]
        omega
      rate := by
        simp only [noteAllowedFeedback_lastMotionHostWriteCompletionNs,
          observed_lastMotionHostWriteCompletionNs, noteAllowedFeedback_config, observed_config]
        omega }

end Rearming

/-- The answer of a transport that completes the write at the time of its call. -/
def cleanWrite (link : Link) (now : Int) : WriteOutcome :=
  ⟨some ⟨.ok, commandFrameSize, 0, true, false, now⟩, link⟩

/-- A tick over such a transport. -/
def cleanTick (link : Link) (now : Int) : Op :=
  .tick now (cleanWrite link now) (cleanWrite link now)

theorem cleanWrite_completes (link : Link) (now : Int) :
    ((cleanWrite link now).ioResult now).completes commandFrameSize = true := rfl

/-- A tick with everything in place passes on the held command. -/
theorem tick_of_ready (hvalid : s.configurationValid = true)
    (henter : s.enter link now = .ready s .unchanged) (hready : MotionReady s now)
    (hpositive : 0 < now) :
    ∃ result, s.perform link (cleanTick link now) =
        { session := s.noteMotionComplete now
          link := link
          response := .cycle result
          writes := [s.motionWrite link now (cleanWrite link now)] } ∧
      result.action = .motionHostWriteComplete ∧ result.state = .active := by
  have hrate := hready.rate
  refine ⟨((s.tick link now (cleanWrite link now) (cleanWrite link now)).result), ?_⟩
  simp only [cleanTick, perform, tick, hvalid, henter]
  rw [if_neg (by simp), if_neg (by simp [hready.settled]), if_neg (by simp [hready.active]),
    if_neg (by simp [hready.unlatched]), if_neg (by simp [hready.active]),
    if_neg (by simp [hready.permitted]), if_neg (by simp [hready.feedback, hready.command]),
    if_neg (by simp only [Bool.and_eq_true, decide_eq_true_eq]; omega)]
  have hcompletion : ((cleanWrite link now).ioResult now).completionMonotonicNs = now := rfl
  simp only [writeMotion, cleanWrite_completes, if_true, hcompletion, if_pos hpositive]
  exact ⟨rfl, trivial, hready.active⟩

theorem ZeroAttempt.clean {s' : SafetySession} {link' : Link} {writes : List Write}
    (h : ZeroAttempt s link now (cleanWrite link now) s' link' writes)
    (hdue : s.nextZeroAttemptNs ≤ now) (hup : link.connected = true) :
    s' = (s.attempted now).completeZero ∧ link' = link ∧
      writes = [s.zeroWrite link now (cleanWrite link now)] := by
  cases h with
  | waiting hearly => exact absurd hdue (not_le.mpr hearly)
  | lost _ hlost =>
    rcases hlost with hlost | hlost
    · cases hlost
    · have hlost : link.connected = false := hlost
      simp [hup] at hlost
  | completed => exact ⟨rfl, rfl, rfl⟩
  | exhausted _ hfailed => simp [cleanWrite_completes] at hfailed
  | failed _ hfailed => simp [cleanWrite_completes] at hfailed

/-- What a recovery builds on stays as it is. -/
structure SameMarks (s t : SafetySession) : Prop where
  config : t.config = s.config
  latched : t.emergencyStopLatched = s.emergencyStopLatched
  sequence : t.highestSequence = s.highestSequence
  authorization : t.highestAuthorizationToken = s.highestAuthorizationToken
  reset : t.highestEstopResetToken = s.highestEstopResetToken

/-- What the first tick of a recovery leaves of the session. -/
structure Settles (s : SafetySession) (link : Link) (now : Int) (o : Outcome) : Prop where
  standing : o.session.Standing link
  linked : o.link = link
  writes : ∀ write ∈ o.writes, write.outcome.link = link
  clock : o.session.lastObservedMonotonicNs = now
  motion : o.session.lastMotionHostWriteCompletionNs ≤ now
  marks : s.SameMarks o.session

/-- A due zero frame that is completed leaves the session on its connection. -/
theorem Standing.of_completeZero (hs : s.Coherent) (hvalid : s.configurationValid = true)
    (hlink : link.Up) (hgeneration : link.generation = s.connectionGeneration)
    (hzero : s.zeroEpisodeActive = true) (hclock : s.lastObservedMonotonicNs = now)
    {s' : SafetySession} {link' : Link} {writes : List Write}
    (h : ZeroAttempt s link now (cleanWrite link now) s' link' writes)
    (hdue : s.nextZeroAttemptNs ≤ now) : s'.Standing link ∧ s'.lastObservedMonotonicNs = now := by
  have hcoherent := hs.zeroAttempt hzero h
  obtain ⟨rfl, _, _⟩ := h.clean hdue hlink.1
  refine ⟨?_, by simp [hclock]⟩
  exact
    { coherent := hcoherent
      configured := hvalid
      up := hlink
      known := hs.known_of_pending hzero
      generation := hgeneration
      settled := rfl
      sound := by
        have hafter := hs.afterZero
        simp only [completeZero_state, attempted_stateAfterZero]
        split
        · simp
        · simp only [List.mem_cons, List.not_mem_nil, or_false] at hafter
          rcases hafter with h | h | h <;> simp [h] }

theorem Opens.kept {s₁ : SafetySession} {op : Op} (h : Opens s link op s₁)
    (hmotion : s.lastMotionHostWriteCompletionNs ≤ s.lastObservedMonotonicNs) :
    s.SameMarks s₁ ∧ s₁.lastObservedMonotonicNs = op.now ∧
      s₁.lastMotionHostWriteCompletionNs ≤ op.now := by
  obtain ⟨connection, henters⟩ := h.enters
  have hclock := h.accepted
  cases henters with
  | unchanged => exact ⟨⟨rfl, rfl, rfl, rfl, rfl⟩, rfl, hmotion.trans hclock.2⟩
  | newGeneration =>
    refine ⟨?_, by simp, by simp [hclock.1.le]⟩
    constructor <;> simp

theorem Opens.standing {s₁ : SafetySession} {op : Op} (h : Opens s link op s₁) (hs : s.Coherent)
    (hsettled : s₁.zeroEpisodeActive = false) (hsound : s₁.state ≠ .faulted) :
    s₁.Standing link := by
  obtain ⟨connection, henters⟩ := h.enters
  exact ⟨hs.opens h, h.valid, henters.up, henters.known, henters.generation.symm, hsettled, hsound⟩

end SafetySession

theorem Transition.settles {s : SafetySession} {link : Link} {now : Int} {o : Outcome}
    (h : Transition s link (cleanTick link now) o) (hs : s.Coherent)
    (hvalid : s.configurationValid = true) (hlink : link.Up) (hclock : s.AcceptsTime now)
    (hdue : s.zeroEpisodeActive = true → s.nextZeroAttemptNs ≤ now)
    (hmotion : s.lastMotionHostWriteCompletionNs ≤ s.lastObservedMonotonicNs)
    (hfault : s.state = .faulted → s.connectionKnown = true →
      link.generation ≠ s.connectionGeneration) : s.Settles link now o := by
  have hkept : ∀ {s₁}, Opens s link (cleanTick link now) s₁ → s.SameMarks s₁ ∧
      s₁.lastObservedMonotonicNs = now ∧ s₁.lastMotionHostWriteCompletionNs ≤ now :=
    fun hopens => hopens.kept hmotion
  have hsound : ∀ {s₁}, Opens s link (cleanTick link now) s₁ → s₁.state ≠ .faulted := by
    intro s₁ hopens hfaulted
    obtain ⟨connection, henters⟩ := hopens.enters
    cases henters with
    | unchanged _ hknown hgeneration => exact hfault hfaulted hknown hgeneration
    | newGeneration => simp at hfaulted
  have hzeroed : ∀ {t s' : SafetySession} {link' : Link} {writes : List Write}
      {response : Response}, t.Coherent → t.configurationValid = true →
      link.generation = t.connectionGeneration →
      t.zeroEpisodeActive = true → t.nextZeroAttemptNs ≤ now →
      s.SameMarks t ∧ t.lastObservedMonotonicNs = now ∧ t.lastMotionHostWriteCompletionNs ≤ now →
      ZeroAttempt t link now (cleanWrite link now) s' link' writes →
      s.Settles link now ⟨s', link', response, writes⟩ := by
    intro t s' link' writes response ht hvalid hgeneration hzero hnext hkept hattempt
    obtain ⟨hmarks, hobserved, hmotion⟩ := hkept
    obtain ⟨hstanding, hafter⟩ := Standing.of_completeZero ht hvalid hlink hgeneration hzero
      hobserved hattempt hnext
    obtain ⟨rfl, rfl, rfl⟩ := hattempt.clean hnext hlink.1
    refine ⟨hstanding, rfl, ?_, hafter, hmotion, ?_⟩
    · simp [zeroWrite, cleanWrite]
    · exact ⟨hmarks.config, hmarks.latched, hmarks.sequence, hmarks.authorization, hmarks.reset⟩
  generalize hop : cleanTick link now = op at h hkept hsound
  cases h with
  | unconfigured hinvalid => simp [hvalid] at hinvalid
  | clockRejected _ _ _ hrejected => subst hop; exact absurd hclock hrejected
  | clockRejectedPending _ _ _ hrejected => subst hop; exact absurd hclock hrejected
  | disconnected _ _ _ _ hdown => exact absurd hlink hdown
  | declined _ _ _ _ _ htick => exact absurd hop.symm (htick _ _ _)
  | idle hopens hidle =>
    obtain ⟨hmarks, hobserved, hmotion⟩ := hkept hopens
    exact ⟨hopens.standing hs hidle (hsound hopens), rfl, by simp, hobserved, hmotion, hmarks⟩
  | idleLatched hopens hidle _ hlatched =>
    obtain ⟨hmarks, hobserved, hmotion⟩ := hkept hopens
    have hstanding := hopens.standing hs hidle (hsound hopens)
    refine ⟨?_, rfl, by simp, hobserved, hmotion, ⟨hmarks.config, hmarks.latched, hmarks.sequence,
      hmarks.authorization, hmarks.reset⟩⟩
    exact
      { hstanding with
        coherent := hstanding.coherent.idleLatched hlatched hstanding.known hidle
        sound := by simp }
  | stopped _ _ _ hstops => subst hop; simp [cleanTick, Op.stops] at hstops
  | revoked _ _ _ hstops => subst hop; simp [cleanTick, Op.stops] at hstops
  | retry hopens hzero hattempt =>
    cases hop
    refine hzeroed (hs.opens hopens) hopens.valid ?_ hzero ?_ (hkept hopens) hattempt
    · obtain ⟨connection, henters⟩ := hopens.enters
      exact henters.generation.symm
    · obtain ⟨connection, henters⟩ := hopens.enters
      cases henters with
      | unchanged => exact hdue hzero
      | newGeneration => exact hclock.1.le
  | @watchdog _ _ _ s₁ _ _ _ _ hopens hidle _ _ _ hattempt =>
    cases hop
    obtain ⟨hmarks, hobserved, hmotion⟩ := hkept hopens
    have hcoherent := (hs.opens hopens).clearedPend hopens.valid hopens.known s₁.permittedState_mem
    refine hzeroed (hcoherent now) hopens.valid ?_ rfl ?_ ?_ hattempt
    · obtain ⟨connection, henters⟩ := hopens.enters
      exact henters.generation.symm
    · simp [hidle, hclock.1.le]
    · exact ⟨⟨hmarks.config, hmarks.latched, hmarks.sequence, hmarks.authorization, hmarks.reset⟩,
        hobserved, hmotion⟩
  | motionSent hopens hready _ hcompletion =>
    cases hop
    obtain ⟨hmarks, hobserved, hmotion⟩ := hkept hopens
    have hstanding := hopens.standing hs hready.settled (hsound hopens)
    have hnow : _ = now := hcompletion.trans (if_pos hclock.1)
    refine ⟨?_, rfl, ?_, ?_, ?_, ?_⟩
    · exact { hstanding with coherent := hstanding.coherent.noteMotionComplete _ }
    · simp [motionWrite, cleanWrite]
    · simp [hobserved, hnow]
    · simp [hnow]
    · exact ⟨hmarks.config, hmarks.latched, hmarks.sequence, hmarks.authorization, hmarks.reset⟩
  | motionLost hopens _ hfailed =>
    cases hop
    simp [cleanWrite_completes] at hfailed
  | motionFailed hopens _ hfailed =>
    cases hop
    simp [cleanWrite_completes] at hfailed
  | _ => simp [cleanTick] at hop

end WheeltecVcuSerial
