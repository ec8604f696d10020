import WheeltecVcuSerial.Session.Machine

namespace WheeltecVcuSerial

/-- Both pointers tell one story: a valid configuration comes with a transport. -/
def SafetySession.Wired (s : SafetySession) : Prop :=
  s.configurationValid = true → s.transport = true

/-- What `synchronizeConnection` takes for a connection. -/
def Link.Up (link : Link) : Prop := link.connected = true ∧ link.generation ≠ 0

/-- A valid frame that forbids control. -/
def inhibits (frame : FeedbackFrame) : Bool :=
  (decodeFeedbackFrame frame).ok && (decodeFeedbackFrame frame).feedback.controlInhibited

def SubmissionStatus.revokes : SubmissionStatus → Bool
  | .sequenceInvalid => true
  | .timestampInvalid => true
  | .encodingRejected => true
  | _ => false

def SubmissionStatus.stops : SubmissionStatus → Bool
  | .stopAccepted => true
  | .sequenceInvalid => true
  | .timestampInvalid => true
  | .stale => true
  | .predatesAuthorization => true
  | .encodingRejected => true
  | .feedbackUnavailable => true
  | _ => false

namespace Op

/-- The answers by which the session grants something to its caller. -/
def grants : Op → Response → Bool
  | .authorize _ _, .authorization status => status = .authorized
  | .submit _ _, .submission status => status = .accepted || status = .recoveryPending
  | .observeFeedback _ _, .feedback result => result.controlAllowed
  | .resetEmergencyStop _ _, .flag value => value
  | _, _ => false

/-- The answers by which the session takes what the call brings, be it a stop. -/
def takes (op : Op) (response : Response) : Bool :=
  op.grants response || response = .submission .stopAccepted

/-- The calls after which an authorization must be gone, apart from a rejected clock value. -/
def revokes : Op → Response → Bool
  | .disarm _, _ => true
  | .latchEmergencyStop _, _ => true
  | .observeFeedback frame _, _ => inhibits frame
  | .submit _ _, .submission status => status.revokes
  | _, _ => false

/-- The calls after which motion must wait for a zero frame, apart from a rejected clock value. -/
def stops : Op → Response → Bool
  | .disarm _, _ => true
  | .requestStop _, _ => true
  | .latchEmergencyStop _, _ => true
  | .observeFeedback frame _, _ => inhibits frame
  | .submit _ _, .submission status => status.stops
  | _, _ => false

/-- The calls after which an earlier feedback frame no longer counts, apart from a rejected clock
value. -/
def forgets : Op → Bool
  | .latchEmergencyStop _ => true
  | .observeFeedback frame _ => inhibits frame
  | _ => false

def isLatch : Op → Bool
  | .latchEmergencyStop _ => true
  | _ => false

end Op

namespace SafetySession

def AcceptsTime (s : SafetySession) (now : Int) : Prop := 0 < now ∧ s.lastObservedMonotonicNs ≤ now

instance (s : SafetySession) (now : Int) : Decidable (s.AcceptsTime now) :=
  inferInstanceAs (Decidable (_ ∧ _))

variable {s s₁ : SafetySession} {link : Link} {connection : ConnectionSync} {now : Int}

theorem observeMonotonicTime_of_accepts (hclock : s.AcceptsTime now) :
    s.observeMonotonicTime now = some (s.observed now) := by
  obtain ⟨hpos, hle⟩ := hclock
  unfold observeMonotonicTime
  rw [if_neg (by simp; omega)]
  split
  · rfl
  · rw [show now = s.lastObservedMonotonicNs by omega]; rfl

theorem observeMonotonicTime_of_rejects (hclock : ¬ s.AcceptsTime now) :
    s.observeMonotonicTime now = none := by
  unfold AcceptsTime at hclock
  unfold observeMonotonicTime
  rw [if_pos (by simp; omega)]

/-- A zero episode as `beginZeroEpisode` leaves it, on a connection that has no fault. -/
@[simps] def pend (s : SafetySession) (stateAfterZero : SessionState) (earliest : Int) :
    SafetySession :=
  { s with
    zeroEpisodeActive := true
    stateAfterZero :=
      if s.zeroEpisodeActive &&
          !(stateAfterZero = .emergencyStopLatched ||
            (stateAfterZero = .connectedInhibited && s.stateAfterZero = .recovering)) then
        s.stateAfterZero
      else stateAfterZero
    zeroAttempts := if s.zeroEpisodeActive then s.zeroAttempts else 0
    nextZeroAttemptNs := if s.zeroEpisodeActive then s.nextZeroAttemptNs else max 0 earliest
    state := if s.zeroEpisodeActive then s.state else .stopPending }

theorem beginZeroEpisode_eq_pend (hknown : s.connectionKnown = true)
    (htransport : s.transport = true) (hlink : link.connected = true) (hstate : s.state ≠ .faulted)
    (after : SessionState) (earliest : Int) :
    s.beginZeroEpisode link after earliest = s.pend after earliest := by
  unfold beginZeroEpisode pend
  rw [if_neg (by simp [hknown, htransport, hlink]), if_neg hstate]
  cases hactive : s.zeroEpisodeActive with
  | false => simp
  | true =>
    rw [if_pos rfl]
    split
    · case isTrue hmerge => simp [← hactive, hmerge]
    · case isFalse hmerge => simp [← hactive, hmerge]

theorem beginZeroEpisode_of_faulted (hknown : s.connectionKnown = true)
    (htransport : s.transport = true) (hlink : link.connected = true) (hstate : s.state = .faulted)
    (after : SessionState) (earliest : Int) :
    s.beginZeroEpisode link after earliest = s := by
  unfold beginZeroEpisode
  rw [if_neg (by simp [hknown, htransport, hlink]), if_pos hstate]

/-- The session that `handleNewConnection` leaves behind. -/
@[simps] def renewed (s : SafetySession) (generation : Nat) : SafetySession :=
  { s.resetConnection with
    connectionKnown := true
    connectionGeneration := generation
    state := .stopPending
    zeroEpisodeActive := true
    stateAfterZero := s.inhibitedState
    zeroAttempts := 0
    nextZeroAttemptNs := 0 }

theorem handleNewConnection_eq (htransport : s.transport = true) (hlink : link.connected = true) :
    s.handleNewConnection link = s.renewed link.generation := by
  refine (beginZeroEpisode_eq_pend rfl ?_ hlink (by simp) _ _).trans rfl
  simpa using htransport

/-- The session that `handleDisconnect` leaves behind, under a valid configuration. -/
@[simps] def dropped (s : SafetySession) : SafetySession :=
  { s.resetConnection with connectionKnown := false, state := .disconnected }

theorem handleDisconnect_eq (hvalid : s.configurationValid = true) :
    s.handleDisconnect = s.dropped := by
  unfold handleDisconnect
  exact if_pos hvalid

/-- The two ways for `synchronizeConnection` to find a connection. -/
inductive Enters (s : SafetySession) (link : Link) : SafetySession → ConnectionSync → Prop
  | unchanged : link.Up → s.connectionKnown = true → link.generation = s.connectionGeneration →
      Enters s link s .unchanged
  | newGeneration : link.Up →
      (s.connectionKnown = true → link.generation ≠ s.connectionGeneration) →
      Enters s link (s.renewed link.generation) .newGeneration

theorem synchronizeConnection_of_down (hvalid : s.configurationValid = true) (hlink : ¬ link.Up) :
    s.synchronizeConnection link = (s.dropped, .disconnected) := by
  unfold synchronizeConnection
  rw [if_pos, handleDisconnect_eq hvalid]
  simp only [Link.Up, not_and, not_not] at hlink
  cases hconnected : link.connected <;> simp_all

theorem synchronizeConnection_of_up (htransport : s.transport = true) (hlink : link.Up) :
    ∃ s₁ connection, Enters s link s₁ connection ∧
      s.synchronizeConnection link = (s₁, connection) := by
  unfold synchronizeConnection
  rw [if_neg (by simp [htransport, hlink.1, hlink.2])]
  split
  · case isTrue hnew =>
    rw [handleNewConnection_eq htransport hlink.1]
    refine ⟨_, _, .newGeneration hlink ?_, rfl⟩
    intro hknown
    simpa [hknown] using hnew
  · case isFalse hold =>
    simp only [Bool.or_eq_true, Bool.not_eq_true', decide_eq_true_eq, not_or, Bool.not_eq_false,
      not_not] at hold
    exact ⟨_, _, .unchanged hlink hold.1 hold.2, rfl⟩

theorem Enters.ne_disconnected (h : Enters s link s₁ connection) : connection ≠ .disconnected := by
  cases h <;> nofun

theorem enter_of_rejected (hclock : ¬ s.AcceptsTime now) :
    s.enter link now = .clockInvalid (s.handleClockFailure link) := by
  simp only [enter, observeMonotonicTime_of_rejects hclock]

theorem enter_of_down (hvalid : s.configurationValid = true) (hclock : s.AcceptsTime now)
    (hlink : ¬ link.Up) : s.enter link now = .disconnected (s.observed now).dropped := by
  have hsync : (s.observed now).synchronizeConnection link =
      ((s.observed now).dropped, .disconnected) := synchronizeConnection_of_down hvalid hlink
  simp only [enter, observeMonotonicTime_of_accepts hclock, hsync]

theorem enter_of_up (htransport : s.transport = true) (hclock : s.AcceptsTime now)
    (hlink : link.Up) :
    ∃ s₁ connection, Enters (s.observed now) link s₁ connection ∧
      s.enter link now = .ready s₁ connection := by
  obtain ⟨s₁, connection, henters, hsync⟩ :=
    synchronizeConnection_of_up (s := s.observed now) htransport hlink
  refine ⟨s₁, connection, henters, ?_⟩
  simp only [enter, observeMonotonicTime_of_accepts hclock, hsync]
  cases henters <;> rfl

theorem enter_cases (hvalid : s.configurationValid = true) (htransport : s.transport = true)
    (link : Link) (now : Int) :
    (¬ s.AcceptsTime now ∧ s.enter link now = .clockInvalid (s.handleClockFailure link)) ∨
      (s.AcceptsTime now ∧ ¬ link.Up ∧ s.enter link now = .disconnected (s.observed now).dropped) ∨
      ∃ s₁ connection, s.AcceptsTime now ∧ Enters (s.observed now) link s₁ connection ∧
        s.enter link now = .ready s₁ connection := by
  by_cases hclock : s.AcceptsTime now
  · by_cases hlink : link.Up
    · obtain ⟨s₁, connection, henters, heq⟩ := enter_of_up htransport hclock hlink
      exact .inr (.inr ⟨s₁, connection, hclock, henters, heq⟩)
    · exact .inr (.inl ⟨hclock, hlink, enter_of_down hvalid hclock hlink⟩)
  · exact .inl ⟨hclock, enter_of_rejected hclock⟩

namespace Enters

theorem up (h : Enters s link s₁ connection) : link.Up := by
  cases h <;> assumption

theorem known (h : Enters s link s₁ connection) : s₁.connectionKnown = true := by
  cases h with
  | unchanged _ hknown _ => exact hknown
  | newGeneration => rfl

theorem generation (h : Enters s link s₁ connection) :
    s₁.connectionGeneration = link.generation := by
  cases h with
  | unchanged _ _ hgeneration => exact hgeneration.symm
  | newGeneration => rfl

theorem configurationValid (h : Enters s link s₁ connection) :
    s₁.configurationValid = s.configurationValid := by
  cases h <;> rfl

theorem transport (h : Enters s link s₁ connection) : s₁.transport = s.transport := by
  cases h <;> rfl

/-- Without a pending zero the connection is the one that the session knew. -/
theorem eq_of_settled (h : Enters s link s₁ connection) (hzero : s₁.zeroEpisodeActive = false) :
    s₁ = s ∧ connection = .unchanged ∧ s.connectionKnown = true ∧
      link.generation = s.connectionGeneration := by
  cases h with
  | unchanged _ hknown hgeneration => exact ⟨rfl, rfl, hknown, hgeneration⟩
  | newGeneration => simp at hzero

end Enters

/-- The permission and the feedback are gone. -/
abbrev forgotten (s : SafetySession) : SafetySession :=
  s.revokeAuthorization.clearMotionIntent.forgetFeedback

/-- The state after zero of a stop that keeps the permission. -/
def permittedState (s : SafetySession) : SessionState :=
  if s.emergencyStopLatched then .emergencyStopLatched
  else if s.authorized then .recovering else .connectedInhibited

/-- One more zero attempt, whose answer reports `completionNs`. -/
@[simps] def attempted (s : SafetySession) (completionNs : Int) : SafetySession :=
  { s with
    zeroAttempts := s.zeroAttempts + 1
    lastObservedMonotonicNs := max s.lastObservedMonotonicNs completionNs }

/-- What `attemptZero` can do at `now` in a pending zero episode. -/
inductive ZeroAttempt (s : SafetySession) (link : Link) (now : Int) (outcome : WriteOutcome) :
    SafetySession → Link → List Write → Prop
  | waiting : now < s.nextZeroAttemptNs → ZeroAttempt s link now outcome s link []
  | lost : s.nextZeroAttemptNs ≤ now →
      ((outcome.ioResult now).status = .disconnected ∨ outcome.link.connected = false) →
      ZeroAttempt s link now outcome
        (s.attempted (outcome.ioResult now).completionMonotonicNs).dropped outcome.link
        [s.zeroWrite link now outcome]
  | completed : s.nextZeroAttemptNs ≤ now →
      (outcome.ioResult now).completes commandFrameSize = true → outcome.link.connected = true →
      ZeroAttempt s link now outcome
        (s.attempted (outcome.ioResult now).completionMonotonicNs).completeZero outcome.link
        [s.zeroWrite link now outcome]
  | exhausted : s.nextZeroAttemptNs ≤ now →
      (outcome.ioResult now).completes commandFrameSize = false →
      (outcome.ioResult now).status ≠ .disconnected → outcome.link.connected = true →
      s.config.maximumZeroAttempts ≤ s.zeroAttempts + 1 →
      ZeroAttempt s link now outcome
        (s.attempted (outcome.ioResult now).completionMonotonicNs).exhaustZero outcome.link
        [s.zeroWrite link now outcome]
  | failed : s.nextZeroAttemptNs ≤ now →
      (outcome.ioResult now).completes commandFrameSize = false →
      (outcome.ioResult now).status ≠ .disconnected → outcome.link.connected = true →
      s.zeroAttempts + 1 < s.config.maximumZeroAttempts →
      ZeroAttempt s link now outcome
        ((s.attempted (outcome.ioResult now).completionMonotonicNs).scheduleRetry
          (saturatingAdd (max now (outcome.ioResult now).completionMonotonicNs)
            s.config.zeroRetryIntervalNs))
        outcome.link [s.zeroWrite link now outcome]

theorem attempted_eq (s : SafetySession) (completionNs : Int) :
    (if completionNs > s.countZeroAttempt.lastObservedMonotonicNs then
      s.countZeroAttempt.observed completionNs else s.countZeroAttempt) =
      s.attempted completionNs := by
  split
  · case isTrue hlater =>
    simp only [countZeroAttempt_lastObservedMonotonicNs] at hlater
    simp only [attempted, observed, countZeroAttempt, max_eq_right hlater.le]
  · case isFalse hearlier =>
    simp only [countZeroAttempt_lastObservedMonotonicNs] at hearlier
    simp only [attempted, countZeroAttempt, max_eq_left (not_lt.mp hearlier)]

theorem attemptZero_spec (hvalid : s.configurationValid = true) (hzero : s.zeroEpisodeActive = true)
    (link : Link) (now : Int) (result : CycleResult) (outcome : WriteOutcome) :
    let cycle := s.attemptZero link now result outcome
    ZeroAttempt s link now outcome cycle.session cycle.link cycle.writes := by
  simp only [attemptZero, hzero, Bool.not_true, Bool.false_eq_true, if_false]
  by_cases htime : now < s.nextZeroAttemptNs
  · rw [if_pos htime]
    exact .waiting htime
  have hdue := not_lt.mp htime
  rw [if_neg htime]
  simp only [concludeZero, attempted_eq]
  split
  · case isTrue hlost =>
    rw [handleDisconnect_eq (by simpa using hvalid)]
    exact .lost hdue (by simpa using hlost)
  · case isFalse hkept =>
    simp only [Bool.or_eq_true, decide_eq_true_eq, Bool.not_eq_true', not_or,
      Bool.not_eq_false] at hkept
    split
    · case isTrue hdone => exact .completed hdue hdone hkept.2
    · case isFalse hundone =>
      simp only [Bool.not_eq_true] at hundone
      split
      · case isTrue hlast => exact .exhausted hdue hundone hkept.1 hkept.2 (by simpa using hlast)
      · case isFalse hleft => exact .failed hdue hundone hkept.1 hkept.2 (by simpa using hleft)

/-- A call that passes the configuration, the clock check and the connection: `s₁` is the session
that the body of the operation starts from. -/
structure Opens (s : SafetySession) (link : Link) (op : Op) (s₁ : SafetySession) : Prop where
  configured : s.configurationValid = true
  checked : op.checksClock s = true
  accepted : s.AcceptsTime op.now
  enters : ∃ connection, Enters (s.observed op.now) link s₁ connection

/-- The sequence mark that a stopping call leaves behind. -/
inductive Consumes (s : SafetySession) : Op → Response → Nat → Prop
  | submit {now : Int} : s.highestSequence < command.sequenceId →
      Consumes s (.submit command now) response command.sequenceId
  | sequenceInvalid {now : Int} :
      command.sequenceId = 0 ∨ command.sequenceId ≤ s.highestSequence →
      Consumes s (.submit command now) (.submission .sequenceInvalid) s.highestSequence
  | disarm {now : Int} : Consumes s (.disarm now) response s.highestSequence
  | requestStop {now : Int} : Consumes s (.requestStop now) response s.highestSequence

/-- All checks of `submit` on the command itself, the permission and the feedback. -/
structure Admissible (s : SafetySession) (command : TimedMotionCommand) (now : Int) : Prop where
  unlatched : s.emergencyStopLatched = false
  sound : s.state ≠ .faulted
  sequence : s.highestSequence < command.sequenceId
  created : 0 < command.createdMonotonicNs
  receipt : command.createdMonotonicNs ≤ now
  order : command.createdMonotonicNs < command.deadlineMonotonicNs
  deadline : now ≤ command.deadlineMonotonicNs
  age : now - command.createdMonotonicNs ≤ s.config.maxCommandAgeNs
  permitted : s.authorized = true
  settled : s.zeroEpisodeActive = false
  postdates : s.authorizationMonotonicNs < command.createdMonotonicNs
  yawFinite : command.motion.yawRateRadps.isFinite = true
  yawLimit : s.config.maxAbsYawRateRadps.lt command.motion.yawRateRadps.abs = false
  lateral : command.motion.lateralSpeedMps.eq (.finite 0) = true
  encodes : (encodeCommand command.motion s.config.maxLinearSpeedMps).ok = true
  moves : commandIsExactZero command.motion = false
  feedback : s.feedbackIsFresh now = true

/-- What `authorized` asks. -/
structure Authorized (s : SafetySession) : Prop where
  configured : s.configurationValid = true
  known : s.connectionKnown = true
  active : s.authorizationActive = true
  unlatched : s.emergencyStopLatched = false
  generation : s.authorizedGeneration = s.connectionGeneration
  positive : 0 < s.authorizationMonotonicNs
  sound : s.state ≠ .faulted

theorem authorized_iff : s.authorized = true ↔ s.Authorized := by
  simp only [authorized, Bool.and_eq_true, Bool.not_eq_true', decide_eq_true_eq]
  constructor
  · rintro ⟨⟨⟨⟨⟨⟨hconfigured, hknown⟩, hactive⟩, hunlatched⟩, hgeneration⟩, hpositive⟩, hsound⟩
    exact ⟨hconfigured, hknown, hactive, hunlatched, hgeneration, hpositive, hsound⟩
  · rintro ⟨hconfigured, hknown, hactive, hunlatched, hgeneration, hpositive, hsound⟩
    exact ⟨⟨⟨⟨⟨⟨hconfigured, hknown⟩, hactive⟩, hunlatched⟩, hgeneration⟩, hpositive⟩, hsound⟩

/-- What `commandIsFresh` asks. -/
structure CommandFresh (s : SafetySession) (now : Int) : Prop where
  valid : s.latestCommandValid = true
  received : 0 < s.latestCommandReceiptNs
  created : s.latestCommand.createdMonotonicNs ≤ now
  receipt : s.latestCommandReceiptNs ≤ now
  deadline : now ≤ s.latestCommand.deadlineMonotonicNs
  age : now - s.latestCommand.createdMonotonicNs ≤ s.config.maxCommandAgeNs
  receiptAge : now - s.latestCommandReceiptNs ≤ s.config.maxCommandAgeNs

theorem commandFresh_of_isFresh {now : Int} (h : s.commandIsFresh now = true) :
    s.CommandFresh now := by
  simp only [commandIsFresh, Bool.and_eq_true, decide_eq_true_eq] at h
  obtain ⟨⟨⟨⟨⟨⟨hvalid, hreceived⟩, hcreated⟩, hreceipt⟩, hdeadline⟩, hage⟩, hreceiptAge⟩ := h
  exact ⟨hvalid, hreceived, hcreated, hreceipt, hdeadline, hage, hreceiptAge⟩

/-- The guards of the motion branch of `tick`. -/
structure MotionReady (s : SafetySession) (now : Int) : Prop where
  settled : s.zeroEpisodeActive = false
  unlatched : s.emergencyStopLatched = false
  active : s.state = .active
  permitted : s.authorized = true
  feedback : s.feedbackIsFresh now = true
  command : s.commandIsFresh now = true
  rate : 0 < s.lastMotionHostWriteCompletionNs →
    s.config.transmitPeriodNs ≤ now - s.lastMotionHostWriteCompletionNs

/-- The session that holds an accepted command, in the state that its fresh run allows. -/
def admitting (s : SafetySession) (command : TimedMotionCommand) (now : Int) : SafetySession :=
  ((s.consumeSequence command.sequenceId).acceptCommand command
    (encodeCommand command.motion s.config.maxLinearSpeedMps).frame now).1

end SafetySession

open SafetySession in
/-- What one call can do. -/
inductive Transition (s : SafetySession) (link : Link) : Op → Outcome → Prop
  | unconfigured : s.configurationValid = false → op.isLatch = false → op.takes response = false →
      Transition s link op ⟨s, link, response, []⟩
  | unconfiguredLatch : s.configurationValid = false →
      Transition s link (.latchEmergencyStop now)
        ⟨s.assertEmergencyStop.enterState .configurationInvalid, link, .nothing, []⟩
  | notLatched : s.configurationValid = true → s.emergencyStopLatched = false →
      Transition s link (.resetEmergencyStop token now) ⟨s, link, .flag false, []⟩
  | clockRejected : s.configurationValid = true → op.checksClock s = true → op.isLatch = false →
      ¬ s.AcceptsTime op.now → op.takes response = false →
      (s.connectionKnown = true → link.connected = true → s.state = .faulted) →
      Transition s link op ⟨s.forgotten, link, response, []⟩
  | clockRejectedPending : s.configurationValid = true → op.checksClock s = true →
      op.isLatch = false → ¬ s.AcceptsTime op.now → op.takes response = false →
      s.connectionKnown = true → link.connected = true → s.state ≠ .faulted →
      Transition s link op
        ⟨s.forgotten.pend s.inhibitedState s.lastObservedMonotonicNs, link, response, []⟩
  | disconnected : s.configurationValid = true → op.checksClock s = true → op.isLatch = false →
      s.AcceptsTime op.now → ¬ link.Up → op.takes response = false →
      Transition s link op ⟨(s.observed op.now).dropped, link, response, []⟩
  | declined : Opens s link op s₁ → op.forgets = false → op.takes response = false →
      (op.stops response = true → s₁.state = .faulted) →
      (∀ command now, op = .submit command now →
        s₁.emergencyStopLatched = true ∨ s₁.state = .faulted) →
      (∀ now motionOutcome zeroOutcome, op ≠ .tick now motionOutcome zeroOutcome) →
      Transition s link op ⟨s₁, link, response, []⟩
  | authorized : Opens s link (.authorize token now) s₁ → s₁.emergencyStopLatched = false →
      s₁.state ≠ .faulted → s₁.zeroEpisodeActive = false → s₁.highestAuthorizationToken < token →
      s₁.feedbackIsFresh now = true →
      Transition s link (.authorize token now)
        ⟨s₁.grantAuthorization token now, link, .authorization .authorized, []⟩
  | feedbackAllowed : Opens s link (.observeFeedback frame now) s₁ →
      (decodeFeedbackFrame frame).ok = true →
      (decodeFeedbackFrame frame).feedback.controlAllowed = true →
      Transition s link (.observeFeedback frame now)
        ⟨s₁.noteAllowedFeedback now, link, .feedback ⟨.acceptedControlAllowed, true, true⟩, []⟩
  | inhibited : Opens s link (.observeFeedback frame now) s₁ → inhibits frame = true →
      s₁.state ≠ .faulted →
      Transition s link (.observeFeedback frame now)
        ⟨s₁.forgotten.pend s₁.inhibitedState now, link,
          .feedback ⟨.acceptedControlInhibited, true, false⟩, []⟩
  | inhibitedFaulted : Opens s link (.observeFeedback frame now) s₁ → inhibits frame = true →
      s₁.state = .faulted →
      Transition s link (.observeFeedback frame now)
        ⟨s₁.forgotten, link, .feedback ⟨.acceptedControlInhibited, true, false⟩, []⟩
  | stopped : Opens s link op s₁ → s₁.state ≠ .faulted → op.isLatch = false →
      op.stops response = true → op.revokes response = false → op.grants response = false →
      Consumes s₁ op response sequenceId →
      Transition s link op
        ⟨(s₁.consumeSequence sequenceId).clearMotionIntent.pend s₁.permittedState op.now, link,
          response, []⟩
  | revoked : Opens s link op s₁ → s₁.state ≠ .faulted → op.isLatch = false →
      op.stops response = true → op.revokes response = true → op.grants response = false →
      Consumes s₁ op response sequenceId →
      Transition s link op
        ⟨(s₁.consumeSequence sequenceId).revokeAuthorization.clearMotionIntent.pend
          s₁.inhibitedState op.now, link, response, []⟩
  | unpermitted : Opens s link (.submit command now) s₁ → s₁.emergencyStopLatched = false →
      s₁.state ≠ .faulted → s₁.highestSequence < command.sequenceId →
      (s₁.authorized = false ∨ s₁.zeroEpisodeActive = true) →
      Transition s link (.submit command now)
        ⟨(s₁.consumeSequence command.sequenceId).clearMotionIntent, link,
          .submission .notAuthorized, []⟩
  | admitted : Opens s link (.submit command now) s₁ → Admissible s₁ command now →
      (s₁.latestCommandValid = true → s₁.previousIsStale now = false ∧
        s₁.latestCommand.createdMonotonicNs < command.createdMonotonicNs) →
      response =
        (if (s₁.admitting command now).state = .active then .accepted else .recoveryPending) →
      Transition s link (.submit command now)
        ⟨s₁.admitting command now, link, .submission response, []⟩
  | readmitted : Opens s link (.submit command now) s₁ → Admissible s₁ command now →
      s₁.latestCommandValid = true → s₁.previousIsStale now = true →
      response = (if (s₁.clearMotionIntent.admitting command now).state = .active then .accepted
        else .recoveryPending) →
      Transition s link (.submit command now)
        ⟨s₁.clearMotionIntent.admitting command now, link, .submission response, []⟩
  | latchedDown : s.configurationValid = true → ¬ link.Up →
      time = (if s.AcceptsTime now then now else s.lastObservedMonotonicNs) →
      Transition s link (.latchEmergencyStop now)
        ⟨(s.assertEmergencyStop.observed time).dropped, link, .nothing, []⟩
  | latchedFaulted : s.configurationValid = true →
      time = (if s.AcceptsTime now then now else s.lastObservedMonotonicNs) →
      Enters (s.assertEmergencyStop.observed time) link s₁ connection → s₁.state = .faulted →
      Transition s link (.latchEmergencyStop now) ⟨s₁, link, .nothing, []⟩
  | latchedPending : s.configurationValid = true →
      time = (if s.AcceptsTime now then now else s.lastObservedMonotonicNs) →
      Enters (s.assertEmergencyStop.observed time) link s₁ connection → s₁.state ≠ .faulted →
      Transition s link (.latchEmergencyStop now)
        ⟨s₁.pend .emergencyStopLatched time, link, .nothing, []⟩
  | reset : Opens s link (.resetEmergencyStop token now) s₁ → s₁.zeroEpisodeActive = false →
      s₁.state ≠ .faulted → s₁.highestEstopResetToken < token → s₁.feedbackIsFresh now = true →
      Transition s link (.resetEmergencyStop token now)
        ⟨s₁.releaseEmergencyStop token, link, .flag true, []⟩
  | idle : Opens s link (.tick now motionOutcome zeroOutcome) s₁ → s₁.zeroEpisodeActive = false →
      (s₁.state = .faulted ∨ s₁.emergencyStopLatched = false) →
      (s₁.state = .active → s₁.authorized = true ∧ s₁.feedbackIsFresh now = true ∧
        s₁.commandIsFresh now = true) →
      Transition s link (.tick now motionOutcome zeroOutcome) ⟨s₁, link, .cycle result, []⟩
  | idleLatched : Opens s link (.tick now motionOutcome zeroOutcome) s₁ →
      s₁.zeroEpisodeActive = false → s₁.state ≠ .faulted → s₁.emergencyStopLatched = true →
      Transition s link (.tick now motionOutcome zeroOutcome)
        ⟨s₁.enterState .emergencyStopLatched, link, .cycle result, []⟩
  | retry : Opens s link (.tick now motionOutcome zeroOutcome) s₁ → s₁.zeroEpisodeActive = true →
      ZeroAttempt s₁ link now zeroOutcome s' link' writes →
      Transition s link (.tick now motionOutcome zeroOutcome) ⟨s', link', .cycle result, writes⟩
  | watchdog : Opens s link (.tick now motionOutcome zeroOutcome) s₁ →
      s₁.zeroEpisodeActive = false → s₁.emergencyStopLatched = false → s₁.state = .active →
      ¬ (s₁.authorized = true ∧ s₁.feedbackIsFresh now = true ∧ s₁.commandIsFresh now = true) →
      ZeroAttempt (s₁.clearMotionIntent.pend s₁.permittedState now) link now zeroOutcome
        s' link' writes →
      Transition s link (.tick now motionOutcome zeroOutcome) ⟨s', link', .cycle result, writes⟩
  | motionSent : Opens s link (.tick now motionOutcome zeroOutcome) s₁ → MotionReady s₁ now →
      (motionOutcome.ioResult now).completes commandFrameSize = true →
      completion = (if (motionOutcome.ioResult now).completionMonotonicNs > 0 then
        (motionOutcome.ioResult now).completionMonotonicNs else now) →
      Transition s link (.tick now motionOutcome zeroOutcome)
        ⟨s₁.noteMotionComplete completion, motionOutcome.link, .cycle result,
          [s₁.motionWrite link now motionOutcome]⟩
  | motionLost : Opens s link (.tick now motionOutcome zeroOutcome) s₁ → MotionReady s₁ now →
      (motionOutcome.ioResult now).completes commandFrameSize = false →
      ((motionOutcome.ioResult now).status = .disconnected ∨
        motionOutcome.link.connected = false) →
      Transition s link (.tick now motionOutcome zeroOutcome)
        ⟨s₁.revokeAuthorization.clearMotionIntent.dropped, motionOutcome.link, .cycle result,
          [s₁.motionWrite link now motionOutcome]⟩
  | motionFailed : Opens s link (.tick now motionOutcome zeroOutcome) s₁ → MotionReady s₁ now →
      (motionOutcome.ioResult now).completes commandFrameSize = false →
      (motionOutcome.ioResult now).status ≠ .disconnected → motionOutcome.link.connected = true →
      start = max now (motionOutcome.ioResult now).completionMonotonicNs →
      ZeroAttempt (s₁.revokeAuthorization.clearMotionIntent.pend .connectedInhibited start)
        motionOutcome.link start zeroOutcome s' link' writes →
      Transition s link (.tick now motionOutcome zeroOutcome)
        ⟨s', link', .cycle result, s₁.motionWrite link now motionOutcome :: writes⟩

end WheeltecVcuSerial
