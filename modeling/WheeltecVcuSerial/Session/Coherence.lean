import WheeltecVcuSerial.Session.Conformance

namespace WheeltecVcuSerial

namespace SafetySession

/-- The representation invariant: what the fields of a session tell about one another. -/
structure Coherent (s : SafetySession) : Prop where
  configured : s.configurationValid = (s.transport && safetyConfigIsValid s.config)
  unconfigured : s.configurationValid = false → s.connectionKnown = false
  clock : 0 ≤ s.lastObservedMonotonicNs
  pending : s.zeroEpisodeActive = true ↔ s.state = .stopPending
  budget : s.zeroEpisodeActive = true → s.zeroAttempts < s.config.maximumZeroAttempts
  afterZero : s.stateAfterZero ∈
    [SessionState.connectedInhibited, .recovering, .emergencyStopLatched]
  absent : s.connectionKnown = false → s.state = .disconnected ∨ s.state = .configurationInvalid
  linked : s.connectionKnown = true → s.connectionGeneration ≠ 0
  permission : s.authorizationActive = true →
    s.connectionKnown = true ∧ s.emergencyStopLatched = false ∧
      s.authorizedGeneration = s.connectionGeneration ∧
      0 < s.authorizationMonotonicNs ∧ s.authorizationMonotonicNs ≤ s.lastObservedMonotonicNs
  command : s.latestCommandValid = true →
    s.authorizationActive = true ∧ (s.state = .active ∨ s.state = .recovering) ∧
      s.authorizationMonotonicNs < s.latestCommand.createdMonotonicNs ∧
      (encodeCommand s.latestCommand.motion s.config.maxLinearSpeedMps).ok = true ∧
      s.config.maxAbsYawRateRadps.lt s.latestCommand.motion.yawRateRadps.abs = false ∧
      s.latestCommand.motion.lateralSpeedMps.eq (.finite 0) = true ∧
      s.latestFrame = (encodeCommand s.latestCommand.motion s.config.maxLinearSpeedMps).frame
  receipt : s.latestCommandValid = true →
    s.latestCommand.sequenceId ≤ s.highestSequence ∧
      s.latestCommand.createdMonotonicNs ≤ s.latestCommandReceiptNs ∧
      s.latestCommandReceiptNs ≤ s.lastObservedMonotonicNs
  count : s.consecutiveFreshCommands ≤ s.config.freshCommandsRequired ∧
    (s.latestCommandValid = false → s.consecutiveFreshCommands = 0)
  intent : s.state = .active → s.authorizationActive = true →
    s.latestCommandValid = true ∧ s.consecutiveFreshCommands = s.config.freshCommandsRequired

/-- The count of a fresh run after one more command. -/
def nextCount (s : SafetySession) : Nat :=
  if s.consecutiveFreshCommands < s.config.freshCommandsRequired then
    s.consecutiveFreshCommands + 1
  else s.consecutiveFreshCommands

theorem admitting_eq (s : SafetySession) (command : TimedMotionCommand) (now : Int) :
    s.admitting command now =
      ((s.consumeSequence command.sequenceId).holdCommand command
        (encodeCommand command.motion s.config.maxLinearSpeedMps).frame now).enterState
        (if s.nextCount ≥ s.config.freshCommandsRequired then .active else .recovering) := by
  simp only [admitting, acceptCommand]
  split
  · case isTrue hrun =>
    have hrun : s.nextCount ≥ s.config.freshCommandsRequired := hrun
    rw [if_pos hrun]
  · case isFalse hrun =>
    have hrun : ¬ s.nextCount ≥ s.config.freshCommandsRequired := hrun
    rw [if_neg hrun]

theorem clearMotionIntent_admitting_eq (s : SafetySession) (command : TimedMotionCommand)
    (now : Int) :
    s.clearMotionIntent.admitting command now =
      (((s.consumeSequence command.sequenceId).clearMotionIntent).holdCommand command
        (encodeCommand command.motion s.config.maxLinearSpeedMps).frame now).enterState
        (if s.clearMotionIntent.nextCount ≥ s.config.freshCommandsRequired then .active
          else .recovering) :=
  admitting_eq _ _ _

namespace Coherent

variable {s s₁ : SafetySession} {link : Link} {connection : ConnectionSync} {now : Int}

theorem wired (hs : s.Coherent) : s.Wired := by
  intro hvalid
  rw [hs.configured, Bool.and_eq_true] at hvalid
  exact hvalid.1

theorem config_valid (hs : s.Coherent) (hvalid : s.configurationValid = true) :
    safetyConfigIsValid s.config = true := by
  rw [hs.configured, Bool.and_eq_true] at hvalid
  exact hvalid.2

theorem limits (hs : s.Coherent) (hvalid : s.configurationValid = true) : s.config.Valid :=
  safetyConfigIsValid_iff.mp (hs.config_valid hvalid)

theorem observed (hs : s.Coherent) (hnow : s.lastObservedMonotonicNs ≤ now) :
    (s.observed now).Coherent :=
  { hs with
    clock := hs.clock.trans hnow
    permission := fun h =>
      have ⟨hknown, hlatched, hgeneration, hpos, hle⟩ := hs.permission h
      ⟨hknown, hlatched, hgeneration, hpos, hle.trans hnow⟩
    receipt := fun h => (hs.receipt h).imp_right (And.imp_right fun hle => hle.trans hnow) }

theorem dropped (hs : s.Coherent) : s.dropped.Coherent :=
  { hs with
    unconfigured := by simp
    pending := by simp
    budget := by simp
    absent := by simp
    linked := by simp
    permission := by simp
    command := by simp
    receipt := by simp
    count := by simp
    intent := by simp }

theorem renewed {generation : Nat} (hs : s.Coherent) (hvalid : s.configurationValid = true)
    (hgeneration : generation ≠ 0) : (s.renewed generation).Coherent :=
  { hs with
    unconfigured := by simp [hvalid]
    pending := by simp
    budget := fun _ => (hs.limits hvalid).attemptsPositive
    afterZero := by simp only [renewed_stateAfterZero, inhibitedState]; split <;> simp
    absent := by simp
    linked := fun _ => hgeneration
    permission := by simp
    command := by simp
    receipt := by simp
    count := by simp
    intent := by simp }

theorem enters (hs : s.Coherent) (hvalid : s.configurationValid = true)
    (h : Enters s link s₁ connection) : s₁.Coherent := by
  cases h with
  | unchanged => exact hs
  | newGeneration hlink => exact hs.renewed hvalid hlink.2

theorem opens {op : Op} (hs : s.Coherent) (h : Opens s link op s₁) : s₁.Coherent := by
  obtain ⟨connection, henters⟩ := h.enters
  exact (hs.observed h.accepted.2).enters h.configured henters

theorem consumeSequence (hs : s.Coherent) (hsilent : s.latestCommandValid = false)
    (sequenceId : Nat) : (s.consumeSequence sequenceId).Coherent :=
  { hs with receipt := by simp [hsilent] }

theorem forgetFeedback (hs : s.Coherent) : s.forgetFeedback.Coherent :=
  { hs with }

/-- Without a permission nothing is asked of the motion intent. -/
theorem silenced (hs : s.Coherent) : s.revokeAuthorization.clearMotionIntent.Coherent :=
  { hs with
    permission := by simp
    command := by simp
    receipt := by simp
    count := by simp
    intent := by simp }

theorem forgotten (hs : s.Coherent) : s.forgotten.Coherent := hs.silenced.forgetFeedback

theorem assertEmergencyStop (hs : s.Coherent) : s.assertEmergencyStop.Coherent :=
  { hs.forgotten with permission := by simp }

theorem pend_state (hs : s.Coherent) (after : SessionState) (earliest : Int) :
    (s.pend after earliest).state = .stopPending := by
  rw [SafetySession.pend_state]
  split
  · case isTrue hzero => exact hs.pending.mp hzero
  · rfl

theorem known_of_pending (hs : s.Coherent) (hzero : s.zeroEpisodeActive = true) :
    s.connectionKnown = true := by
  by_contra hunknown
  have := hs.absent (by simpa using hunknown)
  simp [hs.pending.mp hzero] at this

theorem not_pending_of_unconfigured (hs : s.Coherent) (hvalid : s.configurationValid = false) :
    s.zeroEpisodeActive = false := by
  by_contra hzero
  have := hs.known_of_pending (by simpa using hzero)
  simp [hs.unconfigured hvalid] at this

/-- The merge of a new zero episode into a pending one. -/
theorem clearedPend (hs : s.Coherent) (hvalid : s.configurationValid = true)
    (hknown : s.connectionKnown = true) {after : SessionState}
    (hafter : after ∈ [SessionState.connectedInhibited, .recovering, .emergencyStopLatched])
    (earliest : Int) : (s.clearMotionIntent.pend after earliest).Coherent := by
  have hstate : (s.clearMotionIntent.pend after earliest).state = .stopPending :=
    hs.pend_state after earliest
  exact
    { hs with
      pending := iff_of_true rfl hstate
      budget := by
        intro _
        simp only [pend_zeroAttempts, clearMotionIntent_zeroEpisodeActive]
        split
        · case isTrue hzero => exact hs.budget hzero
        · exact (hs.limits hvalid).attemptsPositive
      afterZero := by
        simp only [pend_stateAfterZero]
        split
        · exact hs.afterZero
        · exact hafter
      absent := by simp [hknown]
      command := by simp
      receipt := by simp
      count := by simp
      intent := by rw [hstate]; simp }

theorem zeroAttempt {outcome : WriteOutcome} {s' : SafetySession} {link' : Link}
    {writes : List Write} (hs : s.Coherent) (hzero : s.zeroEpisodeActive = true)
    (h : ZeroAttempt s link now outcome s' link' writes) : s'.Coherent := by
  have hsilent : s.latestCommandValid = false := by
    by_contra hcommand
    have := (hs.command (by simpa using hcommand)).2.1
    simp [hs.pending.mp hzero] at this
  have hknown : s.connectionKnown = true := hs.known_of_pending hzero
  cases h with
  | waiting => exact hs
  | lost => exact (hs.observed (le_max_left _ _)).dropped
  | completed =>
    have hafter := hs.afterZero
    exact
      { hs.observed (le_max_left _ _) with
        pending := by
          simp only [completeZero_zeroEpisodeActive, completeZero_state, attempted_stateAfterZero]
          split
          · simp
          · simp only [List.mem_cons, List.not_mem_nil, or_false] at hafter
            rcases hafter with h | h | h <;> simp [h]
        budget := by simp
        absent := by simp [hknown]
        command := by simp [hsilent]
        receipt := by simp [hsilent]
        intent := by
          simp only [completeZero_state, attempted_stateAfterZero]
          split
          · simp
          · simp only [List.mem_cons, List.not_mem_nil, or_false] at hafter
            rcases hafter with h | h | h <;> simp [h] }
  | exhausted =>
    exact
      { hs.observed (le_max_left _ _) with
        pending := by simp
        budget := by simp
        absent := by simp [hknown]
        command := by simp [hsilent]
        receipt := by simp [hsilent]
        intent := by simp }
  | failed _ _ _ _ hleft =>
    exact { hs.observed (le_max_left _ _) with budget := fun _ => hleft }

theorem grantAuthorization {token : Nat} (hs : s.Coherent) (hknown : s.connectionKnown = true)
    (hlatched : s.emergencyStopLatched = false) (hzero : s.zeroEpisodeActive = false)
    (hpos : 0 < now) (hnow : now ≤ s.lastObservedMonotonicNs) :
    (s.grantAuthorization token now).Coherent :=
  { hs with
    pending := by simp [hzero]
    absent := by simp [hknown]
    permission := fun _ => ⟨hknown, hlatched, rfl, hpos, hnow⟩
    command := by simp
    receipt := by simp
    count := by simp
    intent := by simp }

theorem noteAllowedFeedback (hs : s.Coherent) (now : Int) : (s.noteAllowedFeedback now).Coherent :=
  { hs with }

theorem releaseEmergencyStop {token : Nat} (hs : s.Coherent) (hknown : s.connectionKnown = true)
    (hzero : s.zeroEpisodeActive = false) : (s.releaseEmergencyStop token).Coherent :=
  { hs with
    pending := by simp [hzero]
    absent := by simp [hknown]
    permission := by simp
    command := by simp
    receipt := by simp
    count := by simp
    intent := by simp }

theorem noteMotionComplete (hs : s.Coherent) (completionNs : Int) :
    (s.noteMotionComplete completionNs).Coherent :=
  { hs.observed (le_max_left s.lastObservedMonotonicNs completionNs) with }

theorem revoked_of_latched (hs : s.Coherent) (hlatched : s.emergencyStopLatched = true) :
    s.authorizationActive = false ∧ s.latestCommandValid = false := by
  have hrevoked : s.authorizationActive = false := by
    by_contra hactive
    have := (hs.permission (by simpa using hactive)).2.1
    simp [hlatched] at this
  refine ⟨hrevoked, ?_⟩
  by_contra hcommand
  have := (hs.command (by simpa using hcommand)).1
  simp [hrevoked] at this

theorem idleLatched (hs : s.Coherent) (hlatched : s.emergencyStopLatched = true)
    (hknown : s.connectionKnown = true) (hzero : s.zeroEpisodeActive = false) :
    (s.enterState .emergencyStopLatched).Coherent :=
  { hs with
    pending := by simp [hzero]
    absent := by simp [hknown]
    command := by simp [(hs.revoked_of_latched hlatched).2]
    receipt := by simp [(hs.revoked_of_latched hlatched).2]
    intent := by simp }

theorem unconfiguredLatch (hs : s.Coherent) (hvalid : s.configurationValid = false) :
    (s.assertEmergencyStop.enterState .configurationInvalid).Coherent :=
  { hs.assertEmergencyStop with
    pending := by simp [hs.not_pending_of_unconfigured hvalid]
    absent := by simp
    command := by simp
    receipt := by simp
    intent := by simp }

theorem authorized_of_active (hs : s.Coherent) (hvalid : s.configurationValid = true)
    (hstate : s.state ≠ .faulted) (hactive : s.authorizationActive = true) :
    s.authorized = true := by
  obtain ⟨hknown, hlatched, hgeneration, hpos, _⟩ := hs.permission hactive
  exact authorized_iff.mpr ⟨hvalid, hknown, hactive, hlatched, hgeneration, hpos, hstate⟩

theorem unpermitted (hs : s.Coherent) (hvalid : s.configurationValid = true)
    (hstate : s.state ≠ .faulted) (h : s.authorized = false ∨ s.zeroEpisodeActive = true) :
    s.clearMotionIntent.Coherent :=
  { hs with
    command := by simp
    receipt := by simp
    count := by simp
    intent := by
      intro hrunning hactive
      simp only [clearMotionIntent_state, clearMotionIntent_authorizationActive] at hrunning hactive
      rcases h with hunauthorized | hzero
      · simp [hs.authorized_of_active hvalid hstate hactive] at hunauthorized
      · simp [hs.pending.mp hzero] at hrunning }

theorem nextCount_le (hs : s.Coherent) : s.nextCount ≤ s.config.freshCommandsRequired := by
  unfold nextCount
  split
  · omega
  · exact hs.count.1

/-- The acceptance of a command, with any count of its fresh run. -/
theorem holding {command : TimedMotionCommand} {count : Nat} (hs : s.Coherent)
    (hcommand : Admissible s command now) (hclock : now ≤ s.lastObservedMonotonicNs)
    (hcount : count ≤ s.config.freshCommandsRequired) :
    ({ s.holdCommand command
          (encodeCommand command.motion s.config.maxLinearSpeedMps).frame now with
        highestSequence := command.sequenceId
        consecutiveFreshCommands := count
        state := if count ≥ s.config.freshCommandsRequired then .active else .recovering } :
      SafetySession).Coherent := by
  have hauthorized := authorized_iff.mp hcommand.permitted
  exact
    { hs with
      pending := by
        simp only [holdCommand_zeroEpisodeActive, hcommand.settled]
        split <;> simp
      absent := by simp [hauthorized.known]
      command := by
        intro _
        refine ⟨hauthorized.active, ?_, hcommand.postdates, hcommand.encodes, hcommand.yawLimit,
          hcommand.lateral, rfl⟩
        dsimp only
        split <;> simp
      receipt := fun _ => ⟨le_rfl, hcommand.receipt, hclock⟩
      count := ⟨hcount, by simp⟩
      intent := by
        dsimp only
        intro hstate _
        split at hstate
        · case isTrue hrun => exact ⟨rfl, le_antisymm hcount hrun⟩
        · simp at hstate }

theorem admitted {command : TimedMotionCommand} (hs : s.Coherent)
    (hcommand : Admissible s command now) (hclock : now ≤ s.lastObservedMonotonicNs) :
    (s.admitting command now).Coherent := by
  rw [admitting_eq]
  exact hs.holding hcommand hclock hs.nextCount_le

theorem readmitted {command : TimedMotionCommand} (hs : s.Coherent)
    (hvalid : s.configurationValid = true) (hcommand : Admissible s command now)
    (hclock : now ≤ s.lastObservedMonotonicNs) :
    (s.clearMotionIntent.admitting command now).Coherent := by
  rw [clearMotionIntent_admitting_eq]
  refine @holding s now command s.clearMotionIntent.nextCount hs hcommand hclock ?_
  have := (hs.limits hvalid).requiredPositive
  simp only [nextCount, clearMotionIntent_consecutiveFreshCommands, clearMotionIntent_config]
  split <;> omega

theorem latched {time : Int} (hs : s.Coherent)
    (htime : time = if s.AcceptsTime now then now else s.lastObservedMonotonicNs) :
    (s.assertEmergencyStop.observed time).Coherent := by
  refine hs.assertEmergencyStop.observed ?_
  rw [htime]
  split
  · case isTrue hclock => exact hclock.2
  · exact le_rfl

end Coherent

theorem inhibitedState_mem (s : SafetySession) :
    s.inhibitedState ∈ [SessionState.connectedInhibited, .recovering, .emergencyStopLatched] := by
  unfold inhibitedState
  split <;> simp

theorem permittedState_mem (s : SafetySession) :
    s.permittedState ∈ [SessionState.connectedInhibited, .recovering, .emergencyStopLatched] := by
  unfold permittedState
  split
  · simp
  · split <;> simp

theorem Opens.known {s s₁ : SafetySession} {link : Link} {op : Op} (h : Opens s link op s₁) :
    s₁.connectionKnown = true := by
  obtain ⟨connection, henters⟩ := h.enters
  exact henters.known

theorem Opens.valid {s s₁ : SafetySession} {link : Link} {op : Op} (h : Opens s link op s₁) :
    s₁.configurationValid = true := by
  obtain ⟨connection, henters⟩ := h.enters
  exact henters.configurationValid.trans h.configured

theorem Opens.clock {s s₁ : SafetySession} {link : Link} {op : Op} (h : Opens s link op s₁) :
    s₁.lastObservedMonotonicNs = op.now := by
  obtain ⟨connection, henters⟩ := h.enters
  cases henters <;> rfl

end SafetySession

theorem Transition.coherent {s : SafetySession} {link : Link} {op : Op} {o : Outcome}
    (h : Transition s link op o) (hs : s.Coherent) : o.session.Coherent := by
  cases h with
  | unconfigured => exact hs
  | unconfiguredLatch hvalid => exact hs.unconfiguredLatch hvalid
  | notLatched => exact hs
  | clockRejected => exact hs.forgotten
  | clockRejectedPending hvalid _ _ _ _ hknown =>
    exact hs.forgotten.clearedPend hvalid hknown s.inhibitedState_mem _
  | disconnected _ _ _ hclock => exact (hs.observed hclock.2).dropped
  | declined hopens => exact hs.opens hopens
  | authorized hopens hlatched _ hzero =>
    exact (hs.opens hopens).grantAuthorization hopens.known hlatched hzero hopens.accepted.1
      hopens.clock.ge
  | feedbackAllowed hopens => exact (hs.opens hopens).noteAllowedFeedback _
  | inhibited hopens =>
    exact (hs.opens hopens).forgotten.clearedPend hopens.valid hopens.known
      (SafetySession.inhibitedState_mem _) _
  | inhibitedFaulted hopens => exact (hs.opens hopens).forgotten
  | stopped hopens =>
    exact ((hs.opens hopens).clearedPend hopens.valid hopens.known
      (SafetySession.permittedState_mem _) _).consumeSequence rfl _
  | revoked hopens =>
    exact ((hs.opens hopens).silenced.consumeSequence rfl _).clearedPend hopens.valid hopens.known
      (SafetySession.inhibitedState_mem _) _
  | unpermitted hopens _ hstate _ h =>
    exact ((hs.opens hopens).unpermitted hopens.valid hstate h).consumeSequence rfl _
  | admitted hopens hcommand => exact (hs.opens hopens).admitted hcommand hopens.clock.ge
  | readmitted hopens hcommand =>
    exact (hs.opens hopens).readmitted hopens.valid hcommand hopens.clock.ge
  | latchedDown _ _ htime => exact (hs.latched htime).dropped
  | latchedFaulted hvalid htime henters => exact (hs.latched htime).enters hvalid henters
  | latchedPending hvalid htime henters =>
    have hafter : SessionState.emergencyStopLatched ∈
        [SessionState.connectedInhibited, .recovering, .emergencyStopLatched] := by simp
    have h := ((hs.latched htime).enters hvalid henters).clearedPend
      (henters.configurationValid.trans hvalid) henters.known hafter
    cases henters <;> exact h _
  | reset hopens hzero => exact (hs.opens hopens).releaseEmergencyStop hopens.known hzero
  | idle hopens => exact hs.opens hopens
  | idleLatched hopens hzero _ hlatched =>
    exact (hs.opens hopens).idleLatched hlatched hopens.known hzero
  | retry hopens hzero hattempt => exact (hs.opens hopens).zeroAttempt hzero hattempt
  | watchdog hopens _ _ _ _ hattempt =>
    exact ((hs.opens hopens).clearedPend hopens.valid hopens.known
      (SafetySession.permittedState_mem _) _).zeroAttempt rfl hattempt
  | motionSent hopens => exact (hs.opens hopens).noteMotionComplete _
  | motionLost hopens => exact (hs.opens hopens).dropped
  | motionFailed hopens _ _ _ _ _ hattempt =>
    exact ((hs.opens hopens).silenced.clearedPend hopens.valid hopens.known (by simp) _).zeroAttempt
      rfl hattempt

namespace SafetySession

/-- The fields of a session before it looks at its transport. -/
def initial (config : SafetyConfig) (transport : Bool) : SafetySession :=
  { config := config
    transport := transport
    configurationValid := transport && safetyConfigIsValid config }

theorem construct_cases (config : SafetyConfig) (link : Link) :
    construct config (some link) = initial config true ∨
      (initial config true).configurationValid = true ∧
        (construct config (some link) = (initial config true).dropped ∨
          link.Up ∧
            construct config (some link) = (initial config true).renewed link.generation) := by
  have hconstruct : construct config (some link) =
      if !(initial config true).configurationValid then initial config true
      else ((initial config true).synchronizeConnection link).1 := rfl
  rw [hconstruct]
  split
  · exact .inl rfl
  · case isFalse hvalid =>
    rw [Bool.not_eq_true', Bool.not_eq_false] at hvalid
    refine .inr ⟨hvalid, ?_⟩
    by_cases hlink : link.Up
    · obtain ⟨s₁, connection, henters, hsync⟩ :=
        synchronizeConnection_of_up (s := initial config true) rfl hlink
      rw [hsync]
      cases henters with
      | unchanged _ hknown => exact absurd hknown (by simp [initial])
      | newGeneration => exact .inr ⟨hlink, rfl⟩
    · rw [synchronizeConnection_of_down hvalid hlink]
      exact .inl rfl

theorem initial_coherent (config : SafetyConfig) (transport : Bool) :
    (initial config transport).Coherent where
  configured := rfl
  unconfigured := by simp [initial]
  clock := by simp [initial]
  pending := by simp [initial]
  budget := by simp [initial]
  afterZero := by simp [initial]
  absent := by simp [initial]
  linked := by simp [initial]
  permission := by simp [initial]
  command := by simp [initial]
  receipt := by simp [initial]
  count := by simp [initial]
  intent := by simp [initial]

theorem construct_coherent (config : SafetyConfig) (link : Link) :
    (construct config (some link)).Coherent := by
  rcases construct_cases config link with heq | ⟨hvalid, heq | ⟨hlink, heq⟩⟩
  · rw [heq]
    exact initial_coherent config true
  · rw [heq]
    exact (initial_coherent config true).dropped
  · rw [heq]
    exact (initial_coherent config true).renewed hvalid hlink.2

end SafetySession

/-- The invariant of every session, over a transport that admits any links. -/
theorem coherent_of_run {admits : Link → Link → Prop} {config : SafetyConfig} {h : List Event}
    {w : World} (run : (sessionMachine admits config).Run h w) : w.session.Coherent := by
  refine run.invariant (P := fun _ w => w.session.Coherent) ?_ ?_
  · intro w hinit
    rcases hinit with hinit | hinit
    · rw [hinit]
      exact SafetySession.construct_coherent config w.link
    · rw [hinit]
      exact SafetySession.initial_coherent config false
  · intro h w e w' _ hw hstep
    obtain ⟨hbefore, _, rfl⟩ := hstep
    rw [← hbefore] at hw
    exact (perform_transition hw.wired e.link e.op).coherent hw

end WheeltecVcuSerial
