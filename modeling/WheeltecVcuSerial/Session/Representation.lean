import WheeltecVcuSerial.Session.ZeroFirst

namespace WheeltecVcuSerial

open SafetySession

namespace SafetySession

variable {s s₁ s' : SafetySession} {link link' : Link} {now : Int}

/-- The states that a latched emergency stop leaves possible. -/
def stoppedStates : List SessionState :=
  [.stopPending, .emergencyStopLatched, .faulted, .disconnected]

/-- What the state says about the length of a fresh run and about a latch. -/
structure Stated (s : SafetySession) : Prop where
  running : s.latestCommandValid = true → s.state = .recovering →
    s.consecutiveFreshCommands < s.config.freshCommandsRequired
  latched : s.configurationValid = true → s.emergencyStopLatched = true → s.state ∈ stoppedStates

namespace Stated

theorem of_stopped (hsilent : s.latestCommandValid = false) (hstate : s.state ∈ stoppedStates) :
    s.Stated :=
  ⟨by simp [hsilent], fun _ _ => hstate⟩

theorem of_unlatched (hsilent : s.latestCommandValid = false)
    (hlatched : s.emergencyStopLatched = false) : s.Stated :=
  ⟨by simp [hsilent], by simp [hlatched]⟩

theorem dropped (s : SafetySession) : s.dropped.Stated := of_stopped rfl (by simp [stoppedStates])

theorem enters {connection : ConnectionSync} (hs : s.Stated) (h : Enters s link s₁ connection) :
    s₁.Stated := by
  cases h with
  | unchanged => exact hs
  | newGeneration => exact of_stopped rfl (by simp [stoppedStates])

theorem opens {op : Op} (hs : s.Stated) (h : Opens s link op s₁) : s₁.Stated := by
  obtain ⟨connection, henters⟩ := h.enters
  have hobserved : (s.observed op.now).Stated := ⟨hs.running, hs.latched⟩
  exact hobserved.enters henters

theorem pend (hpending : s.zeroEpisodeActive = true → s.state = .stopPending)
    (hsilent : s.latestCommandValid = false) (after : SessionState) (earliest : Int) :
    (s.pend after earliest).Stated := by
  refine of_stopped hsilent ?_
  rw [pend_state]
  split
  · case isTrue hzero => simp [hpending hzero, stoppedStates]
  · simp [stoppedStates]

theorem zeroAttempt {outcome : WriteOutcome} {writes : List Write} (hs : s.Stated)
    (hsilent : s.latestCommandValid = false)
    (h : ZeroAttempt s link now outcome s' link' writes) : s'.Stated := by
  cases h with
  | waiting => exact hs
  | lost => exact dropped _
  | completed =>
    refine ⟨by simp [hsilent], fun _ hlatched => ?_⟩
    have hlatched : s.emergencyStopLatched = true := by simpa using hlatched
    simp [hlatched, stoppedStates]
  | exhausted => exact of_stopped hsilent (by simp [stoppedStates])
  | failed => exact ⟨hs.running, hs.latched⟩

theorem admitting {command : TimedMotionCommand} (hlatched : s.emergencyStopLatched = false) :
    (s.admitting command now).Stated := by
  rw [admitting_eq]
  refine ⟨fun _ hstate => ?_, by simp [hlatched]⟩
  simp only [enterState_state] at hstate
  split at hstate
  · simp at hstate
  · case isFalse hrun =>
    rw [not_le] at hrun
    exact hrun

end Stated

end SafetySession

theorem Transition.stated {s : SafetySession} {link : Link} {op : Op} {o : Outcome}
    (h : Transition s link op o) (hs : s.Coherent) (ht : s.Stated) : o.session.Stated := by
  have hsilent : ∀ {s₁ : SafetySession}, s₁.Coherent → s₁.zeroEpisodeActive = true →
      s₁.latestCommandValid = false := by
    intro s₁ hs₁ hzero
    by_contra hcommand
    have := (hs₁.command (by simpa using hcommand)).2.1
    simp [hs₁.pending.mp hzero] at this
  cases h with
  | unconfigured => exact ht
  | unconfiguredLatch hvalid => exact ⟨by simp, by simp [hvalid]⟩
  | notLatched => exact ht
  | clockRejected => exact ⟨by simp, ht.latched⟩
  | clockRejectedPending =>
    refine .pend ?_ rfl _ _
    exact hs.pending.mp
  | disconnected => exact .dropped _
  | declined hopens => exact ht.opens hopens
  | authorized hopens hlatched => exact .of_unlatched rfl hlatched
  | feedbackAllowed hopens => exact ⟨(ht.opens hopens).running, (ht.opens hopens).latched⟩
  | inhibited hopens =>
    refine .pend ?_ rfl _ _
    exact (hs.opens hopens).pending.mp
  | inhibitedFaulted hopens => exact ⟨by simp, (ht.opens hopens).latched⟩
  | stopped hopens =>
    refine .pend ?_ rfl _ _
    exact (hs.opens hopens).pending.mp
  | revoked hopens =>
    refine .pend ?_ rfl _ _
    exact (hs.opens hopens).pending.mp
  | unpermitted hopens hlatched => exact .of_unlatched rfl hlatched
  | admitted _ hcommand => exact .admitting hcommand.unlatched
  | readmitted _ hcommand => exact .admitting (s := clearMotionIntent _) hcommand.unlatched
  | latchedDown => exact .dropped _
  | latchedFaulted _ _ henters hfault =>
    refine .of_stopped ?_ (by simp [hfault, stoppedStates])
    cases henters <;> rfl
  | latchedPending hvalid htime henters =>
    refine .pend ((hs.latched htime).enters hvalid henters).pending.mp ?_ _ _
    cases henters <;> rfl
  | reset hopens => exact .of_unlatched rfl rfl
  | idle hopens => exact ht.opens hopens
  | idleLatched hopens _ _ hlatched =>
    exact .of_stopped ((hs.opens hopens).revoked_of_latched hlatched).2 (by simp [stoppedStates])
  | retry hopens hzero hattempt =>
    exact (ht.opens hopens).zeroAttempt (hsilent (hs.opens hopens) hzero) hattempt
  | watchdog hopens _ _ _ _ hattempt =>
    refine Stated.zeroAttempt (.pend ?_ ?_ _ _) rfl hattempt
    · exact (hs.opens hopens).pending.mp
    · rfl
  | motionSent hopens hready => exact ⟨(ht.opens hopens).running, (ht.opens hopens).latched⟩
  | motionLost => exact .dropped _
  | motionFailed hopens _ _ _ _ _ hattempt =>
    refine Stated.zeroAttempt (.pend ?_ ?_ _ _) rfl hattempt
    · exact (hs.opens hopens).pending.mp
    · rfl

namespace SafetySession

/-- The representation invariant of a session with a valid configuration. -/
structure Represented (s : SafetySession) : Prop where
  pending : s.state = .stopPending ↔ s.zeroEpisodeActive = true
  budget : s.zeroEpisodeActive = true →
    s.zeroAttempts < s.config.maximumZeroAttempts ∧ s.connectionKnown = true
  command : s.latestCommandValid = true →
    s.authorized = true ∧ s.zeroEpisodeActive = false ∧ s.emergencyStopLatched = false ∧
      s.authorizationMonotonicNs < s.latestCommand.createdMonotonicNs ∧
      (encodeCommand s.latestCommand.motion s.config.maxLinearSpeedMps).ok = true ∧
      s.latestFrame = (encodeCommand s.latestCommand.motion s.config.maxLinearSpeedMps).frame
  active : s.latestCommandValid = true →
    s.consecutiveFreshCommands = s.config.freshCommandsRequired → s.state = .active
  recovering : s.latestCommandValid = true →
    s.consecutiveFreshCommands < s.config.freshCommandsRequired → s.state = .recovering
  count : s.consecutiveFreshCommands ≤ s.config.freshCommandsRequired
  silent : s.latestCommandValid = false → s.consecutiveFreshCommands = 0
  latched : s.emergencyStopLatched = true → s.state ∈ stoppedStates

/-- Neither a command nor a part of a fresh run is left, and a `tick` passes on no motion frame. -/
structure Disarmed (s : SafetySession) : Prop where
  silent : s.latestCommandValid = false
  count : s.consecutiveFreshCommands = 0
  still : ∀ link now motionOutcome zeroOutcome,
    ∀ write ∈ (s.tick link now motionOutcome zeroOutcome).writes, write.kind = .zero

variable {s : SafetySession} {link : Link}

theorem Coherent.represented (hs : s.Coherent) (ht : s.Stated)
    (hvalid : s.configurationValid = true) : s.Represented where
  pending := hs.pending.symm
  budget := fun hzero => ⟨hs.budget hzero, hs.known_of_pending hzero⟩
  command := by
    intro hcommand
    obtain ⟨hactive, hstate, hpostdates, hencodes, _, _, hframe⟩ := hs.command hcommand
    have hsound : s.state ≠ .faulted := by
      rcases hstate with hstate | hstate <;> simp [hstate]
    have hsettled : ¬ s.zeroEpisodeActive = true := by
      intro hzero
      rcases hstate with hstate | hstate <;> simp [hs.pending.mp hzero] at hstate
    exact ⟨hs.authorized_of_active hvalid hsound hactive, by simpa using hsettled,
      (hs.permission hactive).2.1, hpostdates, hencodes, hframe⟩
  active := by
    intro hcommand hcount
    rcases (hs.command hcommand).2.1 with hstate | hstate
    · exact hstate
    · exact absurd hcount (ht.running hcommand hstate).ne
  recovering := by
    intro hcommand hcount
    rcases (hs.command hcommand).2.1 with hstate | hstate
    · exact absurd (hs.intent hstate (hs.command hcommand).1).2 hcount.ne
    · exact hstate
  count := hs.count.1
  silent := hs.count.2
  latched := ht.latched hvalid

theorem Coherent.disarmed (hs : s.Coherent) (hsilent : s.latestCommandValid = false) :
    s.Disarmed := by
  refine ⟨hsilent, hs.count.2 hsilent, fun link now motionOutcome zeroOutcome write hmem => ?_⟩
  by_contra hkind
  have htransition := perform_transition hs.wired link (.tick now motionOutcome zeroOutcome)
  have hkind : write.kind = .motion := by
    cases h : write.kind with
    | motion => rfl
    | zero => exact absurd h hkind
  obtain ⟨_, _, _, _, _, hready, _⟩ := htransition.motion hmem hkind
  exact absurd (commandFresh_of_isFresh hready.command).valid (by simp [hsilent])

/-- A stop leaves no command behind, whether it is taken or not. -/
theorem Coherent.silent_of_stop {op : Op} (hs : s.Coherent)
    (hstop : ∀ response, op.stops response = true) :
    (s.perform link op).session.latestCommandValid = false := by
  have htransition := perform_transition hs.wired link op
  generalize s.perform link op = o at htransition
  cases htransition with
  | unconfigured hvalid =>
    by_contra hcommand
    have := (hs.permission (hs.command (by simpa using hcommand)).1).1
    simp [hs.unconfigured hvalid] at this
  | declined hopens _ _ hfault =>
    by_contra hcommand
    have := ((hs.opens hopens).command (by simpa using hcommand)).2.1
    simp [hfault (hstop _)] at this
  | feedbackAllowed _ _ hallowed =>
    have := hstop .nothing
    simp [Op.stops, inhibits_of_allowed hallowed] at this
  | notLatched => simpa [Op.stops] using hstop .nothing
  | admitted => simpa [Op.stops] using hstop .nothing
  | readmitted => simpa [Op.stops] using hstop .nothing
  | idle => simpa [Op.stops] using hstop .nothing
  | idleLatched => simpa [Op.stops] using hstop .nothing
  | retry => simpa [Op.stops] using hstop .nothing
  | watchdog => simpa [Op.stops] using hstop .nothing
  | motionSent => simpa [Op.stops] using hstop .nothing
  | motionFailed => simpa [Op.stops] using hstop .nothing
  | latchedFaulted _ _ henters => cases henters <;> rfl
  | latchedPending _ _ henters => cases henters <;> rfl
  | _ => rfl

end SafetySession

variable {admits : Link → Link → Prop} {config : SafetyConfig} {h : List Event} {w : World}

theorem stated_of_run (run : (sessionMachine admits config).Run h w) : w.session.Stated := by
  refine run.invariant (P := fun _ w => w.session.Stated) ?_ ?_
  · intro w hinit
    have hblank := blank_of_init hinit
    exact .of_unlatched hblank.silent hblank.unlatched
  · intro h w e w' run hw hstep
    have htransition := step_transition run hstep
    obtain ⟨_, _, rfl⟩ := hstep
    exact htransition.stated (coherent_of_run run) hw

/-- Every session with a valid configuration keeps its representation invariant, and no stop leaves
a command behind. -/
theorem represented_of_run (run : (sessionMachine admits config).Run h w)
    (hvalid : w.session.configurationValid = true) :
    w.session.Represented ∧ ∀ link now,
      (w.session.requestStop link now).1.Disarmed ∧ (w.session.disarm link now).1.Disarmed := by
  have hs := coherent_of_run run
  refine ⟨hs.represented (stated_of_run run) hvalid, fun link now => ⟨?_, ?_⟩⟩
  · have hafter : (w.session.requestStop link now).1.Coherent :=
      (perform_transition hs.wired link (.requestStop now)).coherent hs
    have hsilent : (w.session.perform link (.requestStop now)).session.latestCommandValid = false :=
      hs.silent_of_stop fun _ => rfl
    exact hafter.disarmed hsilent
  · have hafter : (w.session.disarm link now).1.Coherent :=
      (perform_transition hs.wired link (.disarm now)).coherent hs
    have hsilent : (w.session.perform link (.disarm now)).session.latestCommandValid = false :=
      hs.silent_of_stop fun _ => rfl
    exact hafter.disarmed hsilent

theorem represented_of_run_replayed :
    (steadyReplay movingCalls).2.session.Represented ∧ ∀ link now,
      ((steadyReplay movingCalls).2.session.requestStop link now).1.Disarmed ∧
        ((steadyReplay movingCalls).2.session.disarm link now).1.Disarmed :=
  represented_of_run moving_run (by decide +kernel)

end WheeltecVcuSerial
