import WheeltecVcuSerial.Session.ZeroFirst

namespace WheeltecVcuSerial

namespace SafetySession

variable {s : SafetySession} {link : Link} {connection : ConnectionSync} {now later : Int}
  {command : TimedMotionCommand}

theorem acceptCommand_zeroEpisodeActive (s : SafetySession) (command : TimedMotionCommand)
    (frame : CommandFrame) (now : Int) :
    (s.acceptCommand command frame now).1.zeroEpisodeActive = s.zeroEpisodeActive := by
  simp only [acceptCommand]
  split <;> simp

/-- `tick` reaches its watchdog and finds the feedback or the command lapsed. -/
structure Lapses (s : SafetySession) (link : Link) (now : Int) : Prop where
  active : s.state = .active
  accepted : s.AcceptsTime now
  up : link.Up
  known : s.connectionKnown = true
  generation : link.generation = s.connectionGeneration
  permitted : s.authorized = true
  lapsed : ¬ (s.feedbackIsFresh now = true ∧ s.commandIsFresh now = true)

/-- A zero attempt is due at `now` on this link. -/
structure Due (s : SafetySession) (link : Link) (now : Int) : Prop where
  configured : s.configurationValid = true
  transport : s.transport = true
  accepted : s.AcceptsTime now
  up : link.Up
  known : s.connectionKnown = true
  generation : link.generation = s.connectionGeneration
  pending : s.zeroEpisodeActive = true
  next : s.nextZeroAttemptNs ≤ now

/-- A zero episode is pending, and the next `tick` from `now` on writes the exact zero frame. -/
structure ZeroFollows (s : SafetySession) (link : Link) (now : Int) : Prop where
  pending : s.zeroEpisodeActive = true
  written : ∀ later motionOutcome zeroOutcome, now ≤ later →
    ∃ write, (s.tick link later motionOutcome zeroOutcome).writes = [write] ∧
      write.kind = .zero ∧ write.buffer = makeZeroCommandFrame.toList

theorem enter_of_known (htransport : s.transport = true) (hclock : s.AcceptsTime now)
    (hlink : link.Up) (hknown : s.connectionKnown = true)
    (hgeneration : link.generation = s.connectionGeneration) :
    s.enter link now = .ready (s.observed now) .unchanged := by
  obtain ⟨s₁, connection, henters, heq⟩ := enter_of_up htransport hclock hlink
  rw [heq]
  cases henters with
  | unchanged => rfl
  | newGeneration _ hnew => exact absurd hgeneration (hnew hknown)

theorem Due.of_le (h : s.Due link now) (hlater : now ≤ later) : s.Due link later :=
  { h with
    accepted := ⟨h.accepted.1.trans_le hlater, h.accepted.2.trans hlater⟩
    next := h.next.trans hlater }

theorem Due.writes (h : s.Due link now) (motionOutcome zeroOutcome : WriteOutcome) :
    (s.tick link now motionOutcome zeroOutcome).writes =
      [(s.observed now).zeroWrite link now zeroOutcome] := by
  have henter := enter_of_known h.transport h.accepted h.up h.known h.generation
  have hdue : ¬ now < s.nextZeroAttemptNs := not_lt.mpr h.next
  simp only [tick, h.configured, henter, observed_zeroEpisodeActive, h.pending, attemptZero,
    observed_nextZeroAttemptNs, Bool.not_true, Bool.false_eq_true, if_true, if_false, if_neg hdue]

theorem Due.zeroFollows (h : s.Due link now) : s.ZeroFollows link now := by
  refine ⟨h.pending, fun later motionOutcome zeroOutcome hlater => ?_⟩
  exact ⟨_, (h.of_le hlater).writes motionOutcome zeroOutcome, rfl, rfl⟩

/-- `submit` from the sequence id on, for a command that passes all checks but the order with the
held one. -/
theorem submitSequenced_of_admissible (hcommand : Admissible s command now)
    (hconnection : connection ≠ .newGeneration) :
    s.submitSequenced link connection command now =
      let consumed := s.consumeSequence command.sequenceId
      let frame := (encodeCommand command.motion s.config.maxLinearSpeedMps).frame
      if s.latestCommandValid && s.previousIsStale now then
        consumed.clearMotionIntent.acceptCommand command frame now
      else if s.latestCommandValid &&
          command.createdMonotonicNs ≤ s.latestCommand.createdMonotonicNs then
        consumed.rejectRevoking link now .timestampInvalid
      else consumed.acceptCommand command frame now := by
  have hpermitted : (s.consumeSequence command.sequenceId).authorized = true := hcommand.permitted
  have hfeedback : (s.consumeSequence command.sequenceId).feedbackIsFresh now = true :=
    hcommand.feedback
  simp only [submitSequenced]
  rw [if_neg (by simp [hcommand.created, hcommand.receipt, hcommand.order]),
    if_neg (by simp [hcommand.deadline, hcommand.age]),
    if_neg (by simp [hpermitted, hcommand.settled, hconnection]),
    if_neg (by simp [hcommand.postdates]),
    if_neg (by simp [hcommand.yawFinite, hcommand.yawLimit, hcommand.lateral]),
    if_neg (by simp [hcommand.encodes]), if_neg (by simp [hcommand.moves]),
    if_neg (by simp [hfeedback])]
  rfl

/-- A command that does not go behind the held one opens no zero episode. -/
theorem submitSequenced_settled (hcommand : Admissible s command now)
    (hconnection : connection ≠ .newGeneration)
    (horder : s.latestCommandValid = true → s.previousIsStale now = false →
      s.latestCommand.createdMonotonicNs < command.createdMonotonicNs) :
    (s.submitSequenced link connection command now).1.zeroEpisodeActive = false := by
  rw [submitSequenced_of_admissible hcommand hconnection]
  dsimp only
  split
  · rw [acceptCommand_zeroEpisodeActive]
    exact hcommand.settled
  · case isFalse hprevious =>
    rw [if_neg ?_, acceptCommand_zeroEpisodeActive]
    · exact hcommand.settled
    · simp only [Bool.and_eq_true, decide_eq_true_eq, not_and, not_le,
        Bool.not_eq_true] at hprevious ⊢
      exact fun hvalid => horder hvalid (hprevious hvalid)

namespace Lapses

theorem configured (h : s.Lapses link now) (hs : s.Coherent) : s.configurationValid = true := by
  by_contra hvalid
  have := hs.unconfigured (by simpa using hvalid)
  simp [h.known] at this

theorem settled (h : s.Lapses link now) (hs : s.Coherent) : s.zeroEpisodeActive = false := by
  by_contra hzero
  have := hs.pending.mp (by simpa using hzero)
  simp [h.active] at this

theorem enter_eq (h : s.Lapses link now) (hs : s.Coherent) :
    s.enter link now = .ready (s.observed now) .unchanged :=
  enter_of_known (hs.wired (h.configured hs)) h.accepted h.up h.known h.generation

/-- A command that `submit` takes while the held one has lapsed leaves no zero frame to send. -/
theorem submit_admissible (h : s.Lapses link now) (hs : s.Coherent)
    (hcommand : Admissible (s.observed now) command now) :
    (s.submit link command now).1.zeroEpisodeActive = false := by
  have hunlatched := hcommand.unlatched
  have hsequence := hcommand.sequence
  simp only [submit, h.configured hs, h.enter_eq hs, hunlatched, if_neg hcommand.sound,
    Bool.not_true, Bool.false_eq_true, if_false]
  rw [if_neg (by simp only [Bool.or_eq_true, decide_eq_true_eq]; omega)]
  refine submitSequenced_settled hcommand (by simp) fun hvalid hprevious => ?_
  have hauthorized := hs.command hvalid
  have hpositive := hs.permission hauthorized.1
  have hreceipt := hs.receipt hvalid
  have hage := hcommand.age
  have hclock := h.accepted.2
  have hfeedback : s.feedbackIsFresh now = true := hcommand.feedback
  have hlapsed : ¬ s.commandIsFresh now = true := fun hfresh => h.lapsed ⟨hfeedback, hfresh⟩
  have hvalid : s.latestCommandValid = true := hvalid
  simp only [commandIsFresh, hvalid, Bool.true_and, Bool.and_eq_true, decide_eq_true_eq] at hlapsed
  simp only [previousIsStale, observed_latestCommand, observed_latestCommandReceiptNs,
    observed_config, Bool.or_eq_false_iff, decide_eq_false_iff_not, not_lt] at hprevious hage ⊢
  omega

/-- Any other command makes `submit` open the zero episode that `tick` would have opened. -/
theorem submit_due (h : s.Lapses link now) (hs : s.Coherent)
    (hcommand : ¬ Admissible (s.observed now) command now) :
    (s.submit link command now).1.Due link now := by
  have hvalid := h.configured hs
  have hzero := h.settled hs
  have hunlatched : s.emergencyStopLatched = false := (authorized_iff.mp h.permitted).unlatched
  have hdue : ∀ (t : SafetySession) (after : SessionState),
      t.configurationValid = s.configurationValid → t.transport = s.transport →
      t.lastObservedMonotonicNs = now → t.connectionKnown = true →
      t.connectionGeneration = s.connectionGeneration → t.zeroEpisodeActive = false →
      (t.pend after now).Due link now := by
    intro t after hconfigured htransport hclock hknown hgeneration hidle
    exact
      { configured := hconfigured.trans hvalid
        transport := htransport.trans (hs.wired hvalid)
        accepted := ⟨h.accepted.1, by simp [hclock]⟩
        up := h.up
        known := hknown
        generation := h.generation.trans hgeneration.symm
        pending := rfl
        next := by simp [hidle, h.accepted.1.le] }
  have htransition := perform_transition hs.wired link (.submit command now)
  have hsession : (s.perform link (.submit command now)).session =
    (s.submit link command now).1 := rfl
  rw [← hsession]
  generalize s.perform link (.submit command now) = o at htransition
  have hopened : ∀ {s₁}, Opens s link (.submit command now) s₁ → s₁ = s.observed now :=
    fun hopens => hopens.eq_observed h.known h.generation
  cases htransition with
  | unconfigured hinvalid => simp [hvalid] at hinvalid
  | clockRejected _ _ _ hclock => exact absurd h.accepted hclock
  | clockRejectedPending _ _ _ hclock => exact absurd h.accepted hclock
  | disconnected _ _ _ _ hlink => exact absurd h.up hlink
  | declined hopens _ _ _ hreason =>
    obtain rfl := hopened hopens
    rcases hreason command now rfl with hlatched | hfault
    · simp [hunlatched] at hlatched
    · simp [h.active] at hfault
  | stopped hopens =>
    obtain rfl := hopened hopens
    exact hdue _ _ rfl rfl rfl h.known rfl hzero
  | revoked hopens =>
    obtain rfl := hopened hopens
    exact hdue _ _ rfl rfl rfl h.known rfl hzero
  | unpermitted hopens _ _ _ hrefused =>
    obtain rfl := hopened hopens
    have hpermitted : (s.observed now).authorized = true := h.permitted
    simp [hpermitted, hzero] at hrefused
  | admitted hopens hadmissible =>
    obtain rfl := hopened hopens
    exact absurd hadmissible hcommand
  | readmitted hopens hadmissible =>
    obtain rfl := hopened hopens
    exact absurd hadmissible hcommand

end Lapses

end SafetySession

open SafetySession

variable {admits : Link → Link → Prop} {config : SafetyConfig} {h : List Event} {w : World}

/-- Over an expired watchdog `submit` leads to a zero frame exactly when it refuses the command. -/
theorem submit_over_lapsed {command : TimedMotionCommand} {link : Link} {now : Int}
    (run : (sessionMachine admits config).Run h w) (hlapses : w.session.Lapses link now) :
    (w.session.submit link command now).1.ZeroFollows link now ↔
      ¬ Admissible (w.session.observed now) command now := by
  have hs := coherent_of_run run
  constructor
  · intro hfollows hcommand
    have := hlapses.submit_admissible hs hcommand
    simp [hfollows.pending] at this
  · intro hcommand
    exact (hlapses.submit_due hs hcommand).zeroFollows

theorem moving_lapses : (steadyReplay movingCalls).2.session.Lapses steadyLink 145 where
  active := by decide +kernel
  accepted := by decide +kernel
  up := by simp [Link.Up, steadyLink]
  known := by decide +kernel
  generation := by decide +kernel
  permitted := by decide +kernel
  lapsed := by decide +kernel

theorem submit_over_lapsed_replayed :
    ((steadyReplay movingCalls).2.session.submit steadyLink
      (forwardCommand 2 145) 145).1.ZeroFollows steadyLink 145 := by
  refine (submit_over_lapsed moving_run moving_lapses).mpr fun hcommand => ?_
  exact absurd hcommand.sequence (by decide +kernel)

/-- A fresh command restarts the run of commands one nanosecond after the held one has expired. -/
theorem submit_steps_over_lapsed :
    ¬ ∀ (config : SafetyConfig) (h : List Event) (w : World) (link : Link) (now : Int)
      (command : TimedMotionCommand), (sessionMachine Link.Evolves config).Run h w →
      w.session.Lapses link now → (w.session.submit link command now).1.ZeroFollows link now := by
  intro hclaim
  have hpending :=
    (hclaim _ _ _ _ _ (forwardCommand 3 145) moving_run moving_lapses).pending
  exact absurd hpending (by decide +kernel)

end WheeltecVcuSerial
