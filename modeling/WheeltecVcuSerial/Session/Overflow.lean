import WheeltecVcuSerial.Session.Arithmetic
import WheeltecVcuSerial.Session.NoDeadEnd
import WheeltecVcuSerial.Session.Replay

namespace WheeltecVcuSerial

open Arithmetic SafetySession

/-- An answer of `writeAll` whose completion time is a value of `int64_t`. -/
def WriteOutcome.Int64 (outcome : WriteOutcome) : Prop :=
  ∀ result ∈ outcome.returned, Signed 64 result.completionMonotonicNs

/-- A call whose time, and those of its answers, are values of `int64_t`. -/
def Op.Int64 : Op → Prop
  | .tick now motionOutcome zeroOutcome => Signed 64 now ∧ motionOutcome.Int64 ∧ zeroOutcome.Int64
  | op => Signed 64 op.now

theorem WriteOutcome.Int64.completion {outcome : WriteOutcome} {now : Int} (h : outcome.Int64)
    (hnow : Signed 64 now) : Signed 64 (outcome.ioResult now).completionMonotonicNs := by
  obtain ⟨returned, link⟩ := outcome
  cases returned with
  | none => exact hnow
  | some result => exact h result rfl

theorem signed_of_duration {value : Int} (hpos : 0 < value) (hle : value ≤ maximumDurationNs) :
    Signed 64 value := by
  rw [maximumDurationNs] at hle
  refine ⟨?_, ?_⟩ <;> norm_num <;> omega

theorem saturatingAdd_eq_min {value positiveDelta : Int} (hpos : 0 < positiveDelta) :
    saturatingAdd value positiveDelta = min (value + positiveDelta) int64Max := by
  rw [saturatingAdd, if_neg hpos.not_ge]
  split <;> omega

/-- The latch generations end at the last value of their type. -/
def SafetySession.Latches (s : SafetySession) : Prop := s.emergencyStopLatchGeneration ≤ uint64Max

/-- What the calls of a run find. -/
structure SafetySession.Ordered (s : SafetySession) : Prop where
  coherent : s.Coherent
  motion : s.MotionBehind
  latches : s.Latches

namespace Checked

variable {s s₁ : SafetySession} {link : Link} {now : Int} {result : CycleResult}
  {motionOutcome zeroOutcome : WriteOutcome} {command : TimedMotionCommand}

theorem saturatingAdd_eq {value positiveDelta : Int} (hvalue : Signed 64 value)
    (hdelta : Signed 64 positiveDelta) :
    saturatingAdd value positiveDelta =
      some (WheeltecVcuSerial.saturatingAdd value positiveDelta) := by
  obtain ⟨hlow, hhigh⟩ := hvalue
  obtain ⟨-, hdelta⟩ := hdelta
  norm_num at hlow hhigh hdelta
  refine ite_eq_some (fun _ => rfl) fun hpos => ?_
  rw [not_le] at hpos
  have hroom : Signed 64 (int64Max - positiveDelta) := by
    rw [int64Max]
    refine ⟨?_, ?_⟩ <;> norm_num <;> omega
  refine bind_eq (sub_eq hroom) (ite_eq_some (fun _ => rfl) fun hfits => add_eq ?_)
  rw [not_lt, int64Max] at hfits
  refine ⟨?_, ?_⟩ <;> norm_num <;> omega

theorem feedbackIsFresh_eq (hnow : Signed 64 now) :
    feedbackIsFresh s now = some (s.feedbackIsFresh now) := by
  refine both_eq fun hseen => ?_
  simp only [Bool.and_eq_true, decide_eq_true_eq] at hseen
  rw [elapsed_eq hnow hseen.1.2.le hseen.2]
  rfl

/-- The latest command has been created after a grant, and so after time zero. -/
theorem created_pos (hs : s.Coherent) (hcommand : s.latestCommandValid = true) :
    0 < s.latestCommand.createdMonotonicNs := by
  obtain ⟨hactive, -, hlater, -⟩ := hs.command hcommand
  exact (hs.permission hactive).2.2.2.1.trans hlater

theorem commandIsFresh_eq (hs : s.Coherent) (hnow : Signed 64 now) :
    commandIsFresh s now = some (s.commandIsFresh now) := by
  rw [SafetySession.commandIsFresh, Bool.and_assoc]
  refine both_eq fun hvalid => ?_
  simp only [Bool.and_eq_true, decide_eq_true_eq] at hvalid
  obtain ⟨⟨⟨⟨hcommand, hreceived⟩, hcreated⟩, hreceipt⟩, -⟩ := hvalid
  refine bind_eq (elapsed_eq hnow (created_pos hs hcommand).le hcreated) (both_eq fun _ => ?_)
  rw [elapsed_eq hnow hreceived.le hreceipt]
  rfl

theorem previousIsStale_eq (hreceived : 0 ≤ s.latestCommandReceiptNs)
    (hreceipt : s.latestCommandReceiptNs ≤ now) (hnow : Signed 64 now) :
    previousIsStale s now = some (s.previousIsStale now) := by
  refine either_eq fun _ => ?_
  rw [elapsed_eq hnow hreceived hreceipt]
  rfl

theorem boundedWriteDeadline_eq (hvalid : s.config.Valid)
    (hnow : Signed 64 now) (commandDeadlineNs : Int) :
    boundedWriteDeadline s now commandDeadlineNs =
      some (s.boundedWriteDeadline now commandDeadlineNs) := by
  rw [boundedWriteDeadline,
    saturatingAdd_eq hnow (signed_of_duration hvalid.writePositive hvalid.write)]
  rfl

/-! ### Commands -/

theorem acceptCommand_eq (hvalid : s.config.Valid) (frame : CommandFrame) :
    acceptCommand s command frame now = some (s.acceptCommand command frame now) := by
  have hrequired := hvalid.required
  have hcount : nextCount s = some s.nextCount :=
    ite_eq_some (fun _ => increment_eq (by omega)) fun _ => rfl
  rw [acceptCommand, holdCommand, hcount]
  exact ite_eq_some (fun _ => rfl) fun _ => rfl

theorem submitSequenced_eq (hs : s.Coherent) (hvalid : s.config.Valid)
    (hclock : s.lastObservedMonotonicNs ≤ now) (hnow : Signed 64 now)
    (connection : ConnectionSync) :
    submitSequenced s link connection command now =
      some (s.submitSequenced link connection command now) := by
  refine ite_eq_some (fun _ => rfl) fun htimes => ?_
  simp only [Bool.or_eq_true, decide_eq_true_eq, not_or, not_le, not_lt] at htimes
  obtain ⟨⟨hcreated, hreceipt⟩, -⟩ := htimes
  refine bind_eq (either_eq fun _ => bind_eq (elapsed_eq hnow hcreated.le hreceipt) rfl) ?_
  refine ite_eq_some (fun _ => rfl) fun _ => ite_eq_some (fun _ => rfl) fun _ => ?_
  refine ite_eq_some (fun _ => rfl) fun _ => ite_eq_some (fun _ => rfl) fun _ => ?_
  refine ite_eq_some (fun _ => rfl) fun _ => ite_eq_some (fun _ => rfl) fun _ => ?_
  refine bind_eq (feedbackIsFresh_eq hnow) (ite_eq_some (fun _ => rfl) fun _ => ?_)
  refine bind_eq (both_eq fun hcommand => previousIsStale_eq ?_ ?_ hnow) ?_
  · exact (created_pos hs hcommand).le.trans (hs.receipt hcommand).2.1
  · exact (hs.receipt hcommand).2.2.trans hclock
  refine ite_eq_some (fun _ => acceptCommand_eq (by exact hvalid) _) fun _ => ?_
  exact ite_eq_some (fun _ => rfl) fun _ => acceptCommand_eq (by exact hvalid) _

/-! ### Zero frames -/

/-- A zero episode that is pending has attempts left. -/
def Budgeted (s : SafetySession) : Prop :=
  s.zeroEpisodeActive = true → s.zeroAttempts < s.config.maximumZeroAttempts

theorem Budgeted.beginZeroEpisode (hbudget : Budgeted s) (hvalid : s.config.Valid) (link : Link)
    (after : SessionState) (earliest : Int) :
    Budgeted (s.beginZeroEpisode link after earliest) ∧
      (s.beginZeroEpisode link after earliest).config.Valid := by
  unfold SafetySession.beginZeroEpisode
  split
  · exact ⟨hbudget, hvalid⟩
  split
  · exact ⟨hbudget, hvalid⟩
  split
  · split
    · exact ⟨hbudget, hvalid⟩
    · exact ⟨hbudget, hvalid⟩
  · exact ⟨fun _ => hvalid.attemptsPositive, hvalid⟩

theorem concludeZero_eq {zeroResult : IoResult} (hvalid : s.config.Valid) (hnow : Signed 64 now)
    (hcompletion : Signed 64 zeroResult.completionMonotonicNs) :
    concludeZero s link now result zeroResult =
      some (s.concludeZero link now result zeroResult) := by
  have hconfig : (if zeroResult.completionMonotonicNs > s.lastObservedMonotonicNs then
      s.observed zeroResult.completionMonotonicNs else s).config = s.config := by
    split <;> rfl
  refine ite_eq_some (fun _ => rfl) fun _ => ite_eq_some (fun _ => rfl) fun _ => ?_
  refine ite_eq_some (fun _ => rfl) fun _ => bind_eq (saturatingAdd_eq ?_ ?_) rfl
  · exact hnow.max hcompletion
  · rw [hconfig]
    exact signed_of_duration hvalid.retryPositive hvalid.retry

theorem attemptZero_eq (hbudget : Budgeted s) (hvalid : s.config.Valid) (hnow : Signed 64 now)
    (hzero : zeroOutcome.Int64) :
    attemptZero s link now result zeroOutcome =
      some (s.attemptZero link now result zeroOutcome) := by
  refine ite_eq_some (fun _ => rfl) fun hactive => ite_eq_some (fun _ => rfl) fun _ => ?_
  have hattempts := hbudget (by simpa using hactive)
  have hmaximum := hvalid.attempts
  refine bind_eq (increment_eq (by omega)) ?_
  refine bind_eq (boundedWriteDeadline_eq (by exact hvalid) hnow _) ?_
  exact bind_eq (concludeZero_eq (by exact hvalid) hnow (hzero.completion hnow)) rfl

/-! ### Calls -/

theorem writeMotion_eq (hbudget : Budgeted s) (hvalid : s.config.Valid) (hnow : Signed 64 now)
    (hmotion : motionOutcome.Int64) (hzero : zeroOutcome.Int64) :
    writeMotion s link now result motionOutcome zeroOutcome =
      some (s.writeMotion link now result motionOutcome zeroOutcome) := by
  refine bind_eq (boundedWriteDeadline_eq hvalid hnow _) ?_
  refine ite_eq_some (fun _ => rfl) fun _ => ite_eq_some (fun _ => rfl) fun _ => ?_
  obtain ⟨hpending, hconfig⟩ := Budgeted.beginZeroEpisode
    (s := s.revokeAuthorization.clearMotionIntent) hbudget hvalid motionOutcome.link
    .connectedInhibited (max now (motionOutcome.ioResult now).completionMonotonicNs)
  exact bind_eq (attemptZero_eq hpending hconfig (hnow.max (hmotion.completion hnow)) hzero) rfl

theorem authorize_eq (hnow : Signed 64 now) (token : Nat) :
    authorize s link token now = some (s.authorize link token now) := by
  refine ite_eq_some (fun _ => rfl) fun _ => ?_
  cases s.enter link now with
  | clockInvalid s₁ => rfl
  | disconnected s₁ => rfl
  | ready s₁ connection =>
    refine ite_eq_some (fun _ => rfl) fun _ => ite_eq_some (fun _ => rfl) fun _ => ?_
    refine ite_eq_some (fun _ => rfl) fun _ => ite_eq_some (fun _ => rfl) fun _ => ?_
    exact bind_eq (feedbackIsFresh_eq hnow) (ite_eq_some (fun _ => rfl) fun _ => rfl)

theorem submit_eq (hs : s.Ordered) (hnow : Signed 64 now) :
    submit s link command now = some (s.submit link command now) := by
  refine ite_eq_some (fun _ => rfl) fun hconfigured => ?_
  have hvalid : s.configurationValid = true := by simpa using hconfigured
  rcases enter_cases hvalid (hs.coherent.wired hvalid) link now with
    ⟨hclock, heq⟩ | ⟨hclock, hlink, heq⟩ | ⟨s₁, connection, hclock, henters, heq⟩
  · rw [heq]
  · rw [heq]
  rw [heq]
  have hopens : Opens s link (.submit command now) s₁ := ⟨hvalid, hvalid, hclock, _, henters⟩
  have hs₁ := hs.coherent.opens hopens
  refine ite_eq_some (fun _ => rfl) fun _ => ite_eq_some (fun _ => rfl) fun _ => ?_
  refine ite_eq_some (fun _ => rfl) fun _ => ?_
  exact submitSequenced_eq hs₁ (hs₁.limits hopens.valid) hopens.clock.le hnow connection

theorem latchEmergencyStop_eq (hs : s.Ordered) :
    latchEmergencyStop s link now = some (s.latchEmergencyStop link now) := by
  have hlatches : s.emergencyStopLatchGeneration ≤ uint64Max := hs.latches
  have hgeneration :
      nextLatchGeneration s = some s.assertEmergencyStop.emergencyStopLatchGeneration :=
    ite_eq_some (fun hne => increment_eq (by rw [uint64Max] at *; omega)) fun _ => rfl
  have hassert : assertEmergencyStop s = some s.assertEmergencyStop := by
    rw [assertEmergencyStop, hgeneration]
    rfl
  refine bind_eq hassert (ite_eq_some (fun _ => rfl) fun _ => ?_)
  dsimp only
  generalize SafetySession.synchronizeConnection _ link = synchronized
  obtain ⟨s₁, connection⟩ := synchronized
  cases connection with
  | disconnected => rfl
  | newGeneration => exact ite_eq_some (fun _ => rfl) fun _ => rfl
  | unchanged => exact ite_eq_some (fun _ => rfl) fun _ => rfl

theorem resetEmergencyStop_eq (hnow : Signed 64 now) (token : Nat) :
    resetEmergencyStop s link token now = some (s.resetEmergencyStop link token now) := by
  refine ite_eq_some (fun _ => rfl) fun _ => ?_
  cases s.enter link now with
  | clockInvalid s₁ => rfl
  | disconnected s₁ => rfl
  | ready s₁ connection =>
    refine bind_eq (either_eq fun _ => bind_eq (feedbackIsFresh_eq hnow) rfl) ?_
    exact ite_eq_some (fun _ => rfl) fun _ => rfl

theorem tick_eq (hs : s.Ordered) (hnow : Signed 64 now) (hmotion : motionOutcome.Int64)
    (hzero : zeroOutcome.Int64) :
    tick s link now motionOutcome zeroOutcome =
      some (s.tick link now motionOutcome zeroOutcome) := by
  refine ite_eq_some (fun _ => rfl) fun hconfigured => ?_
  have hvalid : s.configurationValid = true := by simpa using hconfigured
  rcases enter_cases hvalid (hs.coherent.wired hvalid) link now with
    ⟨hclock, heq⟩ | ⟨hclock, hlink, heq⟩ | ⟨s₁, connection, hclock, henters, heq⟩
  · rw [heq]
  · rw [heq]
  rw [heq]
  have hopens : Opens s link (.tick now motionOutcome zeroOutcome) s₁ :=
    ⟨hvalid, hvalid, hclock, _, henters⟩
  have hs₁ := hs.coherent.opens hopens
  have hlimits := hs₁.limits hopens.valid
  have hbehind : s₁.lastMotionHostWriteCompletionNs ≤ now :=
    (hopens.motionBehind hs.motion).1.trans hopens.clock.le
  have hstopping : ∀ after, attemptZero (s₁.clearMotionIntent.beginZeroEpisode link after now) link
      now { state := s.state } zeroOutcome =
        some ((s₁.clearMotionIntent.beginZeroEpisode link after now).attemptZero link now
          { state := s.state } zeroOutcome) := by
    intro after
    obtain ⟨hpending, hconfig⟩ := Budgeted.beginZeroEpisode (s := s₁.clearMotionIntent)
      hs₁.budget hlimits link after now
    exact attemptZero_eq hpending hconfig hnow hzero
  refine ite_eq_some (fun _ => attemptZero_eq hs₁.budget hlimits hnow hzero) fun _ => ?_
  refine ite_eq_some (fun _ => rfl) fun _ => ite_eq_some (fun _ => rfl) fun _ => ?_
  refine ite_eq_some (fun _ => rfl) fun _ => ite_eq_some (fun _ => hstopping _) fun _ => ?_
  refine bind_eq (feedbackIsFresh_eq hnow) ?_
  refine bind_eq (either_eq fun _ => bind_eq (commandIsFresh_eq hs₁ hnow) rfl) ?_
  refine ite_eq_some (fun _ => hstopping _) fun _ => ?_
  refine bind_eq (both_eq fun hsent => bind_eq (elapsed_eq hnow ?_ hbehind) rfl) ?_
  · exact (of_decide_eq_true hsent).le
  exact ite_eq_some (fun _ => rfl) fun _ => writeMotion_eq hs₁.budget hlimits hnow hmotion hzero

theorem perform_eq (hs : s.Ordered) {op : Op} (hop : op.Int64) :
    perform s link op = some (s.perform link op) := by
  cases op with
  | authorize token now => exact bind_eq (authorize_eq hop token) rfl
  | submit command now => exact bind_eq (submit_eq hs hop) rfl
  | latchEmergencyStop now => exact bind_eq (latchEmergencyStop_eq hs) rfl
  | resetEmergencyStop token now => exact bind_eq (resetEmergencyStop_eq hop token) rfl
  | tick now motionOutcome zeroOutcome => exact bind_eq (tick_eq hs hop.1 hop.2.1 hop.2.2) rfl
  | disarm now => rfl
  | requestStop now => rfl
  | observeFeedback frame now => rfl

end Checked

namespace SafetySession

variable {s s₁ s' : SafetySession} {link link' : Link} {now : Int}

theorem Enters.latchGeneration {connection : ConnectionSync} (h : Enters s link s₁ connection) :
    s₁.emergencyStopLatchGeneration = s.emergencyStopLatchGeneration := by
  cases h <;> rfl

theorem Opens.latchGeneration {op : Op} (h : Opens s link op s₁) :
    s₁.emergencyStopLatchGeneration = s.emergencyStopLatchGeneration := by
  obtain ⟨connection, henters⟩ := h.enters
  exact henters.latchGeneration

theorem ZeroAttempt.latchGeneration {outcome : WriteOutcome} {writes : List Write}
    (h : ZeroAttempt s link now outcome s' link' writes) :
    s'.emergencyStopLatchGeneration = s.emergencyStopLatchGeneration := by
  cases h <;> simp

end SafetySession

/-- Only an emergency stop counts latch generations. -/
theorem Transition.latchGeneration {s : SafetySession} {link : Link} {op : Op} {o : Outcome}
    (h : Transition s link op o) :
    o.session.emergencyStopLatchGeneration = s.emergencyStopLatchGeneration ∨
      o.session.emergencyStopLatchGeneration =
        s.assertEmergencyStop.emergencyStopLatchGeneration := by
  cases h with
  | unconfigured => exact .inl rfl
  | unconfiguredLatch => exact .inr rfl
  | notLatched => exact .inl rfl
  | clockRejected => exact .inl (by simp)
  | clockRejectedPending => exact .inl (by simp)
  | disconnected => exact .inl (by simp)
  | declined hopens => exact .inl hopens.latchGeneration
  | authorized hopens => exact .inl (by simp [hopens.latchGeneration])
  | feedbackAllowed hopens => exact .inl (by simp [hopens.latchGeneration])
  | inhibited hopens => exact .inl (by simp [hopens.latchGeneration])
  | inhibitedFaulted hopens => exact .inl (by simp [hopens.latchGeneration])
  | stopped hopens => exact .inl (by simp [hopens.latchGeneration])
  | revoked hopens => exact .inl (by simp [hopens.latchGeneration])
  | unpermitted hopens => exact .inl (by simp [hopens.latchGeneration])
  | admitted hopens => exact .inl (by simp [admitting_eq, hopens.latchGeneration])
  | readmitted hopens => exact .inl (by simp [admitting_eq, hopens.latchGeneration])
  | latchedDown => exact .inr rfl
  | latchedFaulted _ _ henters => exact .inr henters.latchGeneration
  | latchedPending _ _ henters => exact .inr henters.latchGeneration
  | reset hopens => exact .inl (by simp [hopens.latchGeneration])
  | idle hopens => exact .inl hopens.latchGeneration
  | idleLatched hopens => exact .inl (by simp [hopens.latchGeneration])
  | retry hopens _ hattempt => exact .inl (hattempt.latchGeneration.trans hopens.latchGeneration)
  | watchdog hopens _ _ _ _ hattempt =>
    exact .inl (hattempt.latchGeneration.trans hopens.latchGeneration)
  | motionSent hopens => exact .inl (by simp [hopens.latchGeneration])
  | motionLost hopens => exact .inl (by simp [hopens.latchGeneration])
  | motionFailed hopens _ _ _ _ _ hattempt =>
    exact .inl (hattempt.latchGeneration.trans hopens.latchGeneration)

theorem Transition.latches {s : SafetySession} {link : Link} {op : Op} {o : Outcome}
    (h : Transition s link op o) (hs : s.Latches) : o.session.Latches := by
  rcases h.latchGeneration with heq | heq
  · exact heq.trans_le hs
  · refine heq.trans_le ?_
    rw [assertEmergencyStop_emergencyStopLatchGeneration]
    split
    · case isTrue hne => exact lt_of_le_of_ne hs hne
    · exact hs

theorem latches_of_run {admits : Link → Link → Prop} {config : SafetyConfig} {h : List Event}
    {w : World} (run : (sessionMachine admits config).Run h w) : w.session.Latches := by
  refine run.invariant (P := fun _ w => w.session.Latches) ?_ ?_
  · intro w hinit
    rcases hinit with hinit | hinit
    · rw [hinit]
      rcases construct_cases config w.link with heq | ⟨_, heq | ⟨_, heq⟩⟩ <;>
        simp [heq, Latches, initial]
    · simp [hinit, construct, Latches]
  · intro h w e w' run hw hstep
    have htransition := step_transition run hstep
    obtain ⟨_, _, rfl⟩ := hstep
    exact htransition.latches hw

/-- The attempt keeps to the write timeout, counted from its start. -/
def Write.KeepsTimeout (config : SafetyConfig) (write : Write) : Prop :=
  write.deadlineNs ≤ min (write.startNs + config.writeTimeoutNs) int64Max

namespace SafetySession

theorem boundedWriteDeadline_le {s : SafetySession} (hvalid : s.config.Valid)
    (now commandDeadlineNs : Int) :
    s.boundedWriteDeadline now commandDeadlineNs ≤
      min (now + s.config.writeTimeoutNs) int64Max := by
  rw [boundedWriteDeadline, saturatingAdd_eq_min hvalid.writePositive]
  exact min_le_left _ _

theorem ZeroAttempt.keepsTimeout {s s' : SafetySession} {link link' : Link} {now : Int}
    {outcome : WriteOutcome} {writes : List Write}
    (h : ZeroAttempt s link now outcome s' link' writes) (hvalid : s.config.Valid) :
    ∀ write ∈ writes, write.KeepsTimeout s.config := by
  have hwrite : (s.zeroWrite link now outcome).KeepsTimeout s.config :=
    boundedWriteDeadline_le hvalid _ _
  cases h with
  | waiting => simp
  | _ => simpa using hwrite

end SafetySession

theorem Transition.keepsTimeout {s : SafetySession} {link : Link} {op : Op} {o : Outcome}
    (h : Transition s link op o) (hs : s.Coherent) :
    ∀ write ∈ o.writes, write.KeepsTimeout s.config := by
  have hopen : ∀ {op : Op} {s₁ : SafetySession}, Opens s link op s₁ →
      s₁.config.Valid ∧ s₁.config = s.config := by
    intro op s₁ hopens
    exact ⟨(hs.opens hopens).limits hopens.valid, hopens.config⟩
  cases h with
  | retry hopens _ hattempt =>
    obtain ⟨hvalid, hconfig⟩ := hopen hopens
    rw [← hconfig]
    exact hattempt.keepsTimeout hvalid
  | watchdog hopens _ _ _ _ hattempt =>
    obtain ⟨hvalid, hconfig⟩ := hopen hopens
    rw [← hconfig]
    exact hattempt.keepsTimeout hvalid
  | motionSent hopens =>
    obtain ⟨hvalid, hconfig⟩ := hopen hopens
    rw [← hconfig, List.forall_mem_singleton]
    exact boundedWriteDeadline_le hvalid _ _
  | motionLost hopens =>
    obtain ⟨hvalid, hconfig⟩ := hopen hopens
    rw [← hconfig, List.forall_mem_singleton]
    exact boundedWriteDeadline_le hvalid _ _
  | motionFailed hopens _ _ _ _ _ hattempt =>
    obtain ⟨hvalid, hconfig⟩ := hopen hopens
    rw [← hconfig, List.forall_mem_cons]
    exact ⟨boundedWriteDeadline_le hvalid _ _, hattempt.keepsTimeout hvalid⟩
  | _ => simp

/-- A call whose arithmetic is exact: with checks it comes to the same, its writes keep to the
timeout, and the clock does not go back. -/
structure Event.Exact (config : SafetyConfig) (e : Event) : Prop where
  checked : Checked.perform e.before e.link e.op = some e.outcome
  deadline : ∀ write ∈ e.writes, write.KeepsTimeout config
  clock : e.before.lastObservedMonotonicNs ≤ e.after.lastObservedMonotonicNs

theorem arithmetic_exact {admits : Link → Link → Prop} {config : SafetyConfig} {h : List Event}
    {w : World} (run : (sessionMachine admits config).Run h w) {e : Event} (he : e ∈ h)
    (hop : e.op.Int64) : e.Exact config := by
  obtain ⟨earlier, v, before, hbefore⟩ := before_of_mem run he
  have hcoherent := coherent_of_mem run he
  have htransition := transition_of_mem run he
  have hordered : e.before.Ordered :=
    ⟨hcoherent, hbefore ▸ motionBehind_of_run before, hbefore ▸ latches_of_run before⟩
  have hconfig : e.before.config = config := by
    rw [hbefore]
    exact config_of_run before
  constructor
  · exact Checked.perform_eq hordered hop
  · rw [← hconfig]
    exact htransition.keepsTimeout hcoherent
  · exact (htransition.progress hcoherent).clock

/-- A write that breaks off, with the last time there is. -/
def lateWrite : WriteOutcome := ⟨some ⟨.ioError, 3, 5, false, true, int64Max⟩, steadyLink⟩

def lateTick : Op := .tick 105 lateWrite lateWrite

/-- The zero attempt of the tick starts at the end of time, where its deadline is too. -/
example : (steadyEvent steadyCalls lateTick).writes.map (fun w => (w.startNs, w.deadlineNs)) =
    [(105, 110), (int64Max, int64Max)] := by
  decide +kernel

theorem arithmetic_exact_late : (steadyEvent steadyCalls lateTick).Exact steadyConfig := by
  have hwrite : lateWrite.Int64 := by
    rintro _ ⟨⟩
    decide
  exact arithmetic_exact (steady_run (steadyCalls ++ [lateTick]) (by decide +kernel) rfl)
    (by decide +kernel) ⟨by decide, hwrite, hwrite⟩

end WheeltecVcuSerial
