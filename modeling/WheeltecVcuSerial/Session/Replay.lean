import WheeltecVcuSerial.Session.Marks

namespace WheeltecVcuSerial

open SafetySession

/-- How the barriers against a replay move: the clock and the sequence mark forward, and a live
permission is either the one there was or a later one. -/
structure Progress (s t : SafetySession) : Prop where
  configuration : t.configurationValid = s.configurationValid
  sequence : s.highestSequence ≤ t.highestSequence
  clock : s.lastObservedMonotonicNs ≤ t.lastObservedMonotonicNs
  permission : t.authorizationActive = true → t.state ≠ .faulted →
    s.authorizationActive = true ∧ s.state ≠ .faulted ∧
        t.authorizationMonotonicNs = s.authorizationMonotonicNs ∨
      s.lastObservedMonotonicNs ≤ t.authorizationMonotonicNs

namespace Progress

variable {s s₁ s' t : SafetySession} {link link' : Link} {op : Op} {now : Int}

theorem of_revoked (hconfiguration : t.configurationValid = s.configurationValid)
    (hsequence : s.highestSequence ≤ t.highestSequence)
    (hclock : s.lastObservedMonotonicNs ≤ t.lastObservedMonotonicNs)
    (hrevoked : t.authorizationActive = false) : Progress s t :=
  ⟨hconfiguration, hsequence, hclock, fun hactive => by simp [hrevoked] at hactive⟩

theorem of_kept (hconfiguration : t.configurationValid = s.configurationValid)
    (hsequence : s.highestSequence ≤ t.highestSequence)
    (hclock : s.lastObservedMonotonicNs ≤ t.lastObservedMonotonicNs)
    (hactive : t.authorizationActive = s.authorizationActive)
    (htime : t.authorizationMonotonicNs = s.authorizationMonotonicNs)
    (hstate : s.state ≠ .faulted ∨ t.state = s.state) : Progress s t := by
  refine ⟨hconfiguration, hsequence, hclock, fun hlive hsound => .inl ⟨hactive ▸ hlive, ?_, htime⟩⟩
  exact hstate.elim id fun heq => heq ▸ hsound

theorem refl (s : SafetySession) : Progress s s :=
  of_kept rfl le_rfl le_rfl rfl rfl (.inr rfl)

theorem trans (first : Progress s s₁) (second : Progress s₁ t) : Progress s t where
  configuration := second.configuration.trans first.configuration
  sequence := first.sequence.trans second.sequence
  clock := first.clock.trans second.clock
  permission := by
    intro hactive hsound
    rcases second.permission hactive hsound with ⟨hactive, hsound, heq⟩ | hlater
    · rw [heq]
      exact first.permission hactive hsound
    · exact .inr (first.clock.trans hlater)

theorem opens (h : Opens s link op s₁) : Progress s s₁ := by
  obtain ⟨hvalid, _, hclock, connection, henters⟩ := h
  cases henters with
  | unchanged => exact of_kept rfl le_rfl hclock.2 rfl rfl (.inr rfl)
  | newGeneration => exact of_revoked (by simp) (by simp) (by simpa using hclock.2) (by simp)

theorem zeroAttempt {outcome : WriteOutcome} {writes : List Write}
    (hstate : s.state = .stopPending) (h : ZeroAttempt s link now outcome s' link' writes) :
    Progress s s' := by
  cases h with
  | waiting => exact refl s
  | lost => exact of_revoked (by simp) (by simp) (by simp) (by simp)
  | _ =>
    exact of_kept (by simp) (by simp) (by simp) (by simp) (by simp) (.inl (by simp [hstate]))

end Progress

theorem SafetySession.Consumes.le {s : SafetySession} {op : Op} {response : Response}
    {sequenceId : Nat} (h : Consumes s op response sequenceId) :
    s.highestSequence ≤ sequenceId := by
  cases h with
  | submit hsequence => exact hsequence.le
  | _ => exact le_rfl

theorem Transition.progress {s : SafetySession} {link : Link} {op : Op} {o : Outcome}
    (h : Transition s link op o) (hs : s.Coherent) : Progress s o.session := by
  have hlatched : ∀ {time now : Int},
      time = (if s.AcceptsTime now then now else s.lastObservedMonotonicNs) →
      s.lastObservedMonotonicNs ≤ time := by
    rintro time now rfl
    split
    · case isTrue hclock => exact hclock.2
    · exact le_rfl
  cases h with
  | unconfigured => exact .refl s
  | unconfiguredLatch => exact .of_revoked (by simp) (by simp) (by simp) (by simp)
  | notLatched => exact .refl s
  | clockRejected => exact .of_revoked (by simp) (by simp) (by simp) (by simp)
  | clockRejectedPending => exact .of_revoked (by simp) (by simp) (by simp) (by simp)
  | disconnected _ _ _ hclock =>
    exact .of_revoked (by simp) (by simp) (by simpa using hclock.2) (by simp)
  | declined hopens => exact .opens hopens
  | authorized hopens =>
    refine (Progress.opens hopens).trans ⟨by simp, by simp, by simp, fun _ _ => .inr ?_⟩
    simp [hopens.clock, Op.now]
  | feedbackAllowed hopens =>
    exact (Progress.opens hopens).trans
      (.of_kept (by simp) (by simp) (by simp) (by simp) (by simp) (.inr (by simp)))
  | inhibited hopens =>
    exact (Progress.opens hopens).trans (.of_revoked (by simp) (by simp) (by simp) (by simp))
  | inhibitedFaulted hopens =>
    exact (Progress.opens hopens).trans (.of_revoked (by simp) (by simp) (by simp) (by simp))
  | stopped hopens hstate _ _ _ _ hconsumes =>
    exact (Progress.opens hopens).trans (.of_kept (by simp) (by simpa using hconsumes.le) (by simp)
      (by simp) (by simp) (.inl hstate))
  | revoked hopens _ _ _ _ _ hconsumes =>
    exact (Progress.opens hopens).trans (.of_revoked (by simp) (by simpa using hconsumes.le)
      (by simp) (by simp))
  | unpermitted hopens _ hstate hsequence =>
    exact (Progress.opens hopens).trans (.of_kept (by simp) (by simpa using hsequence.le) (by simp)
      (by simp) (by simp) (.inl hstate))
  | admitted hopens hcommand =>
    rw [admitting_eq]
    exact (Progress.opens hopens).trans (.of_kept (by simp) (by simpa using hcommand.sequence.le)
      (by simp) (by simp) (by simp) (.inl hcommand.sound))
  | readmitted hopens hcommand =>
    rw [admitting_eq]
    exact (Progress.opens hopens).trans (.of_kept (by simp) (by simpa using hcommand.sequence.le)
      (by simp) (by simp) (by simp) (.inl hcommand.sound))
  | latchedDown _ _ htime =>
    exact .of_revoked (by simp) (by simp) (by simpa using hlatched htime) (by simp)
  | latchedFaulted _ htime henters =>
    have htime := hlatched htime
    cases henters <;> exact .of_revoked (by simp) (by simp) (by simpa using htime) (by simp)
  | latchedPending _ htime henters =>
    have htime := hlatched htime
    cases henters <;> exact .of_revoked (by simp) (by simp) (by simpa using htime) (by simp)
  | reset hopens =>
    exact (Progress.opens hopens).trans (.of_revoked (by simp) (by simp) (by simp) (by simp))
  | idle hopens => exact .opens hopens
  | idleLatched hopens _ hstate =>
    exact (Progress.opens hopens).trans
      (.of_kept (by simp) (by simp) (by simp) (by simp) (by simp) (.inl hstate))
  | retry hopens hzero hattempt =>
    exact (Progress.opens hopens).trans (.zeroAttempt ((hs.opens hopens).pending.mp hzero) hattempt)
  | watchdog hopens hzero _ hstate _ hattempt =>
    refine ((Progress.opens hopens).trans ?_).trans (.zeroAttempt (by simp [hzero]) hattempt)
    exact .of_kept (by simp) (by simp) (by simp) (by simp) (by simp) (.inl (by simp [hstate]))
  | motionSent hopens hready =>
    exact (Progress.opens hopens).trans (.of_kept (by simp) (by simp) (by simp) (by simp) (by simp)
      (.inl (by simp [hready.active])))
  | motionLost hopens =>
    exact (Progress.opens hopens).trans (.of_revoked (by simp) (by simp) (by simp) (by simp))
  | motionFailed hopens hready _ _ _ _ hattempt =>
    refine ((Progress.opens hopens).trans ?_).trans
      (.zeroAttempt (by simp [hready.settled]) hattempt)
    exact .of_revoked (by simp) (by simp) (by simp) (by simp)

/-- Whatever keeps a session from ever taking the command. -/
def Barred (command : TimedMotionCommand) (s : SafetySession) : Prop :=
  s.configurationValid = false ∨ command.sequenceId ≤ s.highestSequence ∨
    command.createdMonotonicNs ≤ 0 ∨
    command.createdMonotonicNs ≤ s.lastObservedMonotonicNs ∧
      (s.authorizationActive = true → s.state ≠ .faulted →
        command.createdMonotonicNs ≤ s.authorizationMonotonicNs)

theorem Progress.barred {s t : SafetySession} {command : TimedMotionCommand} (h : Progress s t)
    (hs : Barred command s) : Barred command t := by
  rcases hs with hvalid | hsequence | hcreated | ⟨hclock, hpermission⟩
  · exact .inl (h.configuration.trans hvalid)
  · exact .inr (.inl (hsequence.trans h.sequence))
  · exact .inr (.inr (.inl hcreated))
  · refine .inr (.inr (.inr ⟨hclock.trans h.clock, fun hactive hsound => ?_⟩))
    rcases h.permission hactive hsound with ⟨hactive, hsound, heq⟩ | hlater
    · exact heq ▸ hpermission hactive hsound
    · exact hclock.trans hlater

theorem Barred.not_admissible {s : SafetySession} {command : TimedMotionCommand} {now : Int}
    (h : Barred command s) : ¬ Admissible s command now := by
  intro hcommand
  have hauthorized := authorized_iff.mp hcommand.permitted
  rcases h with hvalid | hsequence | hcreated | ⟨_, hpermission⟩
  · exact absurd hauthorized.configured (by simp [hvalid])
  · exact absurd hcommand.sequence (not_lt.mpr hsequence)
  · exact absurd hcommand.created (not_lt.mpr hcreated)
  · exact absurd hcommand.postdates (not_lt.mpr (hpermission hauthorized.active hcommand.sound))

/-- The answers by which a command becomes the latest one. -/
def SubmissionStatus.admits : SubmissionStatus → Bool
  | .accepted => true
  | .recoveryPending => true
  | _ => false

/-- The command that a call makes the latest one. -/
def Op.admittedCommand : Op → Response → Option TimedMotionCommand
  | .submit command _, .submission status => if status.admits then some command else none
  | _, _ => none

theorem Op.admittedCommand_eq_some {op : Op} {response : Response} {command : TimedMotionCommand}
    (h : op.admittedCommand response = some command) :
    ∃ now status, op = .submit command now ∧ response = .submission status ∧
      status.admits = true := by
  cases op <;> cases response <;> simp_all [Op.admittedCommand]

theorem SubmissionStatus.grants_of_admits {status : SubmissionStatus}
    (hadmits : status.admits = true) (command : TimedMotionCommand) (now : Int) :
    Op.grants (.submit command now) (.submission status) = true := by
  cases status <;> simp_all [SubmissionStatus.admits, Op.grants]

theorem Transition.admissible {s : SafetySession} {link : Link} {command : TimedMotionCommand}
    {now : Int} {o : Outcome} {status : SubmissionStatus}
    (h : Transition s link (.submit command now) o) (hresponse : o.response = .submission status)
    (hadmits : status.admits = true) :
    ∃ s₁, Opens s link (.submit command now) s₁ ∧ Admissible s₁ command now := by
  have hgrants := SubmissionStatus.grants_of_admits hadmits command now
  rw [← hresponse] at hgrants
  cases h with
  | unconfigured _ _ htakes => simp [Op.takes, hgrants] at htakes
  | clockRejected _ _ _ _ htakes => simp [Op.takes, hgrants] at htakes
  | clockRejectedPending _ _ _ _ htakes => simp [Op.takes, hgrants] at htakes
  | disconnected _ _ _ _ _ htakes => simp [Op.takes, hgrants] at htakes
  | declined _ _ htakes => simp [Op.takes, hgrants] at htakes
  | stopped _ _ _ _ _ hrefuses => simp [hgrants] at hrefuses
  | revoked _ _ _ _ _ hrefuses => simp [hgrants] at hrefuses
  | unpermitted => simp [Op.grants] at hgrants
  | admitted hopens hcommand => exact ⟨_, hopens, hcommand⟩
  | readmitted hopens hcommand => exact ⟨_, hopens, hcommand⟩

/-- A call of `submit` bars its command from every later call. -/
theorem Transition.bars {s : SafetySession} {link : Link} {command : TimedMotionCommand}
    {now : Int} {o : Outcome} (h : Transition s link (.submit command now) o) (hs : s.Coherent)
    (hcreated : command.createdMonotonicNs ≤ now) : Barred command o.session := by
  have hrejected : ∀ {t : SafetySession}, ¬ s.AcceptsTime now → t.authorizationActive = false →
      t.lastObservedMonotonicNs = s.lastObservedMonotonicNs → Barred command t := by
    intro t hclock hrevoked htime
    by_cases hpos : 0 < now
    · have hlate : now < s.lastObservedMonotonicNs := by
        by_contra hle
        exact hclock ⟨hpos, not_lt.mp hle⟩
      refine .inr (.inr (.inr ⟨htime ▸ hcreated.trans hlate.le, ?_⟩))
      simp [hrevoked]
    · exact .inr (.inr (.inl (hcreated.trans (not_lt.mp hpos))))
  have hconsumed : ∀ {s₁ t : SafetySession} {response sequenceId},
      Consumes s₁ (.submit command now) response sequenceId → t.highestSequence = sequenceId →
      Barred command t := by
    intro s₁ t response sequenceId hconsumes hsequence
    refine .inr (.inl (hsequence ▸ ?_))
    cases hconsumes with
    | submit => exact le_rfl
    | sequenceInvalid hinvalid => omega
  cases h with
  | unconfigured hvalid => exact .inl hvalid
  | clockRejected _ _ _ hclock => exact hrejected hclock (by simp) (by simp)
  | clockRejectedPending _ _ _ hclock => exact hrejected hclock (by simp) (by simp)
  | disconnected => exact .inr (.inr (.inr ⟨by simpa [Op.now] using hcreated, by simp⟩))
  | declined hopens _ _ _ hreason =>
    refine .inr (.inr (.inr ⟨hopens.clock ▸ hcreated, fun hactive hsound => ?_⟩))
    rcases hreason command now rfl with hlatched | hfault
    · simp [((hs.opens hopens).revoked_of_latched hlatched).1] at hactive
    · exact absurd hfault hsound
  | stopped _ _ _ _ _ _ hconsumes => exact hconsumed hconsumes (by simp)
  | revoked _ _ _ _ _ _ hconsumes => exact hconsumed hconsumes (by simp)
  | unpermitted => exact .inr (.inl (by simp))
  | admitted => exact .inr (.inl (by simp [admitting_eq]))
  | readmitted => exact .inr (.inl (by simp [admitting_eq]))

variable {admits : Link → Link → Prop} {config : SafetyConfig} {w w' : World}

theorem barred_of_path {command : TimedMotionCommand} {later earlier : List Event}
    (run : (sessionMachine admits config).Run earlier w)
    (path : (sessionMachine admits config).Path w later w') (hw : Barred command w.session) :
    Barred command w'.session := by
  induction path with
  | refl => exact hw
  | next path hstep ih =>
    have hrun := run.append path
    have hprogress := (step_transition hrun hstep).progress (coherent_of_run hrun)
    obtain ⟨_, _, rfl⟩ := hstep
    exact hprogress.barred ih

/-- Once `submit` has seen a command, no later `submit` takes it. -/
theorem command_never_replayed {later between earlier : List Event} {first again : Event}
    {command : TimedMotionCommand} {firstTime againTime : Int} {status : SubmissionStatus}
    (run : (sessionMachine admits config).Run
      (later ++ again :: (between ++ first :: earlier)) w)
    (hfirst : first.op = .submit command firstTime)
    (hcreated : command.createdMonotonicNs ≤ firstTime)
    (hagain : again.op = .submit command againTime)
    (hresponse : again.response = .submission status) : status.admits = false := by
  obtain ⟨v, v', run, hstep, -⟩ := run.step_of_mem
  obtain ⟨u, u', hrun, hseen, path⟩ := run.step_of_mem
  have hbars : Barred command u'.session := by
    have htransition := step_transition hrun hseen
    rw [hfirst] at htransition
    have hbars := htransition.bars (coherent_of_run hrun) hcreated
    obtain ⟨_, _, rfl⟩ := hseen
    exact hbars
  have hbarred := barred_of_path (.next hrun hseen) path hbars
  have htransition := step_transition run hstep
  rw [hagain] at htransition
  rw [Bool.eq_false_iff]
  intro hadmits
  obtain ⟨s₁, hopens, hcommand⟩ := htransition.admissible hresponse hadmits
  exact ((Progress.opens hopens).barred hbarred).not_admissible hcommand

theorem command_never_replayed_after_latch :
    let command := forwardCommand 3 106
    let calls := steadyCalls ++ [.latchEmergencyStop 105, .submit command 106, plainTick 107,
      .observeFeedback allowedFeedback 108, .resetEmergencyStop 1 109, .authorize 2 110,
      .submit command 111]
    let again := steadyEvent (calls.take 11) (.submit command 111)
    ∃ status, again.response = .submission status ∧ status.admits = false := by
  intro command calls again
  let first := steadyEvent (calls.take 6) (.submit command 106)
  have heq : (steadyReplay calls).1 = [] ++ again ::
      (((steadyReplay calls).1.drop 1).take 4 ++ first :: (steadyReplay (calls.take 6)).1) := by
    decide +kernel
  have run := steady_run calls (by decide +kernel) heq
  have hresponse : again.response = .submission .predatesAuthorization := by decide +kernel
  exact ⟨_, hresponse, command_never_replayed run rfl (by decide) rfl hresponse⟩

end WheeltecVcuSerial
