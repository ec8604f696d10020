import WheeltecVcuSerial.Session.FreshRun

namespace WheeltecVcuSerial

open SafetySession

/-- The time at which the session takes a motion write for completed. -/
def Write.motionCompletionNs (write : Write) : Int :=
  if (write.outcome.ioResult write.startNs).completionMonotonicNs > 0 then
    (write.outcome.ioResult write.startNs).completionMonotonicNs
  else write.startNs

/-- The motion frame that a call completes. -/
def sentMotion (writes : List Write) : Option Write :=
  writes.find? fun write => write.kind = .motion && write.completed

/-- The call finds a connection and leaves it as it is. -/
def Event.staysConnected (e : Event) : Bool :=
  e.before.connectionKnown && e.after.connectionGeneration = e.before.connectionGeneration

/-- The last motion frame completed on the present connection. -/
def lastMotion : List Event → Option Write
  | [] => none
  | e :: h => (sentMotion e.writes).or (if e.staysConnected then lastMotion h else none)

namespace SafetySession

variable {s s₁ s' : SafetySession} {link link' : Link} {op : Op} {now : Int}

theorem Enters.motionTime {connection : ConnectionSync} (h : Enters s link s₁ connection)
    (hknown : s.connectionKnown = true)
    (hgeneration : s₁.connectionGeneration = s.connectionGeneration) :
    s₁.lastMotionHostWriteCompletionNs = s.lastMotionHostWriteCompletionNs := by
  cases h with
  | unchanged => rfl
  | newGeneration _ hnew => exact absurd hgeneration (hnew hknown)

theorem ZeroAttempt.motionTime {outcome : WriteOutcome} {writes : List Write}
    (h : ZeroAttempt s link now outcome s' link' writes) (hknown : s'.connectionKnown = true) :
    s'.lastMotionHostWriteCompletionNs = s.lastMotionHostWriteCompletionNs ∧
      sentMotion writes = none := by
  refine ⟨?_, ?_⟩
  · cases h with
    | lost => simp at hknown
    | waiting => rfl
    | _ => simp
  · simp only [sentMotion, List.find?_eq_none]
    intro write hmem
    simp [h.kind write hmem]

end SafetySession

/-- The session notes the time of a completed motion frame, and keeps it with its connection. -/
theorem Transition.motionTime {s : SafetySession} {link : Link} {op : Op} {o : Outcome}
    (h : Transition s link op o) (hknown : o.session.connectionKnown = true) :
    (∃ write, sentMotion o.writes = some write ∧ 0 < write.motionCompletionNs ∧
        o.session.lastMotionHostWriteCompletionNs = write.motionCompletionNs) ∨
      sentMotion o.writes = none ∧ (s.connectionKnown = true →
        o.session.connectionGeneration = s.connectionGeneration →
        o.session.lastMotionHostWriteCompletionNs = s.lastMotionHostWriteCompletionNs) := by
  have hopened : ∀ {s₁}, Opens s link op s₁ → sentMotion o.writes = none →
      o.session.connectionGeneration = s₁.connectionGeneration →
      o.session.lastMotionHostWriteCompletionNs = s₁.lastMotionHostWriteCompletionNs →
      sentMotion o.writes = none ∧ (s.connectionKnown = true →
        o.session.connectionGeneration = s.connectionGeneration →
        o.session.lastMotionHostWriteCompletionNs = s.lastMotionHostWriteCompletionNs) := by
    intro s₁ hopens hwrites hgeneration htime
    obtain ⟨connection, henters⟩ := hopens.enters
    rw [hgeneration, htime]
    exact ⟨hwrites, henters.motionTime⟩
  cases h with
  | unconfigured => exact .inr ⟨rfl, fun _ _ => rfl⟩
  | unconfiguredLatch => exact .inr ⟨rfl, fun _ _ => by simp⟩
  | notLatched => exact .inr ⟨rfl, fun _ _ => rfl⟩
  | clockRejected => exact .inr ⟨rfl, fun _ _ => by simp⟩
  | clockRejectedPending => exact .inr ⟨rfl, fun _ _ => by simp⟩
  | disconnected => simp at hknown
  | declined hopens => exact .inr (hopened hopens rfl rfl rfl)
  | authorized hopens => exact .inr (hopened hopens rfl (by simp) (by simp))
  | feedbackAllowed hopens => exact .inr (hopened hopens rfl (by simp) (by simp))
  | inhibited hopens => exact .inr (hopened hopens rfl (by simp) (by simp))
  | inhibitedFaulted hopens => exact .inr (hopened hopens rfl (by simp) (by simp))
  | stopped hopens => exact .inr (hopened hopens rfl (by simp) (by simp))
  | revoked hopens => exact .inr (hopened hopens rfl (by simp) (by simp))
  | unpermitted hopens => exact .inr (hopened hopens rfl (by simp) (by simp))
  | admitted hopens =>
    exact .inr (hopened hopens rfl (by simp [admitting_eq]) (by simp [admitting_eq]))
  | readmitted hopens =>
    exact .inr (hopened hopens rfl (by simp [admitting_eq]) (by simp [admitting_eq]))
  | latchedDown => simp at hknown
  | latchedFaulted _ _ henters =>
    refine .inr ⟨rfl, fun hprior hgeneration => ?_⟩
    exact henters.motionTime (by simpa using hprior) (by simpa using hgeneration)
  | latchedPending _ _ henters =>
    refine .inr ⟨rfl, fun hprior hgeneration => ?_⟩
    exact henters.motionTime (by simpa using hprior) (by simpa using hgeneration)
  | reset hopens => exact .inr (hopened hopens rfl (by simp) (by simp))
  | idle hopens => exact .inr (hopened hopens rfl rfl rfl)
  | idleLatched hopens => exact .inr (hopened hopens rfl (by simp) (by simp))
  | retry hopens _ hattempt =>
    obtain ⟨htime, hwrites⟩ := hattempt.motionTime hknown
    exact .inr (hopened hopens hwrites hattempt.generation htime)
  | watchdog hopens _ _ _ _ hattempt =>
    obtain ⟨htime, hwrites⟩ := hattempt.motionTime hknown
    exact .inr (hopened hopens hwrites (by simp [hattempt.generation]) (by simp [htime]))
  | @motionSent now motionOutcome _ s₁ completion _ hopens _ hdone hcompletion =>
    have hsent : (s₁.motionWrite link now motionOutcome).motionCompletionNs = completion :=
      hcompletion.symm
    refine .inl ⟨s₁.motionWrite link now motionOutcome, ?_, ?_, ?_⟩
    · exact List.find?_cons_of_pos (by simpa [Write.completed, motionWrite] using hdone)
    · rw [hsent, hcompletion]
      split
      · assumption
      · exact hopens.accepted.1
    · rw [hsent]
      rfl
  | motionLost => simp at hknown
  | motionFailed hopens _ hfailed _ _ _ hattempt =>
    obtain ⟨htime, hwrites⟩ := hattempt.motionTime hknown
    refine .inr (hopened hopens ?_ (by simp [hattempt.generation]) (by simp [htime]))
    rw [sentMotion, List.find?_cons_of_neg]
    · exact hwrites
    · simp [Write.completed, motionWrite, hfailed]

variable {config : SafetyConfig} {h : List Event} {w w' : World}

theorem lastMotion_of_run {admits : Link → Link → Prop}
    (run : (sessionMachine admits config).Run h w) (hknown : w.session.connectionKnown = true) :
    ∀ write ∈ lastMotion h, 0 < write.motionCompletionNs ∧
      w.session.lastMotionHostWriteCompletionNs = write.motionCompletionNs := by
  refine run.invariant (P := fun h w => w.session.connectionKnown = true →
    ∀ write ∈ lastMotion h, 0 < write.motionCompletionNs ∧
      w.session.lastMotionHostWriteCompletionNs = write.motionCompletionNs) ?_ ?_ hknown
  · simp [lastMotion]
  · intro h w e w' run hw hstep hknown write hmem
    have htransition := step_transition run hstep
    obtain ⟨hbefore, _, rfl⟩ := hstep
    rw [lastMotion] at hmem
    rcases htransition.motionTime hknown with ⟨sent, hsent, hpos, htime⟩ | ⟨hnone, htime⟩
    · rw [Event.writes, hsent, Option.some_or, Option.mem_some_iff] at hmem
      exact hmem ▸ ⟨hpos, htime⟩
    · rw [Event.writes, hnone, Option.none_or] at hmem
      split at hmem
      · case isTrue hstays =>
        simp only [Event.staysConnected, Bool.and_eq_true, decide_eq_true_eq, hbefore] at hstays
        obtain ⟨hpos, heq⟩ := hw hstays.1 write hmem
        exact ⟨hpos, (htime hstays.1 hstays.2).trans heq⟩
      · simp at hmem

/-- The command that a motion frame at `now` carries. -/
structure Carries (config : SafetyConfig) (now : Int) (write : Write) (latest : Submission) :
    Prop where
  encodes : (encodeCommand latest.command.motion config.maxLinearSpeedMps).ok = true
  frame : write.buffer =
    (encodeCommand latest.command.motion config.maxLinearSpeedMps).frame.toList
  created : latest.command.createdMonotonicNs ≤ now
  deadline : now ≤ latest.command.deadlineMonotonicNs
  age : now - latest.command.createdMonotonicNs ≤ config.maxCommandAgeNs
  receipt : now - latest.receiptNs ≤ config.maxCommandAgeNs

/-- What a motion frame of `tick` rests on, after the calls `earlier`. -/
structure MotionJustified (config : SafetyConfig) (earlier : List Event) (e : Event)
    (write : Write) : Prop where
  configured : safetyConfigIsValid config = true
  generation : write.generation = e.link.generation
  unlatched : e.before.emergencyStopLatched = false
  permitted : ∃ recent grant older time fresh latest, earlier = recent ++ grant :: older ∧
    grant.Authorizes write.generation time ∧
    (∃ x ∈ older, ∃ zero ∈ x.writes, zero.ZeroCompletedOn write.generation) ∧
    (∀ x ∈ recent, x.unseats = false) ∧
    fresh <+: submissionsSince recent ∧ config.freshCommandsRequired ≤ fresh.length ∧
    (fresh.IsChain fun later earlier => later.Continues config earlier) ∧
    (∀ x ∈ fresh, time < x.command.createdMonotonicNs) ∧
    fresh.head? = some latest ∧ Carries config e.op.now write latest
  feedback : Trace.Since (fun x => x.forgets = false)
    (fun x _ => ∃ time, x.Allows write.generation time ∧ time ≤ e.op.now ∧
      e.op.now - time ≤ config.feedbackTimeoutNs) earlier
  rate : ∀ last ∈ lastMotion earlier,
    config.transmitPeriodNs ≤ e.op.now - last.motionCompletionNs

theorem Event.Authorizes.interrupts {e : Event} {generation : Nat} {time : Int}
    (h : e.Authorizes generation time) : e.interrupts = true := by
  obtain ⟨token, hop, hresponse, _⟩ := h
  simp [Event.interrupts, Op.interrupts, hop, hresponse, Op.authorizedToken]

/-- A session that is ready for motion holds a full fresh run. -/
theorem SafetySession.MotionReady.freshRun {s : SafetySession} {now : Int}
    (hready : MotionReady s now) (hs : s.Coherent) {submissions fresh : List Submission}
    (hfresh : FreshRun s.config submissions s fresh) (link : Link) (outcome : WriteOutcome) :
    s.config.freshCommandsRequired ≤ fresh.length ∧
      Carries s.config now (s.motionWrite link now outcome) s.held := by
  obtain ⟨hvalid, hcount⟩ := hs.intent hready.active (authorized_iff.mp hready.permitted).active
  obtain ⟨_, _, _, hencodes, _, _, hframe⟩ := hs.command hvalid
  have hcommand := commandFresh_of_isFresh hready.command
  refine ⟨hcount ▸ hfresh.count, hencodes, ?_, hcommand.created, hcommand.deadline, hcommand.age,
    hcommand.receiptAge⟩
  rw [motionWrite, hframe]
  rfl

theorem motionJustified_of_step {e : Event} {write : Write}
    (run : (sessionMachine Link.Evolves config).Run h w)
    (hstep : (sessionMachine Link.Evolves config).step w e w') (hmem : write ∈ e.writes)
    (hkind : write.kind = .motion) : MotionJustified config h e write := by
  have hs := coherent_of_run run
  have hconfig := config_of_run run
  obtain ⟨now, motionOutcome, zeroOutcome, hop, hopens, hready, rfl⟩ :=
    (step_transition run hstep).motion hmem hkind
  have hsettled : w.session.Settled e.link := hopens.settled_of_ready hready
  have hgeneration : e.link.generation = w.session.connectionGeneration := hsettled.generation
  have hvalid : w.session.latestCommandValid = true :=
    (commandFresh_of_isFresh hready.command).valid
  obtain ⟨fresh, hfresh⟩ := freshRun_of_run run hvalid
  subst hconfig
  have hobserved : FreshRun w.session.config (submissionsSince h) (w.session.observed now) fresh :=
    hfresh.same (by simp [SameIntent])
  obtain ⟨hcount, hcarries⟩ := hready.freshRun (hs.opens hopens) hobserved e.link motionOutcome
  obtain ⟨recent, grant, older, rfl, ⟨hgrant, hzero⟩, hunseated⟩ :=
    Trace.since_iff.mp (permission_since run
      (heldPermission_of_authorized (s := w.session.observed now) hready.permitted))
  obtain ⟨hheld, hreceipt, hage⟩ :=
    feedback_of_fresh (s := w.session.observed now) hready.feedback hsettled.known
  have hrecent := hfresh.recent
  rw [submissionsSince_append hgrant.interrupts] at hrecent
  have hnow : e.op.now = now := by rw [hop, Op.now]
  refine
    { configured := hs.config_valid hopens.configured
      generation := rfl
      unlatched := ?_
      permitted := ?_
      feedback := ?_
      rate := ?_ }
  · rw [hstep.1]
    exact hready.unlatched
  · rw [hnow]
    refine ⟨recent, grant, older, _, fresh, _, rfl, ?_, ?_, hunseated, hrecent, hcount,
      hfresh.chain, hobserved.postdates, hobserved.latest, hcarries⟩
    · rw [motionWrite, hgeneration]
      exact hgrant
    · rw [motionWrite, hgeneration]
      exact hzero
  · rw [hnow, motionWrite, hgeneration]
    exact (feedback_since run hheld).mono (fun _ => id) fun _ _ hallows =>
      ⟨_, hallows, hreceipt, hage⟩
  · intro last hlast
    obtain ⟨hpos, htime⟩ := lastMotion_of_run run hsettled.known last hlast
    rw [hnow, ← htime]
    exact hready.rate (htime ▸ hpos)

/-- Every motion frame of a run is justified by the calls before it. -/
theorem motion_admission {later earlier : List Event} {e : Event} {write : Write}
    (run : (sessionMachine Link.Evolves config).Run (later ++ e :: earlier) w)
    (hmem : write ∈ e.writes) (hkind : write.kind = .motion) :
    MotionJustified config earlier e write := by
  obtain ⟨v, v', run, hstep, -⟩ := run.step_of_mem
  exact motionJustified_of_step run hstep hmem hkind

theorem motion_admission_replayed :
    let e := steadyEvent steadyCalls (plainTick 105)
    MotionJustified steadyConfig (steadyReplay steadyCalls).1 e
      (e.before.motionWrite steadyLink 105 (wholeWrite 105)) := by
  intro e
  have heq : (steadyReplay movingCalls).1 = [] ++ e :: (steadyReplay steadyCalls).1 := by
    decide +kernel
  have run := steady_run movingCalls (by decide +kernel) heq
  exact motion_admission run (by decide +kernel) rfl

end WheeltecVcuSerial
