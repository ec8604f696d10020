import WheeltecVcuSerial.Session.Replay
import WheeltecVcuSerial.Session.Permission
import Mathlib.Data.List.Chain

namespace WheeltecVcuSerial

open SafetySession

/-- A command that `submit` made the latest one, and the time of its receipt. -/
structure Submission where
  command : TimedMotionCommand
  receiptNs : Int
  deriving DecidableEq

/-- How each command of a fresh run goes on from the one before it. -/
structure Submission.Continues (config : SafetyConfig) (later earlier : Submission) : Prop where
  sequence : earlier.command.sequenceId < later.command.sequenceId
  created : earlier.command.createdMonotonicNs < later.command.createdMonotonicNs
  deadline : later.receiptNs ≤ earlier.command.deadlineMonotonicNs
  gap : later.receiptNs - earlier.receiptNs ≤ config.maxCommandAgeNs

namespace Op

def submission (op : Op) (response : Response) : Option Submission :=
  (op.admittedCommand response).map fun command => ⟨command, op.now⟩

def writesZero (writes : List Write) : Bool := writes.any fun write => write.kind = .zero

/-- The answer to a command without permission. -/
def unpermitted : Op → Response → Bool
  | .submit _ _, .submission status => status = .notAuthorized
  | _, _ => false

/-- The calls that end a fresh run. -/
def interrupts (s : SafetySession) (op : Op) (response : Response) (writes : List Write) : Bool :=
  op.rejected s || op.stops response || (op.authorizedToken response).isSome ||
    (op.resetToken response).isSome || op.unpermitted response || writesZero writes ||
    failsMotion writes

end Op

namespace Event

def submission (e : Event) : Option Submission := e.op.submission e.response
def interrupts (e : Event) : Bool := e.op.interrupts e.before e.response e.writes

end Event

/-- The commands that `submit` took since the last call that ends a fresh run, the latest one
first. -/
def submissionsSince : List Event → List Submission
  | [] => []
  | e :: h => if e.interrupts then [] else e.submission.toList ++ submissionsSince h

/-- An interruption hides what came before it. -/
theorem submissionsSince_append {e : Event} (he : e.interrupts = true)
    (later earlier : List Event) :
    submissionsSince (later ++ e :: earlier) = submissionsSince later := by
  induction later with
  | nil => simp [submissionsSince, he]
  | cons x later ih => simp only [List.cons_append, submissionsSince, ih]

namespace SafetySession

variable {s s₁ s' t : SafetySession} {link link' : Link} {op : Op} {now : Int}

/-- An update that leaves the motion intent and the time of the permission alone. -/
def SameIntent (s t : SafetySession) : Prop :=
  t.latestCommandValid = s.latestCommandValid ∧ t.latestCommand = s.latestCommand ∧
    t.latestCommandReceiptNs = s.latestCommandReceiptNs ∧
    t.consecutiveFreshCommands = s.consecutiveFreshCommands ∧
    t.authorizationMonotonicNs = s.authorizationMonotonicNs

/-- The latest command and its receipt. -/
def held (s : SafetySession) : Submission := ⟨s.latestCommand, s.latestCommandReceiptNs⟩

/-- `t` holds a command that `s` has just taken, after the one it held or as the first of a run. -/
structure Takes (s t : SafetySession) (submission : Submission) : Prop where
  held : t.held = submission
  time : t.authorizationMonotonicNs = s.authorizationMonotonicNs
  postdates : t.authorizationMonotonicNs < submission.command.createdMonotonicNs
  count : t.consecutiveFreshCommands ≤ 1 ∨
    s.latestCommandValid = true ∧ t.consecutiveFreshCommands ≤ s.consecutiveFreshCommands + 1 ∧
      submission.Continues s.config s.held

theorem Opens.sameIntent (h : Opens s link op s₁) (hvalid : s₁.latestCommandValid = true) :
    SameIntent s s₁ := by
  obtain ⟨connection, henters⟩ := h.enters
  cases henters with
  | unchanged => simp [SameIntent]
  | newGeneration => simp at hvalid

theorem Opens.eq_observed_of_admissible {command : TimedMotionCommand} (h : Opens s link op s₁)
    (hcommand : Admissible s₁ command now) : s₁ = s.observed op.now := by
  obtain ⟨connection, henters⟩ := h.enters
  exact (henters.eq_of_settled hcommand.settled).1

theorem admitting_count_le (s : SafetySession) (command : TimedMotionCommand) (now : Int) :
    (s.admitting command now).consecutiveFreshCommands ≤ s.consecutiveFreshCommands + 1 := by
  have hcount : (s.admitting command now).consecutiveFreshCommands = s.nextCount := by
    rw [admitting_eq]
    rfl
  rw [hcount, nextCount]
  split <;> omega

theorem Opens.takes_admitted {command : TimedMotionCommand}
    (h : Opens s link (.submit command now) s₁) (hs : s.Coherent)
    (hcommand : Admissible s₁ command now)
    (hprevious : s₁.latestCommandValid = true → s₁.previousIsStale now = false ∧
      s₁.latestCommand.createdMonotonicNs < command.createdMonotonicNs) :
    Takes s (s₁.admitting command now) ⟨command, now⟩ := by
  obtain rfl := h.eq_observed_of_admissible hcommand
  have hcount := (s.observed now).admitting_count_le command now
  refine ⟨by rw [admitting_eq]; rfl, by rw [admitting_eq]; rfl, ?_, ?_⟩
  · rw [admitting_eq]
    exact hcommand.postdates
  cases hvalid : s.latestCommandValid with
  | false =>
    have hnone : (s.observed now).consecutiveFreshCommands = 0 := hs.count.2 hvalid
    exact .inl (by rwa [hnone] at hcount)
  | true =>
    obtain ⟨hstale, hcreated⟩ := hprevious hvalid
    simp only [previousIsStale, Bool.or_eq_false_iff, decide_eq_false_iff_not, not_lt] at hstale
    exact .inr ⟨rfl, hcount, (hs.receipt hvalid).1.trans_lt hcommand.sequence, hcreated, hstale.1,
      hstale.2⟩

theorem Opens.takes_readmitted {command : TimedMotionCommand}
    (h : Opens s link (.submit command now) s₁) (hcommand : Admissible s₁ command now) :
    Takes s (s₁.clearMotionIntent.admitting command now) ⟨command, now⟩ := by
  obtain rfl := h.eq_observed_of_admissible hcommand
  have hcount := (s.observed now).clearMotionIntent.admitting_count_le command now
  refine ⟨by rw [admitting_eq]; rfl, by rw [admitting_eq]; rfl, ?_, .inl hcount⟩
  rw [admitting_eq]
  exact hcommand.postdates

theorem ZeroAttempt.silent {outcome : WriteOutcome} {writes : List Write}
    (h : ZeroAttempt s link now outcome s' link' writes) (hsilent : s.latestCommandValid = false) :
    s'.latestCommandValid = false := by
  cases h <;> simp [hsilent]

theorem Coherent.silent_of_pending (hs : s.Coherent) (hzero : s.zeroEpisodeActive = true) :
    s.latestCommandValid = false := by
  by_contra hvalid
  have := (hs.command (by simpa using hvalid)).2.1
  simp [hs.pending.mp hzero] at this

theorem Coherent.silent_of_faulted (hs : s.Coherent) (hfault : s.state = .faulted) :
    s.latestCommandValid = false := by
  by_contra hvalid
  have := (hs.command (by simpa using hvalid)).2.1
  simp [hfault] at this

theorem Coherent.silent_of_unconfigured (hs : s.Coherent)
    (hinvalid : s.configurationValid = false) :
    s.latestCommandValid = false := by
  by_contra hvalid
  have := hs.permission (hs.command (by simpa using hvalid)).1
  simp [hs.unconfigured hinvalid] at this

end SafetySession

theorem Op.answers_of_admitted {status : SubmissionStatus} {admitted : Prop} [Decidable admitted]
    (hstatus : status = if admitted then .accepted else .recoveryPending)
    (command : TimedMotionCommand) (now : Int) :
    Op.stops (.submit command now) (.submission status) = false ∧
      Op.unpermitted (.submit command now) (.submission status) = false ∧
      Op.submission (.submit command now) (.submission status) = some ⟨command, now⟩ := by
  rw [hstatus]
  split <;> exact ⟨rfl, rfl, rfl⟩

theorem Op.answers_of_other {op : Op} (hop : ∀ command now, op ≠ .submit command now)
    (response : Response) : op.unpermitted response = false ∧ op.submission response = none := by
  cases op with
  | submit command now => exact absurd rfl (hop command now)
  | _ => exact ⟨rfl, rfl⟩

/-- A session that holds a command has either just taken it or held it before. -/
theorem Transition.intent {s : SafetySession} {link : Link} {op : Op} {o : Outcome}
    (h : Transition s link op o) (hs : s.Coherent) (hvalid : o.session.latestCommandValid = true) :
    op.interrupts s o.response o.writes = false ∧
      ((∃ submission, op.submission o.response = some submission ∧ Takes s o.session submission) ∨
        op.submission o.response = none ∧ SameIntent s o.session) := by
  have hquiet : ∀ {s₁}, Opens s link op s₁ → op.stops o.response = false →
      op.authorizedToken o.response = none → op.resetToken o.response = none →
      op.unpermitted o.response = false → Op.writesZero o.writes = false →
      Op.failsMotion o.writes = false → op.interrupts s o.response o.writes = false := by
    intro s₁ hopens hstops hauthorized hreset hpermitted hzero hmotion
    simp [Op.interrupts, hopens.not_rejected, hstops, hauthorized, hreset, hpermitted, hzero,
      hmotion]
  have hsilent : ∀ {t t' link₁ link' now outcome writes},
      ZeroAttempt t link₁ now outcome t' link' writes → t.latestCommandValid = false →
      t'.latestCommandValid ≠ true := by
    intro t t' link₁ link' now outcome writes hattempt hsilent
    simp [hattempt.silent hsilent]
  cases h with
  | unconfigured hinvalid => simp [hs.silent_of_unconfigured hinvalid] at hvalid
  | unconfiguredLatch => simp at hvalid
  | notLatched _ hlatched =>
    refine ⟨?_, .inr ⟨rfl, by simp [SameIntent]⟩⟩
    simp [Op.interrupts, Op.rejected, Op.checksClock, hlatched, Op.stops, Op.authorizedToken,
      Op.resetToken, Op.unpermitted, Op.writesZero, Op.failsMotion]
  | clockRejected => simp at hvalid
  | clockRejectedPending => simp at hvalid
  | disconnected => simp at hvalid
  | @declined _ s₁ _ hopens _ htakes hstops hreason =>
    have hs₁ := hs.opens hopens
    have hsound : s₁.state ≠ .faulted := by
      intro hfault
      simp [hs₁.silent_of_faulted hfault] at hvalid
    have hop : ∀ command now, op ≠ .submit command now := by
      intro command now hop
      rcases hreason command now hop with hlatched | hfault
      · simp [(hs₁.revoked_of_latched hlatched).2] at hvalid
      · exact hsound hfault
    obtain ⟨hauthorized, hreset, _⟩ := Op.labels_of_not_takes htakes
    obtain ⟨hpermitted, hsubmission⟩ := Op.answers_of_other hop _
    have hstops := Bool.eq_false_iff.mpr (mt hstops hsound)
    exact ⟨hquiet hopens hstops hauthorized hreset hpermitted rfl rfl,
      .inr ⟨hsubmission, hopens.sameIntent hvalid⟩⟩
  | authorized => simp at hvalid
  | feedbackAllowed hopens _ hallowed =>
    refine ⟨hquiet hopens (inhibits_of_allowed hallowed) rfl rfl rfl rfl rfl, .inr ⟨rfl, ?_⟩⟩
    simpa [SameIntent] using hopens.sameIntent hvalid
  | inhibited => simp at hvalid
  | inhibitedFaulted => simp at hvalid
  | stopped => simp at hvalid
  | revoked => simp at hvalid
  | unpermitted => simp at hvalid
  | @admitted command now _ _ hopens hcommand hprevious hresponse =>
    obtain ⟨hstops, hpermitted, hsubmission⟩ := Op.answers_of_admitted hresponse command now
    have htakes := hopens.takes_admitted hs hcommand hprevious
    exact ⟨hquiet hopens hstops rfl rfl hpermitted rfl rfl, .inl ⟨_, hsubmission, htakes⟩⟩
  | @readmitted command now _ _ hopens hcommand _ _ hresponse =>
    obtain ⟨hstops, hpermitted, hsubmission⟩ := Op.answers_of_admitted hresponse command now
    have htakes := hopens.takes_readmitted hcommand
    exact ⟨hquiet hopens hstops rfl rfl hpermitted rfl rfl, .inl ⟨_, hsubmission, htakes⟩⟩
  | latchedDown => simp at hvalid
  | latchedFaulted _ _ henters => cases henters <;> simp at hvalid
  | latchedPending _ _ henters => cases henters <;> simp at hvalid
  | reset => simp at hvalid
  | idle hopens =>
    exact ⟨hquiet hopens rfl rfl rfl rfl rfl rfl, .inr ⟨rfl, hopens.sameIntent hvalid⟩⟩
  | idleLatched hopens =>
    refine ⟨hquiet hopens rfl rfl rfl rfl rfl rfl, .inr ⟨rfl, ?_⟩⟩
    simpa [SameIntent] using hopens.sameIntent hvalid
  | retry hopens hzero hattempt =>
    exact absurd hvalid (hsilent hattempt ((hs.opens hopens).silent_of_pending hzero))
  | watchdog _ _ _ _ _ hattempt => exact absurd hvalid (hsilent hattempt rfl)
  | motionSent hopens hready hdone =>
    refine ⟨hquiet hopens rfl rfl rfl rfl ?_ (not_failsMotion_of_completed hdone), .inr ⟨rfl, ?_⟩⟩
    · simp [Op.writesZero, motionWrite]
    · simpa [SameIntent] using hopens.sameIntent hvalid
  | motionLost => simp at hvalid
  | motionFailed _ _ _ _ _ _ hattempt => exact absurd hvalid (hsilent hattempt rfl)

/-- The commands behind the one that a session holds: they were taken one after the other since the
last call that ends a fresh run, all of them created under the present permission. -/
structure FreshRun (config : SafetyConfig) (submissions : List Submission) (s : SafetySession)
    (fresh : List Submission) : Prop where
  recent : fresh <+: submissions
  latest : fresh.head? = some s.held
  count : s.consecutiveFreshCommands ≤ fresh.length
  chain : fresh.IsChain fun later earlier => later.Continues config earlier
  postdates : ∀ x ∈ fresh, s.authorizationMonotonicNs < x.command.createdMonotonicNs

namespace FreshRun

variable {config : SafetyConfig} {submissions fresh : List Submission} {s t : SafetySession}
  {submission : Submission}

theorem same (h : FreshRun config submissions s fresh) (hsame : SameIntent s t) :
    FreshRun config submissions t fresh := by
  obtain ⟨_, hcommand, hreceipt, hcount, htime⟩ := hsame
  refine ⟨h.recent, ?_, hcount ▸ h.count, h.chain, htime ▸ h.postdates⟩
  rw [h.latest, held, held, hcommand, hreceipt]

theorem single (htakes : Takes s t submission) (hcount : t.consecutiveFreshCommands ≤ 1)
    (submissions : List Submission) :
    FreshRun config (submission :: submissions) t [submission] := by
  refine ⟨⟨submissions, rfl⟩, ?_, hcount, .singleton submission, ?_⟩
  · rw [htakes.held]
    rfl
  · simpa using htakes.postdates

theorem cons (h : FreshRun config submissions s fresh) (htakes : Takes s t submission)
    (hcount : t.consecutiveFreshCommands ≤ s.consecutiveFreshCommands + 1)
    (hcontinues : submission.Continues config s.held) :
    FreshRun config (submission :: submissions) t (submission :: fresh) := by
  refine ⟨List.cons_prefix_cons.mpr ⟨rfl, h.recent⟩, ?_, ?_, ?_, ?_⟩
  · rw [htakes.held]
    rfl
  · exact hcount.trans (Nat.succ_le_succ h.count)
  · refine List.isChain_cons.mpr ⟨fun x hx => ?_, h.chain⟩
    rw [h.latest, Option.mem_some_iff] at hx
    exact hx ▸ hcontinues
  · rw [List.forall_mem_cons]
    refine ⟨htakes.postdates, ?_⟩
    rw [htakes.time]
    exact h.postdates

end FreshRun

variable {admits : Link → Link → Prop} {config : SafetyConfig} {h : List Event} {w : World}

theorem freshRun_of_run (run : (sessionMachine admits config).Run h w)
    (hvalid : w.session.latestCommandValid = true) :
    ∃ fresh, FreshRun config (submissionsSince h) w.session fresh := by
  refine run.invariant (P := fun h w => w.session.latestCommandValid = true →
    ∃ fresh, FreshRun config (submissionsSince h) w.session fresh) ?_ ?_ hvalid
  · intro w hinit hvalid
    simp [(blank_of_init hinit).silent] at hvalid
  · intro h w e w' run hw hstep hvalid
    have htransition := step_transition run hstep
    have hconfig := config_of_run run
    obtain ⟨hbefore, _, rfl⟩ := hstep
    obtain ⟨hquiet, hintent⟩ := htransition.intent (coherent_of_run run) hvalid
    have hquiet : e.interrupts = false := by
      rw [← hquiet, Event.interrupts, hbefore]
      rfl
    rw [submissionsSince, hquiet, if_neg (by simp)]
    rcases hintent with ⟨submission, hsubmission, htakes⟩ | ⟨hnone, hsame⟩
    · rw [Event.submission, Event.response, hsubmission]
      rcases htakes.count with hcount | ⟨hheld, hcount, hcontinues⟩
      · exact ⟨_, .single htakes hcount _⟩
      · obtain ⟨fresh, hfresh⟩ := hw hheld
        exact ⟨_, hfresh.cons htakes hcount (hconfig ▸ hcontinues)⟩
    · rw [Event.submission, Event.response, hnone]
      obtain ⟨fresh, hfresh⟩ := hw (hsame.1 ▸ hvalid)
      exact ⟨fresh, hfresh.same hsame⟩

end WheeltecVcuSerial
