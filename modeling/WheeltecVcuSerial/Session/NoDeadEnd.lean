import WheeltecVcuSerial.Session.Recovery

namespace WheeltecVcuSerial

open SafetySession

namespace SafetySession

variable {s s' t : SafetySession} {link link' : Link} {now : Int}

/-- The clock of a session has seen its last motion frame. -/
def MotionBehind (s : SafetySession) : Prop :=
  s.lastMotionHostWriteCompletionNs ≤ s.lastObservedMonotonicNs

theorem ZeroAttempt.motionBehind {outcome : WriteOutcome} {writes : List Write}
    (h : ZeroAttempt s link now outcome s' link' writes) (hs : s.MotionBehind)
    (hclock : 0 ≤ s.lastObservedMonotonicNs) : s'.MotionBehind := by
  cases h with
  | waiting => exact hs
  | lost => simp [MotionBehind, hclock]
  | completed => exact hs.trans (le_max_left _ _)
  | exhausted => exact hs.trans (le_max_left _ _)
  | failed => exact hs.trans (le_max_left _ _)

theorem Opens.motionBehind {op : Op} {s₁ : SafetySession} (h : Opens s link op s₁)
    (hs : s.MotionBehind) : s₁.MotionBehind ∧ 0 ≤ s₁.lastObservedMonotonicNs := by
  obtain ⟨_, hclock, hmotion⟩ := h.kept hs
  rw [MotionBehind, hclock]
  exact ⟨hmotion, h.accepted.1.le⟩

end SafetySession

theorem Transition.motionBehind {s : SafetySession} {link : Link} {op : Op} {o : Outcome}
    (h : Transition s link op o) (hcoherent : s.Coherent) (hs : s.MotionBehind) :
    o.session.MotionBehind := by
  have hlater : ∀ {time now : Int},
      time = (if s.AcceptsTime now then now else s.lastObservedMonotonicNs) →
      s.lastObservedMonotonicNs ≤ time := by
    intro time now htime
    rw [htime]
    split
    · case isTrue hclock => exact hclock.2
    · exact le_rfl
  have hlatched : ∀ {time : Int} {link connection s₁}, s.lastObservedMonotonicNs ≤ time →
      Enters (s.assertEmergencyStop.observed time) link s₁ connection → s₁.MotionBehind := by
    intro time link connection s₁ htime henters
    cases henters with
    | unchanged => exact hs.trans htime
    | newGeneration => simp [MotionBehind, hcoherent.clock.trans htime]
  cases h with
  | unconfigured => exact hs
  | unconfiguredLatch => exact hs
  | notLatched => exact hs
  | clockRejected => exact hs
  | clockRejectedPending => exact hs
  | disconnected _ _ _ hclock => simp [MotionBehind, hclock.1.le]
  | declined hopens => exact (hopens.motionBehind hs).1
  | authorized hopens => exact (hopens.motionBehind hs).1
  | feedbackAllowed hopens => exact (hopens.motionBehind hs).1
  | inhibited hopens => exact (hopens.motionBehind hs).1
  | inhibitedFaulted hopens => exact (hopens.motionBehind hs).1
  | stopped hopens => exact (hopens.motionBehind hs).1
  | revoked hopens => exact (hopens.motionBehind hs).1
  | unpermitted hopens => exact (hopens.motionBehind hs).1
  | admitted hopens =>
    rw [admitting_eq]
    exact (hopens.motionBehind hs).1
  | readmitted hopens =>
    rw [clearMotionIntent_admitting_eq]
    exact (hopens.motionBehind hs).1
  | latchedDown _ _ htime => simp [MotionBehind, hcoherent.clock.trans (hlater htime)]
  | latchedFaulted _ htime henters => exact hlatched (hlater htime) henters
  | latchedPending _ htime henters =>
    have hbehind := hlatched (hlater htime) henters
    exact hbehind
  | reset hopens => exact (hopens.motionBehind hs).1
  | idle hopens => exact (hopens.motionBehind hs).1
  | idleLatched hopens => exact (hopens.motionBehind hs).1
  | retry hopens _ hattempt =>
    exact hattempt.motionBehind (hopens.motionBehind hs).1 (hopens.motionBehind hs).2
  | watchdog hopens _ _ _ _ hattempt =>
    have h := hopens.motionBehind hs
    exact hattempt.motionBehind h.1 h.2
  | motionSent => simp [MotionBehind]
  | motionLost hopens => simp [MotionBehind, (hopens.motionBehind hs).2]
  | motionFailed hopens _ _ _ _ _ hattempt =>
    have h := hopens.motionBehind hs
    exact hattempt.motionBehind h.1 h.2

theorem motionBehind_of_run {admits : Link → Link → Prop} {config : SafetyConfig} {h : List Event}
    {w : World} (run : (sessionMachine admits config).Run h w) : w.session.MotionBehind := by
  refine run.invariant (P := fun _ w => w.session.MotionBehind) ?_ ?_
  · intro w hinit
    have hclock := (blank_of_init hinit).clock
    rcases hinit with hinit | hinit
    · rw [hinit]
      rcases construct_cases config w.link with heq | ⟨_, heq | ⟨_, heq⟩⟩ <;>
        simp [heq, MotionBehind, initial]
    · simp [hinit, construct, MotionBehind]
  · intro h w e w' run hw hstep
    have htransition := step_transition run hstep
    obtain ⟨_, _, rfl⟩ := hstep
    exact htransition.motionBehind (coherent_of_run run) hw

/-! ### The continuation -/

/-- Calls over one link that lead from one session to another, with their answers; no write leaves
the link. -/
inductive Leads (link : Link) : SafetySession → List Op → List Response → SafetySession → Prop
  | nil {s : SafetySession} : Leads link s [] [] s
  | cons {s t : SafetySession} {op : Op} {ops : List Op} {responses : List Response} :
      (s.perform link op).link = link →
      (∀ write ∈ (s.perform link op).writes, write.outcome.link = link) →
      Leads link (s.perform link op).session ops responses t →
      Leads link s (op :: ops) ((s.perform link op).response :: responses) t

namespace Leads

variable {s t u : SafetySession} {link : Link} {ops ops' : List Op}
  {responses responses' : List Response}

theorem append (first : Leads link s ops responses t) (second : Leads link t ops' responses' u) :
    Leads link s (ops ++ ops') (responses ++ responses') u := by
  induction first with
  | nil => exact second
  | cons hlink hwrites _ ih => exact .cons hlink hwrites (ih second)

theorem one {op : Op} {response : Response} {writes : List Write}
    (h : s.perform link op = ⟨t, link, response, writes⟩)
    (hwrites : ∀ write ∈ writes, write.outcome.link = link) : Leads link s [op] [response] t := by
  have hleads : Leads link s [op] [(s.perform link op).response] (s.perform link op).session :=
    .cons (by rw [h]) (by rw [h]; exact hwrites) .nil
  rwa [h] at hleads

theorem isChain_steady {links : List Link} (h : ∀ later ∈ links, later = link) :
    List.IsChain Link.Evolves (link :: links) := by
  induction links with
  | nil => exact .singleton link
  | cons later links ih =>
    rw [List.forall_mem_cons] at h
    obtain ⟨rfl, h⟩ := h
    exact List.isChain_cons_cons.mpr ⟨.refl later, ih h⟩

/-- Over a link that the transport may report, such calls are the continuation of a run. -/
theorem replay {earlier : Link} (h : Leads link s ops responses t) (hlink : earlier.Evolves link) :
    World.Admitted Link.Evolves ⟨s, earlier⟩ (ops.map fun op => (link, op)) ∧
      (World.replay ⟨s, earlier⟩ (ops.map fun op => (link, op))).1.reverse.map Event.response =
        responses ∧
      (World.replay ⟨s, earlier⟩ (ops.map fun op => (link, op))).2.session = t := by
  induction h generalizing earlier with
  | nil => exact ⟨trivial, rfl, rfl⟩
  | @cons s t op ops responses hstays hwrites _ ih =>
    obtain ⟨hadmitted, hresponses, hsession⟩ := ih (Link.Evolves.refl link)
    have hafter : (⟨s, link, op⟩ : Event).linkAfter = link := hstays
    refine ⟨⟨List.isChain_cons_cons.mpr ⟨hlink, isChain_steady ?_⟩, ?_⟩, ?_, ?_⟩
    · simpa [Event.writes, Event.outcome] using hwrites
    · rw [hafter]
      exact hadmitted
    · simp only [List.map_cons, World.replay, hafter, List.reverse_append, List.reverse_singleton,
        List.singleton_append]
      exact congrArg _ hresponses
    · simp only [List.map_cons, World.replay, hafter]
      exact hsession

end Leads

namespace SafetySession

/-- The time of the tick that a recovery begins with: late enough for a pending zero. -/
def settleNs (s : SafetySession) : Int :=
  max 1 (max s.lastObservedMonotonicNs (if s.zeroEpisodeActive then s.nextZeroAttemptNs else 0))

/-- The time of the permission that a recovery asks for. -/
def rearmNs (s : SafetySession) : Int := s.settleNs + s.config.transmitPeriodNs

def resetCalls (s : SafetySession) (frame : FeedbackFrame) : List Op :=
  if s.emergencyStopLatched then
    [.observeFeedback frame s.rearmNs, .resetEmergencyStop (s.highestEstopResetToken + 1) s.rearmNs]
  else []

def authorizeCalls (s : SafetySession) (frame : FeedbackFrame) : List Op :=
  [.observeFeedback frame s.rearmNs, .authorize (s.highestAuthorizationToken + 1) s.rearmNs]

def submitCalls (s : SafetySession) (frame : FeedbackFrame) (motions : Nat → MotionCommand)
    (count : Nat) : List Op :=
  (List.range count).flatMap fun (count : Nat) =>
    [.observeFeedback frame (s.rearmNs + count + 1),
      .submit (nextCommand s.config s.rearmNs s.highestSequence count (motions count))
        (s.rearmNs + count + 1)]

def motionCalls (s : SafetySession) (link : Link) (frame : FeedbackFrame) : List Op :=
  [.observeFeedback frame (s.rearmNs + s.config.freshCommandsRequired),
    cleanTick link (s.rearmNs + s.config.freshCommandsRequired)]

/-- A tick, and from the next period on, each step right after an allowed feedback frame: the reset
of a latched emergency stop, the permission, the fresh run and a second tick. -/
def recoveryCalls (s : SafetySession) (link : Link) (frame : FeedbackFrame)
    (motions : Nat → MotionCommand) : List Op :=
  cleanTick link s.settleNs :: (s.resetCalls frame ++ (s.authorizeCalls frame ++
    (s.submitCalls frame motions s.config.freshCommandsRequired ++ s.motionCalls link frame)))

def allowedAnswer : Response := .feedback ⟨.acceptedControlAllowed, true, true⟩

def resetAnswers (s : SafetySession) : List Response :=
  if s.emergencyStopLatched then [allowedAnswer, .flag true] else []

def submitAnswers (s : SafetySession) (count : Nat) : List Response :=
  (List.range count).flatMap fun count =>
    [allowedAnswer, .submission (Rearming.submitStatus s.config count)]

/-- The answers to the calls between the two ticks of a recovery. -/
def recoveryAnswers (s : SafetySession) : List Response :=
  s.resetAnswers ++ ([allowedAnswer, .authorization .authorized] ++
    (s.submitAnswers s.config.freshCommandsRequired ++ [allowedAnswer]))

variable {s t : SafetySession} {link : Link} {frame : FeedbackFrame}

/-- What a recovery needs before it asks for permission. -/
structure Poised (s : SafetySession) (link : Link) (t : SafetySession) : Prop where
  standing : t.Standing link
  clock : t.AcceptsTime s.rearmNs
  rate : t.lastMotionHostWriteCompletionNs + s.config.transmitPeriodNs ≤ s.rearmNs
  config : t.config = s.config
  sequence : t.highestSequence = s.highestSequence
  authorization : t.highestAuthorizationToken = s.highestAuthorizationToken

theorem Settles.poised {o : Outcome} (h : s.Settles link s.settleNs o)
    (hperiod : 0 < s.config.transmitPeriodNs) : s.Poised link o.session := by
  have hpositive : 0 < s.settleNs := (le_max_left 1 _).trans_lt' one_pos
  have hclock := h.clock
  have hmotion := h.motion
  refine ⟨h.standing, ⟨?_, ?_⟩, ?_, h.marks.config, h.marks.sequence, h.marks.authorization⟩
  · unfold rearmNs; omega
  · unfold rearmNs; omega
  · unfold rearmNs; omega

section

variable (hok : (decodeFeedbackFrame frame).ok = true)
  (hallowed : (decodeFeedbackFrame frame).feedback.controlAllowed = true)
include hok hallowed

theorem Standing.leads_feedback {now : Int} (ht : t.Standing link) (hclock : t.AcceptsTime now) :
    Leads link t [.observeFeedback frame now] [allowedAnswer] (t.fed now) :=
  .one (ht.feedback hclock hok hallowed) (by simp)

theorem Poised.leads_reset (ht : s.Poised link t)
    (hlatched : t.emergencyStopLatched = s.emergencyStopLatched)
    (hreset : t.highestEstopResetToken = s.highestEstopResetToken) :
    ∃ u, Leads link t (s.resetCalls frame) s.resetAnswers u ∧ s.Poised link u ∧
      u.emergencyStopLatched = false := by
  cases hlatch : s.emergencyStopLatched with
  | false =>
    refine ⟨t, ?_, ht, hlatched.trans hlatch⟩
    rw [resetCalls, resetAnswers, hlatch]
    exact .nil
  | true =>
    have hperform := ht.standing.reset ht.clock (hlatched.trans hlatch)
      (show t.highestEstopResetToken < s.highestEstopResetToken + 1 by omega)
    refine ⟨(t.fed s.rearmNs).releaseEmergencyStop (s.highestEstopResetToken + 1), ?_, ?_, rfl⟩
    · have hsteps := (ht.standing.leads_feedback hok hallowed ht.clock).append
        (.one hperform (by simp))
      simpa only [resetCalls, resetAnswers, hlatch, if_true, List.singleton_append] using hsteps
    · constructor
      · exact ht.standing.released ht.clock _
      · exact ⟨ht.clock.1, by simp [fed]⟩
      · simpa [fed] using ht.rate
      · simpa [fed] using ht.config
      · simpa [fed] using ht.sequence
      · simpa [fed] using ht.authorization

theorem Poised.leads_authorize (ht : s.Poised link t)
    (hlatched : t.emergencyStopLatched = false) :
    ∃ u, Leads link t (s.authorizeCalls frame) [allowedAnswer, .authorization .authorized] u ∧
      u.Rearming link s.rearmNs s.highestSequence 0 ∧ u.config = s.config := by
  have hperform := ht.standing.authorize ht.clock hlatched
    (show t.highestAuthorizationToken < s.highestAuthorizationToken + 1 by
      rw [ht.authorization]; omega)
  have hrequired := (ht.standing.coherent.limits ht.standing.configured).requiredPositive
  refine ⟨_, .append (ht.standing.leads_feedback hok hallowed ht.clock) (.one hperform (by simp)),
    ?_, ht.config⟩
  exact
    { standing := ht.standing.granted ht.clock hlatched _
      unlatched := hlatched
      permitted := rfl
      time := rfl
      clock := by simp
      sequence := ht.sequence
      taken := rfl
      state := by simp; omega
      silent := fun _ => rfl
      held := by simp
      rate := by
        have := ht.rate
        rw [← ht.config] at this
        exact this }

/-- A fresh run of any length up to the required one. -/
theorem Rearming.leads_submits {motions : Nat → MotionCommand}
    (hs : t.Rearming link s.rearmNs s.highestSequence 0) (hconfig : t.config = s.config)
    (hmotions : ∀ count, s.config.Moves (motions count)) {count : Nat}
    (hcount : count ≤ s.config.freshCommandsRequired) :
    ∃ u, Leads link t (s.submitCalls frame motions count) (s.submitAnswers count) u ∧
      u.Rearming link s.rearmNs s.highestSequence count ∧ u.config = s.config ∧
      (0 < count → u.latestFrame =
        (encodeCommand (motions (count - 1)) s.config.maxLinearSpeedMps).frame) := by
  induction count with
  | zero => exact ⟨t, .nil, hs, hconfig, by simp⟩
  | succ count ih =>
    obtain ⟨u, hleads, hrearming, hconfig, _⟩ := ih (by omega)
    have hless : count < u.config.freshCommandsRequired := by rw [hconfig]; omega
    have hmotion : u.config.Moves (motions count) := hconfig ▸ hmotions count
    have hperform := hrearming.perform_submit hless hmotion
    have heq := hrearming.rearmed_eq (motions count) hless
    refine ⟨_, ?_, hrearming.grows hless hmotion, ?_, ?_⟩
    · rw [submitCalls, submitAnswers, List.range_succ, List.flatMap_append, List.flatMap_append]
      refine hleads.append ?_
      rw [List.flatMap_singleton, List.flatMap_singleton, ← hconfig]
      exact .append (hrearming.standing.leads_feedback hok hallowed (hrearming.accepts (by omega)))
        (.one hperform (by simp))
    · rw [heq]
      exact hconfig
    · intro _
      rw [heq, hconfig]
      rfl

end

end SafetySession

/-- The arguments of the call fit the types of the source. -/
def Op.Representable : Op → Prop
  | .authorize token now => token ≤ uint64Max ∧ 0 < now ∧ now ≤ int64Max
  | .resetEmergencyStop token now => token ≤ uint64Max ∧ 0 < now ∧ now ≤ int64Max
  | .submit command now =>
    command.sequenceId ≤ uint64Max ∧ 0 < now ∧ command.createdMonotonicNs = now ∧
      command.deadlineMonotonicNs ≤ int64Max ∧ now < command.deadlineMonotonicNs
  | op => 0 < op.now ∧ op.now ≤ int64Max

namespace World

/-- The link that a recovery needs: a greater generation where the connection is gone or the session
has faulted. -/
def recoveryLink (w : World) : Link :=
  if !w.link.connected || !w.session.connectionKnown || w.session.state = .faulted then
    ⟨true, w.link.generation + 1⟩
  else w.link

/-- The continuation of a run that a recovery is, over the link that it needs. -/
def recovery (w : World) (frame : FeedbackFrame) (motions : Nat → MotionCommand) :
    List (Link × Op) :=
  (w.session.recoveryCalls w.recoveryLink frame motions).map fun op => (w.recoveryLink, op)

/-- The recovery is a continuation that the transport admits, all its steps are taken, and it ends
with the last motion on the wire. -/
structure Recovers (w : World) (frame : FeedbackFrame) (motions : Nat → MotionCommand) : Prop where
  up : w.recoveryLink.connected = true ∧ w.recoveryLink.generation ≤ uint64Max
  representable : ∀ op ∈ w.session.recoveryCalls w.recoveryLink frame motions, op.Representable
  admitted : w.Admitted Link.Evolves (w.recovery frame motions)
  answers : ∃ first last : CycleResult,
    (w.replay (w.recovery frame motions)).1.reverse.map Event.response =
      .cycle first :: (w.session.recoveryAnswers ++ [.cycle last]) ∧
    last.action = .motionHostWriteComplete ∧ last.state = .active
  motion : ∃ e write, (w.replay (w.recovery frame motions)).1.head? = some e ∧
    e.writes = [write] ∧ write.kind = .motion ∧ write.completed = true ∧
    write.buffer =
      (encodeCommand (motions (w.session.config.freshCommandsRequired - 1))
        w.session.config.maxLinearSpeedMps).frame.toList

theorem replay_append (w : World) (first second : List (Link × Op)) :
    (w.replay (first ++ second)).1 =
        ((w.replay first).2.replay second).1 ++ (w.replay first).1 ∧
      (w.replay (first ++ second)).2 = ((w.replay first).2.replay second).2 := by
  induction first generalizing w with
  | nil => simp [replay]
  | cons call first ih =>
    obtain ⟨link, op⟩ := call
    simp only [List.cons_append, replay, ih, List.append_assoc]
    exact ⟨trivial, trivial⟩

end World

variable {config : SafetyConfig} {h : List Event} {w : World} {frame : FeedbackFrame}
  {motions : Nat → MotionCommand}

/-- The room that the marks, the generation and the times of a session leave for a recovery. -/
structure World.Roomy (w : World) : Prop where
  sequence : w.session.highestSequence + 101 ≤ 2 ^ 64
  authorization : w.session.highestAuthorizationToken + 101 ≤ 2 ^ 64
  reset : w.session.highestEstopResetToken + 101 ≤ 2 ^ 64
  generation : w.link.generation + 101 ≤ 2 ^ 64
  observed : w.session.lastObservedMonotonicNs + 3600000000000 ≤ 2 ^ 63
  retry : w.session.zeroEpisodeActive = true →
    w.session.nextZeroAttemptNs + 3600000000000 ≤ 2 ^ 63

theorem World.representable_recovery (hs : w.session.Coherent)
    (hvalid : w.session.configurationValid = true) (hroom : w.Roomy) :
    ∀ op ∈ w.session.recoveryCalls w.recoveryLink frame motions, op.Representable := by
  have hlimits := hs.limits hvalid
  have hperiod := hlimits.periodPositive
  have hperiodLe := hlimits.period
  have hless := hlimits.periodAge
  have hageLe := hlimits.age
  have hrequired := hlimits.required
  rw [maximumDurationNs] at hperiodLe hageLe
  have hsettle : 0 < w.session.settleNs ∧ w.session.settleNs + 3600000000000 ≤ 2 ^ 63 := by
    have hobserved := hroom.observed
    have hclock := hs.clock
    unfold settleNs
    split
    · case isTrue hzero =>
      have := hroom.retry hzero
      omega
    · omega
  obtain ⟨hsequence, hauthorization, hreset, -, -, -⟩ := hroom
  have hrearm : w.session.rearmNs = w.session.settleNs + w.session.config.transmitPeriodNs := rfl
  have hlate : ∀ n : Nat, n ≤ 100 → 0 < w.session.rearmNs + n ∧
      w.session.rearmNs + n + 1 + 60000000000 ≤ int64Max := by
    intro n hn
    unfold int64Max
    omega
  intro op hop
  simp only [recoveryCalls, resetCalls, authorizeCalls, submitCalls, motionCalls, List.mem_cons,
    List.mem_append, List.mem_flatMap, List.mem_range, List.not_mem_nil, or_false] at hop
  rcases hop with rfl | hop | hop | ⟨count, hcount, hop⟩ | hop
  · have := hlate 0 (by omega)
    exact ⟨hsettle.1, show w.session.settleNs ≤ int64Max by omega⟩
  · have := hlate 0 (by omega)
    split at hop
    · simp only [List.mem_cons, List.not_mem_nil, or_false] at hop
      rcases hop with rfl | rfl
      · exact ⟨show 0 < w.session.rearmNs by omega, show w.session.rearmNs ≤ int64Max by omega⟩
      · exact ⟨by unfold uint64Max; omega, by omega, by omega⟩
    · simp at hop
  · have := hlate 0 (by omega)
    rcases hop with rfl | rfl
    · exact ⟨show 0 < w.session.rearmNs by omega, show w.session.rearmNs ≤ int64Max by omega⟩
    · exact ⟨by unfold uint64Max; omega, by omega, by omega⟩
  · have := hlate count (by omega)
    rcases hop with rfl | rfl
    · exact ⟨show 0 < w.session.rearmNs + count + 1 by omega,
        show w.session.rearmNs + count + 1 ≤ int64Max by omega⟩
    · refine ⟨?_, by omega, rfl, ?_, ?_⟩
      · simp only [nextCommand, uint64Max]
        omega
      · simp only [nextCommand]
        omega
      · simp only [nextCommand]
        omega
  · have := hlate w.session.config.freshCommandsRequired hrequired
    rcases hop with rfl | rfl
    · exact ⟨this.1, show w.session.rearmNs + _ ≤ int64Max by omega⟩
    · exact ⟨this.1, show w.session.rearmNs + _ ≤ int64Max by omega⟩

theorem World.recoveryLink_up (hs : w.session.Coherent)
    (hbehind : w.session.connectionGeneration ≤ w.link.generation) : w.recoveryLink.Up := by
  unfold recoveryLink
  split
  · exact ⟨rfl, Nat.succ_ne_zero _⟩
  · case isFalse hkept =>
    simp only [Bool.or_eq_true, Bool.not_eq_true', decide_eq_true_eq, not_or, Bool.not_eq_false]
      at hkept
    refine ⟨hkept.1.1, fun hzero => ?_⟩
    have := hs.linked hkept.1.2
    omega

theorem World.evolves_recoveryLink (w : World) : w.link.Evolves w.recoveryLink := by
  unfold recoveryLink
  split
  · exact ⟨Nat.le_succ _, fun _ _ => Nat.lt_succ_self _⟩
  · exact .refl _

/-- The calls of a recovery are answered as it needs, and the last one passes on the last motion. -/
theorem World.leads_recovery (run : (sessionMachine Link.Evolves config).Run h w)
    (hvalid : w.session.configurationValid = true) (hok : (decodeFeedbackFrame frame).ok = true)
    (hallowed : (decodeFeedbackFrame frame).feedback.controlAllowed = true)
    (hmotions : ∀ count, w.session.config.Moves (motions count)) :
    ∃ u calls first,
      w.session.recoveryCalls w.recoveryLink frame motions =
        calls ++ [cleanTick w.recoveryLink
          (w.session.rearmNs + w.session.config.freshCommandsRequired)] ∧
      Leads w.recoveryLink w.session calls (.cycle first :: w.session.recoveryAnswers) u ∧
      u.configurationValid = true ∧
      0 < w.session.rearmNs + w.session.config.freshCommandsRequired ∧
      u.enter w.recoveryLink (w.session.rearmNs + w.session.config.freshCommandsRequired) =
        .ready u .unchanged ∧
      MotionReady u (w.session.rearmNs + w.session.config.freshCommandsRequired) ∧
      u.latestFrame =
        (encodeCommand (motions (w.session.config.freshCommandsRequired - 1))
          w.session.config.maxLinearSpeedMps).frame := by
  have hs := coherent_of_run run
  have hbehind := behind_of_run run
  have hup := w.recoveryLink_up hs hbehind
  have htick := perform_transition hs.wired w.recoveryLink
    (cleanTick w.recoveryLink w.session.settleNs)
  have hclock : w.session.AcceptsTime w.session.settleNs := by
    unfold AcceptsTime settleNs
    omega
  have hdue : w.session.zeroEpisodeActive = true →
      w.session.nextZeroAttemptNs ≤ w.session.settleNs := by
    intro hzero
    rw [settleNs, if_pos hzero]
    omega
  have hfault : w.session.state = .faulted → w.session.connectionKnown = true →
      w.recoveryLink.generation ≠ w.session.connectionGeneration := by
    intro hfaulted _
    rw [World.recoveryLink, if_pos (by simp [hfaulted])]
    exact (Nat.lt_succ_of_le hbehind).ne'
  have hsettles := htick.settles hs hvalid hup hclock hdue (motionBehind_of_run run) hfault
  have hperiod := (hs.limits hvalid).periodPositive
  obtain ⟨t, hreset, hpoised, hunlatched⟩ := (hsettles.poised hperiod).leads_reset hok hallowed
    hsettles.marks.latched hsettles.marks.reset
  obtain ⟨t', hauthorize, hrearming, hconfig⟩ := hpoised.leads_authorize hok hallowed hunlatched
  obtain ⟨u, hsubmits, hrun, hconfig, hframe⟩ :=
    hrearming.leads_submits hok hallowed hconfig hmotions le_rfl
  have haccepts := hrun.accepts le_rfl
  have hfeedback := hrun.standing.leads_feedback hok hallowed haccepts
  refine ⟨_, _, _, ?_, .cons hsettles.linked hsettles.writes
    (hreset.append (hauthorize.append (hsubmits.append hfeedback))), hrun.standing.configured,
    haccepts.1, hrun.standing.enter_fed haccepts, hrun.motionReady (by rw [hconfig]),
    hframe (hs.limits hvalid).requiredPositive⟩
  simp [recoveryCalls, motionCalls]

/-- From every session that a run leads to, a recovery leads back to motion. -/
theorem no_dead_end (run : (sessionMachine Link.Evolves config).Run h w)
    (hvalid : w.session.configurationValid = true) (hroom : w.Roomy) :
    (∃ motion, w.session.config.Moves motion) ∧
      ∀ frame motions, (decodeFeedbackFrame frame).ok = true →
        (decodeFeedbackFrame frame).feedback.controlAllowed = true →
        (∀ count, w.session.config.Moves (motions count)) → w.Recovers frame motions := by
  have hs := coherent_of_run run
  refine ⟨⟨_, SafetyConfig.moves_maximum (hs.config_valid hvalid)⟩, ?_⟩
  intro frame motions hok hallowed hmotions
  obtain ⟨u, calls, first, hcalls, hleads, hconfigured, hnow, henter, hready, hframe⟩ :=
    w.leads_recovery run hvalid hok hallowed hmotions
  obtain ⟨last, htick, haction, hstate⟩ := tick_of_ready hconfigured henter hready hnow
  have hlast : Leads w.recoveryLink u [cleanTick w.recoveryLink _] [.cycle last] _ :=
    .one htick (by simp [motionWrite, cleanWrite])
  have hwhole := hleads.append hlast
  obtain ⟨hadmitted, hanswers, -⟩ := hwhole.replay w.evolves_recoveryLink
  obtain ⟨-, -, hsession⟩ := hleads.replay w.evolves_recoveryLink
  have hrecovery : w.recovery frame motions =
      (calls ++ [cleanTick w.recoveryLink
        (w.session.rearmNs + w.session.config.freshCommandsRequired)]).map
        fun op => (w.recoveryLink, op) := by rw [World.recovery, hcalls]
  refine
    { up := ?_
      representable := w.representable_recovery hs hvalid hroom
      admitted := hrecovery ▸ hadmitted
      answers := ⟨first, last, by rw [hrecovery]; exact hanswers, haction, hstate⟩
      motion := ?_ }
  · refine ⟨(w.recoveryLink_up hs (behind_of_run run)).1, ?_⟩
    have := hroom.generation
    unfold World.recoveryLink uint64Max
    split
    · dsimp only
      omega
    · omega
  · have hwrites : (⟨u, w.recoveryLink, cleanTick w.recoveryLink _⟩ : Event).writes = _ :=
      congrArg Outcome.writes htick
    refine ⟨_, _, ?_, hwrites, rfl, rfl, ?_⟩
    · rw [hrecovery, List.map_append, (World.replay_append _ _ _).1]
      exact congrArg
        (fun s => some (⟨s, w.recoveryLink, cleanTick w.recoveryLink _⟩ : Event)) hsession
    · exact congrArg Vector.toList hframe

theorem no_dead_end_replayed :
    (steadyReplay movingCalls).2.Recovers allowedFeedback
      fun _ => { linearSpeedMps := .finite (1 / 4) } := by
  have hroom : (steadyReplay movingCalls).2.Roomy := by constructor <;> decide +kernel
  have hmoves : ∀ _ : Nat, (steadyReplay movingCalls).2.session.config.Moves
      { linearSpeedMps := .finite (1 / 4) } := by
    intro _
    constructor <;> decide +kernel
  exact (no_dead_end moving_run (by decide +kernel) hroom).2 _ _ (by decide +kernel)
    (by decide +kernel) hmoves

end WheeltecVcuSerial
