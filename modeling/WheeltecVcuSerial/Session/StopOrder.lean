import WheeltecVcuSerial.Session.AfterZero
import Mathlib.Data.List.Perm.Basic

namespace WheeltecVcuSerial

open SafetySession

/-- Where the elements outside `p` commute with all others, a fold may take them last. -/
theorem foldl_filter {f : β → α → β} {p : α → Bool}
    (hcomm : ∀ a b x, p a = false → f (f x a) b = f (f x b) a) (l : List α) (x : β) :
    l.foldl f x = (l.filter fun a => !p a).foldl f ((l.filter p).foldl f x) := by
  have hlast : ∀ (a : α) (m : List α) (x : β), p a = false →
      m.foldl f (f x a) = f (m.foldl f x) a := by
    intro a m x ha
    induction m generalizing x with
    | nil => rfl
    | cons b m ih => rw [List.foldl_cons, hcomm a b x ha, ih, List.foldl_cons]
  induction l generalizing x with
  | nil => rfl
  | cons a l ih =>
    cases ha : p a with
    | true => simp [ha, ih]
    | false =>
      rw [List.foldl_cons, ih, hlast a _ x ha]
      simp [ha]

theorem foldl_eq_of_perm {f : β → α → β} {p : α → Bool}
    (hcomm : ∀ a b x, p a = false → f (f x a) b = f (f x b) a) {l l' : List α}
    (hperm : l.Perm l') (hfilter : l.filter p = l'.filter p) (x : β) :
    l.foldl f x = l'.foldl f x := by
  rw [foldl_filter hcomm l, foldl_filter hcomm l', hfilter]
  apply (hperm.filter _).foldl_eq'
  intro a ha b _ z
  exact hcomm a b z (by simpa using (List.mem_filter.mp ha).2)

/-- The calls that stop: while a zero episode is pending `submit` takes no command, and its defects
stop as well. -/
def Op.isStop : Op → Bool
  | .disarm _ => true
  | .requestStop _ => true
  | .submit _ _ => true
  | .observeFeedback frame _ => inhibits frame
  | .latchEmergencyStop _ => true
  | _ => false

def Op.isSubmit : Op → Bool
  | .submit _ _ => true
  | _ => false

/-- What the stops of a pending episode may change: the latch, the permission and the sequence
mark. -/
structure Stance where
  latched : Bool
  permitted : Bool
  mark : Nat

/-- The checks of `submit` on the sequence id and on the two times of the command, which revoke. -/
def TimedMotionCommand.sequenced (command : TimedMotionCommand) (mark : Nat) : Bool :=
  !(command.sequenceId = 0 || command.sequenceId ≤ mark)

def TimedMotionCommand.timed (command : TimedMotionCommand) (now : Int) : Bool :=
  !(command.createdMonotonicNs ≤ 0 || command.createdMonotonicNs > now ||
    command.deadlineMonotonicNs ≤ command.createdMonotonicNs)

namespace Op

/-- Whether a stop leaves the permission, at a time that the session takes or at one that it
rejects. -/
def keepsPermission (accepts : Bool) (mark : Nat) : Op → Bool
  | .latchEmergencyStop _ => true
  | .resetEmergencyStop _ _ => true
  | .requestStop _ => accepts
  | .submit command now => accepts && command.sequenced mark && command.timed now
  | _ => false

def markAfter (accepts : Bool) (mark : Nat) : Op → Nat
  | .submit command _ => if accepts && command.sequenced mark then command.sequenceId else mark
  | _ => mark

end Op

namespace Stance

def after (accepts : Bool) (σ : Stance) (op : Op) : Stance where
  latched := σ.latched || op.isLatch
  permitted := σ.permitted && op.keepsPermission accepts σ.mark
  mark := op.markAfter accepts σ.mark

theorem after_comm {accepts : Bool} (a b : Op) (σ : Stance) (ha : a.isSubmit = false) :
    (σ.after accepts a).after accepts b = (σ.after accepts b).after accepts a := by
  have hmark : ∀ mark, a.markAfter accepts mark = mark := by
    intro mark
    cases a <;> first | rfl | simp [Op.isSubmit] at ha
  have hkeeps : ∀ mark mark', a.keepsPermission accepts mark = a.keepsPermission accepts mark' := by
    intro mark mark'
    cases a <;> first | rfl | simp [Op.isSubmit] at ha
  simp only [after, hmark, hkeeps _ σ.mark, mk.injEq, and_true]
  constructor
  · rw [Bool.or_assoc, Bool.or_comm a.isLatch, Bool.or_assoc]
  · rw [Bool.and_assoc, Bool.and_comm (a.keepsPermission _ _), Bool.and_assoc]

/-- The stance of a session; under a latch only the latch counts. -/
structure Tells (σ : Stance) (s : SafetySession) : Prop where
  latched : s.emergencyStopLatched = σ.latched
  permitted : σ.latched = false → s.authorizationActive = σ.permitted
  mark : σ.latched = false → s.highestSequence = σ.mark

end Stance

namespace SafetySession

variable {s : SafetySession} {link : Link} {now : Int} {op : Op} {σ : Stance}

/-- A zero episode is pending on the connection of the link. -/
structure Waiting (s : SafetySession) (link : Link) : Prop where
  coherent : s.Coherent
  targeted : s.Targeted
  pending : s.zeroEpisodeActive = true
  onLink : s.OnLink link

namespace Waiting

theorem known (hs : s.Waiting link) : s.connectionKnown = true :=
  hs.coherent.known_of_pending hs.pending

theorem state (hs : s.Waiting link) : s.state = .stopPending := hs.coherent.pending.mp hs.pending

theorem configured (hs : s.Waiting link) : s.configurationValid = true := by
  by_contra hinvalid
  have := hs.coherent.unconfigured (by simpa using hinvalid)
  simp [hs.known] at this

theorem up (hs : s.Waiting link) : link.Up :=
  ⟨hs.onLink.1, by rw [hs.onLink.2]; exact hs.coherent.linked hs.known⟩

theorem enter_eq (hs : s.Waiting link) (hclock : s.AcceptsTime now) :
    s.enter link now = .ready (s.observed now) .unchanged :=
  enter_of_known (hs.coherent.wired hs.configured) hclock hs.up hs.known hs.onLink.2

end Waiting

/-- What a call leaves of a pending episode. -/
structure Keeps (s : SafetySession) (σ : Stance) (now : Int) (t : SafetySession) : Prop where
  pending : t.zeroEpisodeActive = true
  generation : t.connectionGeneration = s.connectionGeneration
  clock : t.AcceptsTime now ↔ s.AcceptsTime now
  tells : σ.Tells t

theorem Waiting.keeps (hs : s.Waiting link) {t : SafetySession}
    (hsame : t.transport = s.transport ∧ t.connectionKnown = s.connectionKnown ∧
      t.connectionGeneration = s.connectionGeneration ∧ t.state = s.state ∧
      (t.AcceptsTime now ↔ s.AcceptsTime now))
    (htells : σ.Tells t) (after : SessionState) (earliest : Int) :
    s.Keeps σ now (t.beginZeroEpisode link after earliest) := by
  obtain ⟨htransport, hknown, hgeneration, hstate, hclock⟩ := hsame
  rw [beginZeroEpisode_eq_pend (hknown.trans hs.known)
    (htransport.trans (hs.coherent.wired hs.configured)) hs.onLink.1
    (by simp [hstate, hs.state])]
  exact ⟨rfl, hgeneration, hclock, htells.latched, htells.permitted, htells.mark⟩

theorem accepts_observed (hclock : s.AcceptsTime now) :
    (s.observed now).AcceptsTime now ↔ s.AcceptsTime now :=
  iff_of_true ⟨hclock.1, le_rfl⟩ hclock

/-- A command that arrives while a zero episode is pending and passes the checks on its sequence id
may still be defective, but it is not taken. -/
theorem Waiting.submitSequenced (hs : s.Waiting link) (hclock : s.AcceptsTime now)
    {command : TimedMotionCommand}
    (htells : σ.Tells ((s.observed now).consumeSequence command.sequenceId)) :
    s.Keeps { σ with permitted := σ.permitted && command.timed now } now
      ((s.observed now).submitSequenced link .unchanged command now).1 := by
  have hclock := accepts_observed hclock
  have hpending := hs.pending
  obtain ⟨hlatched, hpermitted, hmark⟩ := htells
  simp only [SafetySession.submitSequenced]
  cases htimed : command.timed now with
  | false =>
    rw [TimedMotionCommand.timed, Bool.not_eq_false'] at htimed
    rw [if_pos htimed, Bool.and_false]
    apply hs.keeps
    · exact ⟨rfl, rfl, rfl, rfl, hclock⟩
    · exact ⟨hlatched, fun _ => rfl, hmark⟩
  | true =>
    rw [TimedMotionCommand.timed, Bool.not_eq_true'] at htimed
    rw [if_neg (by rw [htimed]; exact Bool.false_ne_true), Bool.and_true]
    by_cases hstale : now > command.deadlineMonotonicNs ∨
        now - command.createdMonotonicNs > s.config.maxCommandAgeNs
    · rw [if_pos (by simpa using hstale)]
      apply hs.keeps
      · exact ⟨rfl, rfl, rfl, rfl, hclock⟩
      · exact ⟨hlatched, hpermitted, hmark⟩
    · rw [if_neg (by simpa using hstale), if_pos (by simp [hpending])]
      exact ⟨hpending, rfl, hclock, hlatched, hpermitted, hmark⟩

theorem Waiting.submit (hs : s.Waiting link) (hclock : s.AcceptsTime now)
    (command : TimedMotionCommand) (htells : σ.Tells s) :
    s.Keeps (σ.after true (.submit command now)) now (s.submit link command now).1 := by
  have hclock' := accepts_observed hclock
  have hstate := hs.state
  have hmark := htells.mark
  simp only [SafetySession.submit, hs.configured, hs.enter_eq hclock]
  rw [if_neg (by simp)]
  split
  · case isTrue hlatched =>
    have hlatched : s.emergencyStopLatched = true := hlatched
    refine ⟨hs.pending, rfl, hclock', ?_⟩
    constructor <;> simp [Stance.after, ← htells.latched, hlatched]
  · case isFalse hlatched =>
    have hmark := htells.mark (by rw [← htells.latched]; simpa using hlatched)
    rw [if_neg (by simp [hstate])]
    split
    · case isTrue hreplayed =>
      have hreplayed : command.sequenced σ.mark = false := by
        rw [TimedMotionCommand.sequenced, ← hmark, Bool.not_eq_false']
        exact hreplayed
      apply hs.keeps
      · exact ⟨rfl, rfl, rfl, rfl, hclock'⟩
      · constructor <;>
          simp [Stance.after, hreplayed, Op.keepsPermission, Op.markAfter, htells.latched,
            Op.isLatch, hmark]
    · case isFalse hfresh =>
      have hfresh : command.sequenced σ.mark = true := by
        rw [TimedMotionCommand.sequenced, ← hmark, Bool.not_eq_true']
        exact Bool.not_eq_true _ ▸ hfresh
      have h := hs.submitSequenced (σ := ⟨σ.latched, σ.permitted, command.sequenceId⟩) hclock
        ⟨htells.latched, htells.permitted, fun _ => rfl⟩
      simpa [Stance.after, Op.isLatch, Op.keepsPermission, Op.markAfter, hfresh] using h

theorem Waiting.latch (hs : s.Waiting link) (accepts : Bool) :
    s.Keeps (σ.after accepts (.latchEmergencyStop now)) now (s.latchEmergencyStop link now) := by
  have h := perform_transition (hs.coherent.wired) link (.latchEmergencyStop now)
  have hsession : s.latchEmergencyStop link now =
    (s.perform link (.latchEmergencyStop now)).session := rfl
  rw [hsession]
  generalize s.perform link (.latchEmergencyStop now) = o at h
  have hentered : ∀ {time connection s₁},
      Enters (s.assertEmergencyStop.observed time) link s₁ connection →
        s₁ = s.assertEmergencyStop.observed time := by
    intro time connection s₁ henters
    cases henters with
    | unchanged => rfl
    | newGeneration _ hnew => exact absurd hs.onLink.2 (hnew hs.known)
  cases h with
  | unconfigured _ hlatch => simp [Op.isLatch] at hlatch
  | unconfiguredLatch hvalid => simp [hs.configured] at hvalid
  | clockRejected _ _ hlatch => simp [Op.isLatch] at hlatch
  | clockRejectedPending _ _ hlatch => simp [Op.isLatch] at hlatch
  | disconnected _ _ hlatch => simp [Op.isLatch] at hlatch
  | declined _ hforgets => simp [Op.forgets] at hforgets
  | stopped _ _ hlatch => simp [Op.isLatch] at hlatch
  | revoked _ _ hlatch => simp [Op.isLatch] at hlatch
  | latchedDown _ hdown => exact absurd hs.up hdown
  | latchedFaulted _ _ henters hfault =>
    rw [hentered henters] at hfault
    have hfault : s.state = .faulted := hfault
    simp [hs.state] at hfault
  | latchedPending _ htime henters =>
    rw [hentered henters]
    constructor
    · simp
    · simp
    · by_cases hclock : s.AcceptsTime now
      · rw [if_pos hclock] at htime
        exact iff_of_true ⟨hclock.1, by simp [htime]⟩ hclock
      · rw [if_neg hclock] at htime
        simp [AcceptsTime, htime]
    · constructor <;> simp [Stance.after, Op.isLatch]

theorem Waiting.accepted (hs : s.Waiting link) (hclock : s.AcceptsTime op.now)
    (hstop : op.isStop = true) (htells : σ.Tells s) :
    s.Keeps (σ.after true op) op.now (s.perform link op).session := by
  have hclock' := accepts_observed hclock
  have hstate := hs.state
  have hlatched := htells.latched
  have hpermitted := htells.permitted
  have hmark := htells.mark
  cases op with
  | disarm now =>
    have henter : s.enter link now = .ready (s.observed now) .unchanged := hs.enter_eq hclock
    simp only [perform, disarm, hs.configured, henter]
    rw [if_neg (by simp), if_neg (by simp [hstate])]
    apply hs.keeps
    · exact ⟨rfl, rfl, rfl, rfl, hclock'⟩
    · constructor <;> simp_all [Stance.after, Op.isLatch, Op.keepsPermission, Op.markAfter]
  | requestStop now =>
    have henter : s.enter link now = .ready (s.observed now) .unchanged := hs.enter_eq hclock
    simp only [perform, requestStop, hs.configured, henter]
    rw [if_neg (by simp), if_neg (by simp [hstate])]
    apply hs.keeps
    · exact ⟨rfl, rfl, rfl, rfl, hclock'⟩
    · constructor <;> simp_all [Stance.after, Op.isLatch, Op.keepsPermission, Op.markAfter]
  | submit command now => exact hs.submit hclock command htells
  | observeFeedback frame now =>
    have henter : s.enter link now = .ready (s.observed now) .unchanged := hs.enter_eq hclock
    have hinhibits : inhibits frame = true := hstop
    have hok : (decodeFeedbackFrame frame).ok = true := by
      rw [inhibits, Bool.and_eq_true] at hinhibits
      exact hinhibits.1
    have hallowed : ¬ (decodeFeedbackFrame frame).feedback.controlAllowed = true := by
      intro hallowed
      simp [inhibits_of_allowed hallowed] at hinhibits
    simp only [perform, observeFeedback, hs.configured, henter]
    rw [if_neg (by simp), if_neg (by simp [hok]), if_neg hallowed]
    apply hs.keeps
    · exact ⟨rfl, rfl, rfl, rfl, hclock'⟩
    · constructor <;> simp_all [Stance.after, Op.isLatch, Op.keepsPermission, Op.markAfter]
  | latchEmergencyStop now => exact hs.latch true
  | authorize => simp [Op.isStop] at hstop
  | resetEmergencyStop => simp [Op.isStop] at hstop
  | tick => simp [Op.isStop] at hstop

theorem perform_of_rejected (hchecked : op.checksClock s = true) (hlatch : op.isLatch = false)
    (hclock : ¬ s.AcceptsTime op.now) :
    (s.perform link op).session = s.handleClockFailure link := by
  have henter : s.enter link op.now = .clockInvalid (s.handleClockFailure link) :=
    enter_of_rejected hclock
  cases op with
  | latchEmergencyStop => simp [Op.isLatch] at hlatch
  | resetEmergencyStop =>
    simp only [Op.checksClock, Bool.and_eq_true] at hchecked
    simp only [Op.now] at henter
    simp [perform, resetEmergencyStop, hchecked, henter]
  | _ =>
    simp only [Op.checksClock] at hchecked
    simp only [Op.now] at henter
    simp [perform, authorize, disarm, requestStop, submit, observeFeedback, tick, hchecked, henter]

/-- Any call at a time that the session rejects stops, except a reset that finds no latch. -/
theorem Waiting.rejected (hs : s.Waiting link) (hclock : ¬ s.AcceptsTime op.now)
    (htells : σ.Tells s) :
    s.Keeps (σ.after false op) op.now (s.perform link op).session := by
  by_cases hlatch : op.isLatch = true
  · cases op with
    | latchEmergencyStop now => exact hs.latch false
    | _ => simp [Op.isLatch] at hlatch
  rw [Bool.not_eq_true] at hlatch
  by_cases hchecked : op.checksClock s = true
  · rw [perform_of_rejected hchecked hlatch hclock, handleClockFailure,
      if_pos (by simp [hs.known, hs.coherent.wired hs.configured, hs.onLink.1])]
    apply hs.keeps
    · exact ⟨rfl, rfl, rfl, rfl, Iff.rfl⟩
    · refine ⟨by simp [Stance.after, hlatch, htells.latched], ?_, ?_⟩
      · intro hunlatched
        simp only [Stance.after, hlatch, Bool.or_false] at hunlatched
        cases op <;>
          simp_all [Stance.after, Op.keepsPermission, Op.checksClock, Op.isLatch, htells.latched]
      · intro hunlatched
        simp only [Stance.after, hlatch, Bool.or_false] at hunlatched
        cases op <;> exact htells.mark hunlatched
  · cases op with
    | resetEmergencyStop token now =>
      have hunlatched : s.emergencyStopLatched = false := by
        simpa [Op.checksClock, hs.configured] using hchecked
      have heq : (s.perform link (.resetEmergencyStop token now)).session = s := by
        simp [perform, resetEmergencyStop, hunlatched]
      rw [heq]
      refine ⟨hs.pending, rfl, Iff.rfl, ?_⟩
      simpa [Stance.after, Op.isLatch, Op.keepsPermission, Op.markAfter] using htells
    | _ => simp [Op.checksClock, hs.configured] at hchecked

/-- One of the stops that may come in any order: at a time that the session rejects every call is
one. -/
def StopsAt (s : SafetySession) (now : Int) (op : Op) : Prop :=
  op.now = now ∧ (s.AcceptsTime now → op.isStop = true)

theorem Waiting.step (hs : s.Waiting link) (hop : s.StopsAt now op) (htells : σ.Tells s) :
    (s.perform link op).session.Waiting link ∧
      s.Keeps (σ.after (s.AcceptsTime now) op) now (s.perform link op).session := by
  obtain ⟨rfl, hstop⟩ := hop
  have hkeeps : s.Keeps (σ.after (s.AcceptsTime op.now) op) op.now (s.perform link op).session := by
    by_cases hclock : s.AcceptsTime op.now
    · simpa [hclock] using hs.accepted hclock (hstop hclock) htells
    · simpa [hclock] using hs.rejected hclock htells
  have h := perform_transition (hs.coherent.wired) link op
  obtain ⟨haim, hcase⟩ := h.aimed hs.coherent hs.targeted.aimed fun _ => hs.targeted.candid
  refine ⟨⟨h.coherent hs.coherent, ⟨haim, ?_⟩, hkeeps.pending, ?_⟩, hkeeps⟩
  · rcases hcase with hcandid | ⟨hoff, -⟩
    · exact hcandid
    · exact absurd hs.onLink hoff
  · exact ⟨hs.onLink.1, hs.onLink.2.trans hkeeps.generation.symm⟩

/-- The session after some calls over one link. -/
def performAll (s : SafetySession) (link : Link) (ops : List Op) : SafetySession :=
  ops.foldl (fun s op => (s.perform link op).session) s

theorem Waiting.steps {ops : List Op} (hs : s.Waiting link) (hops : ∀ op ∈ ops, s.StopsAt now op)
    (htells : σ.Tells s) :
    (s.performAll link ops).Waiting link ∧
      (ops.foldl (Stance.after (s.AcceptsTime now)) σ).Tells (s.performAll link ops) := by
  induction ops generalizing s σ with
  | nil => exact ⟨hs, htells⟩
  | cons op ops ih =>
    rw [List.forall_mem_cons] at hops
    obtain ⟨hwaits, hkeeps⟩ := hs.step hops.1 htells
    have hrest : ∀ op' ∈ ops, (s.perform link op).session.StopsAt now op' :=
      fun op' hmem =>
        ⟨(hops.2 op' hmem).1, fun hclock => (hops.2 op' hmem).2 (hkeeps.clock.mp hclock)⟩
    have h := ih hwaits hrest hkeeps.tells
    simp only [hkeeps.clock] at h
    exact h

/-- The state that a clean zero write enters is told by the stance. -/
theorem Waiting.after_zero (hs : s.Waiting link) (htells : σ.Tells s) :
    s.completeZero.state =
      if σ.latched then .emergencyStopLatched
      else if σ.permitted then .recovering else .connectedInhibited := by
  rw [completeZero_state, htells.latched]
  cases hlatched : σ.latched with
  | true => rfl
  | false =>
    have hunlatched : s.emergencyStopLatched = false := htells.latched.trans hlatched
    rw [← htells.permitted hlatched]
    rcases hs.targeted.aimed hs.pending hunlatched with hafter | ⟨hafter, hrevoked⟩
    · simp [hafter, hs.targeted.candid hs.pending hunlatched hafter]
    · simp [hafter, hrevoked]

/-- Stops at one time, the submits among them in the same order, lead to one state after zero. -/
theorem Waiting.order_free {ops ops' : List Op} (hs : s.Waiting link)
    (hops : ∀ op ∈ ops, s.StopsAt now op) (hperm : ops.Perm ops')
    (hsubmits : ops.filter Op.isSubmit = ops'.filter Op.isSubmit) :
    (s.performAll link ops).completeZero.state = (s.performAll link ops').completeZero.state := by
  have htells :
      (⟨s.emergencyStopLatched, s.authorizationActive, s.highestSequence⟩ : Stance).Tells s :=
    ⟨rfl, fun _ => rfl, fun _ => rfl⟩
  obtain ⟨hwaits, htold⟩ := hs.steps hops htells
  obtain ⟨hwaits', htold'⟩ := hs.steps (fun op hmem => hops op (hperm.mem_iff.mpr hmem)) htells
  rw [hwaits.after_zero htold, hwaits'.after_zero htold',
    foldl_eq_of_perm Stance.after_comm hperm hsubmits]

end SafetySession

/-- A session of a run that waits for a zero on the connection of its link. -/
theorem waiting_of_run {config : SafetyConfig} {h : List Event} {w : World} {link : Link}
    (run : (sessionMachine Link.Evolves config).Run h w) (hlink : w.link.Evolves link)
    (honlink : w.session.OnLink link) (hzero : w.session.zeroEpisodeActive = true) :
    w.session.Waiting link := by
  obtain ⟨haim, hcandid⟩ := aimed_of_run run
  have hearlier := honlink.earlier (behind_of_run run) hlink
  exact ⟨coherent_of_run run, ⟨haim, hcandid hearlier⟩, hzero, honlink⟩

/-- The state that a clean zero write enters is what the latch and the permission allow, and no
order of the stops that arrive at one time before it, the submits apart, has a say in it. -/
theorem state_after_zero {config : SafetyConfig} {h : List Event} {w : World}
    (run : (sessionMachine Link.Evolves config).Run h w) :
    (∀ e ∈ h, ∀ write ∈ e.writes, write.kind = .zero → write.completed = true →
      write.outcome.link.connected = true →
      e.after.zeroEpisodeActive = false ∧ e.after.state = e.after.permittedState) ∧
    ∀ link now ops ops', w.link.Evolves link → w.session.OnLink link →
      w.session.zeroEpisodeActive = true → (∀ op ∈ ops, w.session.StopsAt now op) →
      ops.Perm ops' → ops.filter Op.isSubmit = ops'.filter Op.isSubmit →
      (w.session.performAll link ops).zeroEpisodeActive = true ∧
        (w.session.performAll link ops').zeroEpisodeActive = true ∧
        (w.session.performAll link ops).completeZero.state =
          (w.session.performAll link ops').completeZero.state := by
  constructor
  · intro e he write hmem hkind hcompleted hup
    exact permitted_of_run run he hmem hkind hcompleted hup
  · intro link now ops ops' hlink honlink hzero hops hperm hsubmits
    have hs := waiting_of_run run hlink honlink hzero
    have htells : (⟨_, _, _⟩ : Stance).Tells w.session := ⟨rfl, fun _ => rfl, fun _ => rfl⟩
    have hops' : ∀ op ∈ ops', w.session.StopsAt now op :=
      fun op hmem => hops op (hperm.mem_iff.mpr hmem)
    exact ⟨(hs.steps hops htells).1.pending, (hs.steps hops' htells).1.pending,
      hs.order_free hops hperm hsubmits⟩

/-- The motion of `movingCalls` with a stop request behind it. -/
def haltingCalls : List Op := movingCalls ++ [.requestStop 106]

theorem halting_run :
    (sessionMachine Link.Evolves steadyConfig).Run (steadyReplay haltingCalls).1
      (steadyReplay haltingCalls).2 :=
  steady_run haltingCalls (by decide +kernel) rfl

theorem halted_run :
    (sessionMachine Link.Evolves steadyConfig).Run
      (steadyReplay (haltingCalls ++ [plainTick 107])).1
      (steadyReplay (haltingCalls ++ [plainTick 107])).2 :=
  steady_run (haltingCalls ++ [plainTick 107]) (by decide +kernel) rfl

theorem state_after_zero_replayed :
    (steadyEvent haltingCalls (plainTick 107)).after.state =
        (steadyEvent haltingCalls (plainTick 107)).after.permittedState ∧
      ((steadyReplay haltingCalls).2.session.performAll steadyLink
          [.disarm 106, .latchEmergencyStop 106]).completeZero.state =
        ((steadyReplay haltingCalls).2.session.performAll steadyLink
          [.latchEmergencyStop 106, .disarm 106]).completeZero.state := by
  constructor
  · have h := (state_after_zero halted_run).1 (steadyEvent haltingCalls (plainTick 107))
      (by decide +kernel)
      ((steadyReplay haltingCalls).2.session.observed 107 |>.zeroWrite steadyLink 107
        (wholeWrite 107))
    exact (h (by decide +kernel) rfl (by decide +kernel) rfl).2
  · have h := (state_after_zero halting_run).2 steadyLink 106
      [.disarm 106, .latchEmergencyStop 106] [.latchEmergencyStop 106, .disarm 106]
    refine (h (by decide +kernel) ?_ (by decide +kernel) ?_ (.swap _ _ []) rfl).2.2
    · constructor <;> decide +kernel
    · intro op hmem
      refine ⟨?_, fun _ => ?_⟩ <;> (revert op; decide)

/-- Of two submits that come while a zero is pending, the one that goes behind the other revokes. -/
theorem submits_order_matters :
    ¬ ∀ (config : SafetyConfig) (h : List Event) (w : World) (link : Link) (now : Int)
      (ops ops' : List Op), (sessionMachine Link.Evolves config).Run h w →
      w.link.Evolves link → w.session.OnLink link → w.session.zeroEpisodeActive = true →
      (∀ op ∈ ops, w.session.StopsAt now op) → ops.Perm ops' →
      (w.session.performAll link ops).completeZero.state = .connectedInhibited →
      (w.session.performAll link ops').completeZero.state ≠ .recovering := by
  intro hclaim
  have h := hclaim _ _ _ steadyLink 106
    [.submit (forwardCommand 6 106) 106, .submit (forwardCommand 5 106) 106]
    [.submit (forwardCommand 5 106) 106, .submit (forwardCommand 6 106) 106] halting_run
    (by decide +kernel) (by constructor <;> decide +kernel) (by decide +kernel) ?_
    (.swap _ _ []) (by decide +kernel)
  · exact h (by decide +kernel)
  · intro op hmem
    refine ⟨?_, fun _ => ?_⟩ <;> (revert op; decide)

end WheeltecVcuSerial
