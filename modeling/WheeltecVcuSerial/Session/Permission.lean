import WheeltecVcuSerial.Session.Marks
import WheeltecVcuSerial.Session.ZeroFirst

namespace WheeltecVcuSerial

open SafetySession

namespace Op

theorem stops_of_revokes {op : Op} {response : Response} (h : op.revokes response = true) :
    op.stops response = true := by
  cases op <;> cases response <;> simp_all [revokes, stops]
  rename_i status
  cases status <;> simp_all [SubmissionStatus.revokes, SubmissionStatus.stops]

/-- A motion frame that was not cleanly completed. -/
def failsMotion (writes : List Write) : Bool :=
  writes.any fun write => write.kind = .motion && !write.completed

/-- The calls after which an authorization is gone. -/
def unseats (s : SafetySession) (op : Op) (response : Response) (writes : List Write) : Bool :=
  op.rejected s || op.revokes response || (op.resetToken response).isSome || failsMotion writes

end Op

namespace Event

def forgets (e : Event) : Bool := e.op.rejected e.before || e.op.forgets
def unseats (e : Event) : Bool := e.op.unseats e.before e.response e.writes

/-- A valid frame that allows control, observed at `time` on the link of that generation. -/
def Allows (generation : Nat) (time : Int) (e : Event) : Prop :=
  ∃ frame, e.op = .observeFeedback frame time ∧ (decodeFeedbackFrame frame).ok = true ∧
    (decodeFeedbackFrame frame).feedback.controlAllowed = true ∧
    e.response = .feedback ⟨.acceptedControlAllowed, true, true⟩ ∧ e.link.generation = generation

/-- An accepted authorization at `time` on the link of that generation. -/
def Authorizes (generation : Nat) (time : Int) (e : Event) : Prop :=
  ∃ token, e.op = .authorize token time ∧ e.response = .authorization .authorized ∧
    e.link.generation = generation

end Event

namespace SafetySession

/-- The generation and the time of the allowed feedback that a session holds. -/
def heldFeedback (s : SafetySession) : Option (Nat × Int) :=
  if s.feedbackAllowedSeen && s.connectionKnown then
    some (s.connectionGeneration, s.latestAllowedFeedbackReceiptNs)
  else none

/-- The generation and the time of the authorization that a session without a fault holds. -/
def heldPermission (s : SafetySession) : Option (Nat × Int) :=
  if s.authorizationActive && s.connectionKnown && s.state ≠ .faulted then
    some (s.connectionGeneration, s.authorizationMonotonicNs)
  else none

variable {s s₁ s' : SafetySession} {link link' : Link} {op : Op} {now : Int} {held : Nat × Int}

theorem Consumes.not_forgets {response : Response} {sequenceId : Nat}
    (h : Consumes s op response sequenceId) : op.forgets = false := by
  cases h <;> rfl

theorem Consumes.resetToken {response : Response} {sequenceId : Nat}
    (h : Consumes s op response sequenceId) : op.resetToken response = none := by
  cases h <;> simp [Op.resetToken]

theorem Opens.heldFeedback (h : Opens s link op s₁) (hheld : s₁.heldFeedback = some held) :
    s.heldFeedback = some held := by
  obtain ⟨connection, henters⟩ := h.enters
  cases henters with
  | unchanged => exact hheld
  | newGeneration => simp [SafetySession.heldFeedback] at hheld

theorem ZeroAttempt.heldFeedback {outcome : WriteOutcome} {writes : List Write}
    (h : ZeroAttempt s link now outcome s' link' writes) (hheld : s'.heldFeedback = some held) :
    s.heldFeedback = some held := by
  cases h with
  | lost => simp [SafetySession.heldFeedback] at hheld
  | waiting => exact hheld
  | _ => simpa [SafetySession.heldFeedback] using hheld

theorem heldPermission_eq_some (hactive : s.authorizationActive = true)
    (hknown : s.connectionKnown = true) (hstate : s.state ≠ .faulted) :
    s.heldPermission = some (s.connectionGeneration, s.authorizationMonotonicNs) := by
  simp [heldPermission, hactive, hknown, hstate]

theorem heldPermission_of_authorized (h : s.authorized = true) :
    s.heldPermission = some (s.connectionGeneration, s.authorizationMonotonicNs) := by
  have hauthorized := authorized_iff.mp h
  exact heldPermission_eq_some hauthorized.active hauthorized.known hauthorized.sound

theorem sound_of_heldPermission (hheld : s.heldPermission = some held) : s.state ≠ .faulted := by
  intro hstate
  simp [heldPermission, hstate] at hheld

theorem feedback_of_fresh (hfresh : s.feedbackIsFresh now = true)
    (hknown : s.connectionKnown = true) :
    s.heldFeedback = some (s.connectionGeneration, s.latestAllowedFeedbackReceiptNs) ∧
      s.latestAllowedFeedbackReceiptNs ≤ now ∧
      now - s.latestAllowedFeedbackReceiptNs ≤ s.config.feedbackTimeoutNs := by
  simp only [feedbackIsFresh, Bool.and_eq_true, decide_eq_true_eq] at hfresh
  obtain ⟨⟨⟨hseen, _⟩, hreceipt⟩, hage⟩ := hfresh
  exact ⟨by simp [heldFeedback, hseen, hknown], hreceipt, hage⟩

/-- An update that touches none of what a permission rests on, from a state without a fault. -/
theorem heldPermission_of_kept (hactive : s'.authorizationActive = s.authorizationActive)
    (hknown : s'.connectionKnown = s.connectionKnown)
    (hgeneration : s'.connectionGeneration = s.connectionGeneration)
    (htime : s'.authorizationMonotonicNs = s.authorizationMonotonicNs) (hstate : s.state ≠ .faulted)
    (hheld : s'.heldPermission = some held) : s.heldPermission = some held := by
  simp only [heldPermission, hactive, hknown, hgeneration, htime] at hheld ⊢
  split at hheld
  · case isTrue hkept =>
    rw [← hheld]
    simp_all
  · simp at hheld

theorem Opens.heldPermission (h : Opens s link op s₁) (hheld : s₁.heldPermission = some held) :
    s.heldPermission = some held := by
  obtain ⟨connection, henters⟩ := h.enters
  cases henters with
  | unchanged => exact hheld
  | newGeneration => simp [SafetySession.heldPermission] at hheld

theorem ZeroAttempt.heldPermission {outcome : WriteOutcome} {writes : List Write}
    (h : ZeroAttempt s link now outcome s' link' writes) (hstate : s.state = .stopPending)
    (hheld : s'.heldPermission = some held) : s.heldPermission = some held := by
  cases h with
  | waiting => exact hheld
  | lost => simp [SafetySession.heldPermission] at hheld
  | _ =>
    exact heldPermission_of_kept (by simp) (by simp) (by simp) (by simp) (by simp [hstate]) hheld

theorem ZeroAttempt.not_failsMotion {outcome : WriteOutcome} {writes : List Write}
    (h : ZeroAttempt s link now outcome s' link' writes) : Op.failsMotion writes = false := by
  simp only [Op.failsMotion, List.any_eq_false]
  intro write hmem
  simp [h.kind write hmem]

theorem not_failsMotion_of_completed {outcome : WriteOutcome}
    (hdone : (outcome.ioResult now).completes commandFrameSize = true) :
    Op.failsMotion [s.motionWrite link now outcome] = false := by
  simpa [Op.failsMotion, Write.completed, motionWrite] using hdone

end SafetySession

theorem Transition.feedback {s : SafetySession} {link : Link} {op : Op} {o : Outcome}
    {held : Nat × Int} (h : Transition s link op o) (hs : s.Coherent)
    (hheld : o.session.heldFeedback = some held) :
    (∃ frame, op = .observeFeedback frame held.2 ∧ (decodeFeedbackFrame frame).ok = true ∧
        (decodeFeedbackFrame frame).feedback.controlAllowed = true ∧
        o.response = .feedback ⟨.acceptedControlAllowed, true, true⟩ ∧
        link.generation = held.1) ∨
      (op.rejected s || op.forgets) = false ∧ s.heldFeedback = some held := by
  have hopened : ∀ {s₁ : SafetySession} {op : Op}, Opens s link op s₁ → op.forgets = false →
      s₁.heldFeedback = some held →
      (op.rejected s || op.forgets) = false ∧ s.heldFeedback = some held := by
    intro s₁ op hopens hforgets hheld
    exact ⟨by simp [hopens.not_rejected, hforgets], hopens.heldFeedback hheld⟩
  cases h with
  | unconfigured hvalid => simp [heldFeedback, hs.unconfigured hvalid] at hheld
  | unconfiguredLatch hvalid => simp [heldFeedback] at hheld
  | notLatched _ hlatched =>
    exact .inr ⟨by simp [Op.rejected, Op.checksClock, Op.forgets, hlatched], hheld⟩
  | clockRejected => simp [heldFeedback] at hheld
  | clockRejectedPending => simp [heldFeedback] at hheld
  | disconnected => simp [heldFeedback] at hheld
  | declined hopens hforgets => exact .inr (hopened hopens hforgets hheld)
  | authorized hopens => exact .inr (hopened hopens rfl (by simpa [heldFeedback] using hheld))
  | feedbackAllowed hopens hok hallowed =>
    simp [heldFeedback] at hheld
    obtain ⟨_, rfl⟩ := hheld
    exact .inl ⟨_, rfl, hok, hallowed, rfl, hopens.generation.symm⟩
  | inhibited hopens => simp [heldFeedback] at hheld
  | inhibitedFaulted hopens => simp [heldFeedback] at hheld
  | stopped hopens _ _ _ _ _ hconsumes =>
    exact .inr (hopened hopens hconsumes.not_forgets (by simpa [heldFeedback] using hheld))
  | revoked hopens _ _ _ _ _ hconsumes =>
    exact .inr (hopened hopens hconsumes.not_forgets (by simpa [heldFeedback] using hheld))
  | unpermitted hopens => exact .inr (hopened hopens rfl (by simpa [heldFeedback] using hheld))
  | admitted hopens =>
    exact .inr (hopened hopens rfl (by simpa [heldFeedback, admitting_eq] using hheld))
  | readmitted hopens =>
    exact .inr (hopened hopens rfl (by simpa [heldFeedback, admitting_eq] using hheld))
  | latchedDown => simp [heldFeedback] at hheld
  | latchedFaulted _ _ henters => cases henters <;> simp [heldFeedback] at hheld
  | latchedPending _ _ henters => cases henters <;> simp [heldFeedback] at hheld
  | reset hopens => exact .inr (hopened hopens rfl (by simpa [heldFeedback] using hheld))
  | idle hopens => exact .inr (hopened hopens rfl hheld)
  | idleLatched hopens => exact .inr (hopened hopens rfl (by simpa [heldFeedback] using hheld))
  | retry hopens _ hattempt => exact .inr (hopened hopens rfl (hattempt.heldFeedback hheld))
  | watchdog hopens _ _ _ _ hattempt =>
    exact .inr (hopened hopens rfl (by simpa [heldFeedback] using hattempt.heldFeedback hheld))
  | motionSent hopens => exact .inr (hopened hopens rfl (by simpa [heldFeedback] using hheld))
  | motionLost hopens => simp [heldFeedback] at hheld
  | motionFailed hopens _ _ _ _ _ hattempt =>
    exact .inr (hopened hopens rfl (by simpa [heldFeedback] using hattempt.heldFeedback hheld))

theorem revokes_of_admitted {command : TimedMotionCommand} {now : Int} (admitted : Prop)
    [Decidable admitted] :
    Op.revokes (.submit command now)
      (.submission (if admitted then .accepted else .recoveryPending)) = false := by
  split <;> rfl

theorem Transition.permission {s : SafetySession} {link : Link} {op : Op} {o : Outcome}
    {held : Nat × Int} (h : Transition s link op o) (hs : s.Coherent)
    (hheld : o.session.heldPermission = some held) :
    (∃ token, op = .authorize token held.2 ∧ o.response = .authorization .authorized ∧
        link.generation = held.1 ∧ s.Settled link) ∨
      op.unseats s o.response o.writes = false ∧ s.heldPermission = some held := by
  have hopened : ∀ {s₁ : SafetySession} {op : Op} {response : Response} {writes : List Write},
      Opens s link op s₁ → op.revokes response = false → op.resetToken response = none →
      Op.failsMotion writes = false → s₁.heldPermission = some held →
      op.unseats s response writes = false ∧ s.heldPermission = some held := by
    intro s₁ op response writes hopens hrevokes hreset hwrites hheld
    exact ⟨by simp [Op.unseats, hopens.not_rejected, hrevokes, hreset, hwrites],
      hopens.heldPermission hheld⟩
  cases h with
  | unconfigured hvalid => simp [heldPermission, hs.unconfigured hvalid] at hheld
  | unconfiguredLatch hvalid => simp [heldPermission] at hheld
  | notLatched _ hlatched =>
    exact .inr ⟨by simp [Op.unseats, Op.rejected, Op.checksClock, Op.revokes, Op.resetToken,
      Op.failsMotion, hlatched], hheld⟩
  | clockRejected => simp [heldPermission] at hheld
  | clockRejectedPending => simp [heldPermission] at hheld
  | disconnected => simp [heldPermission] at hheld
  | declined hopens _ htakes hstops =>
    have hstops := mt hstops (sound_of_heldPermission hheld)
    exact .inr (hopened hopens (Bool.eq_false_iff.mpr (mt Op.stops_of_revokes hstops))
      (Op.labels_of_not_takes htakes).2.1 rfl hheld)
  | authorized hopens _ hstate hzero =>
    simp [heldPermission, hopens.known] at hheld
    obtain rfl := hheld
    exact .inl ⟨_, rfl, rfl, hopens.generation.symm, hopens.settled hzero hstate⟩
  | feedbackAllowed hopens hok hallowed =>
    exact .inr (hopened hopens (inhibits_of_allowed hallowed) rfl rfl
      (by simpa [heldPermission] using hheld))
  | inhibited hopens => simp [heldPermission] at hheld
  | inhibitedFaulted hopens => simp [heldPermission] at hheld
  | stopped hopens hstate _ _ hrevokes _ hconsumes =>
    exact .inr (hopened hopens hrevokes hconsumes.resetToken rfl
      (heldPermission_of_kept (by simp) (by simp) (by simp) (by simp) hstate hheld))
  | revoked hopens => simp [heldPermission] at hheld
  | unpermitted hopens _ hstate =>
    exact .inr (hopened hopens rfl rfl rfl
      (heldPermission_of_kept (by simp) (by simp) (by simp) (by simp) hstate hheld))
  | admitted hopens hcommand _ hresponse =>
    rw [admitting_eq] at hheld
    exact .inr (hopened hopens (hresponse ▸ revokes_of_admitted _) rfl rfl
      (heldPermission_of_kept (by simp) (by simp) (by simp) (by simp) hcommand.sound hheld))
  | readmitted hopens hcommand _ _ hresponse =>
    rw [admitting_eq] at hheld
    exact .inr (hopened hopens (hresponse ▸ revokes_of_admitted _) rfl rfl
      (heldPermission_of_kept (by simp) (by simp) (by simp) (by simp) hcommand.sound hheld))
  | latchedDown => simp [heldPermission] at hheld
  | latchedFaulted _ _ henters => cases henters <;> simp [heldPermission] at hheld
  | latchedPending _ _ henters => cases henters <;> simp [heldPermission] at hheld
  | reset hopens => simp [heldPermission] at hheld
  | idle hopens => exact .inr (hopened hopens rfl rfl rfl hheld)
  | idleLatched hopens _ hstate =>
    exact .inr (hopened hopens rfl rfl rfl
      (heldPermission_of_kept (by simp) (by simp) (by simp) (by simp) hstate hheld))
  | retry hopens hzero hattempt =>
    have hstate := (hs.opens hopens).pending.mp hzero
    exact .inr (hopened hopens rfl rfl hattempt.not_failsMotion
      (hattempt.heldPermission hstate hheld))
  | watchdog hopens hzero _ hstate _ hattempt =>
    have hheld := hattempt.heldPermission (by simp [hzero]) hheld
    exact .inr (hopened hopens rfl rfl hattempt.not_failsMotion
      (heldPermission_of_kept (by simp) (by simp) (by simp) (by simp) (by simp [hstate]) hheld))
  | motionSent hopens hready hdone =>
    exact .inr (hopened hopens rfl rfl (not_failsMotion_of_completed hdone)
      (heldPermission_of_kept (by simp) (by simp) (by simp) (by simp) (by simp [hready.active])
        hheld))
  | motionLost hopens => simp [heldPermission] at hheld
  | motionFailed hopens hready _ _ _ _ hattempt =>
    have hheld := hattempt.heldPermission (by simp [hready.settled]) hheld
    simp [heldPermission] at hheld

variable {config : SafetyConfig} {h : List Event} {w : World} {held : Nat × Int}

/-- The feedback that a session holds was observed, and nothing has voided it since. -/
theorem feedback_since {admits : Link → Link → Prop} (run : (sessionMachine admits config).Run h w)
    (hheld : w.session.heldFeedback = some held) :
    Trace.Since (fun e => e.forgets = false) (fun e _ => e.Allows held.1 held.2) h := by
  refine run.since (P := fun v => v.session.heldFeedback = some held) ?_ ?_ hheld
  · intro v hinit hv
    simp [heldFeedback, (blank_of_init hinit).unfed] at hv
  · intro h v e v' run hstep hv
    have htransition := step_transition run hstep
    obtain ⟨hbefore, _, rfl⟩ := hstep
    refine (htransition.feedback (coherent_of_run run) hv).imp_right ?_
    rintro ⟨hkept, hheld⟩
    rw [Event.forgets, hbefore]
    exact ⟨hkept, hheld⟩

/-- The permission that a session holds was granted after an exact zero frame on its connection,
and nothing has taken it since. -/
theorem permission_since (run : (sessionMachine Link.Evolves config).Run h w)
    (hheld : w.session.heldPermission = some held) :
    Trace.Since (fun e => e.unseats = false)
      (fun e earlier => e.Authorizes held.1 held.2 ∧
        ∃ x ∈ earlier, ∃ write ∈ x.writes, write.ZeroCompletedOn held.1) h := by
  refine run.since (P := fun v => v.session.heldPermission = some held) ?_ ?_ hheld
  · intro v hinit hv
    simp [heldPermission, (blank_of_init hinit).revoked] at hv
  · intro h v e v' run hstep hv
    have htransition := step_transition run hstep
    obtain ⟨hbefore, hlinks, rfl⟩ := hstep
    rcases htransition.permission (coherent_of_run run) hv with
      ⟨token, hop, hresponse, hgeneration, hsettled⟩ | ⟨hkept, hheld⟩
    · have hstart := zero_since run
        (hsettled.earlier (List.isChain_cons_cons.mp hlinks).1 (behind_of_run run))
      obtain ⟨later, x, earlier, rfl, hzero, -⟩ := Trace.since_iff.mp hstart
      rw [← hsettled.generation, hgeneration] at hzero
      exact .inl ⟨⟨token, hop, hresponse, hgeneration⟩, x, by simp, hzero⟩
    · refine .inr ⟨?_, hheld⟩
      rw [Event.unseats, hbefore]
      exact hkept

end WheeltecVcuSerial
