import WheeltecVcuSerial.Session.History

namespace WheeltecVcuSerial

open SafetySession

/-- The three replay high-water marks. -/
structure Marks where
  authorization : Nat
  reset : Nat
  sequence : Nat

namespace SafetySession

def marks (s : SafetySession) : Marks :=
  ⟨s.highestAuthorizationToken, s.highestEstopResetToken, s.highestSequence⟩

variable {s s₁ s' : SafetySession} {link link' : Link} {op : Op} {now : Int}

theorem Opens.marks (h : Opens s link op s₁) : s₁.marks = s.marks := by
  obtain ⟨connection, henters⟩ := h.enters
  cases henters <;> rfl

theorem ZeroAttempt.marks {outcome : WriteOutcome} {writes : List Write}
    (h : ZeroAttempt s link now outcome s' link' writes) : s'.marks = s.marks := by
  cases h <;> simp [SafetySession.marks]

end SafetySession

namespace Op

/-- The token of an accepted authorization. -/
def authorizedToken : Op → Response → Option Nat
  | .authorize token _, .authorization status => if status = .authorized then some token else none
  | _, _ => none

/-- The token of an accepted emergency-stop reset. -/
def resetToken : Op → Response → Option Nat
  | .resetEmergencyStop token _, .flag value => if value then some token else none
  | _, _ => none

/-- The sequence id of a command that the session took, be it as a stop. -/
def takenSequence : Op → Response → Option Nat
  | .submit command _, .submission status =>
    if status = .accepted || status = .recoveryPending || status = .stopAccepted then
      some command.sequenceId
    else none
  | _, _ => none

variable {op : Op} {response : Response}

theorem labels_of_not_takes (htakes : op.takes response = false) :
    op.authorizedToken response = none ∧ op.resetToken response = none ∧
      op.takenSequence response = none := by
  cases op <;> cases response <;>
    simp_all [takes, grants, authorizedToken, resetToken, takenSequence]

theorem tokens_of_submit (command : TimedMotionCommand) (now : Int) (response : Response) :
    authorizedToken (.submit command now) response = none ∧
      resetToken (.submit command now) response = none ∧
      ∀ taken, takenSequence (.submit command now) response = some taken →
        taken = command.sequenceId := by
  refine ⟨by simp [authorizedToken], by simp [resetToken], fun taken htaken => ?_⟩
  cases response with
  | submission status =>
    simp only [takenSequence] at htaken
    split at htaken
    · exact (Option.some.inj htaken).symm
    · simp at htaken
  | _ => simp [takenSequence] at htaken

/-- The calls whose acceptance, if any, bears no label. -/
def unlabelled : Op → Bool
  | .disarm _ => true
  | .requestStop _ => true
  | .observeFeedback _ _ => true
  | .latchEmergencyStop _ => true
  | .tick _ _ _ => true
  | _ => false

theorem labels_of_unlabelled (hop : op.unlabelled = true) (response : Response) :
    op.authorizedToken response = none ∧ op.resetToken response = none ∧
      op.takenSequence response = none := by
  cases op <;> simp_all [unlabelled, authorizedToken, resetToken, takenSequence]

end Op

/-- What a call does to the marks. -/
inductive MarkStep (before : Marks) (op : Op) (response : Response) : Marks → Prop
  | kept : op.authorizedToken response = none → op.resetToken response = none →
      op.takenSequence response = none → MarkStep before op response before
  | authorized : op.authorizedToken response = some token → op.resetToken response = none →
      op.takenSequence response = none → before.authorization < token →
      MarkStep before op response { before with authorization := token }
  | reset : op.resetToken response = some token → op.authorizedToken response = none →
      op.takenSequence response = none → before.reset < token →
      MarkStep before op response { before with reset := token }
  | consumed : op.authorizedToken response = none → op.resetToken response = none →
      (∀ taken, op.takenSequence response = some taken → taken = sequenceId) →
      before.sequence < sequenceId →
      MarkStep before op response { before with sequence := sequenceId }

theorem Transition.markStep {s : SafetySession} {link : Link} {op : Op} {o : Outcome}
    (h : Transition s link op o) : MarkStep s.marks op o.response o.session.marks := by
  have hkept : ∀ {s' : SafetySession} {op : Op} {response : Response}, s'.marks = s.marks →
      op.takes response = false ∨ op.unlabelled = true →
      MarkStep s.marks op response s'.marks := by
    intro s' op response hmarks hop
    obtain ⟨hauthorized, hreset, hsequence⟩ :=
      hop.elim Op.labels_of_not_takes (Op.labels_of_unlabelled · response)
    rw [hmarks]
    exact .kept hauthorized hreset hsequence
  have hopened : ∀ {s₁ s' : SafetySession} {op : Op} {response : Response}, Opens s link op s₁ →
      s'.marks = s₁.marks → op.unlabelled = true → MarkStep s.marks op response s'.marks := by
    intro s₁ s' op response hopens hmarks hop
    exact hkept (hmarks.trans hopens.marks) (.inr hop)
  have hsubmitted : ∀ {s₁ s' : SafetySession} {command now response},
      Opens s link (.submit command now) s₁ → s₁.highestSequence < command.sequenceId →
      s'.marks = { s₁.marks with sequence := command.sequenceId } →
      MarkStep s.marks (.submit command now) response s'.marks := by
    intro s₁ s' command now response hopens hsequence hmarks
    obtain ⟨hauthorized, hreset, htaken⟩ := Op.tokens_of_submit command now response
    rw [hmarks, ← hopens.marks]
    exact .consumed hauthorized hreset htaken hsequence
  have hstopped : ∀ {s₁ s' : SafetySession} {op response sequenceId}, Opens s link op s₁ →
      Consumes s₁ op response sequenceId → s'.marks = { s₁.marks with sequence := sequenceId } →
      MarkStep s.marks op response s'.marks := by
    intro s₁ s' op response sequenceId hopens hconsumes hmarks
    cases hconsumes with
    | submit hsequence => exact hsubmitted hopens hsequence hmarks
    | sequenceInvalid => exact hkept (hmarks.trans hopens.marks) (.inl rfl)
    | disarm => exact hopened hopens hmarks rfl
    | requestStop => exact hopened hopens hmarks rfl
  cases h with
  | unconfigured _ _ htakes => exact hkept rfl (.inl htakes)
  | unconfiguredLatch => exact hkept (by simp [SafetySession.marks]) (.inr rfl)
  | notLatched => exact hkept rfl (.inl rfl)
  | clockRejected _ _ _ _ htakes => exact hkept (by simp [SafetySession.marks]) (.inl htakes)
  | clockRejectedPending _ _ _ _ htakes =>
    exact hkept (by simp [SafetySession.marks]) (.inl htakes)
  | disconnected _ _ _ _ _ htakes => exact hkept (by simp [SafetySession.marks]) (.inl htakes)
  | declined hopens _ htakes => exact hkept hopens.marks (.inl htakes)
  | authorized hopens _ _ _ htoken =>
    rw [← hopens.marks]
    exact .authorized rfl rfl rfl htoken
  | feedbackAllowed hopens => exact hopened hopens (by simp [SafetySession.marks]) rfl
  | inhibited hopens => exact hopened hopens (by simp [SafetySession.marks]) rfl
  | inhibitedFaulted hopens => exact hopened hopens (by simp [SafetySession.marks]) rfl
  | stopped hopens _ _ _ _ _ hconsumes =>
    exact hstopped hopens hconsumes (by simp [SafetySession.marks])
  | revoked hopens _ _ _ _ _ hconsumes =>
    exact hstopped hopens hconsumes (by simp [SafetySession.marks])
  | unpermitted hopens _ _ hsequence =>
    exact hsubmitted hopens hsequence (by simp [SafetySession.marks])
  | admitted hopens hcommand =>
    exact hsubmitted hopens hcommand.sequence (by simp [SafetySession.marks, admitting_eq])
  | readmitted hopens hcommand =>
    exact hsubmitted hopens hcommand.sequence (by simp [SafetySession.marks, admitting_eq])
  | latchedDown => exact hkept (by simp [SafetySession.marks]) (.inr rfl)
  | latchedFaulted _ _ henters =>
    cases henters <;> exact hkept (by simp [SafetySession.marks]) (.inr rfl)
  | latchedPending _ _ henters =>
    cases henters <;> exact hkept (by simp [SafetySession.marks]) (.inr rfl)
  | reset hopens _ _ htoken =>
    rw [← hopens.marks]
    exact .reset rfl rfl rfl htoken
  | idle hopens => exact hopened hopens rfl rfl
  | idleLatched hopens => exact hopened hopens (by simp [SafetySession.marks]) rfl
  | retry hopens _ hattempt => exact hopened hopens hattempt.marks rfl
  | watchdog hopens _ _ _ _ hattempt =>
    exact hopened hopens (hattempt.marks.trans (by simp [SafetySession.marks])) rfl
  | motionSent hopens => exact hopened hopens (by simp [SafetySession.marks]) rfl
  | motionLost hopens => exact hopened hopens (by simp [SafetySession.marks]) rfl
  | motionFailed hopens _ _ _ _ _ hattempt =>
    exact hopened hopens (hattempt.marks.trans (by simp [SafetySession.marks])) rfl

namespace Event

def authorizedToken (e : Event) : Option Nat := e.op.authorizedToken e.response
def resetToken (e : Event) : Option Nat := e.op.resetToken e.response
def takenSequence (e : Event) : Option Nat := e.op.takenSequence e.response

end Event

namespace MarkStep

variable {before after : Marks} {op : Op} {response : Response}

theorem authorization_lt (h : MarkStep before op response after) :
    before.authorization ≤ after.authorization ∧
      ∀ token, op.authorizedToken response = some token →
        before.authorization < token ∧ token ≤ after.authorization := by
  cases h with
  | kept hnone => simp [hnone]
  | authorized hsome _ _ hlt =>
    refine ⟨hlt.le, fun token htoken => ?_⟩
    obtain rfl := Option.some.inj (hsome.symm.trans htoken)
    exact ⟨hlt, le_rfl⟩
  | reset _ hnone => simp [hnone]
  | consumed hnone => simp [hnone]

theorem reset_lt (h : MarkStep before op response after) :
    before.reset ≤ after.reset ∧
      ∀ token, op.resetToken response = some token →
        before.reset < token ∧ token ≤ after.reset := by
  cases h with
  | kept _ hnone => simp [hnone]
  | authorized _ hnone => simp [hnone]
  | reset hsome _ _ hlt =>
    refine ⟨hlt.le, fun token htoken => ?_⟩
    obtain rfl := Option.some.inj (hsome.symm.trans htoken)
    exact ⟨hlt, le_rfl⟩
  | consumed _ hnone => simp [hnone]

theorem sequence_lt (h : MarkStep before op response after) :
    before.sequence ≤ after.sequence ∧
      ∀ sequenceId, op.takenSequence response = some sequenceId →
        before.sequence < sequenceId ∧ sequenceId ≤ after.sequence := by
  cases h with
  | kept _ _ hnone => simp [hnone]
  | authorized _ _ hnone => simp [hnone]
  | reset _ _ hnone => simp [hnone]
  | consumed _ _ htaken hlt =>
    refine ⟨hlt.le, fun sequenceId hsome => ?_⟩
    obtain rfl := htaken sequenceId hsome
    exact ⟨hlt, le_rfl⟩

/-- Each mark moves only by an acceptance in its own sequence, or by a consumed sequence id. -/
theorem independent (h : MarkStep before op response after) :
    (op.authorizedToken response = none → after.authorization = before.authorization) ∧
      (op.resetToken response = none → after.reset = before.reset) ∧
      (op.authorizedToken response ≠ none →
        after.reset = before.reset ∧ after.sequence = before.sequence) ∧
      (op.resetToken response ≠ none →
        after.authorization = before.authorization ∧ after.sequence = before.sequence) ∧
      (op.takenSequence response ≠ none →
        after.authorization = before.authorization ∧ after.reset = before.reset) := by
  cases h with
  | kept hauthorized hreset hsequence => simp [hauthorized, hreset, hsequence]
  | authorized hauthorized hreset hsequence => simp [hauthorized, hreset, hsequence]
  | reset hreset hauthorized hsequence => simp [hauthorized, hreset, hsequence]
  | consumed hauthorized hreset => simp [hauthorized, hreset]

end MarkStep

variable {admits : Link → Link → Prop} {config : SafetyConfig} {h : List Event} {w w' : World}
  {e : Event}

theorem markStep_of_step (run : (sessionMachine admits config).Run h w)
    (hstep : (sessionMachine admits config).step w e w') :
    MarkStep w.session.marks e.op e.response w'.session.marks := by
  have htransition := step_transition run hstep
  obtain ⟨_, _, rfl⟩ := hstep
  exact htransition.markStep

theorem authorizations_increase (run : (sessionMachine admits config).Run h w) :
    (h.filterMap Event.authorizedToken).Pairwise (fun later earlier => earlier < later) ∧
      ∀ token ∈ h.filterMap Event.authorizedToken, token ≤ w.session.marks.authorization :=
  run.labels_increase (fun w => w.session.marks.authorization)
    fun run hstep => (markStep_of_step run hstep).authorization_lt

theorem resets_increase (run : (sessionMachine admits config).Run h w) :
    (h.filterMap Event.resetToken).Pairwise (fun later earlier => earlier < later) ∧
      ∀ token ∈ h.filterMap Event.resetToken, token ≤ w.session.marks.reset :=
  run.labels_increase (fun w => w.session.marks.reset)
    fun run hstep => (markStep_of_step run hstep).reset_lt

theorem sequences_increase (run : (sessionMachine admits config).Run h w) :
    (h.filterMap Event.takenSequence).Pairwise (fun later earlier => earlier < later) ∧
      ∀ sequenceId ∈ h.filterMap Event.takenSequence, sequenceId ≤ w.session.marks.sequence :=
  run.labels_increase (fun w => w.session.marks.sequence)
    fun run hstep => (markStep_of_step run hstep).sequence_lt

theorem marks_increase (run : (sessionMachine admits config).Run h w) :
    (h.filterMap Event.authorizedToken).Pairwise (fun later earlier => earlier < later) ∧
      (h.filterMap Event.resetToken).Pairwise (fun later earlier => earlier < later) ∧
      (h.filterMap Event.takenSequence).Pairwise (fun later earlier => earlier < later) ∧
      ∀ e ∈ h,
        e.before.marks.authorization ≤ e.after.marks.authorization ∧
        e.before.marks.reset ≤ e.after.marks.reset ∧
        e.before.marks.sequence ≤ e.after.marks.sequence ∧
        (e.authorizedToken = none → e.after.marks.authorization = e.before.marks.authorization) ∧
        (e.resetToken = none → e.after.marks.reset = e.before.marks.reset) ∧
        (e.authorizedToken ≠ none → e.after.marks.reset = e.before.marks.reset ∧
          e.after.marks.sequence = e.before.marks.sequence) ∧
        (e.resetToken ≠ none → e.after.marks.authorization = e.before.marks.authorization ∧
          e.after.marks.sequence = e.before.marks.sequence) ∧
        (e.takenSequence ≠ none → e.after.marks.authorization = e.before.marks.authorization ∧
          e.after.marks.reset = e.before.marks.reset) := by
  refine ⟨(authorizations_increase run).1, (resets_increase run).1, (sequences_increase run).1,
    fun e he => ?_⟩
  have hmarks := (transition_of_mem run he).markStep
  exact ⟨hmarks.authorization_lt.1, hmarks.reset_lt.1, hmarks.sequence_lt.1, hmarks.independent⟩

theorem marks_increase_replayed :
    let calls := steadyCalls ++ [.latchEmergencyStop 105, plainTick 106,
      .observeFeedback allowedFeedback 107, .resetEmergencyStop 1 108, .authorize 2 109,
      .submit (forwardCommand 3 110) 110]
    let h := (steadyReplay calls).1
    h.filterMap Event.authorizedToken = [2, 1] ∧
      (h.filterMap Event.authorizedToken).Pairwise (fun later earlier => earlier < later) := by
  intro calls h
  have run := steady_run calls (by decide +kernel) rfl
  exact ⟨by decide +kernel, (marks_increase run).1⟩

end WheeltecVcuSerial
