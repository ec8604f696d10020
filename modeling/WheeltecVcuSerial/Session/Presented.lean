import WheeltecVcuSerial.Session.Marks

namespace WheeltecVcuSerial

open SafetySession

namespace Op

/-- The token of an authorization, granted or not. -/
def presentedToken : Op → Option Nat
  | .authorize token _ => some token
  | _ => none

/-- The sequence id of a command, taken or not. -/
def presentedSequence : Op → Option Nat
  | .submit command _ => some command.sequenceId
  | _ => none

theorem presented_of_authorized {op : Op} {response : Response} {token : Nat}
    (h : op.authorizedToken response = some token) : op.presentedToken = some token := by
  cases op with
  | authorize presented now =>
    cases response with
    | authorization status =>
      simp only [authorizedToken] at h
      split at h
      · exact h
      · cases h
    | _ => cases h
  | _ => cases response <;> cases h

end Op

theorem MarkStep.token_presented {before after : Marks} {op : Op} {response : Response}
    (h : MarkStep before op response after) :
    after.authorization = before.authorization ∨ op.presentedToken = some after.authorization := by
  cases h with
  | authorized hsome => exact .inr (Op.presented_of_authorized hsome)
  | _ => exact .inl rfl

theorem SafetySession.Consumes.presented {s : SafetySession} {op : Op} {response : Response}
    {sequenceId : Nat} (h : Consumes s op response sequenceId) :
    sequenceId = s.highestSequence ∨ op.presentedSequence = some sequenceId := by
  cases h with
  | submit => exact .inr rfl
  | _ => exact .inl rfl

/-- The sequence mark moves to the sequence id of a command that is submitted, if at all. -/
theorem Transition.sequence_presented {s : SafetySession} {link : Link} {op : Op} {o : Outcome}
    (h : Transition s link op o) :
    o.session.highestSequence = s.highestSequence ∨
      op.presentedSequence = some o.session.highestSequence := by
  have hopens : ∀ {s₁ op}, Opens s link op s₁ → s₁.highestSequence = s.highestSequence :=
    fun hopens => congrArg Marks.sequence hopens.marks
  have hattempt : ∀ {s₁ s' link now outcome link' writes},
      ZeroAttempt s₁ link now outcome s' link' writes → s'.highestSequence = s₁.highestSequence :=
    fun hattempt => congrArg Marks.sequence hattempt.marks
  cases h with
  | unconfigured => exact .inl rfl
  | unconfiguredLatch => exact .inl (by simp)
  | notLatched => exact .inl rfl
  | clockRejected => exact .inl (by simp)
  | clockRejectedPending => exact .inl (by simp)
  | disconnected => exact .inl (by simp)
  | declined h => exact .inl (hopens h)
  | authorized h => exact .inl (by simp [hopens h])
  | feedbackAllowed h => exact .inl (by simp [hopens h])
  | inhibited h => exact .inl (by simp [hopens h])
  | inhibitedFaulted h => exact .inl (by simp [hopens h])
  | stopped h _ _ _ _ _ hconsumes => simpa [← hopens h] using hconsumes.presented
  | revoked h _ _ _ _ _ hconsumes => simpa [← hopens h] using hconsumes.presented
  | unpermitted => exact .inr (by simp [Op.presentedSequence])
  | admitted => exact .inr (by simp [Op.presentedSequence, admitting_eq])
  | readmitted => exact .inr (by simp [Op.presentedSequence, admitting_eq])
  | latchedDown => exact .inl (by simp)
  | latchedFaulted _ _ henters => cases henters <;> exact .inl (by simp)
  | latchedPending _ _ henters => cases henters <;> exact .inl (by simp)
  | reset h => exact .inl (by simp [hopens h])
  | idle h => exact .inl (hopens h)
  | idleLatched h => exact .inl (by simp [hopens h])
  | retry h _ hzero => exact .inl ((hattempt hzero).trans (hopens h))
  | watchdog h _ _ _ _ hzero => exact .inl (by simp [hattempt hzero, hopens h])
  | motionSent h => exact .inl (by simp [hopens h])
  | motionLost h => exact .inl (by simp [hopens h])
  | motionFailed h _ _ _ _ _ hzero => exact .inl (by simp [hattempt hzero, hopens h])

variable {admits : Link → Link → Prop} {config : SafetyConfig} {h : List Event} {w : World}

theorem marks_of_init (hinit : (sessionMachine admits config).init w) :
    w.session.highestAuthorizationToken = 0 ∧ w.session.highestSequence = 0 := by
  rcases hinit with hinit | hinit
  · rw [hinit]
    rcases construct_cases config w.link with heq | ⟨_, heq | ⟨_, heq⟩⟩ <;> rw [heq] <;>
      exact ⟨rfl, rfl⟩
  · rw [hinit]
    exact ⟨rfl, rfl⟩

/-- No mark exceeds a bound of the numbers that the run has presented for it. -/
theorem marks_le_of_presented (run : (sessionMachine admits config).Run h w) {tokens ids : Nat}
    (htokens : ∀ e ∈ h, ∀ token ∈ e.op.presentedToken, token ≤ tokens)
    (hids : ∀ e ∈ h, ∀ sequenceId ∈ e.op.presentedSequence, sequenceId ≤ ids) :
    w.session.highestAuthorizationToken ≤ tokens ∧ w.session.highestSequence ≤ ids := by
  induction run with
  | start hinit =>
    obtain ⟨htoken, hsequence⟩ := marks_of_init hinit
    exact ⟨htoken.trans_le (Nat.zero_le _), hsequence.trans_le (Nat.zero_le _)⟩
  | @next h w e w' run hstep ih =>
    rw [List.forall_mem_cons] at htokens hids
    obtain ⟨htoken, hsequence⟩ := ih htokens.2 hids.2
    have htransition := step_transition run hstep
    have hmarks := markStep_of_step run hstep
    obtain ⟨_, _, rfl⟩ := hstep
    constructor
    · rcases hmarks.token_presented with heq | hpresented
      · exact heq.trans_le htoken
      · exact htokens.1 _ hpresented
    · rcases htransition.sequence_presented with heq | hpresented
      · exact heq.trans_le hsequence
      · exact hids.1 _ hpresented

namespace SafetySession

variable {s s₁ : SafetySession} {link : Link} {connection : ConnectionSync} {now : Int}
  {command : TimedMotionCommand}

theorem Enters.marks (h : Enters s link s₁ connection) : s₁.marks = s.marks := by
  cases h <;> rfl

/-- An authorization is refused for its token only up to the mark. -/
theorem replayed_of_tokenInvalid (hwired : s.Wired) {token : Nat}
    (h : (s.authorize link token now).2 = .tokenInvalid) :
    token = 0 ∨ token ≤ s.highestAuthorizationToken := by
  rw [authorize] at h
  split at h
  · cases h
  · case isFalse hvalid =>
    have hvalid : s.configurationValid = true := by simpa using hvalid
    rcases enter_cases hvalid (hwired hvalid) link now with
      ⟨-, heq⟩ | ⟨-, -, heq⟩ | ⟨s₁, connection, -, henters, heq⟩
    · rw [heq] at h
      cases h
    · rw [heq] at h
      cases h
    · have hmark : s₁.highestAuthorizationToken = s.highestAuthorizationToken :=
        congrArg Marks.authorization henters.marks
      rw [heq] at h
      dsimp only at h
      split at h
      · cases h
      split at h
      · cases h
      split at h
      · cases h
      split at h
      · case isTrue hreplayed => simpa [← hmark] using hreplayed
      split at h
      · cases h
      · cases h

theorem submitSequenced_ne (s : SafetySession) (link : Link) (connection : ConnectionSync)
    (command : TimedMotionCommand) (now : Int) :
    (s.submitSequenced link connection command now).2 ≠ .sequenceInvalid := by
  have haccept : ∀ (s : SafetySession) frame,
      (s.acceptCommand command frame now).2 ≠ .sequenceInvalid := by
    intro s frame
    simp only [acceptCommand]
    split <;> simp
  simp only [submitSequenced]
  repeat' split
  all_goals first | exact haccept _ _ | simp [rejectRevoking, rejectStopping]

/-- A command is refused for its sequence id only up to the mark. -/
theorem replayed_of_sequenceInvalid (hwired : s.Wired)
    (h : (s.submit link command now).2 = .sequenceInvalid) :
    command.sequenceId = 0 ∨ command.sequenceId ≤ s.highestSequence := by
  rw [submit] at h
  split at h
  · cases h
  · case isFalse hvalid =>
    have hvalid : s.configurationValid = true := by simpa using hvalid
    rcases enter_cases hvalid (hwired hvalid) link now with
      ⟨-, heq⟩ | ⟨-, -, heq⟩ | ⟨s₁, connection, -, henters, heq⟩
    · rw [heq] at h
      cases h
    · rw [heq] at h
      cases h
    · have hmark : s₁.highestSequence = s.highestSequence :=
        congrArg Marks.sequence henters.marks
      rw [heq] at h
      dsimp only at h
      split at h
      · cases h
      split at h
      · cases h
      split at h
      · case isTrue hreplayed => simpa [← hmark] using hreplayed
      · exact absurd h (submitSequenced_ne _ _ _ _ _)

end SafetySession

end WheeltecVcuSerial
