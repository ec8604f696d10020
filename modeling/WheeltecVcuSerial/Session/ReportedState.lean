import WheeltecVcuSerial.Session.AfterZero

namespace WheeltecVcuSerial

open SafetySession

/-- The states that stand for a permission. -/
def SessionState.running (state : SessionState) : Bool := state = .active || state = .recovering

namespace SafetySession

variable {s s₁ s' : SafetySession} {link link' : Link} {now : Int}

/-- A state that stands for a permission comes with one, now and at the end of a pending episode. -/
structure Honest (s : SafetySession) : Prop where
  aimed : s.Aimed
  candid : s.Candid
  permitted : s.state.running = true → s.authorizationActive = true

/-- What `state` may be reported of a session. -/
structure Reports (s : SafetySession) (state : SessionState) : Prop where
  permitted : state = .active ∨ state = .recovering → s.authorized = true
  active : state = .active →
    s.latestCommandValid = true ∧ s.consecutiveFreshCommands = s.config.freshCommandsRequired

theorem Honest.reports (ht : s.Honest) (hs : s.Coherent) : s.Reports s.state := by
  have hactive : s.state = .active ∨ s.state = .recovering → s.authorizationActive = true :=
    fun hrunning => ht.permitted (by simpa [SessionState.running] using hrunning)
  constructor
  · intro hrunning
    refine hs.authorized_of_active ?_ ?_ (hactive hrunning)
    · by_contra hinvalid
      have hknown := (hs.permission (hactive hrunning)).1
      simp [hs.unconfigured (by simpa using hinvalid)] at hknown
    · rcases hrunning with hstate | hstate <;> simp [hstate]
  · exact fun hstate => hs.intent hstate (hactive (.inl hstate))

theorem Reports.of_idle {state : SessionState} (hstate : state.running = false) :
    s.Reports state := by
  constructor
  · intro hrunning
    rcases hrunning with rfl | rfl <;> simp [SessionState.running] at hstate
  · rintro rfl
    simp [SessionState.running] at hstate

theorem pend_running (hs : s.zeroEpisodeActive = true → s.state = .stopPending)
    (after : SessionState) (earliest : Int) : (s.pend after earliest).state.running = false := by
  rw [pend_state]
  split
  · case isTrue hzero => rw [hs hzero]; rfl
  · rfl

/-- A zero attempt reaches a state that stands for a permission only by a candid target. -/
theorem ZeroAttempt.running {outcome : WriteOutcome} {writes : List Write}
    (h : ZeroAttempt s link now outcome s' link' writes) (hs : s.state = .stopPending)
    (hcandid : s.Candid) (haim : s.Aimed) (hzero : s.zeroEpisodeActive = true)
    (hrunning : s'.state.running = true) : s'.authorizationActive = true := by
  cases h with
  | waiting => simp [hs, SessionState.running] at hrunning
  | lost => simp [SessionState.running] at hrunning
  | exhausted => simp [SessionState.running] at hrunning
  | failed => simp [hs, SessionState.running] at hrunning
  | completed =>
    simp only [completeZero_state, attempted_emergencyStopLatched, attempted_stateAfterZero]
      at hrunning
    cases hlatched : s.emergencyStopLatched with
    | true => simp [hlatched, SessionState.running] at hrunning
    | false =>
      rcases haim hzero hlatched with hafter | ⟨hafter, _⟩
      · exact hcandid hzero hlatched hafter
      · simp [hlatched, hafter, SessionState.running] at hrunning

end SafetySession

/-- A call that fails its clock check while the transport is away: the permission goes and the state
that stands for it stays. -/
def Event.Unseen (e : Event) : Prop :=
  e.op.rejected e.before = true ∧ e.op.isLatch = false ∧ e.link.connected = false ∧
    (e.before.state = .active ∨ e.before.state = .recovering ∨
      e.before.state = .stopPending ∧ e.before.stateAfterZero = .recovering)

instance (e : Event) : Decidable e.Unseen := inferInstanceAs (Decidable (_ ∧ _))

theorem Transition.honest {s : SafetySession} {link : Link} {op : Op} {o : Outcome}
    (h : Transition s link op o) (hs : s.Coherent) (ht : s.Honest)
    (hseen : ¬ (⟨s, link, op⟩ : Event).Unseen) : o.session.Honest := by
  obtain ⟨haim, hcase⟩ := h.aimed hs ht.aimed fun _ => ht.candid
  have hcandid : o.session.Candid := by
    rcases hcase with hcandid | ⟨_, _, heq | ⟨hrejected, hlatch, hdown, heq⟩⟩
    · exact hcandid
    · rw [heq]
      exact ht.candid
    · rw [heq]
      intro hzero _ hrecovering
      exact absurd ⟨hrejected, hlatch, hdown, .inr (.inr ⟨hs.pending.mp hzero, hrecovering⟩)⟩ hseen
  refine ⟨haim, hcandid, fun hrunning => ?_⟩
  have hopened : ∀ {s₁}, Opens s link op s₁ → s₁.state.running = true →
      s₁.authorizationActive = true := by
    intro s₁ hopens hrunning
    obtain ⟨connection, henters⟩ := hopens.enters
    cases henters with
    | unchanged => exact ht.permitted hrunning
    | newGeneration => simp [SessionState.running] at hrunning
  have hpended : ∀ {t : SafetySession} {after earliest}, o.session = t.pend after earliest →
      (t.zeroEpisodeActive = true → t.state = .stopPending) →
        o.session.authorizationActive = true := by
    intro t after earliest heq hpending
    rw [heq, pend_running hpending] at hrunning
    simp at hrunning
  have htarget : ∀ {s₁}, Opens s link op s₁ → s₁.Targeted :=
    fun hopens => ht.aimed.opens (fun _ => ht.candid) hopens
  cases h with
  | unconfigured => exact ht.permitted hrunning
  | notLatched => exact ht.permitted hrunning
  | clockRejected _ hchecked hlatch hclock _ hfault =>
    have hrunning : s.state.running = true := hrunning
    have hstate : s.state = .active ∨ s.state = .recovering := by
      simpa [SessionState.running] using hrunning
    refine absurd ⟨Op.rejected_iff.mpr ⟨hchecked, hclock⟩, hlatch, ?_, ?_⟩ hseen
    · by_contra hup
      have hknown := (hs.permission (ht.permitted hrunning)).1
      have := hfault hknown (by simpa using hup)
      rcases hstate with hstate | hstate <;> simp [hstate] at this
    · exact hstate.imp_right .inl
  | clockRejectedPending => exact hpended rfl hs.pending.mp
  | declined hopens => exact hopened hopens hrunning
  | authorized => rfl
  | feedbackAllowed hopens =>
    have hpermitted := hopened hopens
    exact hpermitted hrunning
  | inhibited hopens => exact hpended rfl (hs.opens hopens).pending.mp
  | inhibitedFaulted _ _ hfault => simp [SessionState.running, hfault] at hrunning
  | stopped hopens => exact hpended rfl (hs.opens hopens).pending.mp
  | revoked hopens => exact hpended rfl (hs.opens hopens).pending.mp
  | unpermitted hopens =>
    have hpermitted := hopened hopens
    exact hpermitted hrunning
  | admitted _ hcommand =>
    have hpermitted := authorized_iff.mp hcommand.permitted
    simpa [admitting_eq] using hpermitted.active
  | readmitted _ hcommand =>
    have hpermitted := authorized_iff.mp hcommand.permitted
    simpa [admitting_eq] using hpermitted.active
  | latchedFaulted _ _ _ hfault => simp [SessionState.running, hfault] at hrunning
  | latchedPending _ _ henters =>
    refine hpended rfl ?_
    cases henters with
    | unchanged => exact hs.pending.mp
    | newGeneration => exact fun _ => rfl
  | idle hopens => exact hopened hopens hrunning
  | retry hopens hzero hattempt =>
    exact hattempt.running ((hs.opens hopens).pending.mp hzero) (htarget hopens).candid
      (htarget hopens).aimed
      hzero hrunning
  | @watchdog _ _ _ s₁ _ _ _ _ hopens hidle _ hactive _ hattempt =>
    have hpermitted := (hs.opens hopens).authorized_of_active hopens.valid (by simp [hactive])
    have hafter := (htarget hopens).stop hpermitted s₁.highestSequence
    exact hattempt.running (by simp [hidle]) (hafter _).candid (hafter _).aimed rfl hrunning
  | motionSent _ hready =>
    exact (authorized_iff.mp hready.permitted).active
  | motionFailed hopens hready _ _ _ _ hattempt =>
    have hafter := (htarget hopens).aimed.revoked.pend_revoked rfl fun _ => rfl
    exact hattempt.running (by simp [hready.settled]) (hafter _).candid (hafter _).aimed rfl
      hrunning
  | _ => simp [SessionState.running] at hrunning

namespace SafetySession

variable {s : SafetySession}

theorem attemptZero_result (s : SafetySession) (link : Link) (now : Int) (result : CycleResult)
    (outcome : WriteOutcome) :
    (s.attemptZero link now result outcome).result.state =
      (s.attemptZero link now result outcome).session.state := by
  simp only [attemptZero, concludeZero]
  split_ifs <;> rfl

theorem writeMotion_result (s : SafetySession) (link : Link) (now : Int) (result : CycleResult)
    (motionOutcome zeroOutcome : WriteOutcome) :
    (s.writeMotion link now result motionOutcome zeroOutcome).result.state =
      (s.writeMotion link now result motionOutcome zeroOutcome).session.state := by
  simp only [writeMotion]
  split
  · rfl
  · split
    · rfl
    · exact attemptZero_result _ _ _ _ _

/-- What `tick` reports is the state that it leaves behind. -/
theorem tick_result (hvalid : s.configurationValid = true) (link : Link) (now : Int)
    (motionOutcome zeroOutcome : WriteOutcome) :
    (s.tick link now motionOutcome zeroOutcome).result.state =
      (s.tick link now motionOutcome zeroOutcome).session.state := by
  simp only [tick, hvalid, Bool.not_true, Bool.false_eq_true, if_false]
  split
  · rfl
  · rfl
  · split_ifs <;>
      first
      | rfl
      | exact attemptZero_result _ _ _ _ _
      | exact writeMotion_result _ _ _ _ _ _

theorem tick_result_of_invalid (hvalid : s.configurationValid = false) (link : Link) (now : Int)
    (motionOutcome zeroOutcome : WriteOutcome) :
    (s.tick link now motionOutcome zeroOutcome).result.state = .configurationInvalid := by
  simp [tick, hvalid]

end SafetySession

/-- After the call, no state that it reports claims more than the session may do. -/
structure Event.Truthful (e : Event) : Prop where
  state : e.after.Reports e.after.state
  cycle : ∀ result, e.response = .cycle result → e.after.Reports result.state

theorem SafetySession.Honest.truthful {e : Event} (ht : e.after.Honest) (hs : e.after.Coherent) :
    e.Truthful := by
  have hreports := ht.reports hs
  refine ⟨hreports, ?_⟩
  obtain ⟨s, link, op⟩ := e
  intro result hresponse
  cases op with
  | tick now motionOutcome zeroOutcome =>
    have hresult : (s.tick link now motionOutcome zeroOutcome).result = result := by
      simpa [Event.response, Event.outcome, SafetySession.perform] using hresponse
    subst hresult
    cases hvalid : s.configurationValid with
    | true =>
      rw [tick_result hvalid]
      exact hreports
    | false =>
      rw [tick_result_of_invalid hvalid]
      exact .of_idle rfl
  | _ => simp [Event.response, Event.outcome, SafetySession.perform] at hresponse

variable {admits : Link → Link → Prop} {config : SafetyConfig} {h : List Event} {w : World}

theorem honest_of_run (run : (sessionMachine admits config).Run h w)
    (hseen : ∀ e ∈ h, ¬ e.Unseen) : w.session.Honest ∧ ∀ e ∈ h, e.Truthful := by
  have hseen : Trace.Historically (fun e _ => ¬ e.Unseen) h := by
    rw [Trace.historically_iff]
    rintro later e earlier rfl
    exact hseen e (by simp)
  suffices hrun : w.session.Honest ∧ Trace.Historically (fun e _ => e.Truthful) h by
    refine ⟨hrun.1, fun e he => ?_⟩
    obtain ⟨later, earlier, rfl⟩ := List.append_of_mem he
    exact Trace.historically_iff.mp hrun.2 later e earlier rfl
  refine run.historically_while (P := fun _ w => w.session.Honest) ?_ ?_ hseen
  · intro w hinit
    have hblank := blank_of_init hinit
    have ht := targeted_of_init hinit
    have hs := coherent_of_run (.start hinit)
    refine ⟨ht.aimed, ht.candid, fun hrunning => ?_⟩
    cases hknown : w.session.connectionKnown with
    | true => simp [hs.pending.mp (hblank.pending hknown), SessionState.running] at hrunning
    | false => rcases hs.absent hknown with hstate | hstate <;>
        simp [hstate, SessionState.running] at hrunning
  · intro h w e w' run hw hstep hseen
    have htransition := step_transition run hstep
    have hs := coherent_of_run run
    obtain ⟨hbefore, _, rfl⟩ := hstep
    rw [← hbefore] at htransition hs hw
    have hafter : e.after.Honest := htransition.honest hs hw hseen
    exact ⟨hafter, hafter.truthful (htransition.coherent hs)⟩

/-- In a run whose permission is never lost unseen, no call reports a state whose permission is
gone. -/
theorem reported_state (run : (sessionMachine admits config).Run h w)
    (hseen : ∀ e ∈ h, ¬ e.Unseen) : ∀ e ∈ h, e.Truthful :=
  (honest_of_run run hseen).2

theorem reported_state_replayed : (steadyEvent steadyCalls (plainTick 105)).Truthful :=
  reported_state moving_run (by decide +kernel) _ (by decide +kernel)

/-- A clock failure while the transport is away revokes a session in motion and leaves it
`active`. -/
theorem clock_failure_unseen :
    ¬ ∀ (config : SafetyConfig) (h : List Event) (w : World),
      (sessionMachine Link.Evolves config).Run h w → ∀ e ∈ h, e.Truthful := by
  intro hclaim
  let calls : List (Link × Op) :=
    movingCalls.map (fun op => (steadyLink, op)) ++ [(⟨false, 1⟩, plainTick 50)]
  have run : (sessionMachine Link.Evolves steadyConfig).Run (steadyStart.replay calls).1
      (steadyStart.replay calls).2 := World.run_replay (by decide +kernel)
  have htruthful := hclaim _ _ _ run
    ⟨(steadyReplay movingCalls).2.session, ⟨false, 1⟩, plainTick 50⟩ (by decide +kernel)
  have hpermitted := htruthful.state.permitted (by decide +kernel)
  exact absurd hpermitted (by decide +kernel)

end WheeltecVcuSerial
