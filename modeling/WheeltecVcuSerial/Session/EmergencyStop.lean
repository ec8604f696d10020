import WheeltecVcuSerial.Session.Permission
import WheeltecVcuSerial.Session.Replay

namespace WheeltecVcuSerial

open SafetySession

theorem Op.isLatch_of_forgets {op : Op} (h : op.forgets = false) : op.isLatch = false := by
  cases op <;> simp_all [Op.forgets, Op.isLatch]

namespace SafetySession

variable {s s₁ s' : SafetySession} {link link' : Link} {op : Op} {now : Int}

theorem Opens.latch (h : Opens s link op s₁) :
    s₁.emergencyStopLatched = s.emergencyStopLatched := by
  obtain ⟨connection, henters⟩ := h.enters
  cases henters <;> rfl

theorem ZeroAttempt.latch {outcome : WriteOutcome} {writes : List Write}
    (h : ZeroAttempt s link now outcome s' link' writes) :
    s'.emergencyStopLatched = s.emergencyStopLatched := by
  cases h <;> simp

end SafetySession

/-- What a call does to the emergency-stop latch. -/
inductive LatchStep (s : SafetySession) (op : Op) (response : Response) (t : SafetySession) : Prop
  | set : op.isLatch = true → t.emergencyStopLatched = true → LatchStep s op response t
  | kept : op.isLatch = false → op.resetToken response = none →
      t.emergencyStopLatched = s.emergencyStopLatched → LatchStep s op response t
  | released : op.resetToken response = some token → s.emergencyStopLatched = true →
      op.isLatch = false → LatchStep s op response t

theorem Transition.latch {s : SafetySession} {link : Link} {op : Op} {o : Outcome}
    (h : Transition s link op o) : LatchStep s op o.response o.session := by
  have hkept : ∀ {s₁ s' : SafetySession} {op : Op} {response : Response}, Opens s link op s₁ →
      s'.emergencyStopLatched = s₁.emergencyStopLatched → op.isLatch = false →
      op.resetToken response = none → LatchStep s op response s' := by
    intro s₁ s' op response hopens hlatch hop hreset
    exact .kept hop hreset (hlatch.trans hopens.latch)
  cases h with
  | unconfigured _ hop htakes => exact .kept hop (Op.labels_of_not_takes htakes).2.1 rfl
  | unconfiguredLatch => exact .set rfl (by simp)
  | notLatched => exact .kept rfl rfl rfl
  | clockRejected _ _ hop _ htakes =>
    exact .kept hop (Op.labels_of_not_takes htakes).2.1 (by simp)
  | clockRejectedPending _ _ hop _ htakes =>
    exact .kept hop (Op.labels_of_not_takes htakes).2.1 (by simp)
  | disconnected _ _ hop _ _ htakes =>
    exact .kept hop (Op.labels_of_not_takes htakes).2.1 (by simp)
  | declined hopens hforgets htakes =>
    exact hkept hopens rfl (Op.isLatch_of_forgets hforgets) (Op.labels_of_not_takes htakes).2.1
  | authorized hopens => exact hkept hopens (by simp) rfl rfl
  | feedbackAllowed hopens => exact hkept hopens (by simp) rfl rfl
  | inhibited hopens => exact hkept hopens (by simp) rfl rfl
  | inhibitedFaulted hopens => exact hkept hopens (by simp) rfl rfl
  | stopped hopens _ hop _ _ _ hconsumes => exact hkept hopens (by simp) hop hconsumes.resetToken
  | revoked hopens _ hop _ _ _ hconsumes => exact hkept hopens (by simp) hop hconsumes.resetToken
  | unpermitted hopens => exact hkept hopens (by simp) rfl rfl
  | admitted hopens => exact hkept hopens (by simp [admitting_eq]) rfl rfl
  | readmitted hopens => exact hkept hopens (by simp [admitting_eq]) rfl rfl
  | latchedDown => exact .set rfl (by simp)
  | latchedFaulted _ _ henters => cases henters <;> exact .set rfl (by simp)
  | latchedPending _ _ henters => cases henters <;> exact .set rfl (by simp)
  | reset hopens =>
    have hchecked := hopens.checked
    simp only [Op.checksClock, Bool.and_eq_true] at hchecked
    exact .released rfl hchecked.2 rfl
  | idle hopens => exact hkept hopens rfl rfl rfl
  | idleLatched hopens => exact hkept hopens (by simp) rfl rfl
  | retry hopens _ hattempt => exact hkept hopens hattempt.latch rfl rfl
  | watchdog hopens _ _ _ _ hattempt =>
    exact hkept hopens (by simpa using hattempt.latch) rfl rfl
  | motionSent hopens => exact hkept hopens (by simp) rfl rfl
  | motionLost hopens => exact hkept hopens (by simp) rfl rfl
  | motionFailed hopens _ _ _ _ _ hattempt =>
    exact hkept hopens (by simpa using hattempt.latch) rfl rfl

theorem Op.authorizedToken_eq_some {op : Op} {response : Response} {token : Nat}
    (h : op.authorizedToken response = some token) :
    ∃ now, op = .authorize token now ∧ response = .authorization .authorized := by
  cases op <;> cases response <;> simp_all [Op.authorizedToken]

theorem Op.resetToken_eq_some {op : Op} {response : Response} {token : Nat}
    (h : op.resetToken response = some token) :
    ∃ now, op = .resetEmergencyStop token now ∧ response = .flag true := by
  cases op <;> cases response <;> simp_all [Op.resetToken]

/-- The guards of an authorization that is granted. -/
theorem Transition.granted {s : SafetySession} {link : Link} {token : Nat} {now : Int} {o : Outcome}
    (h : Transition s link (.authorize token now) o)
    (hresponse : o.response = .authorization .authorized) :
    ∃ s₁, Opens s link (.authorize token now) s₁ ∧ s₁.emergencyStopLatched = false := by
  have htaken : Op.takes (.authorize token now) o.response = true := by rw [hresponse]; rfl
  cases h with
  | unconfigured _ _ htakes => simp [htaken] at htakes
  | clockRejected _ _ _ _ htakes => simp [htaken] at htakes
  | clockRejectedPending _ _ _ _ htakes => simp [htaken] at htakes
  | disconnected _ _ _ _ _ htakes => simp [htaken] at htakes
  | declined _ _ htakes => simp [htaken] at htakes
  | authorized hopens hlatched => exact ⟨_, hopens, hlatched⟩
  | stopped _ _ _ _ _ _ hconsumes => nomatch hconsumes
  | revoked _ _ _ _ _ _ hconsumes => nomatch hconsumes

/-- The guards of an emergency-stop reset that is granted. -/
theorem Transition.released {s : SafetySession} {link : Link} {token : Nat} {now : Int}
    {o : Outcome}
    (h : Transition s link (.resetEmergencyStop token now) o)
    (hresponse : o.response = .flag true) :
    ∃ s₁, Opens s link (.resetEmergencyStop token now) s₁ ∧ s₁.zeroEpisodeActive = false ∧
      s₁.state ≠ .faulted ∧ s₁.highestEstopResetToken < token ∧ s₁.feedbackIsFresh now = true ∧
      o.session = s₁.releaseEmergencyStop token := by
  have htaken : Op.takes (.resetEmergencyStop token now) o.response = true := by rw [hresponse]; rfl
  cases h with
  | unconfigured _ _ htakes => simp [htaken] at htakes
  | notLatched => simp at hresponse
  | clockRejected _ _ _ _ htakes => simp [htaken] at htakes
  | clockRejectedPending _ _ _ _ htakes => simp [htaken] at htakes
  | disconnected _ _ _ _ _ htakes => simp [htaken] at htakes
  | declined _ _ htakes => simp [htaken] at htakes
  | stopped _ _ _ _ _ _ hconsumes => nomatch hconsumes
  | revoked _ _ _ _ _ _ hconsumes => nomatch hconsumes
  | reset hopens hzero hstate htoken hfeedback =>
    exact ⟨_, hopens, hzero, hstate, htoken, hfeedback, rfl⟩

/-- What a call on a latched session refuses. -/
structure Event.Blocked (e : Event) : Prop where
  unauthorized : e.before.authorized = false
  motionless : ∀ write ∈ e.writes, write.kind ≠ .motion
  authorize : e.authorizedToken = none
  submit : e.op.admittedCommand e.response = none

theorem unauthorized_of_latched {s : SafetySession} (hlatched : s.emergencyStopLatched = true) :
    s.authorized = false := by
  simp [authorized, hlatched]

theorem Event.blocked_of_latched {e : Event} (h : Transition e.before e.link e.op e.outcome)
    (hlatched : e.before.emergencyStopLatched = true) : e.Blocked where
  unauthorized := unauthorized_of_latched hlatched
  motionless := by
    intro write hmem hkind
    obtain ⟨now, _, _, _, _, hready, _⟩ := h.motion hmem hkind
    have hunlatched : e.before.emergencyStopLatched = false := hready.unlatched
    simp [hlatched] at hunlatched
  authorize := by
    by_contra hsome
    obtain ⟨token, htoken⟩ := Option.ne_none_iff_exists'.mp hsome
    obtain ⟨now, hop, hresponse⟩ := Op.authorizedToken_eq_some htoken
    rw [hop] at h
    obtain ⟨s₁, hopens, hunlatched⟩ := h.granted hresponse
    simp [hopens.latch, hlatched] at hunlatched
  submit := by
    by_contra hsome
    obtain ⟨command, hcommand⟩ := Option.ne_none_iff_exists'.mp hsome
    obtain ⟨now, status, hop, hresponse, hadmits⟩ := Op.admittedCommand_eq_some hcommand
    rw [hop] at h
    obtain ⟨s₁, hopens, hcommand⟩ := h.admissible hresponse hadmits
    have hunlatched := hcommand.unlatched
    simp [hopens.latch, hlatched] at hunlatched

variable {config : SafetyConfig} {h : List Event} {w w' : World}

theorem blocked_of_path {admits : Link → Link → Prop} {later : List Event}
    (path : (sessionMachine admits config).Path w later w') (hw : w.session.Coherent)
    (hlatched : w.session.emergencyStopLatched = true) (hreset : ∀ e ∈ later, e.resetToken = none) :
    w'.session.emergencyStopLatched = true ∧ ∀ e ∈ later, e.Blocked := by
  suffices h : (w'.session.Coherent ∧ w'.session.emergencyStopLatched = true) ∧
      ∀ e ∈ later, e.Blocked from h.imp_left And.right
  refine path.absorbing (P := fun v => v.session.Coherent ∧ v.session.emergencyStopLatched = true)
    ?_ hreset ⟨hw, hlatched⟩
  rintro v e v' ⟨hv, hlatched⟩ ⟨hbefore, _, rfl⟩ hquiet
  rw [← hbefore] at hv hlatched
  have htransition := perform_transition hv.wired e.link e.op
  refine ⟨⟨htransition.coherent hv, ?_⟩, Event.blocked_of_latched htransition hlatched⟩
  cases htransition.latch with
  | set _ hset => exact hset
  | kept _ _ hkept => exact hkept.trans hlatched
  | released hreset => simp [Event.resetToken, Event.response, Event.outcome, hreset] at hquiet

/-- From an emergency stop on, until a reset is granted, the session neither moves nor lets anybody
prepare for it. -/
theorem latch_blocks {admits : Link → Link → Prop} {later earlier : List Event} {latch : Event}
    (run : (sessionMachine admits config).Run (later ++ latch :: earlier) w)
    (hlatch : latch.op.isLatch = true) (hreset : ∀ e ∈ later, e.resetToken = none) :
    w.session.authorized = false ∧ ∀ e ∈ later, e.Blocked := by
  obtain ⟨v, v', run, hstep, path⟩ := run.step_of_mem
  have hlatched : v'.session.emergencyStopLatched = true := by
    have htransition := step_transition run hstep
    obtain ⟨_, _, rfl⟩ := hstep
    cases htransition.latch with
    | set _ hset => exact hset
    | kept hop => simp [hlatch] at hop
    | released _ _ hop => simp [hlatch] at hop
  obtain ⟨hlatched, hblocked⟩ :=
    blocked_of_path path (coherent_of_run (.next run hstep)) hlatched hreset
  exact ⟨unauthorized_of_latched hlatched, hblocked⟩

/-- A latched session has been latched by a call, the latest one of its kind. -/
theorem latch_since {admits : Link → Link → Prop} (run : (sessionMachine admits config).Run h w)
    (hlatched : w.session.emergencyStopLatched = true) :
    Trace.Since (fun e => e.op.isLatch = false) (fun e _ => e.op.isLatch = true) h := by
  refine run.since (P := fun v => v.session.emergencyStopLatched = true) ?_ ?_ hlatched
  · intro v hinit hv
    simp [(blank_of_init hinit).unlatched] at hv
  · intro h v e v' run hstep hv
    have htransition := step_transition run hstep
    obtain ⟨_, _, rfl⟩ := hstep
    cases htransition.latch with
    | set hop => exact .inl hop
    | kept hop _ hkept => exact .inr ⟨hop, hkept ▸ hv⟩
    | released _ hlatched hop => exact .inr ⟨hop, hlatched⟩

/-- A valid frame that forbids control. -/
def Event.inhibits (e : Event) : Bool :=
  match e.op with
  | .observeFeedback frame _ => WheeltecVcuSerial.inhibits frame
  | _ => false

theorem Event.not_inhibits {e : Event} (h : e.forgets = false) : e.inhibits = false := by
  have hforgets : e.op.forgets = false := (Bool.or_eq_false_iff.mp h).2
  unfold Event.inhibits
  cases hop : e.op <;> simp_all [Op.forgets]

/-- What a reset that is granted rests on, after the calls `earlier`. -/
structure ResetJustified (config : SafetyConfig) (earlier : List Event) (reset : Event)
    (token : Nat) : Prop where
  sinceLatch : ∃ recent latch older, earlier = recent ++ latch :: older ∧
    latch.op.isLatch = true ∧ (∀ e ∈ recent, e.op.isLatch = false) ∧
    (∃ e ∈ recent, ∃ write ∈ e.writes, write.ZeroCompletedOn reset.link.generation) ∧
    Trace.Since (fun e => e.inhibits = false)
      (fun e _ => ∃ time, e.Allows reset.link.generation time ∧ time ≤ reset.op.now ∧
        reset.op.now - time ≤ config.feedbackTimeoutNs) recent
  idle : reset.before.zeroEpisodeActive = false
  sound : reset.before.state ≠ .faulted
  token : ∀ k ∈ earlier.filterMap Event.resetToken, k < token
  inhibited : reset.after.state = .connectedInhibited
  unauthorized : reset.after.authorized = false

theorem Event.halts_of_isLatch {e : Event} (h : e.op.isLatch = true) :
    e.halts = true ∧ e.forgets = true ∧ ∀ generation time, ¬ e.Allows generation time := by
  have hop : e.op.stops e.response = true ∧ e.op.forgets = true ∧
      ∀ frame time, e.op ≠ .observeFeedback frame time := by
    cases hop : e.op <;> simp_all [Op.isLatch, Op.stops, Op.forgets]
  obtain ⟨hstops, hforgets, hfeedback⟩ := hop
  refine ⟨by simp [Event.halts, hstops], by simp [Event.forgets, hforgets], ?_⟩
  rintro generation time ⟨frame, hop, _⟩
  exact hfeedback frame time hop

theorem resetJustified_of_step {reset : Event} {token : Nat}
    (run : (sessionMachine Link.Evolves config).Run h w)
    (hstep : (sessionMachine Link.Evolves config).step w reset w')
    (htoken : reset.resetToken = some token) : ResetJustified config h reset token := by
  obtain ⟨now, hop, hresponse⟩ := Op.resetToken_eq_some htoken
  have htransition := step_transition run hstep
  rw [hop] at htransition
  obtain ⟨s₁, hopens, hzero, hstate, hmark, hfresh, hsession⟩ := htransition.released hresponse
  obtain ⟨connection, henters⟩ := hopens.enters
  obtain ⟨rfl, _, hknown, hgeneration⟩ := henters.eq_of_settled hzero
  have hsettled : w.session.Settled reset.link :=
    ⟨hknown, henters.up.1, hgeneration, hzero, hstate⟩
  have hchecked := hopens.checked
  simp only [Op.checksClock, Bool.and_eq_true] at hchecked
  obtain ⟨recent, latch, older, rfl, hlatch, hrecent⟩ :=
    Trace.since_iff.mp (latch_since run hchecked.2)
  obtain ⟨hhalts, hforgets, hallows⟩ := Event.halts_of_isLatch hlatch
  have hwrites : latch.writes = [] :=
    (transition_of_mem run (by simp)).writes_of_halts hhalts
  obtain ⟨hbefore, hlinks, rfl⟩ := hstep
  have hprior := hsettled.earlier (List.isChain_cons_cons.mp hlinks).1 (behind_of_run run)
  have hzeros : ∃ e ∈ recent, ∃ write ∈ e.writes,
      write.ZeroCompletedOn w.session.connectionGeneration := by
    obtain ⟨x, newer, middle, rfl, hx, -⟩ :=
      (zero_since run hprior).exists_later (by simp [hhalts]) (by simp [hwrites])
    exact ⟨x, by simp, hx⟩
  obtain ⟨hheld, hreceipt, hage⟩ := feedback_of_fresh hfresh hknown
  obtain ⟨f, newer, middle, hsplit, hf, hnewer⟩ :=
    (feedback_since run hheld).exists_later (by simp [hforgets]) (hallows _ _)
  have hafter : reset.after = (w.session.observed now).releaseEmergencyStop token := hsession
  have hmarks : w.session.marks.reset < token := hmark
  exact
    { sinceLatch := by
        refine ⟨recent, latch, older, rfl, hlatch, hrecent, hgeneration ▸ hzeros,
          Trace.since_iff.mpr ⟨newer, f, middle, hsplit, ?_, fun e he => ?_⟩⟩
        · refine ⟨_, hgeneration ▸ hf, ?_, ?_⟩
          · rw [hop]
            exact hreceipt
          · rw [hop, ← config_of_run run]
            exact hage
        · exact Event.not_inhibits (hnewer e he)
      idle := hbefore ▸ hzero
      sound := hbefore ▸ hstate
      token := fun k hk => ((resets_increase run).2 k hk).trans_lt hmarks
      inhibited := by rw [hafter]; rfl
      unauthorized := by simp [hafter, authorized] }

/-- After a granted reset, motion needs an authorization with a token above all earlier ones. -/
theorem motion_needs_authorization {between earlier : List Event} {reset motion : Event}
    {write : Write}
    (run : (sessionMachine Link.Evolves config).Run (between ++ reset :: earlier) w)
    (hreset : reset.resetToken ≠ none)
    (hstep : (sessionMachine Link.Evolves config).step w motion w') (hmem : write ∈ motion.writes)
    (hkind : write.kind = .motion) :
    ∃ newer x older token, between = newer ++ x :: older ∧ x.authorizedToken = some token ∧
      ∀ k ∈ (older ++ reset :: earlier).filterMap Event.authorizedToken, k < token := by
  obtain ⟨now, _, _, _, hopens, hready, _⟩ := (step_transition run hstep).motion hmem hkind
  have hheld : w.session.heldPermission =
      some (w.session.connectionGeneration, w.session.authorizationMonotonicNs) :=
    heldPermission_of_authorized (s := w.session.observed now) hready.permitted
  have hsome : (reset.op.resetToken reset.response).isSome = true :=
    Option.isSome_iff_ne_none.mpr hreset
  have hunseats : reset.unseats = true := by simp [Event.unseats, Op.unseats, hsome]
  have hop : ∀ generation time, ¬ reset.Authorizes generation time := by
    rintro generation time ⟨token, hop, hresponse, _⟩
    simp [Event.resetToken, hop, Op.resetToken] at hreset
  obtain ⟨x, newer, older, rfl, ⟨⟨token, hx, hresponse, _⟩, _⟩, -⟩ :=
    (permission_since run hheld).exists_later (by simp [hunseats]) (fun h => hop _ _ h.1)
  have htoken : x.authorizedToken = some token := by
    simp [Event.authorizedToken, hx, hresponse, Op.authorizedToken]
  refine ⟨newer, x, older, token, rfl, htoken, fun k hk => ?_⟩
  have hpairwise := (authorizations_increase run).1
  rw [List.append_assoc, List.filterMap_append, List.cons_append, List.filterMap_cons_some htoken,
    List.pairwise_append] at hpairwise
  exact List.rel_of_pairwise_cons hpairwise.2.1 hk

/-- The emergency-stop latch: it blocks until a reset is granted, and a reset is granted on good
grounds only and grants no motion by itself. -/
theorem emergency_stop_latch (run : (sessionMachine Link.Evolves config).Run h w) :
    (∀ later latch earlier, h = later ++ latch :: earlier → latch.op.isLatch = true →
      (∀ e ∈ later, e.resetToken = none) →
      w.session.authorized = false ∧ ∀ e ∈ later, e.Blocked) ∧
    (∀ later reset earlier token, h = later ++ reset :: earlier → reset.resetToken = some token →
      ResetJustified config earlier reset token ∧
      ∀ last motion between write, later = last ++ motion :: between →
        write ∈ motion.writes → write.kind = .motion →
        ∃ newer x older token, between = newer ++ x :: older ∧ x.authorizedToken = some token ∧
          ∀ k ∈ (older ++ reset :: earlier).filterMap Event.authorizedToken, k < token) := by
  refine ⟨?_, ?_⟩
  · rintro later latch earlier rfl hlatch hreset
    exact latch_blocks run hlatch hreset
  · rintro later reset earlier token rfl htoken
    refine ⟨?_, ?_⟩
    · obtain ⟨v, v', run, hstep, -⟩ := run.step_of_mem
      exact resetJustified_of_step run hstep htoken
    · rintro last motion between write rfl hmem hkind
      rw [List.append_assoc, List.cons_append] at run
      obtain ⟨v, v', run, hstep, -⟩ := run.step_of_mem
      exact motion_needs_authorization run (by simp [htoken]) hstep hmem hkind

theorem emergency_stop_latch_replayed :
    let calls := steadyCalls ++ [.latchEmergencyStop 105, plainTick 106,
      .observeFeedback allowedFeedback 107, .resetEmergencyStop 1 108]
    ResetJustified steadyConfig (steadyReplay (calls.take 8)).1
      (steadyEvent (calls.take 8) (.resetEmergencyStop 1 108)) 1 := by
  intro calls
  let reset := steadyEvent (calls.take 8) (.resetEmergencyStop 1 108)
  have heq : (steadyReplay calls).1 = [] ++ reset :: (steadyReplay (calls.take 8)).1 := by
    decide +kernel
  have run := steady_run calls (by decide +kernel) heq
  exact ((emergency_stop_latch run).2 [] reset _ 1 rfl (by decide +kernel)).1

end WheeltecVcuSerial
