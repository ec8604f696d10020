import WheeltecVcuSerial.Session.Expiry

namespace WheeltecVcuSerial

open SafetySession

namespace SafetySession

variable {s s₁ s' : SafetySession} {link link' : Link} {now : Int}

/-- The target of a pending episode: without a latch it is one of two, and a session that has a
permission aims at keeping it. -/
def Aimed (s : SafetySession) : Prop :=
  s.zeroEpisodeActive = true → s.emergencyStopLatched = false →
    s.stateAfterZero = .recovering ∨
      s.stateAfterZero = .connectedInhibited ∧ s.authorizationActive = false

/-- A pending episode aims at a state with permission only while there is one. -/
def Candid (s : SafetySession) : Prop :=
  s.zeroEpisodeActive = true → s.emergencyStopLatched = false → s.stateAfterZero = .recovering →
    s.authorizationActive = true

/-- The target of a pending episode agrees with what the session may do. -/
structure Targeted (s : SafetySession) : Prop where
  aimed : s.Aimed
  candid : s.Candid

/-- The link carries the connection that the session knows. -/
def OnLink (s : SafetySession) (link : Link) : Prop :=
  link.connected = true ∧ link.generation = s.connectionGeneration

theorem Aimed.revoked (hs : s.Aimed) : s.revokeAuthorization.clearMotionIntent.Aimed :=
  fun hzero hlatched => (hs hzero hlatched).imp_right (And.imp_right fun _ => rfl)

/-- A stop that leaves no permission aims at none. -/
theorem Aimed.pend_revoked {target : SessionState} (hs : s.Aimed)
    (hrevoked : s.authorizationActive = false)
    (htarget : s.emergencyStopLatched = false → target = .connectedInhibited) (earliest : Int) :
    (s.pend target earliest).Targeted := by
  have hafter : s.emergencyStopLatched = false →
      (s.pend target earliest).stateAfterZero = .connectedInhibited := by
    intro hlatched
    rw [pend_stateAfterZero, htarget hlatched]
    split
    · case isTrue hmerge =>
      simp only [Bool.and_eq_true, Bool.not_eq_true', Bool.or_eq_false_iff] at hmerge
      rcases hs hmerge.1 hlatched with hold | ⟨hold, _⟩
      · simp [hold] at hmerge
      · exact hold
    · rfl
  constructor
  · exact fun _ hlatched => .inr ⟨hafter hlatched, hrevoked⟩
  · intro _ hlatched hrecovering
    rw [hafter hlatched] at hrecovering
    cases hrecovering

/-- A stop that keeps the permission aims at what the permission allows. -/
theorem Aimed.pend_permitted (hs : s.Aimed) (hcandid : s.Candid)
    (hpermitted : s.authorizationActive = true → s.authorized = true) (earliest : Int) :
    (s.pend s.permittedState earliest).Targeted := by
  have hold : (s.pend s.permittedState earliest).stateAfterZero = s.permittedState ∨
      s.zeroEpisodeActive = true ∧
        (s.pend s.permittedState earliest).stateAfterZero = s.stateAfterZero := by
    rw [pend_stateAfterZero]
    split
    · case isTrue hmerge =>
      rw [Bool.and_eq_true] at hmerge
      exact .inr ⟨hmerge.1, rfl⟩
    · exact .inl rfl
  constructor
  · intro _ hlatched
    have hlatched : s.emergencyStopLatched = false := hlatched
    rcases hold with htarget | ⟨hzero, htarget⟩
    · rw [htarget, permittedState, if_neg (by simp [hlatched])]
      split
      · exact .inl rfl
      · case isFalse hunauthorized => exact .inr ⟨rfl, by simpa using mt hpermitted hunauthorized⟩
    · rw [htarget]
      exact hs hzero hlatched
  · intro _ hlatched hrecovering
    have hlatched : s.emergencyStopLatched = false := hlatched
    rcases hold with htarget | ⟨hzero, htarget⟩
    · rw [htarget, permittedState, if_neg (by simp [hlatched])] at hrecovering
      split at hrecovering
      · case isTrue hauthorized =>
        exact (authorized_iff.mp hauthorized).active
      · simp at hrecovering
    · exact hcandid hzero hlatched (htarget ▸ hrecovering)

theorem Targeted.of_idle (hzero : s.zeroEpisodeActive = false) : s.Targeted :=
  ⟨by simp [Aimed, hzero], by simp [Candid, hzero]⟩

theorem Targeted.of_latched (hlatched : s.emergencyStopLatched = true) : s.Targeted :=
  ⟨by simp [Aimed, hlatched], by simp [Candid, hlatched]⟩

theorem Targeted.renewed (s : SafetySession) (generation : Nat) :
    (s.renewed generation).Targeted := by
  have htarget : s.emergencyStopLatched = false →
      (s.renewed generation).stateAfterZero = .connectedInhibited := by
    intro hlatched
    simp [inhibitedState, hlatched]
  constructor
  · exact fun _ hlatched => .inr ⟨htarget hlatched, rfl⟩
  · intro _ hlatched hrecovering
    rw [htarget hlatched] at hrecovering
    cases hrecovering

theorem Aimed.opens {op : Op} (hs : s.Aimed) (hcandid : s.OnLink link → s.Candid)
    (h : Opens s link op s₁) : s₁.Targeted := by
  obtain ⟨connection, henters⟩ := h.enters
  cases henters with
  | unchanged hup _ hgeneration => exact ⟨hs, hcandid ⟨hup.1, hgeneration⟩⟩
  | newGeneration => exact .renewed _ _

theorem Targeted.stop (hs : s.Targeted)
    (hpermitted : s.authorizationActive = true → s.authorized = true)
    (sequenceId : Nat) (earliest : Int) :
    ((s.consumeSequence sequenceId).clearMotionIntent.pend s.permittedState earliest).Targeted :=
  Aimed.pend_permitted (s := (s.consumeSequence sequenceId).clearMotionIntent) hs.aimed hs.candid
    hpermitted earliest

theorem Targeted.revoke (hs : s.Targeted) (sequenceId : Nat) (earliest : Int) :
    ((s.consumeSequence sequenceId).revokeAuthorization.clearMotionIntent.pend s.inhibitedState
      earliest).Targeted := by
  have haim : (s.consumeSequence sequenceId).revokeAuthorization.clearMotionIntent.Aimed :=
    hs.aimed.revoked
  refine haim.pend_revoked rfl (fun hlatched => if_neg ?_) earliest
  have hlatched : s.emergencyStopLatched = false := hlatched
  simp [hlatched]

theorem Targeted.zeroAttempt {outcome : WriteOutcome} {writes : List Write}
    (hs : s.Targeted) (h : ZeroAttempt s link now outcome s' link' writes) : s'.Targeted := by
  cases h with
  | waiting => exact hs
  | lost => exact .of_idle rfl
  | completed => exact .of_idle rfl
  | exhausted => exact .of_idle rfl
  | failed => exact ⟨hs.aimed, hs.candid⟩

end SafetySession

/-- The call fails its clock check while the transport is away, and takes nothing but the permission
from the session. -/
def Op.revokesUnseen (s : SafetySession) (link : Link) (op : Op) (s' : SafetySession) : Prop :=
  op.rejected s = true ∧ op.isLatch = false ∧ link.connected = false ∧ s' = s.forgotten

/-- A pending episode stays candid, unless the permission is lost while the transport is away. -/
theorem Transition.aimed {s : SafetySession} {link : Link} {op : Op} {o : Outcome}
    (h : Transition s link op o) (hs : s.Coherent) (haim : s.Aimed)
    (hcandid : s.OnLink link → s.Candid) :
    o.session.Aimed ∧ (o.session.Candid ∨ ¬ s.OnLink link ∧ o.link = link ∧
      (o.session = s ∨ op.revokesUnseen s link o.session)) := by
  have hopened : ∀ {s₁}, Opens s link op s₁ → s₁.Targeted :=
    fun hopens => haim.opens hcandid hopens
  have hsimple : ∀ {t : SafetySession}, t.Targeted →
      t.Aimed ∧ (t.Candid ∨ ¬ s.OnLink link ∧ o.link = link ∧
        (t = s ∨ op.revokesUnseen s link t)) :=
    fun ht => ⟨ht.aimed, .inl ht.candid⟩
  have hvalid : ∀ {s₁}, Opens s link op s₁ → s₁.state ≠ .faulted → s₁.authorizationActive = true →
      s₁.authorized = true :=
    fun hopens => (hs.opens hopens).authorized_of_active hopens.valid
  cases h with
  | unconfigured hinvalid => exact hsimple (.of_idle (hs.not_pending_of_unconfigured hinvalid))
  | unconfiguredLatch => exact hsimple (.of_latched rfl)
  | notLatched =>
    by_cases honlink : s.OnLink link
    · exact hsimple ⟨haim, hcandid honlink⟩
    · exact ⟨haim, .inr ⟨honlink, rfl, .inl rfl⟩⟩
  | clockRejected _ hchecked hlatch hclock _ hfault =>
    cases hzero : s.zeroEpisodeActive with
    | false => exact hsimple (.of_idle hzero)
    | true =>
      have hdown : link.connected = false := by
        by_contra hup
        have := hfault (hs.known_of_pending hzero) (by simpa using hup)
        simp [hs.pending.mp hzero] at this
      refine ⟨?_, .inr ⟨by simp [OnLink, hdown], rfl, .inr ⟨?_, hlatch, hdown, rfl⟩⟩⟩
      · exact fun hzero hlatched => (haim hzero hlatched).imp_right (And.imp_right fun _ => rfl)
      · exact Op.rejected_iff.mpr ⟨hchecked, hclock⟩
  | clockRejectedPending =>
    have haim : s.forgotten.Aimed := fun hzero hlatched =>
      (haim hzero hlatched).imp_right (And.imp_right fun _ => rfl)
    exact hsimple (haim.pend_revoked rfl (fun hlatched => if_neg (by simpa using hlatched)) _)
  | disconnected => exact hsimple (.of_idle rfl)
  | declined hopens => exact hsimple (hopened hopens)
  | authorized _ _ _ hzero => exact hsimple (.of_idle hzero)
  | feedbackAllowed hopens => exact hsimple ⟨(hopened hopens).aimed, (hopened hopens).candid⟩
  | @inhibited _ now s₁ hopens _ _ =>
    have ht := (hopened hopens).revoke s₁.highestSequence now
    exact hsimple ⟨ht.aimed, ht.candid⟩
  | inhibitedFaulted hopens _ hfault =>
    refine hsimple (.of_idle ?_)
    by_contra hzero
    have := (hs.opens hopens).pending.mp (by simpa using hzero)
    simp [hfault] at this
  | stopped hopens hstate => exact hsimple ((hopened hopens).stop (hvalid hopens hstate) _ _)
  | revoked hopens => exact hsimple ((hopened hopens).revoke _ _)
  | unpermitted hopens => exact hsimple ⟨(hopened hopens).aimed, (hopened hopens).candid⟩
  | admitted _ hcommand => exact hsimple (.of_idle (by simp [admitting_eq, hcommand.settled]))
  | readmitted _ hcommand => exact hsimple (.of_idle (by simp [admitting_eq, hcommand.settled]))
  | latchedDown => exact hsimple (.of_idle rfl)
  | latchedFaulted _ _ henters => exact hsimple (.of_latched (by cases henters <;> rfl))
  | latchedPending _ _ henters => exact hsimple (.of_latched (by cases henters <;> rfl))
  | reset _ hzero => exact hsimple (.of_idle hzero)
  | idle hopens => exact hsimple (hopened hopens)
  | idleLatched _ hzero => exact hsimple (.of_idle hzero)
  | retry hopens _ hattempt => exact hsimple (.zeroAttempt (hopened hopens) hattempt)
  | @watchdog _ _ _ s₁ _ _ _ _ hopens _ _ hactive _ hattempt =>
    have ht := (hopened hopens).stop (hvalid hopens (by simp [hactive])) s₁.highestSequence
    exact hsimple (.zeroAttempt (ht _) hattempt)
  | motionSent _ hready => exact hsimple (.of_idle hready.settled)
  | motionLost => exact hsimple (.of_idle rfl)
  | motionFailed hopens _ _ _ _ _ hattempt =>
    have haim := (hopened hopens).aimed.revoked
    exact hsimple (.zeroAttempt (haim.pend_revoked rfl (fun _ => rfl) _) hattempt)

/-- A clean zero write ends the episode in the state that the session may take. -/
theorem SafetySession.ZeroAttempt.permitted {s s' : SafetySession} {link link' : Link} {now : Int}
    {outcome : WriteOutcome} {writes : List Write} {write : Write}
    (h : ZeroAttempt s link now outcome s' link' writes) (hs : s.Coherent) (ht : s.Targeted)
    (hzero : s.zeroEpisodeActive = true) (hmem : write ∈ writes)
    (hcompleted : write.completed = true) (hup : write.outcome.link.connected = true) :
    s'.zeroEpisodeActive = false ∧ s'.state = s'.permittedState := by
  have hwrite : ∀ {now : Int}, writes = [s.zeroWrite link now outcome] →
      (outcome.ioResult now).completes commandFrameSize = true ∧ outcome.link.connected = true := by
    intro now heq
    rw [heq, List.mem_singleton] at hmem
    subst hmem
    exact ⟨hcompleted, hup⟩
  cases h with
  | waiting => simp at hmem
  | lost _ hlost =>
    obtain ⟨hcompletes, hconnected⟩ := hwrite rfl
    rcases hlost with hlost | hlost
    · simp [IoResult.completes, hlost] at hcompletes
    · simp [hconnected] at hlost
  | exhausted _ hfailed => simp [(hwrite rfl).1] at hfailed
  | failed _ hfailed => simp [(hwrite rfl).1] at hfailed
  | completed =>
    refine ⟨rfl, ?_⟩
    have hvalid : s.configurationValid = true := by
      by_contra hinvalid
      simp [hs.not_pending_of_unconfigured (by simpa using hinvalid)] at hzero
    have hstate := hs.pending.mp hzero
    simp only [completeZero_state, permittedState, completeZero_emergencyStopLatched,
      attempted_emergencyStopLatched, attempted_stateAfterZero]
    cases hlatched : s.emergencyStopLatched with
    | true => rfl
    | false =>
      rcases ht.aimed hzero hlatched with hafter | ⟨hafter, hrevoked⟩
      · have hauthorized := hs.authorized_of_active hvalid (by simp [hstate])
          (ht.candid hzero hlatched hafter)
        simp only [authorized, Bool.and_eq_true, decide_eq_true_eq] at hauthorized
        simp [authorized, hauthorized, hafter, hlatched]
      · simp [authorized, hrevoked, hafter]

theorem Transition.permitted {s : SafetySession} {link : Link} {op : Op} {o : Outcome}
    {write : Write} (h : Transition s link op o) (hs : s.Coherent) (haim : s.Aimed)
    (hcandid : s.OnLink link → s.Candid) (hmem : write ∈ o.writes) (hkind : write.kind = .zero)
    (hcompleted : write.completed = true) (hup : write.outcome.link.connected = true) :
    o.session.zeroEpisodeActive = false ∧ o.session.state = o.session.permittedState := by
  cases h with
  | retry hopens hzero hattempt =>
    exact hattempt.permitted (hs.opens hopens) (haim.opens hcandid hopens) hzero hmem hcompleted hup
  | @watchdog _ _ _ s₁ _ _ _ _ hopens _ _ hactive _ hattempt =>
    have hpermitted := (hs.opens hopens).authorized_of_active hopens.valid (by simp [hactive])
    exact hattempt.permitted
      ((hs.opens hopens).clearedPend hopens.valid hopens.known s₁.permittedState_mem _)
      ((haim.opens hcandid hopens).stop hpermitted s₁.highestSequence _) rfl hmem hcompleted hup
  | motionFailed hopens _ _ _ _ _ hattempt =>
    rcases List.mem_cons.mp hmem with rfl | hmem
    · simp [motionWrite] at hkind
    · exact hattempt.permitted
        ((hs.opens hopens).silenced.clearedPend hopens.valid hopens.known (by simp) _)
        ((haim.opens hcandid hopens).aimed.revoked.pend_revoked rfl (fun _ => rfl) _) rfl hmem
        hcompleted hup
  | motionSent => simp [List.mem_singleton.mp hmem, motionWrite] at hkind
  | motionLost => simp [List.mem_singleton.mp hmem, motionWrite] at hkind
  | _ => simp at hmem

theorem targeted_of_init {admits : Link → Link → Prop} {config : SafetyConfig} {w : World}
    (hinit : (sessionMachine admits config).init w) : w.session.Targeted := by
  rcases hinit with hinit | hinit
  · rw [hinit]
    rcases construct_cases config w.link with heq | ⟨_, heq | ⟨_, heq⟩⟩
    · rw [heq]
      exact .of_idle rfl
    · rw [heq]
      exact .of_idle rfl
    · rw [heq]
      exact .renewed _ _
  · rw [hinit]
    exact .of_idle rfl

/-- A session on its connection after the link has evolved was on it before. -/
theorem SafetySession.OnLink.earlier {s : SafetySession} {link link' : Link}
    (h : s.OnLink link') (hbehind : s.connectionGeneration ≤ link.generation)
    (hlink : link.Evolves link') : s.OnLink link := by
  have hsame := hlink.same h.1 (h.2.trans_le hbehind)
  exact ⟨hsame.1, hsame.2.trans h.2⟩

/-- Over a transport that keeps its contract the target of a pending episode stays candid for as
long as its connection stands. -/
theorem aimed_of_run {config : SafetyConfig} {h : List Event} {w : World}
    (run : (sessionMachine Link.Evolves config).Run h w) :
    w.session.Aimed ∧ (w.session.OnLink w.link → w.session.Candid) := by
  refine run.invariant
    (P := fun _ w => w.session.Aimed ∧ (w.session.OnLink w.link → w.session.Candid)) ?_ ?_
  · intro w hinit
    exact ⟨(targeted_of_init hinit).aimed, fun _ => (targeted_of_init hinit).candid⟩
  · intro h w e w' run hw hstep
    have htransition := step_transition run hstep
    obtain ⟨_, hlinks, rfl⟩ := hstep
    rw [Event.links, List.isChain_cons_cons] at hlinks
    have hcandid : w.session.OnLink e.link → w.session.Candid :=
      fun honlink => hw.2 (honlink.earlier (behind_of_run run) hlinks.1)
    obtain ⟨haim, hcase⟩ := htransition.aimed (coherent_of_run run) hw.1 hcandid
    refine ⟨haim, fun honlink => ?_⟩
    rcases hcase with hcandid | ⟨hoff, hlink, hsame⟩
    · exact hcandid
    · -- the call left the session off its link, and the link as it was
      refine absurd ?_ hoff
      have hlink : e.linkAfter = e.link := hlink
      have hgeneration : e.after.connectionGeneration = w.session.connectionGeneration := by
        rcases hsame with heq | hrevokes
        · exact congrArg _ heq
        · have heq : e.after = w.session.forgotten := hrevokes.2.2.2
          rw [heq]
          rfl
      simpa only [OnLink, hlink, hgeneration] using honlink

/-- What a call of a run finds: a target that is candid on the link of the call. -/
theorem aimed_of_mem {config : SafetyConfig} {h : List Event} {w : World} {e : Event}
    (run : (sessionMachine Link.Evolves config).Run h w) (he : e ∈ h) :
    e.before.Aimed ∧ (e.before.OnLink e.link → e.before.Candid) := by
  obtain ⟨later, earlier, rfl⟩ := List.append_of_mem he
  obtain ⟨v, v', run, hstep, -⟩ := run.step_of_mem
  obtain ⟨hbefore, hlinks, -⟩ := hstep
  rw [Event.links, List.isChain_cons_cons] at hlinks
  rw [hbefore]
  obtain ⟨haim, hcandid⟩ := aimed_of_run run
  exact ⟨haim, fun honlink => hcandid (honlink.earlier (behind_of_run run) hlinks.1)⟩

/-- A zero episode that a clean zero write ends leaves the session in the most that its latch and
its permission allow. -/
theorem permitted_of_run {config : SafetyConfig} {h : List Event} {w : World} {e : Event}
    {write : Write} (run : (sessionMachine Link.Evolves config).Run h w) (he : e ∈ h)
    (hmem : write ∈ e.writes) (hkind : write.kind = .zero) (hcompleted : write.completed = true)
    (hup : write.outcome.link.connected = true) :
    e.after.zeroEpisodeActive = false ∧ e.after.state = e.after.permittedState := by
  obtain ⟨haim, hcandid⟩ := aimed_of_mem run he
  exact (transition_of_mem run he).permitted (coherent_of_mem run he) haim hcandid hmem hkind
    hcompleted hup

end WheeltecVcuSerial
