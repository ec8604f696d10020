import WheeltecVcuSerial.Session.History

namespace WheeltecVcuSerial

open SafetySession

/-- Nothing stands between the session and motion on this link: no pending zero, no fault, and a
connection that the session knows. -/
structure SafetySession.Settled (s : SafetySession) (link : Link) : Prop where
  known : s.connectionKnown = true
  connected : link.connected = true
  generation : link.generation = s.connectionGeneration
  idle : s.zeroEpisodeActive = false
  sound : s.state ≠ .faulted

namespace SafetySession

variable {s s₁ : SafetySession} {prior link link' : Link} {op : Op}

theorem Settled.earlier (h : s.Settled link) (hlink : prior.Evolves link)
    (hbehind : s.connectionGeneration ≤ prior.generation) : s.Settled prior := by
  obtain ⟨hconnected, hgeneration⟩ := hlink.same h.connected (h.generation.trans_le hbehind)
  exact ⟨h.known, hconnected, hgeneration.trans h.generation, h.idle, h.sound⟩

theorem Opens.eq_observed (h : Opens s link op s₁) (hknown : s.connectionKnown = true)
    (hgeneration : link.generation = s.connectionGeneration) : s₁ = s.observed op.now := by
  obtain ⟨connection, henters⟩ := h.enters
  cases henters with
  | unchanged => rfl
  | newGeneration _ hnew => exact absurd hgeneration (hnew hknown)

/-- A session that opens a call without a zero to write was settled before it. -/
theorem Opens.settled (h : Opens s link op s₁) (hzero : s₁.zeroEpisodeActive = false)
    (hstate : s₁.state ≠ .faulted) : s.Settled link := by
  obtain ⟨connection, henters⟩ := h.enters
  obtain ⟨rfl, _, hknown, hgeneration⟩ := henters.eq_of_settled hzero
  exact ⟨hknown, henters.up.1, hgeneration, hzero, hstate⟩

theorem Opens.settled_of_ready {now : Int} (h : Opens s link op s₁) (hready : MotionReady s₁ now) :
    s.Settled link := by
  refine h.settled hready.settled ?_
  simp [hready.active]

/-- A zero attempt settles the session only by completing the frame on its connection. -/
theorem ZeroAttempt.zero_of_settled {now : Int} {outcome : WriteOutcome} {s' : SafetySession}
    {writes : List Write} (h : ZeroAttempt s link now outcome s' link' writes)
    (hzero : s.zeroEpisodeActive = true)
    (hlinks : List.IsChain Link.Evolves (link :: writes.map (fun write => write.outcome.link)))
    (hbehind : s.connectionGeneration ≤ link.generation) (hafter : s'.Settled link') :
    ∃ write ∈ writes, write.ZeroCompletedOn s'.connectionGeneration := by
  have hidle := hafter.idle
  have hgeneration : link.generation = s'.connectionGeneration := by
    apply le_antisymm
    · exact (h.evolves hlinks).1.trans hafter.generation.le
    · exact h.generation.trans_le hbehind
  cases h with
  | waiting => simp [hzero] at hidle
  | lost => exact absurd hafter.known (by simp)
  | completed _ hdone => exact ⟨_, List.mem_singleton.mpr rfl, rfl, rfl, hdone, hgeneration⟩
  | exhausted => exact absurd rfl hafter.sound
  | failed => simp [hzero] at hidle

end SafetySession

theorem inhibits_of_allowed {frame : FeedbackFrame}
    (hallowed : (decodeFeedbackFrame frame).feedback.controlAllowed = true) :
    inhibits frame = false := by
  unfold inhibits
  cases hok : (decodeFeedbackFrame frame).ok with
  | false => rfl
  | true =>
    have := controlInhibited_of_ok hok
    rw [Bool.true_and]
    exact this.trans (by rw [← decodeFeedbackFrame, hallowed]; rfl)

theorem stops_of_admitted {command : TimedMotionCommand} {now : Int} (admitted : Prop)
    [Decidable admitted] :
    Op.stops (.submit command now)
      (.submission (if admitted then .accepted else .recoveryPending)) = false := by
  split <;> rfl

/-- Either a call leaves a zero frame completed on the connection that it ends with, or it neither
asks for one nor ends a wait for one. -/
theorem Transition.settled {s : SafetySession} {prior link : Link} {op : Op} {o : Outcome}
    (h : Transition s link op o) (hs : s.Coherent)
    (hlinks : List.IsChain Link.Evolves
      (prior :: link :: o.writes.map (fun write => write.outcome.link)))
    (hbehind : s.connectionGeneration ≤ prior.generation) (hafter : o.session.Settled o.link) :
    (∃ write ∈ o.writes, write.ZeroCompletedOn o.session.connectionGeneration) ∨
      (op.rejected s || op.stops o.response) = false ∧ s.Settled prior ∧
        s.connectionGeneration = o.session.connectionGeneration := by
  have hprior := (List.isChain_cons_cons.mp hlinks).1
  obtain ⟨hknown, hconnected, hgeneration, hidle, hsound⟩ := hafter
  have hafter : o.session.Settled o.link := ⟨hknown, hconnected, hgeneration, hidle, hsound⟩
  have hquiet : ∀ {s₁}, Opens s link op s₁ → s₁.zeroEpisodeActive = false → s₁.state ≠ .faulted →
      op.stops o.response = false → o.session.connectionGeneration = s₁.connectionGeneration →
      (op.rejected s || op.stops o.response) = false ∧ s.Settled prior ∧
        s.connectionGeneration = o.session.connectionGeneration := by
    intro s₁ hopens hzero hstate hstops hgeneration
    have hsettled := hopens.settled hzero hstate
    refine ⟨by simp [hopens.not_rejected, hstops], hsettled.earlier hprior hbehind, ?_⟩
    rw [hgeneration, hopens.generation, hsettled.generation]
  cases h with
  | unconfigured hvalid => simp [hs.unconfigured hvalid] at hknown
  | unconfiguredLatch hvalid => simp [hs.unconfigured hvalid] at hknown
  | notLatched _ hlatched =>
    refine .inr ⟨by simp [Op.rejected, Op.checksClock, Op.stops, hlatched], ?_, rfl⟩
    exact hafter.earlier hprior hbehind
  | clockRejected _ _ _ _ _ hfault => exact absurd (hfault hknown hconnected) hsound
  | clockRejectedPending => simp at hidle
  | disconnected => simp at hknown
  | declined hopens _ _ hstops =>
    exact .inr (hquiet hopens hidle hsound (Bool.eq_false_iff.mpr (mt hstops hsound)) rfl)
  | authorized hopens _ hstate hzero => exact .inr (hquiet hopens hzero hstate rfl rfl)
  | feedbackAllowed hopens hok hallowed =>
    exact .inr (hquiet hopens hidle hsound (inhibits_of_allowed hallowed) rfl)
  | inhibited => simp at hidle
  | inhibitedFaulted _ _ hfault => exact absurd hfault hsound
  | stopped => simp at hidle
  | revoked => simp at hidle
  | unpermitted hopens _ hstate => exact .inr (hquiet hopens hidle hstate rfl rfl)
  | admitted hopens hcommand _ hresponse =>
    exact .inr (hquiet hopens hcommand.settled hcommand.sound (hresponse ▸ stops_of_admitted _)
      (by simp [admitting_eq]))
  | readmitted hopens hcommand _ _ hresponse =>
    exact .inr (hquiet hopens hcommand.settled hcommand.sound (hresponse ▸ stops_of_admitted _)
      (by simp [admitting_eq]))
  | latchedDown => simp at hknown
  | latchedFaulted _ _ _ hfault => exact absurd hfault hsound
  | latchedPending => simp at hidle
  | reset hopens hzero hstate => exact .inr (hquiet hopens hzero hstate rfl rfl)
  | idle hopens hzero => exact .inr (hquiet hopens hzero hsound rfl rfl)
  | idleLatched hopens hzero hstate => exact .inr (hquiet hopens hzero hstate rfl rfl)
  | retry hopens hzero hattempt =>
    rw [List.isChain_cons_cons] at hlinks
    exact .inl (hattempt.zero_of_settled hzero hlinks.2 hopens.generation.le hafter)
  | watchdog hopens _ _ _ _ hattempt =>
    rw [List.isChain_cons_cons] at hlinks
    exact .inl (hattempt.zero_of_settled rfl hlinks.2 hopens.generation.le hafter)
  | motionSent hopens hready =>
    exact .inr (hquiet hopens hready.settled (by simp [hready.active]) rfl rfl)
  | motionLost => simp at hknown
  | motionFailed hopens _ _ _ _ _ hattempt =>
    rw [List.map_cons, List.isChain_cons_cons, List.isChain_cons_cons] at hlinks
    obtain ⟨_, hmotion, hzero⟩ := hlinks
    obtain ⟨write, hmem, hwrite⟩ := hattempt.zero_of_settled rfl hzero
      (hopens.generation.trans_le hmotion.1) hafter
    exact .inl ⟨write, List.mem_cons_of_mem _ hmem, hwrite⟩

theorem SafetySession.ZeroAttempt.kind {s s' : SafetySession} {link link' : Link} {now : Int}
    {outcome : WriteOutcome} {writes : List Write}
    (h : ZeroAttempt s link now outcome s' link' writes) :
    ∀ write ∈ writes, write.kind = .zero := by
  cases h with
  | waiting => simp
  | _ => simp [zeroWrite]

/-- A motion frame leaves only from a session that is ready for it. -/
theorem Transition.motion {s : SafetySession} {link : Link} {op : Op} {o : Outcome} {write : Write}
    (h : Transition s link op o) (hmem : write ∈ o.writes) (hkind : write.kind = .motion) :
    ∃ now motionOutcome zeroOutcome, op = .tick now motionOutcome zeroOutcome ∧
      Opens s link op (s.observed now) ∧ MotionReady (s.observed now) now ∧
      write = (s.observed now).motionWrite link now motionOutcome := by
  have hready : ∀ {s₁ now motionOutcome zeroOutcome},
      Opens s link (.tick now motionOutcome zeroOutcome) s₁ → MotionReady s₁ now →
      s₁ = s.observed now := by
    intro s₁ now motionOutcome zeroOutcome hopens hready
    obtain ⟨connection, henters⟩ := hopens.enters
    exact (henters.eq_of_settled hready.settled).1
  have hzero : ∀ {s₁ s' : SafetySession} {link link' : Link} {now : Int} {outcome : WriteOutcome}
      {writes : List Write}, ZeroAttempt s₁ link now outcome s' link' writes →
      write ∈ writes → False := by
    intro s₁ s' link link' now outcome writes hattempt hmem
    simp [hattempt.kind write hmem] at hkind
  cases h with
  | retry _ _ hattempt => exact (hzero hattempt hmem).elim
  | watchdog _ _ _ _ _ hattempt => exact (hzero hattempt hmem).elim
  | motionSent hopens hmotion =>
    obtain rfl := hready hopens hmotion
    exact ⟨_, _, _, rfl, hopens, hmotion, List.mem_singleton.mp hmem⟩
  | motionLost hopens hmotion =>
    obtain rfl := hready hopens hmotion
    exact ⟨_, _, _, rfl, hopens, hmotion, List.mem_singleton.mp hmem⟩
  | motionFailed hopens hmotion _ _ _ _ hattempt =>
    obtain rfl := hready hopens hmotion
    refine ⟨_, _, _, rfl, hopens, hmotion, ?_⟩
    rcases List.mem_cons.mp hmem with heq | hmem
    · exact heq
    · exact (hzero hattempt hmem).elim
  | _ => simp at hmem

variable {config : SafetyConfig} {h : List Event} {w : World}

/-- A session that is settled has completed a zero frame on its connection, and nothing has asked
for another one since. -/
theorem zero_since (run : (sessionMachine Link.Evolves config).Run h w)
    (hsettled : w.session.Settled w.link) :
    Trace.Since (fun e => e.halts = false)
      (fun e _ => ∃ write ∈ e.writes, write.ZeroCompletedOn w.session.connectionGeneration) h := by
  refine run.since (P := fun v => v.session.Settled v.link ∧
    v.session.connectionGeneration = w.session.connectionGeneration) ?_ ?_ ⟨hsettled, rfl⟩
  · rintro v hinit ⟨hv, _⟩
    have := (blank_of_init hinit).pending hv.known
    simp [hv.idle] at this
  · rintro h v e v' run hstep ⟨hv, hgeneration⟩
    have htransition := step_transition run hstep
    obtain ⟨hbefore, hlinks, rfl⟩ := hstep
    rw [← hgeneration]
    refine (htransition.settled (coherent_of_run run) hlinks (behind_of_run run) hv).imp_right ?_
    rintro ⟨hquiet, hprior, heq⟩
    rw [Event.halts, hbefore]
    exact ⟨hquiet, hprior, heq⟩

theorem settled_of_motion {e : Event} {w' : World} {write : Write}
    (run : (sessionMachine Link.Evolves config).Run h w)
    (hstep : (sessionMachine Link.Evolves config).step w e w') (hmem : write ∈ e.writes)
    (hkind : write.kind = .motion) :
    w.session.Settled w.link ∧ write.generation = w.session.connectionGeneration := by
  obtain ⟨now, motionOutcome, zeroOutcome, _, hopens, hready, rfl⟩ :=
    (step_transition run hstep).motion hmem hkind
  have hsettled : w.session.Settled e.link := hopens.settled_of_ready hready
  obtain ⟨_, hlinks, _⟩ := hstep
  exact ⟨hsettled.earlier (List.isChain_cons_cons.mp hlinks).1 (behind_of_run run),
    hsettled.generation⟩

/-- A call that halts the motion writes nothing itself. -/
theorem Transition.writes_of_halts {s : SafetySession} {link : Link} {op : Op} {o : Outcome}
    (h : Transition s link op o) (hhalts : (op.rejected s || op.stops o.response) = true) :
    o.writes = [] := by
  have hopen : ∀ {s₁ now motionOutcome zeroOutcome},
      Opens s link (.tick now motionOutcome zeroOutcome) s₁ →
      (Op.rejected s (.tick now motionOutcome zeroOutcome) || false) = false := by
    intro s₁ now motionOutcome zeroOutcome hopens
    rw [hopens.not_rejected, Bool.or_false]
  cases h with
  | retry hopens => exact absurd ((hopen hopens).symm.trans hhalts) (by simp)
  | watchdog hopens => exact absurd ((hopen hopens).symm.trans hhalts) (by simp)
  | motionSent hopens => exact absurd ((hopen hopens).symm.trans hhalts) (by simp)
  | motionLost hopens => exact absurd ((hopen hopens).symm.trans hhalts) (by simp)
  | motionFailed hopens => exact absurd ((hopen hopens).symm.trans hhalts) (by simp)
  | _ => rfl

/-- After a call that halts the motion, the next motion frame waits for an exact zero frame on the
connection that it leaves on. -/
theorem motion_waits_for_zero {later between earlier : List Event} {stop e : Event} {write : Write}
    (run : (sessionMachine Link.Evolves config).Run
      (later ++ e :: (between ++ stop :: earlier)) w)
    (hstop : stop.halts = true) (hmem : write ∈ e.writes) (hkind : write.kind = .motion) :
    ∃ x ∈ between, ∃ zero ∈ x.writes, zero.ZeroCompletedOn write.generation := by
  obtain ⟨v, v', run, hstep, -⟩ := run.step_of_mem
  obtain ⟨u, u', hrun, hhalt, -⟩ := run.step_of_mem
  obtain ⟨hsettled, hgeneration⟩ := settled_of_motion run hstep hmem hkind
  have hwrites : stop.writes = [] := by
    refine (step_transition hrun hhalt).writes_of_halts ?_
    rw [← hhalt.1]
    exact hstop
  obtain ⟨x, newer, older, rfl, ⟨zero, hzero, hcompleted⟩, -⟩ :=
    (zero_since run hsettled).exists_later (by simp [hstop]) (by simp [hwrites])
  exact ⟨x, by simp, zero, hzero, hgeneration ▸ hcompleted⟩

theorem motion_waits_for_zero_replayed :
    let calls := steadyCalls ++ [.requestStop 105, plainTick 106,
      .submit (forwardCommand 3 107) 107, .submit (forwardCommand 4 108) 108, plainTick 109]
    ∃ x ∈ ((steadyReplay calls).1.drop 1).take 3, ∃ zero ∈ x.writes, zero.ZeroCompletedOn 1 := by
  intro calls
  let motion := steadyEvent (calls.take 9) (plainTick 109)
  let stop := steadyEvent steadyCalls (.requestStop 105)
  have heq : (steadyReplay calls).1 = [] ++ motion ::
      (((steadyReplay calls).1.drop 1).take 3 ++ stop :: (steadyReplay steadyCalls).1) := by
    decide +kernel
  have run := steady_run calls (by decide +kernel) heq
  have hwrites : motion.writes = [motion.before.motionWrite steadyLink 109 (wholeWrite 109)] := by
    decide +kernel
  exact motion_waits_for_zero run (by decide +kernel) (hwrites ▸ List.mem_singleton_self _) rfl

end WheeltecVcuSerial
