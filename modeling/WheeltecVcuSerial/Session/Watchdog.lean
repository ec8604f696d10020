import WheeltecVcuSerial.Session.ZeroFirst

namespace WheeltecVcuSerial

open SafetySession

/-- The last frame cleanly completed on the link of that generation. -/
def lastClean (generation : Nat) : List Event → Option Write
  | [] => none
  | e :: h =>
    (e.writes.filter fun write => write.completed && write.generation = generation).getLast?.or
      (lastClean generation h)

/-- The last frame cleanly completed on that link is not the exact zero frame. -/
def MotionLast (generation : Nat) (h : List Event) : Prop :=
  ∃ write ∈ lastClean generation h, write.buffer ≠ makeZeroCommandFrame.toList

theorem MotionLast.cons_cases {generation : Nat} {e : Event} {h : List Event}
    (hmotion : MotionLast generation (e :: h)) :
    (∃ write ∈ e.writes, write.completed = true ∧ write.generation = generation ∧
        write.buffer ≠ makeZeroCommandFrame.toList) ∨
      (∀ write ∈ e.writes, write.completed = true → write.generation ≠ generation) ∧
        MotionLast generation h := by
  obtain ⟨write, hlast, hbuffer⟩ := hmotion
  simp only [lastClean] at hlast
  cases hclean : (e.writes.filter fun write =>
      write.completed && write.generation = generation).getLast? with
  | none =>
    rw [hclean, Option.none_or] at hlast
    rw [List.getLast?_eq_none_iff, List.filter_eq_nil_iff] at hclean
    refine .inr ⟨fun x hx hcompleted => ?_, write, hlast, hbuffer⟩
    simpa [hcompleted] using hclean x hx
  | some last =>
    rw [hclean, Option.some_or, Option.mem_some_iff] at hlast
    subst hlast
    have hmem := List.mem_of_getLast? hclean
    simp only [List.mem_filter, Bool.and_eq_true, decide_eq_true_eq] at hmem
    exact .inl ⟨last, hmem.1, hmem.2.1, hmem.2.2, hbuffer⟩

theorem MotionLast.exists_write {generation : Nat} {h : List Event}
    (hmotion : MotionLast generation h) :
    ∃ e ∈ h, ∃ write ∈ e.writes, write.generation = generation := by
  induction h with
  | nil =>
    obtain ⟨_, hlast, _⟩ := hmotion
    simp [lastClean] at hlast
  | cons e h ih =>
    rcases hmotion.cons_cases with ⟨write, hmem, _, hgeneration, _⟩ | ⟨_, hmotion⟩
    · exact ⟨e, by simp, write, hmem, hgeneration⟩
    · obtain ⟨x, hx, hwrite⟩ := ih hmotion
      exact ⟨x, by simp [hx], hwrite⟩

theorem SafetySession.ZeroAttempt.writes_zero {s s' : SafetySession} {link link' : Link} {now : Int}
    {outcome : WriteOutcome} {writes : List Write}
    (h : ZeroAttempt s link now outcome s' link' writes) :
    ∀ write ∈ writes, write.buffer = makeZeroCommandFrame.toList ∧
      write.generation = link.generation := by
  cases h with
  | waiting => simp
  | _ => simp [zeroWrite]

/-- The link of a write is none of before the call, and none of after it. -/
theorem Transition.write_generation {s : SafetySession} {link : Link} {op : Op} {o : Outcome}
    (h : Transition s link op o)
    (hlinks : List.IsChain Link.Evolves (link :: o.writes.map (fun write => write.outcome.link))) :
    ∀ write ∈ o.writes, 0 < write.generation ∧ write.generation ≤ o.link.generation := by
  have hpos : ∀ {s₁}, Opens s link op s₁ → 0 < link.generation := by
    intro s₁ hopens
    obtain ⟨connection, henters⟩ := hopens.enters
    exact Nat.pos_of_ne_zero henters.up.2
  have hevolves := (h.evolves hlinks).1
  cases h with
  | retry hopens _ hattempt =>
    intro write hmem
    rw [(hattempt.writes_zero write hmem).2]
    exact ⟨hpos hopens, hevolves⟩
  | watchdog hopens _ _ _ _ hattempt =>
    intro write hmem
    rw [(hattempt.writes_zero write hmem).2]
    exact ⟨hpos hopens, hevolves⟩
  | motionSent hopens => simpa [motionWrite] using ⟨hpos hopens, hevolves⟩
  | motionLost hopens => simpa [motionWrite] using ⟨hpos hopens, hevolves⟩
  | motionFailed hopens _ _ _ _ _ hattempt =>
    rw [List.map_cons, List.isChain_cons_cons] at hlinks
    have hlater := (hattempt.evolves hlinks.2).1
    intro write hmem
    rcases List.mem_cons.mp hmem with rfl | hmem
    · exact ⟨hpos hopens, hevolves⟩
    · rw [(hattempt.writes_zero write hmem).2]
      exact ⟨(hpos hopens).trans_le hlinks.1.1, hlater⟩
  | _ => simp

/-- A frame other than zero is completed only by a motion write of a session that stays as it is. -/
theorem Transition.motion_completed {s : SafetySession} {link : Link} {op : Op} {o : Outcome}
    {write : Write} (h : Transition s link op o) (hmem : write ∈ o.writes)
    (hcompleted : write.completed = true) (hbuffer : write.buffer ≠ makeZeroCommandFrame.toList) :
    ∃ s₁ now motionOutcome zeroOutcome completion, op = .tick now motionOutcome zeroOutcome ∧
      MotionReady s₁ now ∧ o.session = s₁.noteMotionComplete completion := by
  cases h with
  | retry _ _ hattempt => exact absurd (hattempt.writes_zero write hmem).1 hbuffer
  | watchdog _ _ _ _ _ hattempt => exact absurd (hattempt.writes_zero write hmem).1 hbuffer
  | motionSent _ hready => exact ⟨_, _, _, _, _, rfl, hready, rfl⟩
  | motionLost _ _ hfailed =>
    rw [List.mem_singleton] at hmem
    subst hmem
    exact absurd hcompleted (by simpa [Write.completed, motionWrite] using hfailed)
  | motionFailed _ _ hfailed _ _ _ hattempt =>
    rcases List.mem_cons.mp hmem with rfl | hmem
    · exact absurd hcompleted (by simpa [Write.completed, motionWrite] using hfailed)
    · exact absurd (hattempt.writes_zero write hmem).1 hbuffer
  | _ => simp at hmem

/-- A session in motion: the call finds it active, on a connection that it knows, and the last frame
there is not zero. -/
structure Event.Exposed (earlier : List Event) (e : Event) : Prop where
  settled : e.before.Settled e.link
  active : e.before.state = .active
  accepted : e.before.AcceptsTime e.op.now
  motion : MotionLast e.link.generation earlier

/-- The calls that do not take a session in motion out of the watchdog's sight: none renews the
permission, none starts a fresh run over, and none is told of a disconnection that is none. -/
structure Event.Guarded (earlier : List Event) (e : Event) : Prop where
  renewal : ∀ token now, e.op = .authorize token now → e.Exposed earlier →
    ¬ (e.before.highestAuthorizationToken < token ∧ e.before.feedbackIsFresh now = true)
  restart : ∀ command now, e.op = .submit command now → e.Exposed earlier →
    Admissible (e.before.observed now) command now → e.before.previousIsStale now = true →
    ¬ 1 < e.before.config.freshCommandsRequired
  answers : ∀ write ∈ e.writes, MotionLast write.generation earlier →
    (write.outcome.ioResult write.startNs).status = .disconnected →
    write.outcome.link.connected = false ∨ write.outcome.link.generation ≠ write.generation

/-- What the watchdog owes: a `tick` that returns with neither fault nor zero pending, over a
connection whose last frame is not zero, leaves permission, feedback and command in force. -/
def Event.Watched (earlier : List Event) (e : Event) : Prop :=
  ∀ now motionOutcome zeroOutcome, e.op = .tick now motionOutcome zeroOutcome →
    e.before.configurationValid = true → e.before.AcceptsTime now →
    e.linkAfter.connected = true → e.after.state ≠ .faulted → e.after.zeroEpisodeActive = false →
    MotionLast e.linkAfter.generation (e :: earlier) →
    e.after.authorized = true ∧ e.after.feedbackIsFresh now = true ∧
      e.after.commandIsFresh now = true

/-- A call that keeps a session in motion settled without completing a frame on its connection
leaves it active, unless it renews the permission or starts the fresh run over. -/
theorem Transition.stays_active {s : SafetySession} {link : Link} {op : Op} {o : Outcome}
    (h : Transition s link op o) (hs : s.Coherent)
    (hlinks : List.IsChain Link.Evolves (link :: o.writes.map (fun write => write.outcome.link)))
    (hsettled : s.Settled link) (hactive : s.state = .active)
    (hpermitted : s.authorizationActive = true) (hafter : o.session.Settled o.link)
    (hnone : ∀ write ∈ o.writes, ¬ write.ZeroCompletedOn o.session.connectionGeneration)
    (hrenewal : ∀ token now, op = .authorize token now → s.AcceptsTime now →
      ¬ (s.highestAuthorizationToken < token ∧ s.feedbackIsFresh now = true))
    (hrestart : ∀ command now, op = .submit command now → s.AcceptsTime now →
      Admissible (s.observed now) command now → s.previousIsStale now = true →
      ¬ 1 < s.config.freshCommandsRequired) :
    o.session.state = .active ∧ o.session.authorizationActive = true := by
  have hopened : ∀ {s₁}, Opens s link op s₁ → s₁ = s.observed op.now :=
    fun hopens => hopens.eq_observed hsettled.known hsettled.generation
  have hidle := hafter.idle
  have hknown := hafter.known
  have hsound := hafter.sound
  have hlatch := (hs.permission hpermitted).2.1
  cases h with
  | unconfigured => exact ⟨hactive, hpermitted⟩
  | unconfiguredLatch hvalid =>
    have := hs.unconfigured hvalid
    simp [hsettled.known] at this
  | notLatched => exact ⟨hactive, hpermitted⟩
  | clockRejected _ _ _ _ _ hfault => exact absurd (hfault hknown hafter.connected) hsound
  | clockRejectedPending => simp at hidle
  | disconnected => simp at hknown
  | declined hopens => exact hopened hopens ▸ ⟨hactive, hpermitted⟩
  | authorized hopens _ _ _ htoken hfeedback =>
    rw [hopened hopens] at htoken hfeedback
    exact absurd ⟨htoken, hfeedback⟩ (hrenewal _ _ rfl hopens.accepted)
  | feedbackAllowed hopens => exact hopened hopens ▸ ⟨hactive, hpermitted⟩
  | inhibited => simp at hidle
  | inhibitedFaulted _ _ hfault => exact absurd hfault hsound
  | stopped => simp at hidle
  | revoked => simp at hidle
  | unpermitted hopens => exact hopened hopens ▸ ⟨hactive, hpermitted⟩
  | admitted hopens =>
    rw [hopened hopens]
    simp [admitting_eq, nextCount, (hs.intent hactive hpermitted).2, hpermitted]
  | readmitted hopens hcommand _ hprevious =>
    rw [hopened hopens] at hcommand hprevious ⊢
    have hrequired := hrestart _ _ rfl hopens.accepted hcommand hprevious
    rw [clearMotionIntent_admitting_eq, enterState_state, if_pos]
    · exact ⟨rfl, hpermitted⟩
    · simp only [nextCount, clearMotionIntent_consecutiveFreshCommands, clearMotionIntent_config,
        observed_config]
      split <;> omega
  | latchedDown => simp at hknown
  | latchedFaulted _ _ _ hfault => exact absurd hfault hsound
  | latchedPending => simp at hidle
  | reset hopens =>
    have hchecked := hopens.checked
    simp [Op.checksClock, hlatch] at hchecked
  | idle hopens => exact hopened hopens ▸ ⟨hactive, hpermitted⟩
  | idleLatched hopens _ _ hlatched =>
    rw [hopened hopens] at hlatched
    simp [hlatch] at hlatched
  | retry hopens hzero hattempt =>
    obtain ⟨write, hmem, hwrite⟩ :=
      hattempt.zero_of_settled hzero hlinks hopens.generation.le hafter
    exact absurd hwrite (hnone write hmem)
  | watchdog hopens _ _ _ _ hattempt =>
    obtain ⟨write, hmem, hwrite⟩ :=
      hattempt.zero_of_settled rfl hlinks hopens.generation.le hafter
    exact absurd hwrite (hnone write hmem)
  | motionSent hopens => exact hopened hopens ▸ ⟨hactive, hpermitted⟩
  | motionLost => simp at hknown
  | motionFailed hopens _ _ _ _ _ hattempt =>
    rw [List.map_cons, List.isChain_cons_cons] at hlinks
    obtain ⟨write, hmem, hwrite⟩ := hattempt.zero_of_settled rfl hlinks.2
      (hopens.generation.trans_le hlinks.1.1) hafter
    exact absurd hwrite (hnone write (List.mem_cons_of_mem _ hmem))

/-- A zero attempt that completes no frame, and is not told of a false disconnection, leaves the
episode pending or the session faulted. -/
theorem SafetySession.ZeroAttempt.busy {s s' : SafetySession} {link link' : Link} {now : Int}
    {outcome : WriteOutcome} {writes : List Write}
    (h : ZeroAttempt s link now outcome s' link' writes) (hzero : s.zeroEpisodeActive = true)
    (hup : link'.connected = true) (hgeneration : link'.generation = link.generation)
    (hnone : ∀ write ∈ writes, write.completed = true → write.generation ≠ link'.generation)
    (hanswers : ∀ write ∈ writes, (write.outcome.ioResult write.startNs).status = .disconnected →
      write.generation = link'.generation →
      write.outcome.link.connected = false ∨ write.outcome.link.generation ≠ write.generation) :
    s'.zeroEpisodeActive = true ∨ s'.state = .faulted := by
  cases h with
  | waiting => exact .inl hzero
  | lost _ hlost =>
    have hkept : outcome.link.connected ≠ false := by simp [hup]
    rcases hanswers _ (List.mem_singleton_self _) (hlost.resolve_right hkept) hgeneration.symm with
      hdown | hnew
    · exact absurd hdown hkept
    · exact absurd hgeneration hnew
  | completed _ hdone =>
    exact absurd hgeneration.symm (hnone _ (List.mem_singleton_self _) hdone)
  | exhausted => exact .inr rfl
  | failed => exact .inl hzero

theorem Transition.watches {s : SafetySession} {link : Link} {now : Int}
    {motionOutcome zeroOutcome : WriteOutcome} {o : Outcome}
    (h : Transition s link (.tick now motionOutcome zeroOutcome) o) (hs : s.Coherent)
    (hlinks : List.IsChain Link.Evolves (link :: o.writes.map (fun write => write.outcome.link)))
    (hvalid : s.configurationValid = true) (hclock : s.AcceptsTime now) (hlink : link.Up)
    (hup : o.link.connected = true) (hgeneration : o.link.generation = link.generation)
    (hsound : o.session.state ≠ .faulted) (hidle : o.session.zeroEpisodeActive = false)
    (hnone : ∀ write ∈ o.writes, write.completed = true → write.generation ≠ o.link.generation)
    (hanswers : ∀ write ∈ o.writes, (write.outcome.ioResult write.startNs).status = .disconnected →
      write.generation = o.link.generation →
      write.outcome.link.connected = false ∨ write.outcome.link.generation ≠ write.generation)
    (hactive : s.Settled link → s.state = .active ∧ s.authorizationActive = true) :
    o.session.authorized = true ∧ o.session.feedbackIsFresh now = true ∧
      o.session.commandIsFresh now = true := by
  have hquiet : ¬ (o.session.zeroEpisodeActive = true ∨ o.session.state = .faulted) := by
    simp [hidle, hsound]
  have hkept : o.link.connected ≠ false := by simp [hup]
  cases h with
  | unconfigured hinvalid => simp [hvalid] at hinvalid
  | clockRejected _ _ _ hrejected => exact absurd hclock hrejected
  | clockRejectedPending _ _ _ hrejected => exact absurd hclock hrejected
  | disconnected _ _ _ _ hdown => exact absurd hlink hdown
  | declined _ _ _ _ _ hop => exact absurd rfl (hop now motionOutcome zeroOutcome)
  | stopped _ _ _ _ _ _ hconsumes => nomatch hconsumes
  | revoked _ _ _ _ _ _ hconsumes => nomatch hconsumes
  | idle hopens hzero _ hfresh =>
    have hsettled := hopens.settled hzero hsound
    have hopened := hopens.eq_observed hsettled.known hsettled.generation
    refine hfresh ?_
    rw [hopened]
    exact (hactive hsettled).1
  | idleLatched hopens hzero hstate hlatched =>
    have hsettled := hopens.settled hzero hstate
    rw [hopens.eq_observed hsettled.known hsettled.generation] at hlatched
    have hunlatched := (hs.permission (hactive hsettled).2).2.1
    simp [hunlatched] at hlatched
  | retry hopens hzero hattempt =>
    exact absurd (hattempt.busy hzero hup hgeneration hnone hanswers) hquiet
  | watchdog hopens _ _ _ _ hattempt =>
    exact absurd (hattempt.busy rfl hup hgeneration hnone hanswers) hquiet
  | motionSent hopens _ hdone =>
    exact absurd hgeneration.symm (hnone _ (List.mem_singleton_self _) hdone)
  | motionLost hopens _ _ hlost =>
    rcases hanswers _ (List.mem_singleton_self _) (hlost.resolve_right hkept) hgeneration.symm with
      hdown | hnew
    · exact absurd hdown hkept
    · exact absurd hgeneration hnew
  | motionFailed hopens _ _ _ _ _ hattempt =>
    rw [List.map_cons, List.isChain_cons_cons] at hlinks
    have hlater := (hattempt.evolves hlinks.2).1
    rw [List.forall_mem_cons] at hnone hanswers
    have hsame := le_antisymm (hgeneration.trans_le hlinks.1.1) hlater
    exact absurd (hattempt.busy rfl hup hsame hnone.2 hanswers.2) hquiet

variable {config : SafetyConfig} {h : List Event} {w : World}

theorem write_generation_of_run (run : (sessionMachine Link.Evolves config).Run h w) :
    ∀ e ∈ h, ∀ write ∈ e.writes, 0 < write.generation ∧ write.generation ≤ w.link.generation := by
  refine run.invariant (P := fun h w => ∀ e ∈ h, ∀ write ∈ e.writes,
    0 < write.generation ∧ write.generation ≤ w.link.generation) ?_ ?_
  · simp
  · intro h w e w' run hw hstep
    have htransition := step_transition run hstep
    obtain ⟨_, hlinks, rfl⟩ := hstep
    rw [Event.links, List.isChain_cons_cons] at hlinks
    have hlater : w.link.generation ≤ e.linkAfter.generation :=
      hlinks.1.1.trans (htransition.evolves hlinks.2).1
    rw [List.forall_mem_cons]
    refine ⟨htransition.write_generation hlinks.2, fun x hx write hmem => ?_⟩
    exact (hw x hx write hmem).imp_right fun hle => hle.trans hlater

theorem MotionLast.generation {generation : Nat} (hmotion : MotionLast generation h)
    (run : (sessionMachine Link.Evolves config).Run h w) :
    0 < generation ∧ generation ≤ w.link.generation := by
  obtain ⟨e, he, write, hmem, rfl⟩ := hmotion.exists_write
  exact write_generation_of_run run e he write hmem

/-- A session in motion is in the one state in which `tick` watches over it. -/
def Vigilant (h : List Event) (w : World) : Prop :=
  w.session.Settled w.link → MotionLast w.link.generation h →
    w.session.state = .active ∧ w.session.authorizationActive = true

/-- A call that writes no frame of its connection finds it as the call before has left it. -/
theorem MotionLast.same_link {e : Event} {w' : World}
    (run : (sessionMachine Link.Evolves config).Run h w)
    (hstep : (sessionMachine Link.Evolves config).step w e w') (hup : e.linkAfter.connected = true)
    (hmotion : MotionLast e.linkAfter.generation h) :
    e.link.Up ∧ w.link.generation = e.link.generation ∧
      e.linkAfter.generation = e.link.generation := by
  have htransition := step_transition run hstep
  obtain ⟨_, hlinks, _⟩ := hstep
  rw [Event.links, List.isChain_cons_cons] at hlinks
  have hlater := htransition.evolves hlinks.2
  obtain ⟨hpos, hle⟩ := hmotion.generation run
  obtain ⟨hconnected, heq⟩ := hlater.same hup (hle.trans hlinks.1.1)
  refine ⟨⟨hconnected, heq ▸ hpos.ne'⟩, le_antisymm hlinks.1.1 ?_, heq.symm⟩
  exact hlater.1.trans hle

theorem Vigilant.step {e : Event} {w' : World} (hw : Vigilant h w)
    (run : (sessionMachine Link.Evolves config).Run h w)
    (hstep : (sessionMachine Link.Evolves config).step w e w') (hguarded : e.Guarded h) :
    Vigilant (e :: h) w' := by
  have hs := coherent_of_run run
  have htransition := step_transition run hstep
  have hsame := fun hup hmotion => MotionLast.same_link run hstep hup hmotion
  obtain ⟨hbefore, hlinks, rfl⟩ := hstep
  intro hafter hmotion
  rcases hmotion.cons_cases with ⟨write, hmem, hcompleted, _, hbuffer⟩ | ⟨hnone, hmotion⟩
  · obtain ⟨s₁, _, _, _, completion, _, hready, hsession⟩ :=
      htransition.motion_completed hmem hcompleted hbuffer
    have hpermitted := authorized_iff.mp hready.permitted
    have hsession : e.after = s₁.noteMotionComplete completion := hsession
    exact hsession ▸ ⟨hready.active, hpermitted.active⟩
  · obtain ⟨hlink, hearlier, hlater⟩ := hsame hafter.connected hmotion
    have hzero : ∀ write ∈ e.writes, ¬ write.ZeroCompletedOn e.after.connectionGeneration := by
      rintro write hmem ⟨_, _, hcompleted, hgeneration⟩
      exact hnone write hmem hcompleted (hgeneration.trans hafter.generation.symm)
    rcases htransition.settled hs hlinks (behind_of_run run) hafter with
      ⟨write, hmem, hwrite⟩ | ⟨_, hsettled, _⟩
    · exact absurd hwrite (hzero write hmem)
    rw [hlater] at hmotion
    obtain ⟨hactive, hpermitted⟩ := hw hsettled (hearlier ▸ hmotion)
    have hsettled : w.session.Settled e.link :=
      ⟨hsettled.known, hlink.1, hearlier.symm.trans hsettled.generation, hsettled.idle,
        hsettled.sound⟩
    have hexposed : w.session.AcceptsTime e.op.now → e.Exposed h := by
      intro hclock
      rw [← hbefore] at hsettled hactive hclock
      exact ⟨hsettled, hactive, hclock, hmotion⟩
    refine htransition.stays_active hs (List.isChain_cons_cons.mp hlinks).2 hsettled hactive
      hpermitted hafter hzero ?_ ?_
    · intro token now hop hclock
      have := hguarded.renewal token now hop (hexposed (hop ▸ hclock))
      rwa [hbefore] at this
    · intro command now hop hclock
      have := hguarded.restart command now hop (hexposed (hop ▸ hclock))
      rwa [hbefore] at this

theorem Vigilant.watched {e : Event} {w' : World} (hw : Vigilant h w)
    (run : (sessionMachine Link.Evolves config).Run h w)
    (hstep : (sessionMachine Link.Evolves config).step w e w') (hguarded : e.Guarded h) :
    e.Watched h := by
  have hs := coherent_of_run run
  have htransition := step_transition run hstep
  have hsame := fun hup hmotion => MotionLast.same_link run hstep hup hmotion
  obtain ⟨hbefore, hlinks, rfl⟩ := hstep
  intro now motionOutcome zeroOutcome hop hvalid hclock hup hsound hidle hmotion
  rcases hmotion.cons_cases with ⟨write, hmem, hcompleted, _, hbuffer⟩ | ⟨hnone, hmotion⟩
  · obtain ⟨s₁, time, _, _, completion, htick, hready, hsession⟩ :=
      htransition.motion_completed hmem hcompleted hbuffer
    rw [hop] at htick
    cases htick
    have hsession : e.after = s₁.noteMotionComplete completion := hsession
    exact hsession ▸ ⟨hready.permitted, hready.feedback, hready.command⟩
  · obtain ⟨hlink, hearlier, hlater⟩ := hsame hup hmotion
    rw [hop] at htransition
    rw [hbefore] at hvalid hclock
    refine htransition.watches hs (List.isChain_cons_cons.mp hlinks).2 hvalid hclock hlink hup
      hlater hsound hidle hnone ?_ ?_
    · intro write hmem hstatus hgeneration
      exact hguarded.answers write hmem (hgeneration ▸ hmotion) hstatus
    · intro hsettled
      have hprior := hsettled.earlier (List.isChain_cons_cons.mp hlinks).1 (behind_of_run run)
      exact hw hprior (by rwa [hearlier, ← hlater])

/-- The watchdog is complete in every run whose calls are all guarded. -/
theorem watchdog_complete (run : (sessionMachine Link.Evolves config).Run h w)
    (hguarded : Trace.Historically (fun e earlier => e.Guarded earlier) h) :
    Trace.Historically (fun e earlier => e.Watched earlier) h := by
  refine (run.historically_while (P := Vigilant) ?_ ?_ hguarded).2
  · intro w _ _ hmotion
    obtain ⟨_, he, _⟩ := hmotion.exists_write
    simp at he
  · intro h w e w' run hw hstep hguarded
    exact ⟨hw.step run hstep hguarded, hw.watched run hstep hguarded⟩

theorem watchdog_complete_replayed :
    Trace.Historically (fun e earlier => e.Watched earlier)
      (steadyReplay (movingCalls ++ [plainTick 145])).1 := by
  have run := steady_run (movingCalls ++ [plainTick 145]) (by decide +kernel) rfl
  have hplain : ∀ e ∈ (steadyReplay (movingCalls ++ [plainTick 145])).1,
      (e.before.state = .active → e.op = plainTick e.op.now) ∧
        ∀ write ∈ e.writes, (write.outcome.ioResult write.startNs).status ≠ .disconnected := by
    decide +kernel
  refine watchdog_complete run (Trace.historically_iff.mpr ?_)
  intro later e earlier heq
  obtain ⟨hop, hanswers⟩ := hplain e (by rw [heq]; simp)
  constructor
  · intro token now hauthorize hexposed
    simp [hauthorize, plainTick] at hop
    exact absurd hexposed.active hop
  · intro command now hsubmit hexposed
    simp [hsubmit, plainTick] at hop
    exact absurd hexposed.active hop
  · intro write hmem _ hstatus
    exact absurd hstatus (hanswers write hmem)

/-- A renewed authorization takes the motion on the wire out of the watchdog's sight. -/
theorem renewal_blinds_watchdog :
    ¬ ∀ (config : SafetyConfig) (h : List Event) (w : World), safetyConfigIsValid config = true →
      (sessionMachine Link.Evolves config).Run h w →
      Trace.Historically (fun e earlier => e.Watched earlier) h := by
  intro hclaim
  let calls := movingCalls ++ [.authorize 2 106]
  have heq : (steadyReplay (calls ++ [plainTick 200])).1 =
      steadyEvent calls (plainTick 200) :: (steadyReplay calls).1 := by
    decide +kernel
  have run := steady_run (calls ++ [plainTick 200]) (by decide +kernel) heq
  have hlink : (steadyEvent calls (plainTick 200)).linkAfter.generation = 1 := by decide +kernel
  have hmotion : MotionLast 1 (steadyEvent calls (plainTick 200) :: (steadyReplay calls).1) :=
    ⟨(steadyReplay steadyCalls).2.session.motionWrite steadyLink 105 (wholeWrite 105),
      by decide +kernel, by decide +kernel⟩
  have hwatched :=
    (hclaim _ _ _ (by decide +kernel) run).1 200 (wholeWrite 200) (wholeWrite 200) rfl
    (by decide +kernel) (by decide +kernel) (by decide +kernel) (by decide +kernel)
    (by decide +kernel) (hlink ▸ hmotion)
  exact absurd hwatched.2.2 (by decide +kernel)

end WheeltecVcuSerial
