import WheeltecVcuSerial.Session.Coherence

namespace WheeltecVcuSerial

open SafetySession

/-- The test that the session applies to the answer of a write. -/
def Write.completed (write : Write) : Bool :=
  (write.outcome.ioResult write.startNs).completes commandFrameSize

/-- An exact zero frame, cleanly completed on the link of that generation. -/
def Write.ZeroCompletedOn (generation : Nat) (write : Write) : Prop :=
  write.kind = .zero ∧ write.buffer = makeZeroCommandFrame.toList ∧ write.completed = true ∧
    write.generation = generation

/-- The clock check of a call fails. -/
def Op.rejected (s : SafetySession) (op : Op) : Bool :=
  op.checksClock s && (s.observeMonotonicTime op.now).isNone

theorem Op.rejected_iff {s : SafetySession} {op : Op} :
    op.rejected s = true ↔ op.checksClock s = true ∧ ¬ s.AcceptsTime op.now := by
  unfold rejected
  by_cases hclock : s.AcceptsTime op.now
  · simp [observeMonotonicTime_of_accepts hclock, hclock]
  · simp [observeMonotonicTime_of_rejects hclock, hclock]

theorem SafetySession.Opens.not_rejected {s s₁ : SafetySession} {link : Link} {op : Op}
    (h : Opens s link op s₁) : op.rejected s = false := by
  rw [Bool.eq_false_iff, ne_eq, Op.rejected_iff]
  exact fun hrejected => hrejected.2 h.accepted

/-- The calls after which no motion may leave before a zero frame has. -/
def Event.halts (e : Event) : Bool := e.op.rejected e.before || e.op.stops e.response

/-- What a session has before its first call. -/
structure SafetySession.Blank (s : SafetySession) (config : SafetyConfig) (link : Link) : Prop where
  config : s.config = config
  revoked : s.authorizationActive = false
  silent : s.latestCommandValid = false
  unfed : s.feedbackAllowedSeen = false
  unlatched : s.emergencyStopLatched = false
  clock : s.lastObservedMonotonicNs = 0
  sound : s.state ≠ .faulted
  pending : s.connectionKnown = true → s.zeroEpisodeActive = true
  generation : s.connectionGeneration = 0 ∨ s.connectionGeneration = link.generation
  attempts : s.zeroAttempts = 0

theorem blank_of_init {admits : Link → Link → Prop} {config : SafetyConfig} {w : World}
    (hinit : (sessionMachine admits config).init w) : w.session.Blank config w.link := by
  have hinitial : ∀ transport, (initial config transport).Blank config w.link :=
    fun transport =>
      ⟨rfl, rfl, rfl, rfl, rfl, rfl, by simp [initial], by simp [initial], .inl rfl, rfl⟩
  rcases hinit with hinit | hinit
  · rw [hinit]
    rcases construct_cases config w.link with heq | ⟨_, heq | ⟨_, heq⟩⟩
    · rw [heq]
      exact hinitial true
    · rw [heq]
      exact ⟨rfl, rfl, rfl, rfl, rfl, rfl, by simp, by simp, .inl rfl, rfl⟩
    · rw [heq]
      exact ⟨rfl, rfl, rfl, rfl, rfl, rfl, by simp, by simp, .inr rfl, rfl⟩
  · rw [hinit]
    exact hinitial false

/-- One call, with the transition that it makes. -/
theorem step_transition {admits : Link → Link → Prop} {config : SafetyConfig} {h : List Event}
    {w w' : World} {e : Event} (run : (sessionMachine admits config).Run h w)
    (hstep : (sessionMachine admits config).step w e w') :
    Transition w.session e.link e.op e.outcome := by
  have hbefore : e.before = w.session := hstep.1
  rw [← hbefore]
  exact perform_transition (hbefore ▸ (coherent_of_run run).wired) e.link e.op

/-- Every call of a run meets a session that a run leads to. -/
theorem before_of_mem {admits : Link → Link → Prop} {config : SafetyConfig} {h : List Event}
    {w : World} {e : Event} (run : (sessionMachine admits config).Run h w) (he : e ∈ h) :
    ∃ earlier v, (sessionMachine admits config).Run earlier v ∧ e.before = v.session := by
  obtain ⟨later, earlier, rfl⟩ := List.append_of_mem he
  obtain ⟨v, v', run, hstep, -⟩ := run.step_of_mem
  exact ⟨earlier, v, run, hstep.1⟩

theorem coherent_of_mem {admits : Link → Link → Prop} {config : SafetyConfig} {h : List Event}
    {w : World} {e : Event} (run : (sessionMachine admits config).Run h w) (he : e ∈ h) :
    e.before.Coherent := by
  obtain ⟨earlier, v, run, hbefore⟩ := before_of_mem run he
  exact hbefore ▸ coherent_of_run run

theorem transition_of_mem {admits : Link → Link → Prop} {config : SafetyConfig} {h : List Event}
    {w : World} {e : Event} (run : (sessionMachine admits config).Run h w) (he : e ∈ h) :
    Transition e.before e.link e.op e.outcome :=
  perform_transition (coherent_of_mem run he).wired e.link e.op

namespace Link

variable {earlier link later : Link}

theorem Evolves.refl (link : Link) : Evolves link link := by
  refine ⟨le_rfl, fun hdown hup => ?_⟩
  simp [hdown] at hup

theorem Evolves.trans (first : Evolves earlier link) (second : Evolves link later) :
    Evolves earlier later := by
  refine ⟨first.1.trans second.1, fun hdown hup => ?_⟩
  cases hlink : link.connected with
  | false => exact first.1.trans_lt (second.2 hlink hup)
  | true => exact (first.2 hdown hlink).trans_le second.1

/-- A connected link of a generation that is no news was connected all along. -/
theorem Evolves.same (h : Evolves earlier later) (hup : later.connected = true)
    (hgeneration : later.generation ≤ earlier.generation) :
    earlier.connected = true ∧ earlier.generation = later.generation := by
  refine ⟨?_, le_antisymm h.1 hgeneration⟩
  by_contra hdown
  have := h.2 (by simpa using hdown) hup
  omega

end Link

theorem SafetySession.ZeroAttempt.evolves {s s' : SafetySession} {link link' : Link} {now : Int}
    {outcome : WriteOutcome} {writes : List Write}
    (h : ZeroAttempt s link now outcome s' link' writes)
    (hlinks : List.IsChain Link.Evolves (link :: writes.map (fun write => write.outcome.link))) :
    link.Evolves link' := by
  cases h with
  | waiting => exact .refl link
  | lost => exact (List.isChain_cons_cons.mp hlinks).1
  | completed => exact (List.isChain_cons_cons.mp hlinks).1
  | exhausted => exact (List.isChain_cons_cons.mp hlinks).1
  | failed => exact (List.isChain_cons_cons.mp hlinks).1

/-- The links of a call evolve up to the one that the call leaves behind. -/
theorem Transition.evolves {s : SafetySession} {link : Link} {op : Op} {o : Outcome}
    (h : Transition s link op o)
    (hlinks : List.IsChain Link.Evolves (link :: o.writes.map (fun write => write.outcome.link))) :
    link.Evolves o.link := by
  cases h with
  | retry _ _ hattempt => exact hattempt.evolves hlinks
  | watchdog _ _ _ _ _ hattempt => exact hattempt.evolves hlinks
  | motionSent => exact (List.isChain_cons_cons.mp hlinks).1
  | motionLost => exact (List.isChain_cons_cons.mp hlinks).1
  | motionFailed _ _ _ _ _ _ hattempt =>
    rw [List.map_cons, List.isChain_cons_cons] at hlinks
    exact hlinks.1.trans (hattempt.evolves hlinks.2)
  | _ => exact .refl link

theorem SafetySession.Opens.generation {s s₁ : SafetySession} {link : Link} {op : Op}
    (h : Opens s link op s₁) : s₁.connectionGeneration = link.generation := by
  obtain ⟨connection, henters⟩ := h.enters
  exact henters.generation

theorem SafetySession.ZeroAttempt.generation {s s' : SafetySession} {link link' : Link} {now : Int}
    {outcome : WriteOutcome} {writes : List Write}
    (h : ZeroAttempt s link now outcome s' link' writes) :
    s'.connectionGeneration = s.connectionGeneration := by
  cases h <;> simp

theorem Transition.generation {s : SafetySession} {link : Link} {op : Op} {o : Outcome}
    (h : Transition s link op o) :
    o.session.connectionGeneration = s.connectionGeneration ∨
      o.session.connectionGeneration = link.generation := by
  cases h with
  | unconfigured => exact .inl rfl
  | unconfiguredLatch => exact .inl (by simp)
  | notLatched => exact .inl rfl
  | clockRejected => exact .inl rfl
  | clockRejectedPending => exact .inl (by simp)
  | disconnected => exact .inl (by simp)
  | declined hopens => exact .inr hopens.generation
  | authorized hopens => exact .inr hopens.generation
  | feedbackAllowed hopens => exact .inr hopens.generation
  | inhibited hopens => exact .inr hopens.generation
  | inhibitedFaulted hopens => exact .inr hopens.generation
  | stopped hopens => exact .inr hopens.generation
  | revoked hopens => exact .inr hopens.generation
  | unpermitted hopens => exact .inr hopens.generation
  | admitted hopens =>
    exact .inr (by simp [admitting_eq, hopens.generation])
  | readmitted hopens =>
    exact .inr (by simp [admitting_eq, hopens.generation])
  | latchedDown => exact .inl (by simp)
  | latchedFaulted _ _ henters => exact .inr henters.generation
  | latchedPending _ _ henters => exact .inr henters.generation
  | reset hopens => exact .inr hopens.generation
  | idle hopens => exact .inr hopens.generation
  | idleLatched hopens => exact .inr hopens.generation
  | retry hopens _ hattempt => exact .inr (hattempt.generation.trans hopens.generation)
  | watchdog hopens _ _ _ _ hattempt => exact .inr (hattempt.generation.trans hopens.generation)
  | motionSent hopens => exact .inr (by simp [hopens.generation])
  | motionLost hopens => exact .inr (by simp [hopens.generation])
  | motionFailed hopens _ _ _ _ _ hattempt =>
    exact .inr (hattempt.generation.trans hopens.generation)

theorem SafetySession.Opens.config {s s₁ : SafetySession} {link : Link} {op : Op}
    (h : Opens s link op s₁) : s₁.config = s.config := by
  obtain ⟨connection, henters⟩ := h.enters
  cases henters <;> rfl

theorem SafetySession.ZeroAttempt.config {s s' : SafetySession} {link link' : Link} {now : Int}
    {outcome : WriteOutcome} {writes : List Write}
    (h : ZeroAttempt s link now outcome s' link' writes) : s'.config = s.config := by
  cases h <;> simp

theorem Transition.config {s : SafetySession} {link : Link} {op : Op} {o : Outcome}
    (h : Transition s link op o) : o.session.config = s.config := by
  cases h with
  | unconfigured => rfl
  | unconfiguredLatch => simp
  | notLatched => rfl
  | clockRejected => simp
  | clockRejectedPending => simp
  | disconnected => simp
  | declined hopens => exact hopens.config
  | authorized hopens => simp [hopens.config]
  | feedbackAllowed hopens => simp [hopens.config]
  | inhibited hopens => simp [hopens.config]
  | inhibitedFaulted hopens => simp [hopens.config]
  | stopped hopens => simp [hopens.config]
  | revoked hopens => simp [hopens.config]
  | unpermitted hopens => simp [hopens.config]
  | admitted hopens => simp [admitting_eq, hopens.config]
  | readmitted hopens => simp [admitting_eq, hopens.config]
  | latchedDown => simp
  | latchedFaulted _ _ henters => cases henters <;> simp
  | latchedPending _ _ henters => cases henters <;> simp
  | reset hopens => simp [hopens.config]
  | idle hopens => exact hopens.config
  | idleLatched hopens => simp [hopens.config]
  | retry hopens _ hattempt => exact hattempt.config.trans hopens.config
  | watchdog hopens _ _ _ _ hattempt => simp [hattempt.config, hopens.config]
  | motionSent hopens => simp [hopens.config]
  | motionLost hopens => simp [hopens.config]
  | motionFailed hopens _ _ _ _ _ hattempt => simp [hattempt.config, hopens.config]

theorem config_of_run {admits : Link → Link → Prop} {config : SafetyConfig} {h : List Event}
    {w : World} (run : (sessionMachine admits config).Run h w) : w.session.config = config := by
  refine run.invariant (P := fun _ w => w.session.config = config) ?_ ?_
  · intro w hinit
    exact (blank_of_init hinit).config
  · intro h w e w' run hw hstep
    have htransition := step_transition run hstep
    obtain ⟨_, _, rfl⟩ := hstep
    exact htransition.config.trans hw

theorem config_of_mem {admits : Link → Link → Prop} {config : SafetyConfig} {h : List Event}
    {w : World} {e : Event} (run : (sessionMachine admits config).Run h w) (he : e ∈ h) :
    e.before.config = config := by
  obtain ⟨earlier, v, run, hbefore⟩ := before_of_mem run he
  exact hbefore ▸ config_of_run run

/-- Over a transport that keeps its contract the session never runs ahead of the link. -/
theorem behind_of_run {config : SafetyConfig} {h : List Event} {w : World}
    (run : (sessionMachine Link.Evolves config).Run h w) :
    w.session.connectionGeneration ≤ w.link.generation := by
  refine run.invariant (P := fun _ w => w.session.connectionGeneration ≤ w.link.generation) ?_ ?_
  · intro w hinit
    rcases (blank_of_init hinit).generation with heq | heq
    · exact heq.trans_le (Nat.zero_le _)
    · exact heq.le
  · intro h w e w' run hw hstep
    have htransition := step_transition run hstep
    obtain ⟨_, hlinks, rfl⟩ := hstep
    rw [Event.links, List.isChain_cons_cons] at hlinks
    have hprior := hlinks.1.1
    have hafter := (htransition.evolves hlinks.2).1
    rcases htransition.generation with heq | heq
    · calc e.after.connectionGeneration = w.session.connectionGeneration := heq
        _ ≤ w.link.generation := hw
        _ ≤ e.link.generation := hprior
        _ ≤ e.linkAfter.generation := hafter
    · exact heq.trans_le hafter

end WheeltecVcuSerial
