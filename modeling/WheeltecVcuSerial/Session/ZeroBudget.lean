import WheeltecVcuSerial.Session.ZeroFirst
import Mathlib.Data.List.Chain

namespace WheeltecVcuSerial

open SafetySession

/-- The call comes as far as `synchronizeConnection`. -/
def Op.looks (s : SafetySession) (op : Op) : Bool :=
  op.checksClock s && (decide (s.AcceptsTime op.now) || op.isLatch)

/-- The call observes that the transport is disconnected or has another generation. -/
def Op.FindsChange (s : SafetySession) (link : Link) (op : Op) : Prop :=
  op.looks s = true ∧ (link.connected = false ∨ link.generation ≠ s.connectionGeneration)

def Event.FindsChange (e : Event) : Prop := e.op.FindsChange e.before e.link

/-- The transport is found disconnected when the write returns. -/
def Write.disconnects (write : Write) : Bool :=
  (write.outcome.ioResult write.startNs).status = .disconnected || !write.outcome.link.connected

def Write.fails (write : Write) : Bool := !write.disconnects && !write.completed

/-- The earliest time for the attempt after this one. -/
def Write.retryNs (config : SafetyConfig) (write : Write) : Int :=
  saturatingAdd (max write.startNs (write.outcome.ioResult write.startNs).completionMonotonicNs)
    config.zeroRetryIntervalNs

def zeroWrites (writes : List Write) : List Write := writes.filter fun write => write.kind = .zero

/-- The call finds a zero episode pending and does not leave its connection for another one. -/
def Event.continues (e : Event) : Bool :=
  e.before.zeroEpisodeActive && e.after.connectionGeneration = e.before.connectionGeneration

/-- The zero frames passed to `writeAll` in the current zero episode, the latest one first. -/
def episodeWrites : List Event → List Write
  | [] => []
  | e :: h => (zeroWrites e.writes).reverse ++ if e.continues then episodeWrites h else []

namespace SafetySession

variable {s s₁ s' t : SafetySession} {link link' : Link} {op : Op} {now : Int}

/-- `t` goes on with the zero episode of `s`, if it is one of the same connection, and any other
episode of `t` has just begun. -/
structure Follows (s t : SafetySession) : Prop where
  config : t.config = s.config
  continued : s.zeroEpisodeActive = true → t.connectionGeneration = s.connectionGeneration →
    t.zeroEpisodeActive = true ∧ t.zeroAttempts = s.zeroAttempts ∧
      t.nextZeroAttemptNs = s.nextZeroAttemptNs
  fresh : (s.zeroEpisodeActive = false ∨ t.connectionGeneration ≠ s.connectionGeneration) →
    t.zeroEpisodeActive = true → t.zeroAttempts = 0

/-- An update that leaves the connection and the zero episode alone. -/
def SameEpisode (s t : SafetySession) : Prop :=
  t.config = s.config ∧ t.connectionGeneration = s.connectionGeneration ∧
    t.zeroEpisodeActive = s.zeroEpisodeActive ∧ t.zeroAttempts = s.zeroAttempts ∧
    t.nextZeroAttemptNs = s.nextZeroAttemptNs

namespace Follows

theorem of_same (h : SameEpisode s t) : Follows s t := by
  obtain ⟨hconfig, hgeneration, hzero, hattempts, hnext⟩ := h
  refine ⟨hconfig, fun hpending _ => ⟨hzero.trans hpending, hattempts, hnext⟩, ?_⟩
  intro hfresh hpending
  rw [hzero] at hpending
  simp [hpending, hgeneration] at hfresh

theorem same (h : Follows s s₁) (hsame : SameEpisode s₁ t) : Follows s t := by
  obtain ⟨hconfig, hgeneration, hzero, hattempts, hnext⟩ := hsame
  refine ⟨hconfig.trans h.config, ?_, ?_⟩
  · rw [hgeneration, hzero, hattempts, hnext]
    exact h.continued
  · rw [hgeneration, hzero, hattempts]
    exact h.fresh

theorem pend (h : Follows s t) (after : SessionState) (earliest : Int) :
    Follows s (t.pend after earliest) where
  config := h.config
  continued := by
    intro hpending hgeneration
    obtain ⟨hzero, hattempts, hnext⟩ := h.continued hpending hgeneration
    simp [hzero, hattempts, hnext]
  fresh := by
    intro hfresh _
    simp only [pend_zeroAttempts]
    split
    · case isTrue hzero => exact h.fresh hfresh hzero
    · rfl

theorem enters {connection : ConnectionSync} (hs : s.Coherent) (hsame : SameEpisode s t)
    (hknown : t.connectionKnown = s.connectionKnown) (h : Enters t link s₁ connection) :
    Follows s s₁ := by
  cases h with
  | unchanged => exact .of_same hsame
  | newGeneration _ hnew =>
    refine ⟨hsame.1, fun hpending hgeneration => ?_, fun _ _ => rfl⟩
    have hnew := hnew (hknown.trans (hs.known_of_pending hpending))
    exact absurd hgeneration (hsame.2.1 ▸ hnew)

theorem opens (hs : s.Coherent) (h : Opens s link op s₁) : Follows s s₁ := by
  obtain ⟨connection, henters⟩ := h.enters
  exact enters (t := s.observed op.now) hs ⟨rfl, rfl, rfl, rfl, rfl⟩ rfl henters

end Follows

theorem Opens.looks (h : Opens s link op s₁) : op.looks s = true := by
  simp [Op.looks, h.checked, h.accepted]

theorem looks_latch (hvalid : s.configurationValid = true) (now : Int) :
    Op.looks s (.latchEmergencyStop now) = true := by
  simp [Op.looks, Op.checksClock, Op.isLatch, hvalid]

theorem Opens.finds_change (h : Opens s link op s₁)
    (hchange : s₁.connectionGeneration ≠ s.connectionGeneration) : op.FindsChange s link :=
  ⟨h.looks, .inr (h.generation ▸ hchange)⟩

/-- A session that has been connected observes any link that is not up as a change. -/
theorem Coherent.finds_change (hs : s.Coherent) (hknown : s.connectionKnown = true)
    (hlooks : op.looks s = true) (hlink : ¬ link.Up) : op.FindsChange s link := by
  refine ⟨hlooks, ?_⟩
  cases hconnected : link.connected with
  | false => exact .inl rfl
  | true =>
    have hgeneration : link.generation = 0 := by simpa [Link.Up, hconnected] using hlink
    exact .inr (hgeneration ▸ (hs.linked hknown).symm)

end SafetySession

/-- What one call does to the zero episode. -/
inductive EpisodeStep (s : SafetySession) (link : Link) (op : Op) (o : Outcome) : Prop
  | dropped : o.session.zeroEpisodeActive = false → zeroWrites o.writes = [] →
      (s.zeroEpisodeActive = true → op.FindsChange s link) → EpisodeStep s link op o
  | kept : Follows s o.session → zeroWrites o.writes = [] →
      (o.session.connectionGeneration ≠ s.connectionGeneration → op.FindsChange s link) →
      EpisodeStep s link op o
  | attempted {t : SafetySession} {link₁ : Link} {now : Int} {outcome : WriteOutcome}
      {writes : List Write} : Follows s t → t.zeroEpisodeActive = true →
      t.zeroAttempts < t.config.maximumZeroAttempts →
      ZeroAttempt t link₁ now outcome o.session o.link writes → zeroWrites o.writes = writes →
      (t.connectionGeneration ≠ s.connectionGeneration → op.FindsChange s link) →
      EpisodeStep s link op o

theorem SafetySession.ZeroAttempt.zeroWrites_eq {s s' : SafetySession} {link link' : Link}
    {now : Int} {outcome : WriteOutcome} {writes : List Write}
    (h : ZeroAttempt s link now outcome s' link' writes) : zeroWrites writes = writes := by
  simpa [zeroWrites] using h.kind

theorem Transition.episode {s : SafetySession} {link : Link} {op : Op} {o : Outcome}
    (h : Transition s link op o) (hs : s.Coherent) : EpisodeStep s link op o := by
  have hopened : ∀ {s₁}, Opens s link op s₁ → Follows s o.session → zeroWrites o.writes = [] →
      o.session.connectionGeneration = s₁.connectionGeneration → EpisodeStep s link op o :=
    fun hopens hfollows hwrites hgeneration =>
      .kept hfollows hwrites fun hchange => hopens.finds_change (hgeneration ▸ hchange)
  have hsame : ∀ {s₁}, Opens s link op s₁ → SameEpisode s₁ o.session → zeroWrites o.writes = [] →
      EpisodeStep s link op o :=
    fun hopens hsame hwrites =>
      hopened hopens ((Follows.opens hs hopens).same hsame) hwrites hsame.2.1
  have hpend : ∀ {s₁ t after earliest}, Opens s link op s₁ → o.session = t.pend after earliest →
      SameEpisode s₁ t → zeroWrites o.writes = [] → EpisodeStep s link op o := by
    intro s₁ t after earliest hopens heq hsame hwrites
    refine hopened hopens ?_ hwrites ?_
    · rw [heq]
      exact ((Follows.opens hs hopens).same hsame).pend after earliest
    · rw [heq]
      exact hsame.2.1
  have hdown : op.looks s = true → ¬ link.Up → s.zeroEpisodeActive = true →
      op.FindsChange s link :=
    fun hlooks hlink hzero => hs.finds_change (hs.known_of_pending hzero) hlooks hlink
  cases h with
  | unconfigured => exact .kept (.of_same (by simp [SameEpisode])) rfl (absurd rfl)
  | unconfiguredLatch => exact .kept (.of_same (by simp [SameEpisode])) rfl (by simp)
  | notLatched => exact .kept (.of_same (by simp [SameEpisode])) rfl (absurd rfl)
  | clockRejected => exact .kept (.of_same (by simp [SameEpisode])) rfl (by simp)
  | clockRejectedPending =>
    exact .kept ((Follows.of_same (by simp [SameEpisode])).pend _ _) rfl (by simp)
  | disconnected _ hchecked _ hclock hlink =>
    exact .dropped rfl rfl (hdown (by simp [Op.looks, hchecked, hclock]) hlink)
  | declined hopens => exact hsame hopens (by simp [SameEpisode]) rfl
  | authorized hopens => exact hsame hopens (by simp [SameEpisode]) rfl
  | feedbackAllowed hopens => exact hsame hopens (by simp [SameEpisode]) rfl
  | inhibited hopens => exact hpend hopens rfl (by simp [SameEpisode]) rfl
  | inhibitedFaulted hopens => exact hsame hopens (by simp [SameEpisode]) rfl
  | stopped hopens => exact hpend hopens rfl (by simp [SameEpisode]) rfl
  | revoked hopens => exact hpend hopens rfl (by simp [SameEpisode]) rfl
  | unpermitted hopens => exact hsame hopens (by simp [SameEpisode]) rfl
  | admitted hopens => exact hsame hopens (by simp [SameEpisode, admitting_eq]) rfl
  | readmitted hopens => exact hsame hopens (by simp [SameEpisode, admitting_eq]) rfl
  | latchedDown hvalid hlink =>
    exact .dropped rfl rfl (hdown (looks_latch hvalid _) hlink)
  | latchedFaulted hvalid _ henters =>
    refine .kept (.enters hs (by simp [SameEpisode]) (by simp) henters) rfl fun hchange => ?_
    exact ⟨looks_latch hvalid _, .inr (henters.generation ▸ hchange)⟩
  | latchedPending hvalid _ henters =>
    have hfollows := Follows.enters hs (by simp [SameEpisode]) (by simp) henters
    refine .kept (hfollows.pend _ _) rfl fun hchange => ?_
    exact ⟨looks_latch hvalid _, .inr (henters.generation ▸ hchange)⟩
  | reset hopens => exact hsame hopens (by simp [SameEpisode]) rfl
  | idle hopens => exact hsame hopens (by simp [SameEpisode]) rfl
  | idleLatched hopens => exact hsame hopens (by simp [SameEpisode]) rfl
  | retry hopens hzero hattempt =>
    exact .attempted (.opens hs hopens) hzero ((hs.opens hopens).budget hzero) hattempt
      hattempt.zeroWrites_eq hopens.finds_change
  | watchdog hopens _ _ _ _ hattempt =>
    refine .attempted (Follows.pend ?_ _ _) rfl ?_ hattempt hattempt.zeroWrites_eq
      hopens.finds_change
    · exact (Follows.opens hs hopens).same (by simp [SameEpisode])
    · exact ((hs.opens hopens).clearedPend hopens.valid hopens.known
        (SafetySession.permittedState_mem _) _).budget rfl
  | motionSent hopens =>
    exact hsame hopens (by simp [SameEpisode]) (by simp [zeroWrites, motionWrite])
  | motionLost hopens hready =>
    refine .dropped rfl (by simp [zeroWrites, motionWrite]) fun hzero => ?_
    have hsettled := hopens.settled_of_ready hready
    simp [hsettled.idle] at hzero
  | motionFailed hopens _ _ _ _ _ hattempt =>
    refine .attempted (Follows.pend ?_ _ _) rfl ?_ hattempt hattempt.zeroWrites_eq
      hopens.finds_change
    · exact (Follows.opens hs hopens).same (by simp [SameEpisode])
    · have hcoherent := (hs.opens hopens).silenced
      exact (hcoherent.clearedPend hopens.valid hopens.known (by simp) _).budget rfl

/-- What a session owes to the zero frames written in its episode. -/
structure Budgeted (config : SafetyConfig) (writes : List Write) (s : SafetySession) : Prop where
  configured : s.config = config
  bound : writes.length ≤ config.maximumZeroAttempts
  spaced : writes.IsChain fun retry failed => failed.retryNs config ≤ retry.startNs
  count : s.zeroEpisodeActive = true → s.zeroAttempts = writes.length
  next : s.zeroEpisodeActive = true →
    ∀ write ∈ writes.head?, write.retryNs config ≤ s.nextZeroAttemptNs

namespace Budgeted

variable {config : SafetyConfig} {writes zeros : List Write} {s s' t : SafetySession}
  {link link' : Link} {now : Int} {outcome : WriteOutcome}

theorem follows (h : Budgeted config writes s) (hfollows : Follows s t) :
    Budgeted config (if s.zeroEpisodeActive && t.connectionGeneration = s.connectionGeneration
      then writes else []) t := by
  have hconfig := hfollows.config.trans h.configured
  split
  · case isTrue hsame =>
    rw [Bool.and_eq_true, decide_eq_true_eq] at hsame
    obtain ⟨_, hattempts, hnext⟩ := hfollows.continued hsame.1 hsame.2
    exact ⟨hconfig, h.bound, h.spaced, fun _ => hattempts.trans (h.count hsame.1),
      fun _ => hnext ▸ h.next hsame.1⟩
  · case isFalse hnew =>
    have hfresh : s.zeroEpisodeActive = false ∨
        t.connectionGeneration ≠ s.connectionGeneration := by
      rwa [Bool.and_eq_true, decide_eq_true_eq, not_and_or, Bool.not_eq_true] at hnew
    exact ⟨hconfig, by simp, by simp, fun hzero => hfollows.fresh hfresh hzero, by simp⟩

theorem idle (h : Budgeted config writes s) (hconfig : t.config = config)
    (hidle : t.zeroEpisodeActive = false) (continues : Bool) :
    Budgeted config (if continues then writes else []) t := by
  cases continues with
  | false => exact ⟨hconfig, by simp, by simp, by simp [hidle], by simp⟩
  | true => exact ⟨hconfig, h.bound, h.spaced, by simp [hidle], by simp [hidle]⟩

theorem attempt (h : Budgeted config writes t) (hzero : t.zeroEpisodeActive = true)
    (hleft : t.zeroAttempts < t.config.maximumZeroAttempts)
    (hattempt : ZeroAttempt t link now outcome s' link' zeros) :
    Budgeted config (zeros.reverse ++ writes) s' := by
  have hwritten : t.nextZeroAttemptNs ≤ now → s'.config = t.config →
      (s'.zeroEpisodeActive = true → s'.zeroAttempts = t.zeroAttempts + 1 ∧
        (t.zeroWrite link now outcome).retryNs config ≤ s'.nextZeroAttemptNs) →
      Budgeted config ([t.zeroWrite link now outcome].reverse ++ writes) s' := by
    intro hdue hconfig hpending
    rw [h.configured, h.count hzero] at hleft
    refine ⟨hconfig.trans h.configured, by simpa using Nat.succ_le_of_lt hleft, ?_, ?_, ?_⟩
    · refine List.isChain_cons.mpr ⟨fun write hmem => ?_, h.spaced⟩
      exact (h.next hzero write hmem).trans hdue
    · intro hactive
      simp [(hpending hactive).1, h.count hzero]
    · intro hactive
      simpa using (hpending hactive).2
  cases hattempt with
  | waiting => exact h
  | lost hdue => exact hwritten hdue (by simp) (by simp)
  | completed hdue => exact hwritten hdue (by simp) (by simp)
  | exhausted hdue => exact hwritten hdue (by simp) (by simp)
  | failed hdue =>
    refine hwritten hdue (by simp) fun _ => ⟨by simp, ?_⟩
    simp [Write.retryNs, zeroWrite, h.configured]

end Budgeted

theorem EpisodeStep.budgeted {config : SafetyConfig} {e : Event} {h : List Event}
    (hstep : EpisodeStep e.before e.link e.op e.outcome)
    (hbudget : Budgeted config (episodeWrites h) e.before) (hconfig : e.after.config = config) :
    Budgeted config (episodeWrites (e :: h)) e.after := by
  have hkept : ∀ {t}, Follows e.before t → t.connectionGeneration = e.after.connectionGeneration →
      Budgeted config (if e.continues then episodeWrites h else []) t := by
    intro t hfollows hgeneration
    have := hbudget.follows hfollows
    rwa [hgeneration] at this
  simp only [episodeWrites]
  cases hstep with
  | dropped hidle hwrites =>
    rw [Event.writes, hwrites]
    exact hbudget.idle hconfig hidle e.continues
  | kept hfollows hwrites =>
    rw [Event.writes, hwrites]
    exact hkept hfollows rfl
  | attempted hfollows hzero hleft hattempt hwrites =>
    rw [Event.writes, hwrites]
    exact (hkept hfollows hattempt.generation.symm).attempt hzero hleft hattempt

/-- The attempt that spends the budget faults the session by failing. -/
theorem SafetySession.ZeroAttempt.faulted {t s' : SafetySession} {link link' : Link} {now : Int}
    {outcome : WriteOutcome} {zeros : List Write}
    (h : ZeroAttempt t link now outcome s' link' zeros)
    (hleft : t.zeroAttempts < t.config.maximumZeroAttempts)
    (hspent : zeros.length + t.zeroAttempts = t.config.maximumZeroAttempts)
    (hfails : ∀ write ∈ zeros, write.fails = true) : s'.state = .faulted := by
  cases h with
  | waiting =>
    rw [List.length_nil, Nat.zero_add] at hspent
    exact absurd hspent hleft.ne
  | lost _ hlost =>
    have := hfails _ (List.mem_singleton_self _)
    rcases hlost with hstatus | hdown
    · simp [Write.fails, Write.disconnects, zeroWrite, hstatus] at this
    · simp [Write.fails, Write.disconnects, zeroWrite, hdown] at this
  | completed _ hdone =>
    have := hfails _ (List.mem_singleton_self _)
    simp [Write.fails, Write.completed, zeroWrite, hdone] at this
  | exhausted => rfl
  | failed _ _ _ _ hmore =>
    rw [List.length_singleton, Nat.add_comm] at hspent
    exact absurd hspent hmore.ne

/-- A call that finds the budget spent on failures only leaves the session faulted. -/
theorem EpisodeStep.faulted {config : SafetyConfig} {e : Event} {h : List Event}
    (hstep : EpisodeStep e.before e.link e.op e.outcome) (hs : e.before.Coherent)
    (hbudget : Budgeted config (episodeWrites h) e.before) (hpos : 0 < config.maximumZeroAttempts)
    (hspent : (episodeWrites (e :: h)).length = config.maximumZeroAttempts)
    (hfails : ∀ write ∈ episodeWrites (e :: h), write.fails = true) :
    e.after.state = .faulted := by
  have hbase :
      (if e.continues then episodeWrites h else []).length < config.maximumZeroAttempts := by
    split
    · case isTrue hcontinues =>
      simp only [Event.continues, Bool.and_eq_true] at hcontinues
      rw [← hbudget.count hcontinues.1, ← hbudget.configured]
      exact hs.budget hcontinues.1
    · exact hpos
  simp only [episodeWrites] at hspent hfails
  cases hstep with
  | dropped _ hwrites =>
    rw [Event.writes, hwrites] at hspent
    exact absurd hspent hbase.ne
  | kept _ hwrites =>
    rw [Event.writes, hwrites] at hspent
    exact absurd hspent hbase.ne
  | attempted hfollows hzero hleft hattempt hwrites =>
    have hcount := (hbudget.follows hfollows).count hzero
    rw [← hattempt.generation] at hcount
    rw [Event.writes, hwrites, List.length_append, List.length_reverse] at hspent
    refine hattempt.faulted hleft ?_ fun write hmem => hfails write ?_
    · rw [hcount, hfollows.config, hbudget.configured]
      exact hspent
    · rw [Event.writes, hwrites]
      simp [hmem]

/-- A call that attempts no zero frame leaves the count and the retry time of a pending episode
alone. -/
theorem EpisodeStep.untouched {s : SafetySession} {link : Link} {op : Op} {o : Outcome}
    (hstep : EpisodeStep s link op o) (hwrites : zeroWrites o.writes = [])
    (hquiet : ¬ op.FindsChange s link) (hzero : s.zeroEpisodeActive = true) :
    o.session.zeroEpisodeActive = true ∧ o.session.zeroAttempts = s.zeroAttempts ∧
      o.session.nextZeroAttemptNs = s.nextZeroAttemptNs := by
  cases hstep with
  | dropped _ _ hchange => exact absurd (hchange hzero) hquiet
  | kept hfollows _ hchange => exact hfollows.continued hzero (by_contra (mt hchange hquiet))
  | attempted hfollows _ _ hattempt hzeros hchange =>
    rw [hwrites] at hzeros
    subst hzeros
    generalize o.session = s' at hattempt ⊢
    generalize o.link = link' at hattempt
    cases hattempt with
    | waiting => exact hfollows.continued hzero (by_contra (mt hchange hquiet))

/-- Only the sight of another connection takes a session out of a fault. -/
theorem Transition.stays_faulted {s : SafetySession} {link : Link} {op : Op} {o : Outcome}
    (h : Transition s link op o) (hs : s.Coherent) (hfault : s.state = .faulted)
    (hquiet : ¬ op.FindsChange s link) : o.session.state = .faulted ∧ o.writes = [] := by
  have hknown : s.connectionKnown = true := by
    by_contra hunknown
    have := hs.absent (by simpa using hunknown)
    simp [hfault] at this
  have hopened : ∀ {s₁}, Opens s link op s₁ → s₁ = s.observed op.now := by
    intro s₁ hopens
    refine hopens.eq_observed hknown (by_contra fun hchange => ?_)
    exact hquiet ⟨hopens.looks, .inr hchange⟩
  have hstate : ∀ {s₁}, Opens s link op s₁ → s₁.state = .faulted :=
    fun hopens => hopened hopens ▸ hfault
  have hlatch : ∀ {time s₁ connection}, op.looks s = true →
      Enters (s.assertEmergencyStop.observed time) link s₁ connection → s₁.state = .faulted := by
    intro time s₁ connection hlooks henters
    cases henters with
    | unchanged => exact hfault
    | newGeneration _ hnew => exact absurd ⟨hlooks, .inr (hnew hknown)⟩ hquiet
  cases h with
  | unconfigured => exact ⟨hfault, rfl⟩
  | unconfiguredLatch hvalid =>
    have := hs.unconfigured hvalid
    simp [hknown] at this
  | notLatched => exact ⟨hfault, rfl⟩
  | clockRejected => exact ⟨hfault, rfl⟩
  | clockRejectedPending _ _ _ _ _ _ _ hsound => exact absurd hfault hsound
  | disconnected _ hchecked _ hclock hlink =>
    exact absurd (hs.finds_change hknown (by simp [Op.looks, hchecked, hclock]) hlink) hquiet
  | declined hopens => exact ⟨hstate hopens, rfl⟩
  | authorized hopens _ hsound => exact absurd (hstate hopens) hsound
  | feedbackAllowed hopens =>
    have hfault := hstate hopens
    exact ⟨hfault, rfl⟩
  | inhibited hopens _ hsound => exact absurd (hstate hopens) hsound
  | inhibitedFaulted _ _ hfault => exact ⟨hfault, rfl⟩
  | stopped hopens hsound => exact absurd (hstate hopens) hsound
  | revoked hopens hsound => exact absurd (hstate hopens) hsound
  | unpermitted hopens _ hsound => exact absurd (hstate hopens) hsound
  | admitted hopens hcommand => exact absurd (hstate hopens) hcommand.sound
  | readmitted hopens hcommand => exact absurd (hstate hopens) hcommand.sound
  | latchedDown hvalid hlink =>
    exact absurd (hs.finds_change hknown (looks_latch hvalid _) hlink) hquiet
  | latchedFaulted _ _ _ hfault => exact ⟨hfault, rfl⟩
  | latchedPending hvalid _ henters hsound =>
    exact absurd (hlatch (looks_latch hvalid _) henters) hsound
  | reset hopens _ hsound => exact absurd (hstate hopens) hsound
  | idle hopens => exact ⟨hstate hopens, rfl⟩
  | idleLatched hopens _ hsound => exact absurd (hstate hopens) hsound
  | retry hopens hzero =>
    have hfault := hstate hopens
    simp [(hs.opens hopens).pending.mp hzero] at hfault
  | watchdog hopens _ _ hactive => simp [hstate hopens] at hactive
  | motionSent hopens hready =>
    have hfault := hstate hopens
    simp [hready.active] at hfault
  | motionLost hopens hready =>
    have hfault := hstate hopens
    simp [hready.active] at hfault
  | motionFailed hopens hready =>
    have hfault := hstate hopens
    simp [hready.active] at hfault

variable {admits : Link → Link → Prop} {config : SafetyConfig} {h : List Event} {w w' : World}

theorem budgeted_of_run (run : (sessionMachine admits config).Run h w) :
    Budgeted config (episodeWrites h) w.session := by
  refine run.invariant (P := fun h w => Budgeted config (episodeWrites h) w.session) ?_ ?_
  · intro w hinit
    have hblank := blank_of_init hinit
    exact ⟨hblank.config, by simp [episodeWrites], by simp [episodeWrites],
      fun _ => hblank.attempts, by simp [episodeWrites]⟩
  · intro h w e w' run hw hstep
    have hepisode := (step_transition run hstep).episode (coherent_of_run run)
    have hconfig := config_of_run (run.next hstep)
    obtain ⟨hbefore, _, rfl⟩ := hstep
    rw [← hbefore] at hw hepisode
    exact hepisode.budgeted hw hconfig

/-- The zero budget of a run: one episode spends at most the attempts of the configuration, each
not before the retry time of the one before it, and nothing but an attempt moves the count and that
time; a budget spent on failures only is a fault, and a fault lasts until another connection is
seen. -/
theorem zero_budget (run : (sessionMachine admits config).Run h w)
    (hvalid : safetyConfigIsValid config = true) :
    (episodeWrites h).length ≤ config.maximumZeroAttempts ∧
      ((episodeWrites h).IsChain fun retry failed => failed.retryNs config ≤ retry.startNs) ∧
      ∀ later e earlier, h = later ++ e :: earlier →
        (e.before.zeroEpisodeActive = true → zeroWrites e.writes = [] → ¬ e.FindsChange →
          e.after.zeroEpisodeActive = true ∧ e.after.zeroAttempts = e.before.zeroAttempts ∧
            e.after.nextZeroAttemptNs = e.before.nextZeroAttemptNs) ∧
        ((episodeWrites (e :: earlier)).length = config.maximumZeroAttempts →
          (∀ write ∈ episodeWrites (e :: earlier), write.fails = true) →
          e.after.state = .faulted) ∧
        (e.after.state = .faulted → (∀ x ∈ later, ¬ x.FindsChange) →
          w.session.state = .faulted ∧ ∀ x ∈ later, x.writes = []) := by
  have hbudget := budgeted_of_run run
  refine ⟨hbudget.bound, hbudget.spaced, ?_⟩
  rintro later e earlier rfl
  obtain ⟨v, v', run, hstep, path⟩ := run.step_of_mem
  have hs := coherent_of_run run
  have hepisode := (step_transition run hstep).episode hs
  have hpos : 0 < config.maximumZeroAttempts := (safetyConfigIsValid_iff.mp hvalid).attemptsPositive
  have hafter := coherent_of_run (run.next hstep)
  have hbudget := budgeted_of_run run
  obtain ⟨hbefore, _, rfl⟩ := hstep
  rw [← hbefore] at hs hepisode hbudget
  refine ⟨fun hzero hwrites hquiet => hepisode.untouched hwrites hquiet hzero,
    hepisode.faulted hs hbudget hpos, fun hfault hquiet => ?_⟩
  suffices habsorbed : (w.session.Coherent ∧ w.session.state = .faulted) ∧
      ∀ x ∈ later, x.writes = [] from ⟨habsorbed.1.2, habsorbed.2⟩
  refine path.absorbing (P := fun v => v.session.Coherent ∧ v.session.state = .faulted) ?_ hquiet
    ⟨hafter, hfault⟩
  rintro v x v' ⟨hv, hfault⟩ ⟨hbefore, _, rfl⟩ hquiet
  rw [← hbefore] at hv hfault
  have htransition := perform_transition hv.wired x.link x.op
  obtain ⟨hfault, hwrites⟩ := htransition.stays_faulted hv hfault hquiet
  exact ⟨⟨htransition.coherent hv, hfault⟩, hwrites⟩

/-- A write that ran into its deadline. -/
def missedWrite (now : Int) : WriteOutcome :=
  ⟨some ⟨.deadlineExceeded, 0, 0, false, false, now⟩, steadyLink⟩

def missedTick (now : Int) : Op := .tick now (missedWrite now) (missedWrite now)

theorem zero_budget_replayed :
    let calls := [missedTick 100, .requestStop 105, missedTick 110, missedTick 120,
      .requestStop 130, missedTick 140]
    (steadyReplay (calls.take 4)).2.session.state = .faulted ∧
      (steadyReplay calls).2.session.state = .faulted ∧
      ∀ x ∈ (steadyReplay calls).1.take 2, x.writes = [] := by
  intro calls
  let e := steadyEvent (calls.take 3) (missedTick 120)
  have heq : (steadyReplay calls).1 =
      (steadyReplay calls).1.take 2 ++ e :: (steadyReplay (calls.take 3)).1 := by
    decide +kernel
  have run := steady_run calls (by decide +kernel) heq
  obtain ⟨_, hfault, hlasts⟩ :=
    (zero_budget run (by decide +kernel)).2.2 ((steadyReplay calls).1.take 2) e _ rfl
  have hfault := hfault (by decide +kernel) (by decide +kernel)
  exact ⟨hfault, hlasts hfault (by simp only [Event.FindsChange, Op.FindsChange]; decide +kernel)⟩

end WheeltecVcuSerial
