import WheeltecVcuSerial.Session.WireLanguage

namespace WheeltecVcuSerial

open SafetySession

/-- A write whose effect is open: it threw, says so itself, or met a disconnect. -/
def WriteOutcome.Dubious (outcome : WriteOutcome) : Prop :=
  outcome.returned = none ∨
    (∃ result, outcome.returned = some result ∧
      (result.outcomeUncertain = true ∨ result.status = .disconnected)) ∨
    outcome.link.connected = false

theorem WriteOutcome.dubious_iff {outcome : WriteOutcome} (now : Int) :
    outcome.Dubious ↔ (outcome.ioResult now).outcomeUncertain = true ∨
      (outcome.ioResult now).status = .disconnected ∨ outcome.link.connected = false := by
  obtain ⟨returned, link⟩ := outcome
  cases returned with
  | none => simp [Dubious, ioResult, exceptionIoResult]
  | some result => simp [Dubious, ioResult, or_assoc]

namespace SafetySession

/-! ### The branches of `tick` -/

/-- What a cycle does apart from the session that it leaves. -/
inductive Ticks (s : SafetySession) (link : Link) (now : Int)
    (motionOutcome zeroOutcome : WriteOutcome) : Cycle → Prop
  | quiet : cycle.writes = [] → cycle.result.motionWriteAttempted = false →
      cycle.result.zeroWriteAttempted = false → Ticks s link now motionOutcome zeroOutcome cycle
  | zero {s₁ : SafetySession} {result : CycleResult} :
      result.motionWriteAttempted = false → result.zeroWriteAttempted = false →
      Ticks s link now motionOutcome zeroOutcome (s₁.attemptZero link now result zeroOutcome)
  | motion : Opens s link (.tick now motionOutcome zeroOutcome) s₁ → MotionReady s₁ now →
      Ticks s link now motionOutcome zeroOutcome
        (s₁.writeMotion link now { state := s.state } motionOutcome zeroOutcome)

variable {s s₁ : SafetySession} {link : Link} {now : Int} {motionOutcome zeroOutcome : WriteOutcome}
  {result : CycleResult}

theorem ticks (hwired : s.Wired) (link : Link) (now : Int)
    (motionOutcome zeroOutcome : WriteOutcome) :
    Ticks s link now motionOutcome zeroOutcome (s.tick link now motionOutcome zeroOutcome) := by
  unfold tick
  cases hvalid : s.configurationValid with
  | false => exact .quiet rfl rfl rfl
  | true =>
  rcases enter_cases hvalid (hwired hvalid) link now with
    ⟨hclock, heq⟩ | ⟨hclock, hlink, heq⟩ | ⟨s₁, connection, hclock, henters, heq⟩
  · simp only [heq]
    exact .quiet rfl rfl rfl
  · simp only [heq]
    exact .quiet rfl rfl rfl
  simp only [heq, Bool.not_true, Bool.false_eq_true, if_false]
  split
  · exact .zero rfl rfl
  case isFalse hzero =>
  split
  · exact .quiet rfl rfl rfl
  split
  · exact .quiet rfl rfl rfl
  case isFalse hlatched =>
  split
  · exact .quiet rfl rfl rfl
  case isFalse hstate =>
  split
  · exact .zero rfl rfl
  case isFalse hauthorized =>
  split
  · exact .zero rfl rfl
  case isFalse hfresh =>
  simp only [Bool.or_eq_true, Bool.not_eq_true', not_or, Bool.not_eq_false] at hfresh
  split
  · exact .quiet rfl rfl rfl
  case isFalse hrate =>
  refine .motion ⟨hvalid, hvalid, hclock, connection, henters⟩
    ⟨by simpa using hzero, by simpa using hlatched, not_not.mp hstate,
      by simpa using hauthorized, hfresh.1, hfresh.2, fun hsent => ?_⟩
  simpa [hsent] using hrate

theorem Opens.enter_eq {op : Op} (h : Opens s link op s₁) (hwired : s.Wired)
    (hidle : s₁.zeroEpisodeActive = false) : s.enter link op.now = .ready s₁ .unchanged := by
  obtain ⟨connection, henters⟩ := h.enters
  obtain ⟨rfl, -, hknown, hgeneration⟩ := henters.eq_of_settled hidle
  obtain ⟨s₂, connection', henters', heq⟩ :=
    enter_of_up (hwired h.configured) h.accepted henters.up
  cases henters' with
  | unchanged => exact heq
  | newGeneration _ hnew => exact absurd hgeneration (hnew hknown)

/-- The guards of the motion branch of `tick` but for the transmit rate. -/
structure Moving (s : SafetySession) (now : Int) : Prop where
  settled : s.zeroEpisodeActive = false
  unlatched : s.emergencyStopLatched = false
  active : s.state = .active
  permitted : s.authorized = true
  feedback : s.feedbackIsFresh now = true
  command : s.commandIsFresh now = true

theorem MotionReady.moving (h : MotionReady s now) : s.Moving now :=
  { h with }

def rateLimited (s : SafetySession) (now : Int) : Bool :=
  s.lastMotionHostWriteCompletionNs > 0 &&
    now - s.lastMotionHostWriteCompletionNs < s.config.transmitPeriodNs

theorem MotionReady.not_rateLimited (h : MotionReady s now) : s.rateLimited now = false := by
  by_contra hlimited
  simp only [rateLimited, Bool.not_eq_false, Bool.and_eq_true, decide_eq_true_eq] at hlimited
  exact (h.rate hlimited.1).not_gt hlimited.2

theorem tick_of_moving (hwired : s.Wired)
    (hopens : Opens s link (.tick now motionOutcome zeroOutcome) s₁) (h : s₁.Moving now) :
    s.tick link now motionOutcome zeroOutcome =
      if s₁.rateLimited now then
        { session := s₁
          link := link
          result := { state := s₁.state, action := .transmitRateLimited } }
      else s₁.writeMotion link now { state := s.state } motionOutcome zeroOutcome := by
  have henter : s.enter link now = .ready s₁ .unchanged := hopens.enter_eq hwired h.settled
  simp only [tick, hopens.configured, henter, h.settled, h.unlatched, h.active, h.permitted,
    h.feedback, h.command, rateLimited]
  rfl

/-! ### Zero attempts -/

/-- What a zero attempt adds to the report of its cycle. -/
structure ZeroReport (s : SafetySession) (link : Link) (now : Int) (result : CycleResult)
    (zeroOutcome : WriteOutcome) (cycle : Cycle) : Prop where
  writes : cycle.writes = [s.zeroWrite link now zeroOutcome]
  motion : cycle.result.motionWriteAttempted = result.motionWriteAttempted
  zero : cycle.result.zeroWriteAttempted = true
  uncertain : result.outcomeUncertain = true ∨ zeroOutcome.Dubious →
    cycle.result.outcomeUncertain = true

theorem attemptZero_report (hzero : s.zeroEpisodeActive = true)
    (hdue : s.nextZeroAttemptNs ≤ now) :
    ZeroReport s link now result zeroOutcome (s.attemptZero link now result zeroOutcome) := by
  simp only [attemptZero, hzero, Bool.not_true, Bool.false_eq_true, if_false, not_lt.mpr hdue,
    concludeZero]
  -- The time of the answer has no part in the report.
  generalize (if (zeroOutcome.ioResult now).completionMonotonicNs >
    s.countZeroAttempt.lastObservedMonotonicNs then _ else _ : SafetySession) = t
  split
  · exact ⟨rfl, rfl, rfl, fun _ => rfl⟩
  · case isFalse hkept =>
    simp only [Bool.or_eq_true, decide_eq_true_eq, Bool.not_eq_true', not_or,
      Bool.not_eq_false] at hkept
    have huncertain : result.outcomeUncertain = true ∨ zeroOutcome.Dubious →
        (result.outcomeUncertain || (zeroOutcome.ioResult now).outcomeUncertain) = true := by
      rw [WriteOutcome.dubious_iff now, Bool.or_eq_true]
      exact Or.imp_right fun hdubious => hdubious.resolve_right (by simp [hkept])
    split
    · exact ⟨rfl, rfl, rfl, huncertain⟩
    · split
      · exact ⟨rfl, rfl, rfl, fun _ => rfl⟩
      · exact ⟨rfl, rfl, rfl, huncertain⟩

theorem attemptZero_of_idle (hidle : s.zeroEpisodeActive = false ∨ now < s.nextZeroAttemptNs)
    (link : Link) (result : CycleResult) (zeroOutcome : WriteOutcome) :
    (s.attemptZero link now result zeroOutcome).writes = [] ∧
      (s.attemptZero link now result zeroOutcome).result.motionWriteAttempted =
        result.motionWriteAttempted ∧
      (s.attemptZero link now result zeroOutcome).result.zeroWriteAttempted =
        result.zeroWriteAttempted := by
  simp only [attemptZero]
  split
  · exact ⟨rfl, rfl, rfl⟩
  · case isFalse hactive =>
    rw [if_pos (hidle.resolve_left (by simpa using hactive))]
    exact ⟨rfl, rfl, rfl⟩

/-- A session without permission and without intent. -/
structure Stripped (s : SafetySession) : Prop where
  authorizationActive : s.authorizationActive = false
  latestCommandValid : s.latestCommandValid = false

theorem ZeroAttempt.stripped {s' : SafetySession} {link' : Link} {writes : List Write}
    (h : ZeroAttempt s link now zeroOutcome s' link' writes) (hs : s.Stripped) : s'.Stripped := by
  cases h with
  | lost => exact ⟨rfl, rfl⟩
  | _ => exact ⟨hs.authorizationActive, hs.latestCommandValid⟩

end SafetySession

/-! ### Reports -/

/-- What a cycle makes of its writes: a motion frame that is not cleanly written is followed by the
loss of the connection or by a zero frame, and the result says what was written. -/
structure Cycle.Reported (cycle : Cycle) : Prop where
  stopped : ∀ write ∈ cycle.writes, write.kind = .motion → write.completed = false →
    cycle.session.Stripped ∧
      (cycle.session.state = .disconnected ∧ cycle.result.state = .disconnected ∧
          cycle.result.action = .disconnected ∨
        ∃ zero, cycle.writes.getLast? = some zero ∧ zero.kind = .zero ∧
          zero.buffer = makeZeroCommandFrame.toList)
  motion : cycle.result.motionWriteAttempted = true ↔ ∃ write ∈ cycle.writes, write.kind = .motion
  zero : cycle.result.zeroWriteAttempted = true ↔ ∃ write ∈ cycle.writes, write.kind = .zero
  order : (cycle.writes.map Write.kind).Sublist [.motion, .zero]
  uncertain : (∃ write ∈ cycle.writes, write.outcome.Dubious) →
    cycle.result.outcomeUncertain = true

namespace SafetySession

variable {s s₁ : SafetySession} {link : Link} {now : Int} {motionOutcome zeroOutcome : WriteOutcome}
  {result : CycleResult}

theorem reported_of_quiet {cycle : Cycle} (hwrites : cycle.writes = [])
    (hmotion : cycle.result.motionWriteAttempted = false)
    (hzero : cycle.result.zeroWriteAttempted = false) : cycle.Reported := by
  constructor <;> simp [hwrites, hmotion, hzero]

theorem reported_of_zero (hmotion : result.motionWriteAttempted = false)
    (hzero : result.zeroWriteAttempted = false) :
    (s.attemptZero link now result zeroOutcome).Reported := by
  by_cases hdue : s.zeroEpisodeActive = true ∧ s.nextZeroAttemptNs ≤ now
  · have hreport : ZeroReport s link now result zeroOutcome _ :=
      attemptZero_report hdue.1 hdue.2
    constructor
    · simp [hreport.writes, zeroWrite]
    · simp [hreport.writes, hreport.motion, hmotion, zeroWrite]
    · simp [hreport.writes, hreport.zero, zeroWrite]
    · simp [hreport.writes, zeroWrite]
    · simpa [hreport.writes, zeroWrite] using fun hdubious => hreport.uncertain (.inr hdubious)
  · rw [not_and_or, not_le] at hdue
    obtain ⟨hwrites, hmotion', hzero'⟩ :=
      attemptZero_of_idle (hdue.imp_left Bool.eq_false_iff.mpr) link result zeroOutcome
    exact reported_of_quiet hwrites (hmotion'.trans hmotion) (hzero'.trans hzero)

/-- A zero attempt right after a motion write. -/
theorem ZeroReport.reported {cycle : Cycle} {write : Write}
    (h : ZeroReport s link now result zeroOutcome cycle) (hstripped : cycle.session.Stripped)
    (hkind : write.kind = .motion) (hmotion : result.motionWriteAttempted = true)
    (hdubious : write.outcome.Dubious → result.outcomeUncertain = true) :
    ({ cycle with writes := write :: cycle.writes } : Cycle).Reported := by
  constructor
  · exact fun _ _ _ _ =>
      ⟨hstripped, .inr ⟨s.zeroWrite link now zeroOutcome, by simp [h.writes], rfl, rfl⟩⟩
  · simp [h.motion, hmotion, hkind]
  · simp [h.zero, h.writes, zeroWrite]
  · simp [h.writes, hkind, zeroWrite]
  · simp only [h.writes, List.mem_cons, List.not_mem_nil, or_false, exists_eq_or_imp,
      exists_eq_left]
    exact fun hwrites => h.uncertain (hwrites.imp_left hdubious)

theorem Write.completed_motion : (s.motionWrite link now motionOutcome).completed =
    (motionOutcome.ioResult now).completes commandFrameSize := rfl

/-- A clean motion write is reported as it is, whatever the link has become. -/
theorem reported_of_clean (hclean : (motionOutcome.ioResult now).completes commandFrameSize = true)
    (hzero : result.zeroWriteAttempted = false) :
    (s.writeMotion link now result motionOutcome zeroOutcome).Reported ↔
      ((motionOutcome.ioResult now).outcomeUncertain = false →
        motionOutcome.link.connected = true) := by
  have hstatus : (motionOutcome.ioResult now).status ≠ .disconnected := by
    intro hlost
    simp [IoResult.completes, hlost] at hclean
  simp only [writeMotion, hclean, if_true]
  constructor
  · intro hreported hcertain
    by_contra hdown
    have hdubious : motionOutcome.Dubious := .inr (.inr (by simpa using hdown))
    have huncertain := hreported.uncertain ⟨_, List.mem_singleton.mpr rfl, hdubious⟩
    exact absurd hcertain (ne_of_eq_of_ne huncertain (by simp))
  · intro hnoticed
    constructor
    · simp [Write.completed_motion, hclean]
    · simp [motionWrite]
    · simp [motionWrite, hzero]
    · simp [motionWrite]
    · rintro ⟨write, hwrite, hdubious⟩
      obtain rfl := List.mem_singleton.mp hwrite
      rcases (WriteOutcome.dubious_iff now).mp hdubious with huncertain | hlost | hdown
      · exact huncertain
      · exact absurd hlost hstatus
      · by_contra hcertain
        exact absurd (hnoticed (Bool.eq_false_iff.mpr hcertain))
          (Bool.eq_false_iff.mp hdown)

/-- Any other motion write ends the cycle with the loss of the connection or with a zero frame. -/
theorem reported_of_unclean (hready : MotionReady s now) (hnow : 0 < now)
    (hvalid : s.configurationValid = true) (htransport : s.transport = true)
    (hknown : s.connectionKnown = true)
    (hunclean : (motionOutcome.ioResult now).completes commandFrameSize = false)
    (hzero : result.zeroWriteAttempted = false) :
    (s.writeMotion link now result motionOutcome zeroOutcome).Reported := by
  simp only [writeMotion, hunclean, Bool.false_eq_true, if_false]
  split
  · rw [handleDisconnect_eq (s := s.revokeAuthorization.clearMotionIntent) hvalid]
    constructor
    · exact fun _ _ _ _ => ⟨⟨rfl, rfl⟩, .inl ⟨rfl, rfl, rfl⟩⟩
    · simp [motionWrite]
    · simp [motionWrite, hzero]
    · simp [motionWrite]
    · simp
  · case isFalse hkept =>
    simp only [Bool.or_eq_true, decide_eq_true_eq, Bool.not_eq_true', not_or,
      Bool.not_eq_false] at hkept
    have hstate : s.revokeAuthorization.clearMotionIntent.state ≠ .faulted := by
      simp [hready.active]
    rw [beginZeroEpisode_eq_pend (s := s.revokeAuthorization.clearMotionIntent) hknown htransport
      hkept.2 hstate]
    have hdue : (s.revokeAuthorization.clearMotionIntent.pend .connectedInhibited
        (max now (motionOutcome.ioResult now).completionMonotonicNs)).nextZeroAttemptNs ≤
          max now (motionOutcome.ioResult now).completionMonotonicNs := by
      have hpos : 0 < max now (motionOutcome.ioResult now).completionMonotonicNs :=
        lt_max_of_lt_left hnow
      rw [pend_nextZeroAttemptNs, if_neg (by simp [hready.settled])]
      exact max_le hpos.le le_rfl
    refine (attemptZero_report rfl hdue).reported ?_ rfl rfl fun hdubious => ?_
    · have hspec := attemptZero_spec (s := s.revokeAuthorization.clearMotionIntent.pend
        .connectedInhibited (max now (motionOutcome.ioResult now).completionMonotonicNs))
      exact (hspec hvalid rfl _ _ _ _).stripped ⟨rfl, rfl⟩
    · exact ((WriteOutcome.dubious_iff now).mp hdubious).resolve_right
        (by simp [motionWrite, hkept])

/-- The motion branch writes its frame cleanly, and the link that it leaves is down. -/
def LosesUnnoticed (s : SafetySession) (link : Link) (now : Int)
    (motionOutcome zeroOutcome : WriteOutcome) : Prop :=
  ∃ s₁, Opens s link (.tick now motionOutcome zeroOutcome) s₁ ∧ MotionReady s₁ now ∧
    (motionOutcome.ioResult now).completes commandFrameSize = true ∧
      (motionOutcome.ioResult now).outcomeUncertain = false ∧ motionOutcome.link.connected = false

theorem tick_reported_iff (hwired : s.Wired) :
    (s.tick link now motionOutcome zeroOutcome).Reported ↔
      ¬ s.LosesUnnoticed link now motionOutcome zeroOutcome := by
  constructor
  · rintro hreported ⟨s₁, hopens, hready, hclean, hcertain, hdown⟩
    rw [tick_of_moving hwired hopens hready.moving, if_neg (by simp [hready.not_rateLimited]),
      reported_of_clean hclean rfl] at hreported
    simp [hreported hcertain] at hdown
  · intro hnoticed
    have hticks := s.ticks hwired link now motionOutcome zeroOutcome
    generalize s.tick link now motionOutcome zeroOutcome = cycle at hticks ⊢
    cases hticks with
    | quiet hwrites hmotion hzero => exact reported_of_quiet hwrites hmotion hzero
    | zero hmotion hzero => exact reported_of_zero hmotion hzero
    | @motion s₁ hopens hready =>
      cases hclean : (motionOutcome.ioResult now).completes commandFrameSize with
      | true =>
        refine (reported_of_clean hclean rfl).mpr fun hcertain => ?_
        by_contra hdown
        exact hnoticed ⟨s₁, hopens, hready, hclean, hcertain, by simpa using hdown⟩
      | false =>
        obtain ⟨connection, henters⟩ := hopens.enters
        exact reported_of_unclean hready hopens.accepted.1
          (henters.configurationValid.trans hopens.configured)
          (henters.transport.trans (hwired hopens.configured)) henters.known hclean rfl

end SafetySession

/-- A tick of a run reports on its writes as it should, unless its clean motion write leaves a link
that is down. -/
theorem tick_reported {admits : Link → Link → Prop} {config : SafetyConfig} {h : List Event}
    {w : World} (run : (sessionMachine admits config).Run h w) {s : SafetySession} {link : Link}
    {now : Int} {motionOutcome zeroOutcome : WriteOutcome}
    (he : ⟨s, link, .tick now motionOutcome zeroOutcome⟩ ∈ h) :
    (s.tick link now motionOutcome zeroOutcome).Reported ↔
      ¬ s.LosesUnnoticed link now motionOutcome zeroOutcome :=
  tick_reported_iff (coherent_of_mem run he).wired

theorem tick_reported_replayed :
    ((steadyReplay steadyCalls).2.session.tick steadyLink 105 (wholeWrite 105)
      (wholeWrite 105)).Reported ↔
      ¬ (steadyReplay steadyCalls).2.session.LosesUnnoticed steadyLink 105 (wholeWrite 105)
        (wholeWrite 105) :=
  tick_reported moving_run (by decide +kernel)

/-- A link that goes down in the middle of a clean motion write goes unreported. -/
theorem lost_unnoticed :
    ¬ ∀ (config : SafetyConfig) (h : List Event) (w : World),
      (sessionMachine Link.Evolves config).Run h w →
        ∀ s link now motionOutcome zeroOutcome,
          ⟨s, link, .tick now motionOutcome zeroOutcome⟩ ∈ h →
            (s.tick link now motionOutcome zeroOutcome).Reported := by
  intro hclaim
  let motionOutcome : WriteOutcome :=
    ⟨some ⟨.ok, commandFrameSize, 0, true, false, 105⟩, ⟨false, 1⟩⟩
  let calls : List (Link × Op) :=
    (steadyCalls ++ [Op.tick 105 motionOutcome (wholeWrite 105)]).map fun op => (steadyLink, op)
  have run : (sessionMachine Link.Evolves steadyConfig).Run (steadyStart.replay calls).1
      (steadyStart.replay calls).2 := World.run_replay (by decide +kernel)
  have hreported := hclaim _ _ _ run (steadyReplay steadyCalls).2.session steadyLink 105
    motionOutcome (wholeWrite 105) (by decide +kernel)
  have hdown : ∃ write ∈ ((steadyReplay steadyCalls).2.session.tick steadyLink 105 motionOutcome
      (wholeWrite 105)).writes, write.outcome.link.connected = false := by decide +kernel
  have huncertain := hreported.uncertain (hdown.imp fun _ hwrite =>
    hwrite.imp_right fun hlink => .inr (.inr hlink))
  exact absurd huncertain (by decide +kernel)

end WheeltecVcuSerial
