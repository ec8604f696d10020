import WheeltecVcuSerial.Cli.Conduct

namespace WheeltecVcuSerial.Cli

open Errno Process Text Trace Program

variable {config : RuntimeConfig} {limits : SafetyConfig} {d d' : Service} {stage : Stage}
  {lines : List (List Char)} {s s' : CliState} {made more : List ProcessCall}

/-- What a state of `run` is of the service, with lines that are still to be handled. -/
def CliState.service (s : CliState) (stage : Stage) (lines : List (List Char)) : Service :=
  { guard := s.guard
    stage := stage
    pending := s.pendingInput
    lines := lines
    eof := s.inputEof
    quit := s.quit
    failed := s.inputFailed }

theorem SeesToPort.acts (h : SeesToPort limits s s' made) :
    Acts limits (s.service stage lines) made (s'.service stage lines) := by
  obtain ⟨hmade, hpending, heof, hquit, hfailed, -⟩ := h
  have hservice : s'.service stage lines = { s.service stage lines with guard := s'.guard } := by
    simp only [CliState.service, hpending, heof, hquit, hfailed]
  rw [hservice]
  exact hmade.acts

/-! ### The input -/

variable (limits)

omit limits in
theorem readStdin_makes : Makes readStdin fun answer made => made = [.readStdin answer] := by
  refine .call fun c answer h => ?_
  cases c with
  | readStdin answer' =>
    cases answer' with
    | failed errorNumber =>
      cases h
      rfl
    | delivered data =>
      obtain ⟨-, ⟨⟩⟩ := Option.ite_none_right_eq_some.mp h
      rfl
  | _ => cases h

/-- What `appendStdin` leaves; where it fails, it need not have gone on. -/
def Append (limits : SafetyConfig) (d : Service) (r : Appended) (made : List ProcessCall) : Prop :=
  ∃ stage, Acts limits d made { d with pending := r.pending, eof := r.eof, stage := stage } ∧
    stage ≠ .ended ∧ (r.ok = true → stage = .inRound)

theorem appendStdin_makes {d : Service} (hstage : d.stage = .inRound)
    (hlines : d.lines = []) (hquit : d.quit = false) :
    Makes (appendStdin d.pending d.eof) (Append limits d) := by
  refine .loop (I := fun pending made => Acts limits d made { d with pending := pending }) .refl
    fun pending made hmade => .bind readStdin_makes ?_
  rintro answer _ rfl
  cases answer with
  | failed errorNumber =>
    refine .ite (fun htransient => .pure ?_) fun heintr => .ite (fun hagain => .pure ?_)
      fun hfatal => .pure ?_
    · rw [List.append_nil]
      exact hmade.next (.interrupted (by simp [transientErrors, htransient]))
    · rw [List.append_nil]
      refine ⟨.inRound, ?_, nofun, fun _ => rfl⟩
      rw [← hstage]
      refine hmade.next (.interrupted ?_)
      simpa [transientErrors, heintr] using hagain
    · rw [List.append_nil]
      refine ⟨.over, hmade.next (.unreadable hstage ?_), nofun, nofun⟩
      simpa [transientErrors, heintr] using hfatal
  | delivered data =>
    cases data with
    | nil =>
      refine .pure ⟨.inRound, ?_, nofun, fun _ => rfl⟩
      rw [List.append_nil, ← hstage]
      exact hmade.next (.ended hstage hlines hquit)
    | cons c data =>
      have hread := hmade.next (.read hstage hlines hquit (List.cons_ne_nil c data))
      refine .ite (fun _ => .pure ⟨.inRound, ?_, nofun, nofun⟩) fun _ => .pure ?_
      · rw [List.append_nil, ← hstage]
        exact hread
      · rw [List.append_nil]
        exact hread

/-- The calls that stand where `run` ends because of a failure. -/
def failing : ProcessCall → Bool
  | .session ⟨_, _, .disarm _⟩ _ => true
  | .monotonicNow ns => ns ≤ 0
  | _ => false

omit limits in
theorem failing_of_disarm {e : Event} {answers : List PortEvent} {now : Int}
    (hop : e.op = .disarm now) : failing (.session e answers) = true := by
  obtain ⟨_, _, _⟩ := e
  cases hop
  rfl

theorem failInput_makes (s : CliState) (nowNs : Int) :
    Makes (s.failInput nowNs) fun s' made =>
      s'.inputFailed = true ∧ s'.stdinMode = s.stdinMode ∧ (∃ x ∈ made, failing x = true) ∧
        ∀ d : Service, d.guard = s.guard → d.stage ≠ .ended →
          Acts limits d made { d with guard := s'.guard, stage := .over } := by
  refine .bind (s.perform_makes fun _ => rfl) ?_
  rintro g _ ⟨e, rfl, hop, hguard⟩
  have hfailing : failing (.session e []) = true := failing_of_disarm hop
  refine .pure ⟨rfl, rfl, by simp [hfailing], fun d hd hstage => (Act.disarm hstage hop ?_).acts⟩
  rw [hd]
  exact hguard

/-- The three calls of a line. -/
structure LineMade (s : CliState) (line : List Char) (s' : CliState) (ns : Int) (e : Event) :
    Prop where
  op : e.op = (processLine line ns).1
  guard : WheeltecVcuSerial.guard s.guard (.session e []) = some s'.guard
  quit : s'.quit = (s.quit || (processLine line ns).2.quit)
  failed : s'.inputFailed = (s.inputFailed || !(processLine line ns).2.valid)
  pending : s'.pendingInput = s.pendingInput
  eof : s'.inputEof = s.inputEof
  stdinMode : s'.stdinMode = s.stdinMode
  receiving : s'.parser = s.parser ∧ s'.serialBuffer = s.serialBuffer ∧
    s'.nextReconnectNs = s.nextReconnectNs

omit limits in
theorem processLine_makes (s : CliState) (line : List Char) :
    Makes (s.processLine line) fun s' made =>
      ∃ ns e, made = [.processLine line, .monotonicNow ns, .session e []] ∧
        LineMade s line s' ns e := by
  refine .bind (show Makes _ fun r made => ∃ ns e,
    made = [.processLine line, .monotonicNow ns, .session e []] ∧
      r.1 = (processLine line ns).2 ∧ e.op = (processLine line ns).1 ∧
        guard s.guard (.session e []) = some r.2.guard from ?_) ?_
  · refine .bind (show Makes _ fun _ made => made = [.processLine line] from ?_) ?_
    · refine .call fun c _ h => ?_
      cases c with
      | processLine line' =>
        obtain ⟨rfl, -⟩ := Option.ite_none_right_eq_some.mp h
        rfl
      | _ => cases h
    · rintro _ _ rfl
      refine .bind monotonicNowNs_makes ?_
      rintro ns _ rfl
      have htick : ∀ now, (processLine line ns).1.isTick now = false := by
        intro now
        have hcall := processLine_call line ns
        generalize processLine line ns = called at hcall
        cases hcall <;> rfl
      refine .bind (s.toGuardedPort.perform_makes htick) ?_
      rintro g _ ⟨e, rfl, hop, hguard⟩
      exact .pure ⟨ns, e, rfl, rfl, hop, hguard⟩
  · rintro ⟨result, g⟩ _ ⟨ns, e, rfl, rfl, hop, hguard⟩
    exact .pure ⟨ns, e, rfl, hop, hguard, rfl, rfl, rfl, rfl, rfl, rfl, rfl, rfl⟩

omit limits in
/-- Where a line is invalid, the session is disarmed. -/
theorem failing_of_line {e : Event} {line : List Char} {ns : Int}
    (hop : e.op = (processLine line ns).1) (hvalid : (processLine line ns).2.valid = false) :
    failing (.session e []) = true := by
  have hcall := processLine_call line ns
  generalize processLine line ns = called at hop hvalid hcall
  cases hcall <;> first | exact failing_of_disarm hop | cases hvalid

/-- What the lines of a round leave. -/
structure LinesMade (limits : SafetyConfig) (s : CliState) (lines : List (List Char))
    (s' : CliState) (made : List ProcessCall) : Prop where
  stdinMode : s'.stdinMode = s.stdinMode
  acts : ∃ d', Acts limits (s.service .inRound lines) made d' ∧ d'.guard = s'.guard ∧
    d'.stage ≠ .ended ∧ (s'.inputFailed = false → d' = s'.service .inRound [])
  kept : s'.inputFailed = false →
    s'.pendingInput = s.pendingInput ∧ s'.inputEof = s.inputEof
  failed : s'.inputFailed = true → s.inputFailed = true ∨ ∃ x ∈ made, failing x = true

theorem processLines_makes (nowNs : Int) (s : CliState) (lines : List (List Char)) :
    Makes (s.processLines nowNs lines) (LinesMade limits s lines) := by
  induction lines generalizing s with
  | nil => exact .pure ⟨rfl, ⟨_, .refl, rfl, nofun, fun _ => rfl⟩, fun _ => ⟨rfl, rfl⟩, .inl⟩
  | cons line lines ih =>
    refine .ite (fun _ => ?_) fun hshort => ?_
    · refine (failInput_makes limits s nowNs).weaken ?_
      rintro s' made ⟨hfailed, hmode, hfailing, hacts⟩
      exact ⟨hmode, ⟨_, hacts _ rfl nofun, rfl, nofun, by simp [hfailed]⟩, by simp [hfailed],
        fun _ => .inr hfailing⟩
    · refine .bind (processLine_makes s line) ?_
      rintro s₁ _ ⟨ns, e, rfl, hop, hguard, hquit, hfailed, hpending, heof, hmode, -⟩
      have hfailing (h : s₁.inputFailed = true) :
          s.inputFailed = true ∨ failing (.session e []) = true := by
        rw [hfailed, Bool.or_eq_true, Bool.not_eq_true'] at h
        exact h.imp_right (failing_of_line hop)
      have hline : Act limits (s.service .inRound (line :: lines))
          [.processLine line, .monotonicNow ns, .session e []] (s₁.service .inRound lines) := by
        simp only [CliState.service, hquit, hfailed, hpending, heof]
        exact .line rfl rfl (not_lt.mp hshort) hop hguard
      refine (ih s₁).weaken ?_
      rintro s' made ⟨hmode', ⟨d', hacts, hd'⟩, hkept, hfailed'⟩
      refine ⟨hmode'.trans hmode, ⟨d', hline.acts.trans hacts, hd'⟩, fun hvalid => ?_,
        fun hinvalid => ?_⟩
      · exact ⟨(hkept hvalid).1.trans hpending, (hkept hvalid).2.trans heof⟩
      · rcases hfailed' hinvalid with hfirst | ⟨x, hx, hxfailing⟩
        · exact (hfailing hfirst).imp_right fun h => ⟨_, by simp, h⟩
        · exact .inr ⟨x, by simp [hx], hxfailing⟩

theorem processTrailing_makes (s : CliState) (heof : s.inputEof = true)
    (hpending : '\n' ∉ s.pendingInput) :
    Makes s.processTrailing fun s' made =>
      Acts limits (s.service .inRound []) made (s'.service .inRound []) ∧ s'.quit = true ∧
        s'.pendingInput = [] ∧ s'.stdinMode = s.stdinMode := by
  refine .ite (fun hne => ?_) fun hempty => ?_
  · refine .bind (processLine_makes s _) ?_
    rintro s₁ _ ⟨ns, e, rfl, hop, hguard, hquit, hfailed, -, heof', hmode, -⟩
    refine .pure ⟨?_, rfl, rfl, hmode⟩
    simp only [List.append_nil, CliState.service, hfailed, heof']
    exact (Act.trailing rfl heof rfl hne hpending hop hguard).acts
  · have hempty : s.pendingInput = [] := not_not.mp hempty
    exact .pure ⟨(Act.spent rfl heof rfl hempty).acts, rfl, hempty, rfl⟩

/-- Why `run` leaves its loop: a failure, or what it has been told by its input or by a signal. -/
def Leaves (s : CliState) (d : Service) (made : List ProcessCall) : Prop :=
  s.inputFailed = true ∧ d.stage ≠ .ended ∧ (∃ x ∈ made, failing x = true) ∨
    d = s.service .head [] ∧ (s.quit = true ∨ .shutdownRequested true ∈ made)

omit limits in
theorem Leaves.after (h : Leaves s d more) (made : List ProcessCall) :
    Leaves s d (made ++ more) := by
  refine h.imp (.imp_right (.imp_right ?_)) (.imp_right (.imp_right (List.mem_append_right made)))
  rintro ⟨x, hx, hfailing⟩
  exact ⟨x, List.mem_append_right made hx, hfailing⟩

omit limits in
theorem Leaves.not_ended (h : Leaves s d made) : d.stage ≠ .ended := by
  rcases h with ⟨-, hstage, -⟩ | ⟨rfl, -⟩
  · exact hstage
  · simp [CliState.service]

/-- Where a round leaves the service, and the input in the mode that it was in. -/
def Phase.Stands (limits : SafetyConfig) (mode : NonblockingStdin) (d : Service)
    (made : List ProcessCall) : Phase → Prop
  | .starting => False
  | .running s => s.stdinMode = mode ∧ Acts limits d made (s.service .head []) ∧
      (s.inputFailed = true → s.quit = true)
  | .leaving s => s.stdinMode = mode ∧ ∃ d', Acts limits d made d' ∧ d'.guard = s.guard ∧
      Leaves s d' made

omit limits in
theorem Acts.stands {limits : SafetyConfig} {mode : NonblockingStdin} {phase : Phase}
    (h : Acts limits d made d') (hphase : phase.Stands limits mode d' more) :
    phase.Stands limits mode d (made ++ more) := by
  cases phase with
  | starting => exact hphase
  | running s => exact ⟨hphase.1, h.trans hphase.2.1, hphase.2.2⟩
  | leaving s =>
    obtain ⟨hmode, d'', hacts, hd'', hleaves⟩ := hphase
    exact ⟨hmode, d'', h.trans hacts, hd'', hleaves.after made⟩

/-! ### Rounds -/

theorem tickAndWait_makes (s : CliState) (hpending : '\n' ∉ s.pendingInput)
    (heof : s.inputEof = true → s.quit = true ∧ s.pendingInput = [])
    (hfailed : s.inputFailed = true → s.quit = true) :
    Makes s.tickAndWait fun phase made =>
      phase.Stands limits s.stdinMode (s.service .inRound []) made := by
  refine .bind monotonicNowNs_makes ?_
  rintro ns _ rfl
  refine .bind (s.tick_makes ns) ?_
  rintro g _ ⟨e, answers, rfl, htick, hguard⟩
  have hclock : Acts limits (s.service .inRound []) [.monotonicNow ns] (s.service .inRound []) :=
    .aside (by simp [ProcessCall.aside])
  have hacts := hclock.next (.tick rfl rfl hpending heof hfailed htick hguard)
  refine .bind waitForStdin_makes ?_
  rintro answer _ ⟨again, more, rfl, hagain, hmore⟩
  have hrunning (h : (ProcessCall.pollStdin answer).aside = true) :
      Acts limits (s.service .inRound []) ([.monotonicNow ns] ++ ([.session e answers] ++
        (again ++ .pollStdin answer :: more ++ []))) ((s.withGuarded g).service .head []) := by
    have hwait : Aside (again ++ .pollStdin answer :: more ++ []) := by
      simpa [Aside, or_imp, forall_and, h] using ⟨hagain, hmore⟩
    rw [← List.append_assoc]
    exact hacts.trans (.aside hwait)
  split
  · case h_1 errorNumber =>
    refine .ite (fun heintr => .pure ⟨rfl, hrunning ?_, hfailed⟩) fun heintr => ?_
    · simpa [ProcessCall.aside] using heintr
    · refine .bind (failInput_makes limits _ ns) ?_
      rintro s' made ⟨hinvalid, hmode, ⟨x, hx, hfailing⟩, hdisarm⟩
      have hpoll := ((hacts.trans (.aside hagain)).next (.unpolled (by simp) heintr)).trans
        (.aside hmore)
      have hleft := hpoll.trans (hdisarm _ rfl (by simp))
      exact .pure ⟨hmode, _, by simpa using hleft, rfl,
        .inl ⟨hinvalid, by simp, x, by simp [hx], hfailing⟩⟩
  · case h_2 hnot =>
    refine .pure ⟨rfl, hrunning ?_, hfailed⟩
    cases answer with
    | failed errorNumber => exact absurd rfl (hnot errorNumber)
    | _ => rfl

omit limits in
/-- What is left of the input has no newline. -/
theorem newline_not_mem_rest (pending : List Char) : '\n' ∉ (takeCompleteLines pending).2 := by
  rw [takeCompleteLines_eq]
  exact (joined_cut '\n' pending).2.2

theorem takeInput_makes (s : CliState) (nowNs : Int) (hquit : s.quit = false)
    (hfailed : s.inputFailed = false) :
    Makes (s.takeInput nowNs) fun phase made =>
      phase.Stands limits s.stdinMode (s.service .inRound []) made := by
  refine .bind (appendStdin_makes limits (d := s.service .inRound []) rfl rfl hquit) ?_
  rintro input made ⟨stage, hacts, hstage, hok⟩
  refine .ite (fun _ => ?_) fun hgood => ?_
  · refine .bind (failInput_makes limits _ nowNs) ?_
    rintro s' more ⟨hinvalid, hmode, ⟨x, hx, hfailing⟩, hdisarm⟩
    have hleft := hacts.trans (hdisarm _ rfl hstage)
    exact .pure ⟨hmode, _, by simpa using hleft, rfl,
      .inl ⟨hinvalid, by simp, x, by simp [hx], hfailing⟩⟩
  obtain rfl := hok (by simpa using hgood)
  have htaken := hacts.next (.take rfl rfl hquit)
  rw [List.append_nil] at htaken
  refine .bind (processLines_makes limits nowNs _ _) ?_
  rintro s₁ more ⟨hmode, ⟨d', hlines, hd', hopen, hdone⟩, hkept, hfailed₁⟩
  refine .ite (fun hinvalid => .pure ?_) fun hvalid => ?_
  · rw [List.append_nil]
    refine ⟨hmode, d', htaken.trans hlines, hd', .inl ⟨hinvalid, hopen, ?_⟩⟩
    obtain ⟨x, hx, hfailing⟩ := (hfailed₁ hinvalid).resolve_left (by simp [hfailed])
    exact ⟨x, List.mem_append_right _ hx, hfailing⟩
  have hvalid : s₁.inputFailed = false := Bool.eq_false_iff.mpr hvalid
  obtain rfl := hdone hvalid
  obtain ⟨hpending, heof⟩ := hkept hvalid
  have hnewline : '\n' ∉ s₁.pendingInput := hpending ▸ newline_not_mem_rest _
  have hhandled := htaken.trans hlines
  simp only [← List.append_assoc]
  rw [← (show s₁.stdinMode = s.stdinMode from hmode)]
  refine .ite (fun hended => ?_) fun hopen => ?_
  · refine .bind (processTrailing_makes limits s₁ hended hnewline) ?_
    rintro s₂ trailed ⟨htrailing, hquit₂, hpending₂, hmode₂⟩
    rw [← hmode₂]
    refine (tickAndWait_makes limits s₂ (by simp [hpending₂]) (fun _ => ⟨hquit₂, hpending₂⟩)
      fun _ => hquit₂).weaken fun phase ticked hphase => ?_
    rw [← List.append_assoc]
    exact (hhandled.trans htrailing).stands hphase
  · exact (tickAndWait_makes limits s₁ hnewline (fun hended => absurd hended hopen)
      (by simp [hvalid])).weaken fun phase ticked hphase => hhandled.stands hphase

theorem round_makes (s : CliState) (hfailed : s.inputFailed = true → s.quit = true) :
    Makes (s.round config) fun phase made =>
      phase.Stands limits s.stdinMode (s.service .head []) made := by
  refine .ite (fun hquit => .pure ⟨rfl, _, .refl, rfl, .inr ⟨rfl, .inl hquit⟩⟩) fun hquit => ?_
  have hquit : s.quit = false := Bool.eq_false_iff.mpr hquit
  have hfailed : s.inputFailed = false := by simpa [hquit] using hfailed
  refine .bind shutdownRequested_makes ?_
  rintro value _ rfl
  refine .ite (fun hshutdown => .pure ?_) fun hserving => ?_
  · refine ⟨rfl, _, .aside (by simp [ProcessCall.aside]), rfl, .inr ⟨rfl, .inr ?_⟩⟩
    simp [hshutdown]
  obtain rfl : value = false := by simpa using hserving
  have henter : Acts limits (s.service .head []) [.shutdownRequested false]
      (s.service .inRound []) := (Act.enter rfl hquit).acts
  refine .bind monotonicNowNs_makes ?_
  rintro ns _ rfl
  have hclock : Acts limits (s.service .inRound []) [.monotonicNow ns] (s.service .inRound []) :=
    .aside (by simp [ProcessCall.aside])
  have hentered := henter.trans hclock
  refine .ite (fun hns => ?_) fun _ => ?_
  · refine .bind (latch_makes limits s ns) fun g made hmade => ?_
    have hleft : Acts limits _ _ ((s.withGuarded g).service .inRound []) :=
      hentered.trans hmade.acts
    have hfailing : failing (.monotonicNow ns) = true := by simpa [failing] using hns
    exact .pure ⟨rfl, _, by simpa using hleft, rfl,
      .inl ⟨rfl, by simp [CliState.service], _, by simp, hfailing⟩⟩
  · refine .bind (receive_makes limits s ns) ?_
    rintro s' made hmade
    have hquit' : s'.quit = false := hmade.2.quit.trans hquit
    rw [← hmade.2.stdinMode]
    have hfailed' : s'.inputFailed = false := hmade.2.inputFailed.trans hfailed
    refine (takeInput_makes limits s' ns hquit' hfailed').weaken fun phase more hphase => ?_
    rw [← List.append_assoc, ← List.append_assoc]
    exact (hentered.trans hmade.acts).stands hphase

end WheeltecVcuSerial.Cli
