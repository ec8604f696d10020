import WheeltecVcuSerial.Cli.Refinement

namespace WheeltecVcuSerial.Cli

open Trace Program

variable {config : RuntimeConfig} {limits : SafetyConfig} {d d' : Service} {s : CliState}
  {made more : List ProcessCall} {h : List (List ProcessCall)} {code : Nat}

/-! ### The loop -/

def disarms : ProcessCall → Bool
  | .session ⟨_, _, .disarm _⟩ _ => true
  | _ => false

theorem disarms_of_op {e : Event} {answers : List PortEvent} :
    disarms (.session e answers) = true ↔ ∃ now, e.op = .disarm now := by
  obtain ⟨_, _, op⟩ := e
  cases op <;> simp [disarms]

/-- In the loop. -/
def Service.Open (d : Service) : Prop := d.stage = .head ∨ d.stage = .inRound

/-- What the state of a service tells of its calls. -/
structure Told (d : Service) (made : List ProcessCall) : Prop where
  failed : d.failed = true → ∃ x ∈ made, failing x = true
  armed : d.Open → d.failed = false → ∀ x ∈ made, disarms x = false
  eof : d.eof = true → .readStdin (.delivered []) ∈ made
  quit : d.quit = true →
    (∃ line, .processLine line ∈ made ∧ quits line = true) ∨ .readStdin (.delivered []) ∈ made
  kept : d.stage ≠ .ended → ∀ x ∈ made, direct x = false

/-- What more calls add to it. -/
theorem Told.grow (h : Told d made)
    (hfailed : d'.failed = true → d.failed = true ∨ ∃ x ∈ more, failing x = true)
    (harmed : d'.Open → d'.failed = false →
      (d.Open ∧ d.failed = false) ∧ ∀ x ∈ more, disarms x = false)
    (heof : d'.eof = true → d.eof = true ∨ .readStdin (.delivered []) ∈ more)
    (hquit : d'.quit = true → d.quit = true ∨ d.eof = true ∨
      ∃ line, .processLine line ∈ more ∧ quits line = true)
    (hkept : d'.stage ≠ .ended → d.stage ≠ .ended ∧ ∀ x ∈ more, direct x = false) :
    Told d' (made ++ more) where
  failed hd := by
    rcases hfailed hd with hbefore | ⟨x, hx, hfailing⟩
    · obtain ⟨x, hx, hfailing⟩ := h.failed hbefore
      exact ⟨x, List.mem_append_left _ hx, hfailing⟩
    · exact ⟨x, List.mem_append_right _ hx, hfailing⟩
  armed hopen hd := by
    obtain ⟨⟨hbefore, hvalid⟩, hmore⟩ := harmed hopen hd
    exact List.forall_mem_append.mpr ⟨h.armed hbefore hvalid, hmore⟩
  eof hd := List.mem_append.mpr ((heof hd).imp_left h.eof)
  quit hd := by
    rcases hquit hd with hbefore | hended | ⟨line, hline, hquits⟩
    · rcases h.quit hbefore with ⟨line, hline, hquits⟩ | hended
      · exact .inl ⟨line, List.mem_append_left _ hline, hquits⟩
      · exact .inr (List.mem_append_left _ hended)
    · exact .inr (List.mem_append_left _ (h.eof hended))
    · exact .inl ⟨line, List.mem_append_right _ hline, hquits⟩
  kept hd := by
    obtain ⟨hbefore, hmore⟩ := hkept hd
    exact List.forall_mem_append.mpr ⟨h.kept hbefore, hmore⟩

/-- Calls that leave the flags as they are. -/
theorem Told.plain (h : Told d made) (hfailed : d'.failed = d.failed) (heof : d'.eof = d.eof)
    (hquit : d'.quit = d.quit) (harmed : d'.Open → d.Open ∧ ∀ x ∈ more, disarms x = false)
    (hkept : d'.stage ≠ .ended → d.stage ≠ .ended ∧ ∀ x ∈ more, direct x = false) :
    Told d' (made ++ more) := by
  refine h.grow (fun hd => .inl (hfailed ▸ hd)) (fun hopen hd => ?_) (fun hd => .inl (heof ▸ hd))
    (fun hd => .inl (hquit ▸ hd)) hkept
  exact ⟨⟨(harmed hopen).1, hfailed ▸ hd⟩, (harmed hopen).2⟩

/-- A valid line is no disarm. -/
theorem not_disarms_of_valid {line : List Char} {ns : Int} {e : Event}
    (hop : e.op = (processLine line ns).1) (hvalid : (processLine line ns).2.valid = true) :
    disarms (.session e []) = false := by
  rw [Bool.eq_false_iff, Ne, disarms_of_op, hop]
  rintro ⟨now, hdisarm⟩
  have hcall := processLine_call line ns
  generalize processLine line ns = called at hdisarm hvalid hcall
  cases hcall with
  | invalid => cases hvalid
  | _ => cases hdisarm

theorem Told.line {line : List Char} {ns : Int} {e : Event} (h : Told d made)
    (hstage : d.stage = .inRound) (hop : e.op = (processLine line ns).1)
    (heof : d'.eof = d.eof)
    (hquit : d'.quit = true → d.quit = true ∨ d.eof = true ∨ (processLine line ns).2.quit = true)
    (hfailed : d'.failed = (d.failed || !(processLine line ns).2.valid)) :
    Told d' (made ++ [.processLine line, .monotonicNow ns, .session e []]) := by
  refine h.grow (fun hd => ?_) (fun _ hd => ?_) (fun hd => .inl (heof ▸ hd)) (fun hd => ?_)
    (fun _ => ⟨by simp [hstage], by simp [direct]⟩)
  · rw [hfailed, Bool.or_eq_true, Bool.not_eq_true'] at hd
    exact hd.imp_right fun hvalid => ⟨_, by simp, failing_of_line hop hvalid⟩
  · rw [hfailed, Bool.or_eq_false_iff, Bool.not_eq_false'] at hd
    have hline := not_disarms_of_valid hop hd.2
    refine ⟨⟨.inr hstage, hd.1⟩, ?_⟩
    rw [List.forall_mem_cons, List.forall_mem_cons, List.forall_mem_singleton]
    exact ⟨rfl, rfl, hline⟩
  · exact (hquit hd).imp_right (.imp_right fun hline => ⟨line, by simp, quits_of_quit hline⟩)

theorem Told.act (h : Told d made) (hact : Act limits d more d') : Told d' (made ++ more) := by
  cases hact with
  | @call g call hcall hguard =>
    have hdisarms : disarms call = false := by
      cases call with
      | session e answers =>
        obtain ⟨_, _, op⟩ := e
        cases op <;> first | rfl | cases hcall
      | _ => rfl
    refine h.plain rfl rfl rfl (fun hopen => ⟨hopen, by simpa using hdisarms⟩) fun hd => ⟨hd, ?_⟩
    simpa using not_direct_of_ordinary hcall
  | enter hstage =>
    exact h.plain rfl rfl rfl (fun _ => ⟨.inl hstage, by simp [disarms]⟩) fun _ =>
      ⟨by simp [hstage], by simp [direct]⟩
  | leave hstage =>
    exact h.plain rfl rfl rfl (by simp [Service.Open]) fun _ => ⟨hstage, by simp⟩
  | read hstage =>
    exact h.plain rfl rfl rfl (fun hopen => ⟨hopen, by simp [disarms]⟩) fun _ =>
      ⟨by simp [hstage], by simp [direct]⟩
  | ended hstage =>
    exact h.grow .inl (fun hopen hd => ⟨⟨hopen, hd⟩, by simp [disarms]⟩) (fun _ => .inr (by simp))
      .inl fun _ => ⟨by simp [hstage], by simp [direct]⟩
  | interrupted =>
    exact h.plain rfl rfl rfl (fun hopen => ⟨hopen, by simp [disarms]⟩) fun hd =>
      ⟨hd, by simp [direct]⟩
  | unreadable hstage =>
    exact h.plain rfl rfl rfl (by simp [Service.Open]) fun _ =>
      ⟨by simp [hstage], by simp [direct]⟩
  | take hstage =>
    exact h.plain rfl rfl rfl (fun hopen => ⟨hopen, by simp⟩) fun _ => ⟨by simp [hstage], by simp⟩
  | line hstage _ _ hop =>
    refine h.line hstage hop rfl (fun hd => ?_) rfl
    rw [Bool.or_eq_true] at hd
    exact hd.imp_right .inr
  | trailing hstage heof _ _ _ hop =>
    exact h.line hstage hop rfl (fun _ => .inr (.inl heof)) rfl
  | spent hstage heof =>
    exact h.grow .inl (fun hopen hd => ⟨⟨hopen, hd⟩, by simp⟩) .inl (fun _ => .inr (.inl heof))
      fun hd => ⟨hd, by simp⟩
  | disarm hstage =>
    exact h.plain rfl rfl rfl (by simp [Service.Open]) fun _ => ⟨hstage, by simp [direct]⟩
  | @tick e answers g now hstage _ _ _ _ htick =>
    have hdisarms : disarms (.session e answers) = false := by
      obtain ⟨_, _, op⟩ := e
      cases op <;> first | rfl | cases htick
    exact h.plain rfl rfl rfl (fun _ => ⟨.inr hstage, by simpa using hdisarms⟩) fun _ =>
      ⟨by simp [hstage], by simp [direct]⟩
  | unpolled hstage =>
    exact h.plain rfl rfl rfl (by simp [Service.Open]) fun _ => ⟨hstage, by simp [direct]⟩
  | stop hstage =>
    exact h.plain rfl rfl rfl (by simp [Service.Open, hstage]) fun hd => ⟨hd, by simp [direct]⟩
  | pass hstage =>
    exact h.plain rfl rfl rfl (by simp [Service.Open]) (by simp)
  | zero hstage =>
    exact h.plain rfl rfl rfl (by simp [Service.Open, hstage]) fun hd => absurd hstage hd

theorem Acts.told (hacts : Acts limits { guard := opening config } made d) : Told d made :=
  hacts.invariant ⟨nofun, by simp, nofun, nofun, by simp⟩ fun _ h hact => h.act hact

/-! ### The end -/

theorem complete_of_exitCode : ∀ success shutdown failed,
    exitCode success shutdown failed ∈ [0, 7, 130] → success = true := by decide

theorem uncertain_of_exitCode : ∀ success shutdown failed,
    exitCode success shutdown failed ∈ [8, 9, 131] → success = false := by decide

theorem interrupted_of_exitCode : ∀ success shutdown failed,
    exitCode success shutdown failed ∈ [130, 131] → shutdown = true := by decide

theorem failed_of_exitCode : ∀ success shutdown failed,
    exitCode success shutdown failed ∈ [7, 8] → failed = true := by decide

theorem fine_of_exitCode : ∀ success shutdown failed,
    exitCode success shutdown failed ∈ [0, 9] → failed = false := by decide

theorem exitCode_among : ∀ success shutdown failed,
    exitCode success shutdown failed ∈ [0, 7, 8, 9, 130, 131] := by decide

/-- What the exit code tells of a process that has had its loop: `loop` is all that it did until the
loop was over, `rest` is what it did then. -/
structure Tells (config : RuntimeConfig) (loop rest : List ProcessCall) (code : Nat) : Prop where
  among : code ∈ [0, 7, 8, 9, 130, 131]
  kept : ∀ x ∈ loop, direct x = false
  attempts : (rest.filter direct).length ≤ config.zeroRetryAttempts
  stopped : code ∈ [0, 7, 130] → ∃ before e after, portTrace rest = before ++ e :: after ∧
    completes e = true ∧ e.record.call.writes = true ∧ e.record.call.harmless = true ∧
      ∀ x ∈ after, x.record.call = .close
  uncertain : code ∈ [8, 9, 131] →
    ∀ e, .port e ∈ rest → e.record.call.writes = true → completes e = false
  interrupted : code ∈ [130, 131] → .shutdownRequested true ∈ rest
  failed : code ∈ [7, 8] → ∃ x ∈ loop, failing x = true
  served : code ∈ [0, 9] → .shutdownRequested true ∉ loop → (∀ x ∈ loop, disarms x = false) ∧
    ((∃ line, .processLine line ∈ loop ∧ quits line = true) ∨ .readStdin (.delivered []) ∈ loop)

theorem Stopped.direct {ns : Int} {g g' : GuardedPort} (h : Stopped g ns made g') :
    ∀ x ∈ made, direct x = false := by
  cases h <;> simp [Cli.direct]

theorem Restored.direct {mode : NonblockingStdin} (h : Restored mode made) :
    ∀ x ∈ made, direct x = false := by
  intro x hx
  obtain ⟨reply, rfl⟩ := h.sets x hx
  rfl

theorem Closed.filter_direct {p p' : SerialPort} (h : Closed limits p made p') :
    made.filter direct = [] :=
  (h.calls none).filter_direct

theorem filter_direct_of_kept (h : ∀ x ∈ made, direct x = false) : made.filter direct = [] :=
  List.filter_eq_nil_iff.mpr fun x hx => Bool.eq_false_iff.mp (h x hx)

/-- The last attempt has gone through, if any has. -/
theorem Attempts.last {p p' : SerialPort} (h : Attempts limits p true p' made) :
    ∃ before e, portTrace made = before ++ [e] ∧ completes e = true := by
  obtain ⟨failures, houtcomes⟩ := h.outcomes
  obtain ⟨before, after, htrace, -, hafter⟩ := List.map_eq_append_iff.mp houtcomes
  obtain ⟨e, rest, rfl, hcompletes, hrest⟩ := List.map_eq_cons_iff.mp hafter
  obtain rfl := List.map_eq_nil_iff.mp hrest
  exact ⟨before, e, htrace, hcompletes⟩

theorem Attempts.failures {p p' : SerialPort} (h : Attempts limits p false p' made) :
    ∀ e ∈ portTrace made, completes e = false := by
  obtain ⟨failures, houtcomes⟩ := h.outcomes
  intro e he
  have hmem : completes e ∈ (portTrace made).map completes := List.mem_map_of_mem he
  rw [houtcomes] at hmem
  exact (List.mem_replicate.mp (by simpa using hmem)).2

/-- Without a failure, the loop is left at its head. -/
theorem Finished.head (h : Finished config limits s code more) (hleaves : Leaves s d made)
    (hcode : code ∈ [0, 9]) : d.stage = .head := by
  cases h with
  | mk =>
    rcases hleaves with ⟨hfailed, -⟩ | ⟨rfl, -⟩
    · rw [fine_of_exitCode _ _ _ hcode] at hfailed
      cases hfailed
    · rfl

theorem Finished.tells {loop rest : List ProcessCall} (h : Finished config limits s code rest)
    (htold : Told d loop) (hleaves : Leaves s d loop) : Tells config loop rest code := by
  have hfailing (hfailed : s.inputFailed = true) : ∃ x ∈ loop, failing x = true := by
    rcases hleaves with ⟨-, -, hfailing⟩ | ⟨rfl, -⟩
    · exact hfailing
    · exact htold.failed hfailed
  cases h with
  | @mk ns stopped g success p attempted closing p' restored destroying p'' shutdown hstopped
      hattempts hcount hclosing hrestored hdestroying =>
    have hdirect : (ProcessCall.monotonicNow ns :: (stopped ++ (attempted ++ (closing ++
        .shutdownRequested shutdown :: (restored ++ destroying))))).filter direct =
          attempted.filter direct := by
      simp [filter_direct_of_kept hstopped.direct, filter_direct_of_kept hrestored.direct,
        hclosing.filter_direct, hdestroying.filter_direct, direct]
    have hrestoring : portTrace restored = [] := portTrace_of_aside hrestored.aside
    refine ⟨exitCode_among .., htold.kept hleaves.not_ended, ?_, fun hcode => ?_,
      fun hcode e he hwrites => ?_, fun hcode => ?_, fun hcode => hfailing ?_,
      fun hcode hunseen => ?_⟩
    · rw [hdirect, hattempts.filter_direct]
      exact hcount
    · obtain rfl := complete_of_exitCode _ _ _ hcode
      obtain ⟨before, e, htrace, hcompletes⟩ := hattempts.last
      have he : e ∈ portTrace attempted := by simp [htrace]
      obtain ⟨deadlineNs, hcall⟩ := hattempts.zero e he
      refine ⟨portTrace stopped ++ before, e, portTrace closing ++ portTrace destroying, ?_,
        hcompletes, by simp [hcall, PortCall.writes], hattempts.unmoved e he, ?_⟩
      · simp [portTrace_append, htrace, hrestoring, ProcessCall.portEvents]
      · exact List.forall_mem_append.mpr ⟨hclosing.quiet, hdestroying.quiet⟩
    · obtain rfl := uncertain_of_exitCode _ _ _ hcode
      have hattempt : .port e ∈ attempted := by
        have hmem := List.mem_filter.mpr ⟨he, show direct (.port e) = true from hwrites⟩
        rw [hdirect] at hmem
        exact (List.mem_filter.mp hmem).1
      exact hattempts.failures e
        (List.mem_flatMap.mpr ⟨_, hattempt, by simp [ProcessCall.portEvents]⟩)
    · obtain rfl := interrupted_of_exitCode _ _ _ hcode
      simp
    · exact failed_of_exitCode _ _ _ hcode
    · have hfine := fine_of_exitCode _ _ _ hcode
      rcases hleaves with ⟨hfailed, -⟩ | ⟨rfl, hquit⟩
      · simp [hfine] at hfailed
      · exact ⟨htold.armed (.inl rfl) hfine, htold.quit (hquit.resolve_right hunseen)⟩

/-- What the exit code of a process tells.  The codes that stand for a refusal come from a process
that has not moved the vehicle. -/
theorem exit_code (run : (process config).Run h (.inr code)) :
    (code ∈ [4, 5, 6] ∧ Unmoved (called h) ∧
      ((called h).filter direct).length ≤ config.zeroRetryAttempts ∧
        (code ≠ 6 → ∀ e ∈ portTrace (called h), e.record.call.writes = false)) ∨
    ∃ loop rest, called h = loop ++ rest ∧ Tells config loop rest code := by
  have hover : Over config (makeSafetyConfig config) code (called h) := conducted run
  generalize called h = trace at hover
  cases hover with
  | refused hrefused =>
    exact .inl ⟨hrefused.among, hrefused.unmoved, hrefused.attempts, hrefused.unwritten⟩
  | finished hacts _ hleaves _ _ hfinished =>
    exact .inr ⟨_, _, rfl, hfinished.tells hacts.told hleaves⟩

theorem drive_exit_code : ∃ loop rest, called drive.reverse = loop ++ rest ∧
    Tells driveConfig loop rest 0 :=
  (exit_code drive_run).resolve_left fun hrefused => by simp at hrefused

end WheeltecVcuSerial.Cli
