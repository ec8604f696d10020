import WheeltecVcuSerial.Cli.Rounds

namespace WheeltecVcuSerial.Cli

open Errno Process Text Trace Program

variable {config : RuntimeConfig} {limits : SafetyConfig} {d d' : Service}
  {s s' : CliState} {made more : List ProcessCall}

/-! ### The standard input -/

/-- The flags of the standard input were read and set on the way into the mode. -/
def Enabled (mode : NonblockingStdin) (made : List ProcessCall) : Prop :=
  ∃ reply, .getStdinFlags reply ∈ made ∧ 0 ≤ reply.value ∧ reply.value.toNat = mode.originalFlags

theorem enable_makes :
    Makes NonblockingStdin.enable fun mode made =>
      Aside made ∧ (mode.enabled = true → Enabled mode made) := by
  refine .bind getFlags_makes ?_
  rintro flags _ ⟨again, rfl, hagain⟩
  have hgets : Aside (again ++ [.getStdinFlags flags]) := by
    refine Aside.snoc (fun call hcall => ?_) rfl
    obtain ⟨reply, rfl⟩ := hagain call hcall
    rfl
  refine .ite (fun _ => .pure ⟨by simpa using hgets, nofun⟩) fun hflags => ?_
  refine .bind (setFlags_makes _) ?_
  rintro status _ ⟨-, again', rfl, hagain'⟩
  refine .pure ⟨?_, fun _ => ⟨flags, by simp, not_lt.mp hflags, rfl⟩⟩
  rw [List.append_nil]
  refine List.forall_mem_append.mpr ⟨hgets, Aside.snoc (fun call hcall => ?_) rfl⟩
  obtain ⟨reply, rfl⟩ := hagain' call hcall
  rfl

/-- The destructor: nothing, or calls that set the flags to what they were, up to one that is not
interrupted. -/
structure Restored (mode : NonblockingStdin) (made : List ProcessCall) : Prop where
  sets : ∀ call ∈ made, ∃ reply, call = .setStdinFlags mode.originalFlags reply
  last : mode.enabled = true → ∃ again reply,
    made = again ++ [.setStdinFlags mode.originalFlags reply] ∧ reply.interrupted = false

theorem restore_makes (mode : NonblockingStdin) :
    Makes mode.restore fun _ made => Restored mode made := by
  refine .ite (fun hoff => .pure ⟨by simp, fun hon => by simp [hon] at hoff⟩) fun _ => ?_
  refine .bind (setFlags_makes _) ?_
  rintro status _ ⟨hlast, again, rfl, hagain⟩
  refine .pure ⟨?_, fun _ => ⟨again, status, by simp, hlast⟩⟩
  rw [List.append_nil, List.forall_mem_append]
  exact ⟨hagain, by simp⟩

theorem Restored.aside {mode : NonblockingStdin} (h : Restored mode made) : Aside made := by
  intro call hcall
  obtain ⟨reply, rfl⟩ := h.sets call hcall
  rfl

/-! ### The port -/

/-- A close of the port, as the last thing that is done to it. -/
structure Closed (limits : SafetyConfig) (p : SerialPort) (made : List ProcessCall)
    (p' : SerialPort) : Prop where
  calls (session : Option SafetySession) :
    Ordinarily limits { port := p, session := session } made { port := p', session := session }
  closed : p'.connected = false
  quiet : ∀ e ∈ portTrace made, e.record.call = .close
  ports : ∀ call ∈ made, ∃ e, call = .port e

theorem close_makes (limits : SafetyConfig) (p : SerialPort) :
    Makes (p.request .close) fun record made =>
      Closed limits p made record.after ∧ ∃ e, made = [.port e] := by
  refine (p.request_makes .close).weaken ?_
  rintro _ _ ⟨e, rfl, rfl, hperform⟩
  have hcall := SerialPort.call_of_perform hperform
  refine ⟨⟨fun session => .port rfl hperform, SerialPort.connected_of_close hperform, ?_,
    by simp⟩, e, rfl⟩
  simpa [ProcessCall.portEvents] using hcall

theorem Closed.trans {p p' p'' : SerialPort} (first : Closed limits p made p')
    (second : Closed limits p' more p'') : Closed limits p (made ++ more) p'' := by
  refine ⟨fun session => (first.calls session).trans (second.calls session), second.closed, ?_,
    List.forall_mem_append.mpr ⟨first.ports, second.ports⟩⟩
  rw [portTrace_append, List.forall_mem_append]
  exact ⟨first.quiet, second.quiet⟩

theorem closeTwice_makes (limits : SafetyConfig) (p : SerialPort) :
    Makes (closeTwice p) fun _ made => ∃ p', Closed limits p made p' := by
  refine .bind (close_makes limits p) ?_
  rintro closed made ⟨hclosed, -⟩
  refine .bind (close_makes limits closed.after) ?_
  rintro destroyed more ⟨hdestroyed, -⟩
  exact .pure ⟨_, by simpa using hclosed.trans hdestroyed⟩

/-! ### The end -/

/-- The last calls of the session, if the clock has a time for them. -/
inductive Stopped (s : GuardedPort) (ns : Int) : List ProcessCall → GuardedPort → Prop
  | unclocked : ns ≤ 0 → Stopped s ns [] s
  | stopped {g g' : GuardedPort} : 0 < ns → e.op = .disarm ns → e'.op.isTick ns = true →
      guard s.guard (.session e []) = some g.guard →
      guard g.guard (.session e' answers) = some g'.guard →
      Stopped s ns [.session e [], .session e' answers] g'

theorem stop_makes (s : CliState) (ns : Int) :
    Makes (s.stop ns) fun g made => Stopped s.toGuardedPort ns made g := by
  refine .ite (fun hns => ?_) fun hns => .pure (.unclocked (not_lt.mp hns))
  refine .bind (s.perform_makes fun _ => rfl) ?_
  rintro g _ ⟨e, rfl, hop, hguard⟩
  refine (g.tick_makes ns).weaken ?_
  rintro g' _ ⟨e', answers, rfl, htick, hguard'⟩
  exact .stopped hns hop htick hguard hguard'

theorem Stopped.acts {ns : Int} {g : GuardedPort} (h : Stopped s.toGuardedPort ns made g)
    (hstage : d.stage = .over) (hd : d.guard = s.guard) :
    Acts limits d made { d with guard := g.guard } := by
  cases h with
  | unclocked =>
    rw [← hd]
    exact .refl
  | stopped _ hop htick hguard hguard' =>
    rw [← hd] at hguard
    exact (Act.stop hstage hop htick hguard hguard').acts

/-- The exit codes of a process that has had its loop. -/
def exitCode (success shutdown failed : Bool) : Nat :=
  match shutdown, failed with
  | true, _ => if success then 130 else 131
  | false, true => if success then 7 else 8
  | false, false => if success then 0 else 9

/-- What `run` does from the end of its loop on, and what it returns. -/
inductive Finished (config : RuntimeConfig) (limits : SafetyConfig) (s : CliState) :
    Nat → List ProcessCall → Prop
  | mk : Stopped s.toGuardedPort ns stopped g → Attempts limits g.port success p attempted →
      (portTrace attempted).length ≤ config.zeroRetryAttempts → Closed limits p closing p' →
      Restored s.stdinMode restored → Closed limits p' destroying p'' →
      Finished config limits s (exitCode success shutdown s.inputFailed)
        (.monotonicNow ns :: (stopped ++ (attempted ++ (closing ++
          .shutdownRequested shutdown :: (restored ++ destroying)))))

theorem finish_makes (limits : SafetyConfig) (s : CliState) :
    Makes (s.finish config) (Finished config limits s) := by
  refine .bind monotonicNowNs_makes ?_
  rintro ns _ rfl
  refine .bind (stop_makes s ns) fun g stopped hstopped => ?_
  refine .bind (attemptFinalZero_makes limits g.port) ?_
  rintro ⟨success, p⟩ attempted ⟨hattempts, hcount⟩
  refine .bind (close_makes limits p) fun closed closing hclosing => ?_
  refine .bind shutdownRequested_makes ?_
  rintro shutdown _ rfl
  refine .bind (restore_makes s.stdinMode) fun _ restored hrestored => ?_
  refine .bind (close_makes limits closed.after) fun destroyed destroying hdestroying => ?_
  have hfinished : Finished config limits s (exitCode success shutdown s.inputFailed) _ :=
    .mk hstopped hattempts hcount hclosing.1 hrestored hdestroying.1
  refine .ite (fun hshutdown => .pure ?_) fun hserving =>
    .ite (fun hfailed => .pure ?_) fun hfine => .pure ?_
  · simpa [exitCode, hshutdown] using hfinished
  · simpa [exitCode, hserving, hfailed] using hfinished
  · simpa [exitCode, hserving, hfine] using hfinished

/-! ### The beginning -/

/-- The port of a process that has made no call yet. -/
def opening (config : RuntimeConfig) : Guard :=
  { port := .construct config.devicePath .readWrite {} }

/-- A process that ends before its loop, with its port closed. -/
structure Refused (config : RuntimeConfig) (limits : SafetyConfig) (code : Nat)
    (made : List ProcessCall) : Prop where
  acts : ∃ d, Acts limits { guard := opening config } made d ∧ d.guard.port.connected = false
  among : code ∈ [4, 5, 6]
  unmoved : Unmoved made
  attempts : (made.filter direct).length ≤ config.zeroRetryAttempts
  unwritten : code ≠ 6 → ∀ e ∈ portTrace made, e.record.call.writes = false
  invalid : code = 5 →
    ∃ link, (SafetySession.construct limits (some link)).configurationValid = false

/-- It has not come to a write yet. -/
theorem Refused.of_ordinarily {code : Nat} {g : Guard}
    (h : Ordinarily limits (opening config) made g) (hclosed : g.port.connected = false)
    (hcode : code ∈ [4, 5, 6])
    (hinvalid : code = 5 →
      ∃ link, (SafetySession.construct limits (some link)).configurationValid = false) :
    Refused config limits code made where
  acts := ⟨_, h.acts (d := { guard := opening config }), hclosed⟩
  among := hcode
  unmoved := .of_not_writes h.silent
  attempts := by simp [h.filter_direct]
  unwritten _ := h.silent
  invalid := hinvalid

/-- It has come to zero frames, and to nothing else. -/
theorem Ordinarily.refused {g g' : Guard} {p : SerialPort} {success : Bool}
    {attempted closing : List ProcessCall} (h : Ordinarily limits (opening config) made g)
    (hattempts : Attempts limits g.port success p attempted)
    (hclosing : Ordinarily limits { g with port := p } closing g')
    (hclosed : g'.port.connected = false)
    (hcount : (portTrace attempted).length ≤ config.zeroRetryAttempts) :
    Refused config limits 6 (made ++ attempted ++ closing) where
  acts := by
    have hpassed :
        Acts limits { guard := opening config } made { guard := g, stage := .ended } := by
      simpa using ((h.acts (d := { guard := opening config })).next (.leave nofun)).next (.pass rfl)
    have hclosing' := hclosing.acts (d := { guard := { g with port := p }, stage := .ended })
    exact ⟨_, (hpassed.trans (hattempts.acts _ rfl rfl)).trans hclosing', hclosed⟩
  among := by simp
  unmoved := ((Unmoved.of_not_writes h.silent).append hattempts.unmoved).append
    (.of_not_writes hclosing.silent)
  attempts := by
    simpa [h.filter_direct, hclosing.filter_direct, hattempts.filter_direct] using hcount
  unwritten hcode := absurd rfl hcode
  invalid := by simp

/-- What `run` has done before its loop, or returns instead of it. -/
inductive Started (config : RuntimeConfig) (limits : SafetyConfig) :
    Phase ⊕ Nat → List ProcessCall → Prop
  | running {s : CliState} {made : List ProcessCall} :
      Acts limits { guard := opening config } made (s.service .head []) →
      (s.inputFailed = true → s.quit = true) → s.stdinMode.enabled = true →
      Enabled s.stdinMode made → Started config limits (.inl (.running s)) made
  | refused {made : List ProcessCall} :
      Refused config limits code made → Started config limits (.inr code) made

theorem start_makes :
    Makes (start config) (Started config (makeSafetyConfig config)) := by
  refine .bind ((opening config).port.request_makes .open) ?_
  rintro _ _ ⟨e, rfl, rfl, hperform⟩
  have hopen : Ordinarily (makeSafetyConfig config) (opening config) [.port e]
      { port := e.record.after } := .port rfl hperform
  split
  · refine .ite (fun _ => ?_) fun _ => ?_
    · refine .bind (close_makes (makeSafetyConfig config) _) ?_
      rintro closed made ⟨hclosed, -⟩
      refine .pure (.refused (.of_ordinarily (g := { port := closed.after }) ?_ hclosed.closed
        (by simp) (by simp)))
      simpa using hopen.trans (hclosed.calls none)
    · refine .bind (construct_makes e.record.after (makeSafetyConfig config)) ?_
      rintro ⟨port, session⟩ _ ⟨rfl, rfl, rfl⟩
      have hconstruct : Ordinarily (makeSafetyConfig config) { port := e.record.after }
          [.construct (makeSafetyConfig config) e.record.after.link]
          (GuardedPort.guard ⟨e.record.after,
            .construct (makeSafetyConfig config) (some e.record.after.link)⟩) :=
        .one (by simp [ordinary]) (if_pos ⟨rfl, rfl⟩)
      have hconstructed := hopen.trans hconstruct
      refine .ite (fun hinvalid => ?_) fun _ => ?_
      · refine .bind (closeTwice_makes (makeSafetyConfig config) _) ?_
        rintro _ made ⟨p', hclosed⟩
        have hrefused := hconstructed.trans (hclosed.calls _)
        rw [List.append_assoc, ← List.append_nil made] at hrefused
        exact .pure (.refused (.of_ordinarily hrefused hclosed.closed (by simp) fun _ =>
          ⟨_, by simpa using hinvalid⟩))
      · refine .bind enable_makes ?_
        rintro mode made ⟨haside, henabled⟩
        have hmode := hconstructed.trans (.aside haside)
        refine .ite (fun _ => ?_) fun hon => ?_
        · refine .bind (attemptFinalZero_makes (makeSafetyConfig config) _) ?_
          rintro ⟨success, p⟩ attempted ⟨hattempts, hcount⟩
          refine .bind (closeTwice_makes (makeSafetyConfig config) p) ?_
          rintro _ closing ⟨p', hclosed⟩
          have hrefused := hmode.refused hattempts (hclosed.calls _) hclosed.closed hcount
          simp only [List.append_assoc] at hrefused
          rw [← List.append_nil closing] at hrefused
          exact .pure (.refused hrefused)
        · have hon : mode.enabled = true := by simpa using hon
          refine .pure (.running ?_ (by simp) hon ?_)
          · have hacts := hmode.acts (d := { guard := opening config })
            rw [List.append_assoc, ← List.append_nil made] at hacts
            exact hacts
          · obtain ⟨reply, hmem, hreply⟩ := henabled hon
            exact ⟨reply, by simp [hmem], hreply⟩
  · exact .failure

/-! ### The process -/

theorem Enabled.append {mode : NonblockingStdin} (h : Enabled mode made) :
    Enabled mode (made ++ more) := by
  obtain ⟨reply, hmem, hreply⟩ := h
  exact ⟨reply, List.mem_append_left _ hmem, hreply⟩

/-- A process that is over: it was refused before its loop, or it went through all of `run`. -/
inductive Over (config : RuntimeConfig) (limits : SafetyConfig) (code : Nat) :
    List ProcessCall → Prop
  | refused {made : List ProcessCall} : Refused config limits code made →
      Over config limits code made
  | finished {s : CliState} {d : Service} {made more : List ProcessCall} :
      Acts limits { guard := opening config } made d → d.guard = s.guard → Leaves s d made →
      s.stdinMode.enabled = true → Enabled s.stdinMode made →
      Finished config limits s code more → Over config limits code (made ++ more)

/-- What the calls so far say of where a process is. -/
def Conducted (config : RuntimeConfig) (limits : SafetyConfig) (made : List ProcessCall) :
    Phase → Prop
  | .starting => made = []
  | .running s => Acts limits { guard := opening config } made (s.service .head []) ∧
      (s.inputFailed = true → s.quit = true) ∧ s.stdinMode.enabled = true ∧
        Enabled s.stdinMode made
  | .leaving s => (∃ d, Acts limits { guard := opening config } made d ∧ d.guard = s.guard ∧
      Leaves s d made) ∧ s.stdinMode.enabled = true ∧ Enabled s.stdinMode made

theorem step_makes {phase : Phase}
    (h : Conducted config (makeSafetyConfig config) made phase) :
    Makes (step config phase) fun next more =>
      next.elim (Conducted config (makeSafetyConfig config) (made ++ more))
        (Over config (makeSafetyConfig config) · (made ++ more)) := by
  cases phase with
  | starting =>
    obtain rfl : made = [] := h
    refine start_makes.weaken fun next more hstarted => ?_
    cases hstarted with
    | running hacts hfailed hon henabled => exact ⟨hacts, hfailed, hon, henabled⟩
    | refused hrefused => exact .refused hrefused
  | running s =>
    obtain ⟨hacts, hfailed, hon, henabled⟩ := h
    refine .bind (round_makes (makeSafetyConfig config) s hfailed) fun phase more hphase => .pure ?_
    rw [List.append_nil]
    have hstands := hacts.stands hphase
    cases phase with
    | starting => exact False.elim hstands
    | running s' =>
      obtain ⟨hmode, hacts', hfailed'⟩ := hstands
      exact ⟨hacts', hfailed', hmode ▸ hon, hmode ▸ henabled.append⟩
    | leaving s' =>
      obtain ⟨hmode, hleft⟩ := hstands
      exact ⟨hleft, hmode ▸ hon, hmode ▸ henabled.append⟩
  | leaving s =>
    obtain ⟨⟨d, hacts, hd, hleaves⟩, hon, henabled⟩ := h
    refine .bind (finish_makes (makeSafetyConfig config) s) fun code more hfinished => .pure ?_
    rw [List.append_nil]
    exact .finished hacts hd hleaves hon henabled hfinished

theorem conducted {h : List (List ProcessCall)} {next : Phase ⊕ Nat}
    (run : (process config).Run h next) :
    next.elim (Conducted config (makeSafetyConfig config) (called h))
      (Over config (makeSafetyConfig config) · (called h)) := by
  refine Makes.roundMachine
    (I := fun phase made => Conducted config (makeSafetyConfig config) made phase) ?_ ?_ run
  · rfl
  · exact fun phase made h => step_makes h

end WheeltecVcuSerial.Cli
