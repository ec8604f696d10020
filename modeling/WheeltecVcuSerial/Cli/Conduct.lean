import WheeltecVcuSerial.Cli.Service

namespace WheeltecVcuSerial.Cli

open Errno Process Text Trace Program

variable {config : RuntimeConfig} {limits : SafetyConfig} {d d' : Service} {stage : Stage}
  {lines : List (List Char)} {s s' : CliState} {made more : List ProcessCall}

/-! ### Parts without the input -/

/-- Nothing but calls aside. -/
def Aside (made : List ProcessCall) : Prop := ∀ call ∈ made, call.aside = true

theorem Aside.nil : Aside [] := by simp [Aside]

theorem Aside.snoc {call : ProcessCall} (h : Aside made) (hcall : call.aside = true) :
    Aside (made ++ [call]) :=
  List.forall_mem_append.mpr ⟨h, by simpa using hcall⟩

theorem boundedSleepNanoseconds_makes (nanoseconds : Int) :
    Makes (boundedSleepNanoseconds nanoseconds) fun _ made => Aside made := by
  refine .ite (fun _ => .pure .nil) fun _ => ?_
  refine .loop (I := fun _ made => Aside made) .nil fun request made hmade => ?_
  refine .bind (nanosleep_makes request) ?_
  rintro ⟨reply, remaining⟩ _ rfl
  have hsleep : Aside (made ++ [.nanosleep request reply remaining]) := hmade.snoc rfl
  refine .ite (fun _ => .bind shutdownRequested_makes ?_) fun _ => .pure (by simpa using hsleep)
  rintro value _ rfl
  have hshutdown : Aside (_ ++ [.shutdownRequested value]) := hsleep.snoc rfl
  rw [List.append_assoc] at hshutdown
  exact .ite (fun _ => .pure (by simpa using hshutdown)) fun _ => .pure (by simpa using hshutdown)

theorem pollStdin_makes : Makes pollStdin fun answer made => made = [.pollStdin answer] := by
  refine .call fun c answer h => ?_
  cases c with
  | pollStdin answer' =>
    cases h
    rfl
  | _ => cases h

/-- The wait ends with the answer of its last poll. -/
theorem waitForStdin_makes :
    Makes waitForStdin fun answer made =>
      ∃ again more, made = again ++ .pollStdin answer :: more ∧ Aside again ∧ Aside more := by
  refine .loop (I := fun _ made => Aside made) .nil fun _ made hmade => ?_
  refine .bind pollStdin_makes ?_
  rintro answer _ rfl
  refine .ite (fun hagain => .bind shutdownRequested_makes ?_) fun _ => .pure ?_
  · rintro value _ rfl
    refine .ite (fun _ => .pure ⟨made, [.shutdownRequested value], by simp, hmade, ?_⟩) fun _ =>
      .pure ?_
    · simp [Aside, ProcessCall.aside]
    · subst hagain
      have hpoll : Aside (made ++ [.pollStdin (.failed eintr)]) := hmade.snoc rfl
      have hshutdown : Aside (_ ++ [.shutdownRequested value]) := hpoll.snoc rfl
      simpa using hshutdown
  · exact ⟨made, [], by simp, hmade, .nil⟩

theorem setFlags_answered {c : ProcessCall} {reply : SystemReply}
    (h : (match c with
      | .setStdinFlags flags' reply => if flags' = flags then some reply else none
      | _ => none) = some reply) : c = .setStdinFlags flags reply := by
  cases c with
  | setStdinFlags flags' reply' =>
    obtain ⟨rfl, ⟨⟩⟩ := Option.ite_none_right_eq_some.mp h
    rfl
  | _ => cases h

theorem setFlags_makes (flags : Nat) :
    Makes (NonblockingStdin.setFlags flags) fun reply made =>
      reply.interrupted = false ∧ ∃ again, made = again ++ [.setStdinFlags flags reply] ∧
        ∀ call ∈ again, ∃ reply, call = .setStdinFlags flags reply := by
  refine .retry fun again c reply hagain h hlast => ?_
  obtain rfl := setFlags_answered h
  exact ⟨hlast, again, rfl, fun call hcall =>
    (hagain call hcall).imp fun _ hb => setFlags_answered hb.1⟩

theorem getFlags_answered {c : ProcessCall} {reply : SystemReply}
    (h : (match c with
      | .getStdinFlags reply => some reply
      | _ => none) = some reply) : c = .getStdinFlags reply := by
  cases c with
  | getStdinFlags reply' =>
    cases h
    rfl
  | _ => cases h

theorem getFlags_makes :
    Makes NonblockingStdin.getFlags fun reply made =>
      ∃ again, made = again ++ [.getStdinFlags reply] ∧
        ∀ call ∈ again, ∃ reply, call = .getStdinFlags reply := by
  refine .retry fun again c reply hagain h _ => ?_
  obtain rfl := getFlags_answered h
  exact ⟨again, rfl, fun call hcall => (hagain call hcall).imp fun _ hb => getFlags_answered hb.1⟩

/-! ### The last zero frames -/

/-- Whether a write has handed over a whole frame. -/
def completes (e : PortEvent) : Bool :=
  match e.record.result with
  | .wrote result => result.completes commandFrameSize
  | _ => false

/-- The attempts of `attemptFinalZero`: zero frames and nothing else, the last of which goes through
if there is a success. -/
structure Attempts (limits : SafetyConfig) (p : SerialPort) (success : Bool) (p' : SerialPort)
    (made : List ProcessCall) : Prop where
  acts (d : Service) : d.stage = .ended → d.guard.port = p →
    Acts limits d made { d with guard := { d.guard with port := p' } }
  direct : ∀ call ∈ made, call.aside = true ∨ direct call = true
  zero : ∀ e ∈ portTrace made,
    ∃ deadlineNs, e.record.call = .writeAll (.bytes makeZeroCommandFrame.toList) deadlineNs
  outcomes : ∃ failures, (portTrace made).map completes =
    List.replicate failures false ++ if success then [true] else []

theorem portTrace_of_aside (h : Aside made) : portTrace made = [] := by
  refine List.flatMap_eq_nil_iff.mpr fun call hcall => ?_
  have haside := h call hcall
  cases call <;> first | rfl | cases haside

namespace Attempts

variable {p p' : SerialPort} {success : Bool}

theorem aside (h : Aside made) : Attempts limits p false p made where
  acts d _ hport := by
    obtain rfl := hport
    exact .aside h
  direct call hcall := .inl (h call hcall)
  zero e he := by simp [portTrace_of_aside h] at he
  outcomes := ⟨0, by simp [portTrace_of_aside h]⟩

/-- An attempt that decides, or that fails before others. -/
theorem write {e : PortEvent} {deadlineNs : Int}
    (hperform : p.perform (.writeAll (.bytes makeZeroCommandFrame.toList) deadlineNs) e.calls =
      some (e.record, []))
    (hrest : completes e = true ∧ success = true ∧ made = [] ∧ p' = e.record.after ∨
      completes e = false ∧ Attempts limits e.record.after success p' made) (ns : Int) :
    Attempts limits p success p' (.monotonicNow ns :: .port e :: made) := by
  have hcall := SerialPort.call_of_perform hperform
  have hwrites : e.record.call.writes = true := by rw [hcall]; rfl
  have hwrite (d : Service) (hstage : d.stage = .ended) (hport : d.guard.port = p) :
      Acts limits d ([.monotonicNow ns] ++ [.port e])
        { d with guard := { d.guard with port := e.record.after } } := by
    refine (Acts.aside (by simp [ProcessCall.aside])).next (.zero hstage hwrites ?_)
    exact guard_port (hport.symm ▸ hperform) (by simp [PortCall.harmless])
  have htrace : portTrace (.monotonicNow ns :: .port e :: made) = e :: portTrace made := rfl
  rcases hrest with ⟨hcompletes, rfl, rfl, rfl⟩ | ⟨hfails, hrest⟩
  · refine ⟨hwrite, ?_, ?_, 0, ?_⟩
    · simp [ProcessCall.aside, Cli.direct, hwrites]
    · simpa [ProcessCall.portEvents] using ⟨deadlineNs, hcall⟩
    · simpa [ProcessCall.portEvents] using hcompletes
  · obtain ⟨failures, houtcomes⟩ := hrest.outcomes
    refine ⟨fun d hstage hport => (hwrite d hstage hport).trans (hrest.acts _ hstage rfl),
      ?_, ?_, failures + 1, ?_⟩
    · simpa [ProcessCall.aside, Cli.direct, hwrites] using hrest.direct
    · rw [htrace, List.forall_mem_cons]
      exact ⟨⟨deadlineNs, hcall⟩, hrest.zero⟩
    · rw [htrace, List.map_cons, houtcomes, hfails]
      rfl

theorem unmoved (h : Attempts limits p success p' made) : Unmoved made := by
  intro e he
  obtain ⟨deadlineNs, hcall⟩ := h.zero e he
  simp [hcall, PortCall.harmless]

theorem filter_direct (h : Attempts limits p success p' made) :
    (made.filter Cli.direct).length = (portTrace made).length := by
  have hdirect := h.direct
  clear h
  induction made with
  | nil => rfl
  | cons call made ih =>
    rw [List.forall_mem_cons] at hdirect
    have hmade := ih hdirect.2
    rw [portTrace_cons, List.length_append, ← hmade]
    cases call with
    | port e =>
      have hwrites : Cli.direct (.port e) = true :=
        hdirect.1.resolve_left (by simp [ProcessCall.aside])
      rw [List.filter_cons_of_pos hwrites, List.length_cons]
      exact Nat.add_comm _ _
    | session e answers => simp [ProcessCall.aside, Cli.direct] at hdirect
    | _ => simp [Cli.direct, ProcessCall.portEvents]

theorem after_aside (h : Attempts limits p success p' more) (hmade : Aside made) :
    Attempts limits p success p' (made ++ more) := by
  have htrace : portTrace (made ++ more) = portTrace more := by
    rw [portTrace_append, portTrace_of_aside hmade, List.nil_append]
  refine ⟨fun d hstage hport => (Acts.aside hmade).trans (h.acts d hstage hport), ?_, ?_, ?_⟩
  · rw [List.forall_mem_append]
    exact ⟨fun call hcall => .inl (hmade call hcall), h.direct⟩
  · rw [htrace]
    exact h.zero
  · rw [htrace]
    exact h.outcomes

end Attempts

theorem finalZeroAttempts_makes (limits : SafetyConfig) (n : Nat) (p : SerialPort) :
    Makes (finalZeroAttempts config n p) fun r made =>
      Attempts limits p r.1 r.2 made ∧ (portTrace made).length ≤ n := by
  induction n generalizing p with
  | zero => exact .pure ⟨.aside .nil, Nat.zero_le _⟩
  | succ n ih =>
    refine .bind monotonicNowNs_makes ?_
    rintro ns _ rfl
    refine .ite (fun _ => .pure ⟨.aside (Aside.nil.snoc rfl), Nat.zero_le _⟩) fun _ => ?_
    refine .bind (p.request_makes _) ?_
    rintro _ _ ⟨e, rfl, rfl, hperform⟩
    split
    · case h_1 written hresult =>
      have hcompletes : completes e = written.completes commandFrameSize := by
        rw [completes, hresult]
      refine .ite (fun hdone => .pure ⟨?_, ?_⟩) fun hfailed => ?_
      · exact Attempts.write hperform (.inl ⟨hcompletes.trans hdone, rfl, rfl, rfl⟩) ns
      · simp [ProcessCall.portEvents]
      have hfails : completes e = false := hcompletes.trans (Bool.eq_false_iff.mpr hfailed)
      refine .ite (fun _ => .pure ⟨?_, ?_⟩) fun _ => ?_
      · exact Attempts.write hperform (.inr ⟨hfails, .aside .nil⟩) ns
      · simp [ProcessCall.portEvents]
      refine .bind (boundedSleepNanoseconds_makes _) fun _ slept hslept => ?_
      refine (ih e.record.after).weaken ?_
      rintro r more ⟨hmore, hcount⟩
      refine ⟨?_, ?_⟩
      · exact Attempts.write hperform (.inr ⟨hfails, hmore.after_aside hslept⟩) ns
      · have htrace : portTrace ([.monotonicNow ns] ++ ([.port e] ++ (slept ++ more))) =
            e :: portTrace more := by
          simp [portTrace_append, portTrace_of_aside hslept, ProcessCall.portEvents]
        rw [htrace, List.length_cons]
        exact Nat.succ_le_succ hcount
    · exact .failure

theorem attemptFinalZero_makes (limits : SafetyConfig) (p : SerialPort) :
    Makes (attemptFinalZero config p) fun r made =>
      Attempts limits p r.1 r.2 made ∧ (portTrace made).length ≤ config.zeroRetryAttempts :=
  .ite (fun _ => .pure ⟨.aside .nil, Nat.zero_le _⟩) fun _ => finalZeroAttempts_makes limits _ p

/-! ### A round -/

/-- What the parts of a round that see to the port leave alone. -/
structure CliState.Keeps (s s' : CliState) : Prop where
  pendingInput : s'.pendingInput = s.pendingInput
  inputEof : s'.inputEof = s.inputEof
  quit : s'.quit = s.quit
  inputFailed : s'.inputFailed = s.inputFailed
  stdinMode : s'.stdinMode = s.stdinMode

theorem CliState.Keeps.trans {s'' : CliState} (first : s.Keeps s') (second : s'.Keeps s'') :
    s.Keeps s'' where
  pendingInput := second.pendingInput.trans first.pendingInput
  inputEof := second.inputEof.trans first.inputEof
  quit := second.quit.trans first.quit
  inputFailed := second.inputFailed.trans first.inputFailed
  stdinMode := second.stdinMode.trans first.stdinMode

theorem CliState.Keeps.rfl {s : CliState} : s.Keeps s :=
  ⟨Eq.refl _, Eq.refl _, Eq.refl _, Eq.refl _, Eq.refl _⟩

/-- What a part of a round leaves that sees to the port. -/
def SeesToPort (limits : SafetyConfig) (s s' : CliState) (made : List ProcessCall) : Prop :=
  Ordinarily limits s.guard made s'.guard ∧ s.Keeps s'

theorem SeesToPort.trans {s'' : CliState} (first : SeesToPort limits s s' made)
    (second : SeesToPort limits s' s'' more) : SeesToPort limits s s'' (made ++ more) :=
  ⟨first.1.trans second.1, first.2.trans second.2⟩

variable (limits)

theorem observeFrames_makes (s : CliState) (receiptNs : Int) (frames : List ParsedFeedbackFrame) :
    Makes (s.observeFrames receiptNs frames) fun s' made => SeesToPort limits s s' made := by
  induction frames generalizing s with
  | nil => exact .pure ⟨.refl, .rfl⟩
  | cons frame frames ih =>
    refine .bind (s.perform_makes fun _ => rfl) ?_
    rintro g _ ⟨⟨_, _, _⟩, rfl, rfl, hguard⟩
    have hfirst : SeesToPort limits s (s.withGuarded g) _ :=
      ⟨.one rfl hguard, rfl, rfl, rfl, rfl, rfl⟩
    exact (ih (s.withGuarded g)).weaken fun s' made hmade => hfirst.trans hmade

theorem latch_makes (s : CliState) (nowNs : Int) :
    Makes (s.perform (.latchEmergencyStop nowNs)) fun g made =>
      SeesToPort limits s (s.withGuarded g) made := by
  refine (s.perform_makes fun _ => rfl).weaken ?_
  rintro g _ ⟨⟨_, _, _⟩, rfl, rfl, hguard⟩
  exact ⟨.one rfl hguard, rfl, rfl, rfl, rfl, rfl⟩

theorem reconnect_makes (s : CliState) (nowNs : Int) :
    Makes (s.reconnect config nowNs) fun s' made => SeesToPort limits s s' made := by
  refine .ite (fun _ => ?_) fun _ => .pure ⟨.refl, .rfl⟩
  refine .bind (s.port.request_makes _) ?_
  rintro _ _ ⟨e, rfl, rfl, hperform⟩
  have hport : Ordinarily limits s.guard [.port e] (s.withPort e.record.after).guard :=
    .port rfl hperform
  split
  · exact .ite (fun _ => .pure ⟨hport, rfl, rfl, rfl, rfl, rfl⟩) fun _ =>
      .pure ⟨hport, rfl, rfl, rfl, rfl, rfl⟩
  · exact .failure

omit limits in
theorem receiptTime_makes (result : IoResult) :
    Makes (CliState.receiptTime result) fun _ made => Aside made := by
  refine .ite (fun _ => .pure .nil) fun _ => monotonicNowNs_makes.weaken ?_
  rintro ns _ rfl
  exact Aside.nil.snoc rfl

theorem received_makes (s : CliState) (nowNs : Int) (result : IoResult) :
    Makes (s.received nowNs result) fun s' made => SeesToPort limits s s' made := by
  refine .ite (fun _ => ?_) fun _ => .ite (fun _ => ?_) fun _ => .pure ⟨.refl, .rfl⟩
  · refine .bind (receiptTime_makes result) fun receiptNs made hmade => ?_
    have hclock : SeesToPort limits s s made := ⟨.aside hmade, .rfl⟩
    refine (observeFrames_makes limits _ receiptNs _).weaken fun s' more hmore => ?_
    exact hclock.trans ⟨hmore.1, hmore.2.1, hmore.2.2, hmore.2.3, hmore.2.4, hmore.2.5⟩
  · refine .bind (latch_makes limits s nowNs) fun g made hmade => .pure ?_
    rw [List.append_nil]
    exact hmade

theorem receive_makes (s : CliState) (nowNs : Int) :
    Makes (s.receive config nowNs) fun s' made => SeesToPort limits s s' made := by
  refine .ite (fun _ => reconnect_makes limits s nowNs) fun _ => ?_
  refine .bind (s.port.request_makes _) ?_
  rintro _ _ ⟨e, rfl, rfl, hperform⟩
  have hport : Ordinarily limits s.guard [.port e] (s.withPort e.record.after).guard :=
    .port rfl hperform
  split
  · case h_1 result data hresult =>
    refine (received_makes limits _ nowNs result).weaken fun s' made ⟨hmade, hkeeps⟩ => ?_
    exact ⟨hport.trans hmade, hkeeps.1, hkeeps.2, hkeeps.3, hkeeps.4, hkeeps.5⟩
  · exact .failure

end WheeltecVcuSerial.Cli
