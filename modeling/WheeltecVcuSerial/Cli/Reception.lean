import WheeltecVcuSerial.Cli.Refinement
import WheeltecVcuSerial.Process.Reception

/-! The process goes through the rounds of the receiving loop. -/

namespace WheeltecVcuSerial.Cli

open Errno Process Text Trace Program

variable {config : RuntimeConfig} {limits : SafetyConfig} {s s' s'' : CliState}
  {made more : List ProcessCall}

/-- The state of `run` as the receiving loop has it. -/
def CliState.loop (s : CliState) : CliLoop :=
  { transport := s.port.toPosixSerialTransport
    parser := s.parser
    serialBuffer := s.serialBuffer
    nextReconnectNs := s.nextReconnectNs }

/-- The receiving loop with the interval of a configuration. -/
def receiver (config : RuntimeConfig) : Machine CliLoop Reception :=
  cliMachine (millisecondsToNanoseconds config.reconnectIntervalMs)

/-! ### Parts that read nothing -/

theorem unheard_of_aside (h : Aside made) : Unheard made := by
  refine ⟨by simp [portTrace_of_aside h], fun e he => ?_⟩
  obtain ⟨call, hcall, hevent⟩ := List.mem_filterMap.mp he
  have haside := h call hcall
  cases call with
  | session => cases haside
  | _ => cases hevent

theorem Attempts.unheard {p p' : SerialPort} {success : Bool}
    (h : Attempts limits p success p' made) : Unheard made := by
  refine ⟨fun e he => ?_, fun e he => ?_⟩
  · obtain ⟨deadlineNs, hcall⟩ := h.zero e he
    rw [hcall]
    rfl
  · obtain ⟨call, hcall, hevent⟩ := List.mem_filterMap.mp he
    cases call with
    | session => rcases h.direct _ hcall with haside | hdirect <;> contradiction
    | _ => cases hevent

theorem Closed.unheard {p p' : SerialPort} (h : Closed limits p made p') : Unheard made := by
  refine ⟨fun e he => ?_, fun e he => ?_⟩
  · rw [h.quiet e he]
    rfl
  · obtain ⟨call, hcall, hevent⟩ := List.mem_filterMap.mp he
    obtain ⟨_, rfl⟩ := h.ports call hcall
    cases hevent

/-- What the rest of a round leaves alone: of the port it may only lose the connection. -/
structure Apart (s s' : CliState) (made : List ProcessCall) : Prop where
  unheard : Unheard made
  port : s'.port = s.port ∨ s'.port = s.port.closed
  parser : s'.parser = s.parser
  serialBuffer : s'.serialBuffer = s.serialBuffer
  nextReconnectNs : s'.nextReconnectNs = s.nextReconnectNs

namespace Apart

theorem refl (s : CliState) : Apart s s [] := ⟨.nil, .inl rfl, rfl, rfl, rfl⟩

theorem outside (h : Unheard made) : Apart s s made := ⟨h, .inl rfl, rfl, rfl, rfl⟩

theorem trans (first : Apart s s' made) (second : Apart s' s'' more) :
    Apart s s'' (made ++ more) := by
  refine ⟨first.unheard.append second.unheard, ?_, second.parser.trans first.parser,
    second.serialBuffer.trans first.serialBuffer,
    second.nextReconnectNs.trans first.nextReconnectNs⟩
  rcases first.port with hfirst | hfirst <;> rcases second.port with hsecond | hsecond <;>
    rw [hsecond, hfirst] <;> simp [SerialPort.closed]

theorem ready (h : Apart s s' made) (hs : s.port.Ready) : s'.port.Ready := by
  rcases h.port with hport | hport
  · exact hport ▸ hs
  · exact hport ▸ hs.closed

/-- The rest of a round is what the receiving loop has of it. -/
theorem finish (h : Apart s s' made) (round : CliRound) :
    ∃ unplugged,
      s.loop.finish { round with unplugged := unplugged, leaves := false } = s'.loop := by
  rcases h.port with hport | hport
  · refine ⟨false, ?_⟩
    simp [CliLoop.finish, CliState.loop, hport, h.parser, h.serialBuffer, h.nextReconnectNs]
  · refine ⟨true, ?_⟩
    simp [CliLoop.finish, CliState.loop, hport, h.parser, h.serialBuffer, h.nextReconnectNs,
      SerialPort.closed, PosixSerialTransport.close]

end Apart

/-- A call of the session that does not write leaves the port as it is. -/
theorem port_of_guard {g g' : Guard} {e : Event} (h : guard g (.session e []) = some g') :
    e.link = g.port.link ∧ g'.port = g.port := by
  obtain ⟨⟨-, hlink⟩, hmap⟩ := Option.ite_none_right_eq_some.mp h
  obtain ⟨port, hanswer, rfl⟩ := Option.map_eq_some_iff.mp hmap
  refine ⟨hlink, ?_⟩
  cases hwrites : e.writes with
  | nil =>
    rw [hwrites] at hanswer
    exact (Option.some.inj hanswer).symm
  | cons write writes =>
    rw [hwrites] at hanswer
    cases hanswer

theorem apart_of_perform {g : GuardedPort} {e : Event} (hshown : e.op.shown = none)
    (hguard : guard s.guard (.session e []) = some g.guard) (hport : s'.port = g.port)
    (hreceiving : s'.parser = s.parser ∧ s'.serialBuffer = s.serialBuffer ∧
      s'.nextReconnectNs = s.nextReconnectNs) :
    Apart s s' [.session e []] :=
  ⟨⟨by simp [ProcessCall.portEvents], by simpa [ProcessCall.sessionEvent] using hshown⟩,
    .inl (hport.trans (port_of_guard hguard).2), hreceiving.1, hreceiving.2.1, hreceiving.2.2⟩

theorem failInput_apart (s : CliState) (nowNs : Int) :
    Makes (s.failInput nowNs) fun s' made => Apart s s' made := by
  refine .bind (s.perform_makes fun _ => rfl) ?_
  rintro g _ ⟨e, rfl, hop, hguard⟩
  exact .pure (apart_of_perform (by rw [hop]; rfl) hguard rfl ⟨rfl, rfl, rfl⟩)

theorem shown_of_line (line : List Char) (ns : Int) : (processLine line ns).1.shown = none := by
  have hcall := processLine_call line ns
  generalize processLine line ns = called at hcall
  cases hcall <;> rfl

theorem processLine_apart (s : CliState) (line : List Char) :
    Makes (s.processLine line) fun s' made => Apart s s' made := by
  refine (processLine_makes s line).weaken ?_
  rintro s' _ ⟨ns, e, rfl, hline⟩
  have hbefore : Unheard ([.processLine line] ++ [.monotonicNow ns]) :=
    (Unheard.outside rfl rfl).append (.outside rfl rfl)
  have hcall := apart_of_perform (hline.op ▸ shown_of_line line ns) hline.guard rfl hline.receiving
  exact (Apart.outside hbefore).trans hcall

theorem processLines_apart (nowNs : Int) (s : CliState) (lines : List (List Char)) :
    Makes (s.processLines nowNs lines) fun s' made => Apart s s' made := by
  induction lines generalizing s with
  | nil => exact .pure (.refl s)
  | cons line lines ih =>
    refine .ite (fun _ => failInput_apart s nowNs) fun _ => ?_
    refine .bind (processLine_apart s line) fun s₁ made hline => ?_
    exact (ih s₁).weaken fun s' more hmore => hline.trans hmore

theorem processTrailing_apart (s : CliState) :
    Makes s.processTrailing fun s' made => Apart s s' made := by
  refine .ite (fun _ => ?_) fun _ => .pure ⟨.nil, .inl rfl, rfl, rfl, rfl⟩
  refine .bind (processLine_apart s _) fun s₁ made hline => .pure ?_
  have hquit : Apart s₁ { s₁ with pendingInput := [], quit := true } [] :=
    ⟨.nil, .inl rfl, rfl, rfl, rfl⟩
  exact hline.trans hquit

theorem appendStdin_unheard (pending : List Char) (eof : Bool) :
    Makes (appendStdin pending eof) fun _ made => Unheard made := by
  refine .loop (I := fun _ made => Unheard made) .nil fun pending made hmade =>
    .bind readStdin_makes ?_
  rintro answer _ rfl
  have hread : Unheard (made ++ [.readStdin answer]) := hmade.append (.outside rfl rfl)
  cases answer with
  | failed errorNumber =>
    exact .ite (fun _ => .pure (by simpa using hread)) fun _ =>
      .ite (fun _ => .pure (by simpa using hread)) fun _ => .pure (by simpa using hread)
  | delivered data =>
    cases data with
    | nil => exact .pure (by simpa using hread)
    | cons c data =>
      exact .ite (fun _ => .pure (by simpa using hread)) fun _ => .pure (by simpa using hread)

theorem tick_unheard {g g' : Guard} {now : Int} {e : Event} {answers : List PortEvent}
    (htick : e.op.isTick now = true) (h : guard g (.session e answers) = some g') :
    Unheard [.session e answers] := by
  obtain ⟨-, hmap⟩ := Option.ite_none_right_eq_some.mp h
  obtain ⟨q, hanswer, -⟩ := Option.map_eq_some_iff.mp hmap
  have hshown : e.op.shown = none := by
    cases hop : e.op with
    | observeFeedback => simp [hop, Op.isTick] at htick
    | _ => rfl
  exact ⟨by simpa [ProcessCall.portEvents] using SerialPort.reads_of_answer hanswer,
    by simpa [ProcessCall.sessionEvent] using hshown⟩

theorem tick_left {g g' : Guard} {e : Event} {answers : List PortEvent} (hg : g.port.Sound)
    (h : guard g (.session e answers) = some g') :
    g'.port = g.port ∨ g'.port = g.port.closed := by
  obtain ⟨-, hmap⟩ := Option.ite_none_right_eq_some.mp h
  obtain ⟨q, hanswer, rfl⟩ := Option.map_eq_some_iff.mp hmap
  exact SerialPort.left_of_answer hg hanswer

/-- The rest of a round: the loop goes on from it, or has been left. -/
def Phase.Apart (s : CliState) (made : List ProcessCall) : Phase → Prop
  | .starting => False
  | .running s' => Cli.Apart s s' made
  | .leaving s' => Cli.Apart s s' made

theorem Apart.phase {phase : Phase} (first : Apart s s' made) (second : phase.Apart s' more) :
    phase.Apart s (made ++ more) := by
  cases phase with
  | starting => exact second
  | running | leaving => exact first.trans second

theorem tickAndWait_apart (s : CliState) (hs : s.port.Sound) :
    Makes s.tickAndWait fun phase made => phase.Apart s made := by
  refine .bind monotonicNowNs_makes ?_
  rintro ns _ rfl
  refine .bind (s.tick_makes ns) ?_
  rintro g _ ⟨e, answers, rfl, htick, hguard⟩
  have hclock : Unheard [.monotonicNow ns] := .outside rfl rfl
  have hticked : Cli.Apart s (s.withGuarded g) ([.monotonicNow ns] ++ [.session e answers]) :=
    ⟨hclock.append (tick_unheard htick hguard), tick_left hs hguard, rfl, rfl, rfl⟩
  refine .bind waitForStdin_makes ?_
  rintro answer _ ⟨again, more, rfl, hagain, hmore⟩
  have hwait : Unheard (again ++ .pollStdin answer :: more) :=
    (unheard_of_aside hagain).append
      ((Unheard.outside rfl rfl).append (unheard_of_aside hmore))
  have hwaited : Cli.Apart s (s.withGuarded g)
      ([.monotonicNow ns] ++ ([.session e answers] ++ (again ++ .pollStdin answer :: more))) :=
    hticked.trans (.outside hwait)
  split
  · case h_1 errorNumber =>
    refine .ite (fun _ => .pure (by simpa [Phase.Apart] using hwaited)) fun _ => ?_
    refine .bind (failInput_apart _ ns) fun s' made hfailed => .pure ?_
    have hleft := hwaited.trans hfailed
    simpa [Phase.Apart] using hleft
  · exact .pure (by simpa [Phase.Apart] using hwaited)

theorem takeInput_apart (s : CliState) (nowNs : Int) (hs : s.port.Ready) :
    Makes (s.takeInput nowNs) fun phase made => phase.Apart s made := by
  refine .bind (appendStdin_unheard s.pendingInput s.inputEof) fun input made hunheard => ?_
  have hinput : Apart s { s with pendingInput := input.pending, inputEof := input.eof } made :=
    ⟨hunheard, .inl rfl, rfl, rfl, rfl⟩
  refine .ite (fun _ => ?_) fun _ => ?_
  · refine .bind (failInput_apart _ nowNs) fun s' more hfailed => .pure ?_
    rw [List.append_nil]
    exact hinput.trans hfailed
  refine .bind (processLines_apart nowNs _ _) fun s₁ more hlines => ?_
  have htaken : Apart s s₁ (made ++ more) :=
    hinput.trans ⟨hlines.unheard, hlines.port, hlines.parser, hlines.serialBuffer,
      hlines.nextReconnectNs⟩
  refine .ite (fun _ => .pure ?_) fun _ => .ite (fun _ => ?_) fun _ => ?_
  · rw [List.append_nil]
    exact htaken
  · refine .bind (processTrailing_apart s₁) fun s₂ trailed htrailing => ?_
    have hended := htaken.trans htrailing
    refine (tickAndWait_apart s₂ (hended.ready hs).sound).weaken fun phase ticked hphase => ?_
    simpa using hended.phase hphase
  · refine (tickAndWait_apart s₁ (htaken.ready hs).sound).weaken fun phase ticked hphase => ?_
    simpa using htaken.phase hphase

/-! ### The part of a round that sees to the port -/

/-- Calls of the session over the link of a port, and none of the port. -/
structure Shows (s s' : CliState) (ops : List Op) (made : List ProcessCall) : Prop where
  port : s'.port = s.port
  silent : portTrace made = []
  ops : (made.filterMap ProcessCall.sessionEvent).map Event.op = ops
  generation : ∀ x ∈ made.filterMap ProcessCall.sessionEvent,
    x.link.generation = s.port.generation

namespace Shows

theorem none (h : Aside made) : Shows s s [] made := by
  have hcalls : made.filterMap ProcessCall.sessionEvent = [] := by
    refine List.filterMap_eq_nil_iff.mpr fun call hcall => ?_
    have haside := h call hcall
    cases call <;> first | rfl | cases haside
  exact ⟨rfl, portTrace_of_aside h, by rw [hcalls, List.map_nil], by simp [hcalls]⟩

theorem one {g : GuardedPort} {e : Event}
    (hguard : guard s.guard (.session e []) = some g.guard) :
    Shows s (s.withGuarded g) [e.op] [.session e []] := by
  obtain ⟨hlink, hport⟩ := port_of_guard hguard
  have hgeneration : e.link.generation = s.port.generation := congrArg Link.generation hlink
  exact ⟨hport, by simp [ProcessCall.portEvents], by simp [ProcessCall.sessionEvent],
    by simpa [ProcessCall.sessionEvent] using hgeneration⟩

theorem trans {ops later : List Op} (first : Shows s s' ops made)
    (second : Shows s' s'' later more) : Shows s s'' (ops ++ later) (made ++ more) := by
  refine ⟨second.port.trans first.port, ?_, ?_, ?_⟩
  · rw [portTrace_append, first.silent, second.silent, List.append_nil]
  · rw [List.filterMap_append, List.map_append, first.ops, second.ops]
  · rw [List.filterMap_append, List.forall_mem_append]
    exact ⟨first.generation, first.port ▸ second.generation⟩

end Shows

theorem loop_withGuarded {g : GuardedPort} (hport : g.port = s.port) :
    (s.withGuarded g).loop = s.loop := by
  simp [CliState.loop, CliState.withGuarded, hport]

theorem observeFrames_shows (s : CliState) (receiptNs : Int) (frames : List ParsedFeedbackFrame) :
    Makes (s.observeFrames receiptNs frames) fun s' made => s'.loop = s.loop ∧
      Shows s s' (frames.map fun frame => .observeFeedback frame.frame receiptNs) made := by
  induction frames generalizing s with
  | nil => exact .pure ⟨rfl, .none .nil⟩
  | cons frame frames ih =>
    refine .bind (s.perform_makes fun _ => rfl) ?_
    rintro g _ ⟨e, rfl, hop, hguard⟩
    have hfirst := Shows.one hguard
    have hloop := loop_withGuarded (port_of_guard hguard).2
    refine (ih (s.withGuarded g)).weaken ?_
    rintro s' made ⟨hrest, hmade⟩
    rw [hop] at hfirst
    exact ⟨hrest.trans hloop, hfirst.trans hmade⟩

theorem receiptTime_shows (result : IoResult) :
    Makes (CliState.receiptTime result) fun receiptNs made => Aside made ∧
      (result.completionMonotonicNs > 0 → receiptNs = result.completionMonotonicNs) := by
  refine .ite (fun _ => .pure ⟨.nil, fun _ => rfl⟩) fun hmissing => ?_
  refine monotonicNowNs_makes.weaken ?_
  rintro ns _ rfl
  exact ⟨Aside.nil.snoc rfl, fun hpositive => absurd hpositive hmissing⟩

/-- A process does with a read what the receiving loop does with it, and tells its session so. -/
def Dispatches (s s' : CliState) (nowNs : Int) (result : IoResult) (made : List ProcessCall) :
    Prop :=
  ∃ receiptNs, ∀ round : CliRound, round.nowNs = nowNs → round.receiptNs = receiptNs →
    ∃ received, s.loop.dispatch round result = (s'.loop, received) ∧
      Shows s s' received.calls made

theorem received_dispatches (s : CliState) (nowNs : Int) (result : IoResult) :
    Makes (s.received nowNs result) fun s' made => Dispatches s s' nowNs result made := by
  refine .ite (fun hok => ?_) fun hbad => .ite (fun hfatal => ?_) fun hlost => .pure ?_
  · refine .bind (receiptTime_shows result) ?_
    rintro receiptNs made ⟨haside, hreceipt⟩
    refine (observeFrames_shows _ receiptNs _).weaken ?_
    rintro s' more ⟨hloop, hshows⟩
    refine ⟨receiptNs, fun round _ hround => ?_⟩
    have htime : (if result.completionMonotonicNs > 0 then result.completionMonotonicNs
        else round.receiptNs) = receiptNs := by
      split
      · case isTrue hpositive => exact (hreceipt hpositive).symm
      · exact hround
    rw [CliLoop.dispatch, hok, hloop]
    dsimp only
    rw [htime]
    exact ⟨_, rfl, (Shows.none haside).trans
      ⟨hshows.port, hshows.silent, hshows.ops, hshows.generation⟩⟩
  · refine .bind (s.perform_makes fun _ => rfl) ?_
    rintro g _ ⟨e, rfl, hop, hguard⟩
    have hshows := Shows.one hguard
    have hloop := loop_withGuarded (port_of_guard hguard).2
    rw [hop] at hshows
    refine .pure ⟨0, fun round hnow _ => ⟨{ calls := [.latchEmergencyStop nowNs] }, ?_, ?_⟩⟩
    · rw [CliLoop.dispatch, hloop, hnow]
      cases hstatus : result.status <;> simp_all
    · rw [List.append_nil]
      exact hshows
  · refine ⟨0, fun round _ _ => ⟨{}, ?_, .none .nil⟩⟩
    rw [CliLoop.dispatch]
    cases hstatus : result.status <;> simp_all

/-- What the part of a round that sees to the port is for the receiving loop. -/
structure Hears (config : RuntimeConfig) (s s' : CliState) (made : List ProcessCall) : Prop where
  ready : s'.port.Ready
  round : ReadsWithin (systemTrace made) → ∃ (round : CliRound) (received : Received),
    s.loop.receive (millisecondsToNanoseconds config.reconnectIntervalMs) round =
        some (s'.loop, received) ∧
      Recounts [⟨s.port.generation, round.readDeadlineNs, round.answers, received⟩] made

theorem receive_due {l : CliLoop} {round : CliRound} {intervalNs : Int} (hnow : ¬round.nowNs ≤ 0)
    (hdown : (!l.transport.connected) = true) (hanswers : round.answers = [])
    (hdue : (l.nextReconnectNs = 0 || round.nowNs ≥ l.nextReconnectNs) = true) :
    l.receive intervalNs round = some ({ l with
      transport := l.transport.reopened round.opened
      nextReconnectNs := round.nowNs + intervalNs
      parser := if (l.transport.reopened round.opened).connected then l.parser.reset
        else l.parser }, {}) := by
  rw [CliLoop.receive, if_neg hnow, if_pos hdown, if_neg (by simp [hanswers]), if_pos hdue]

theorem receive_early {l : CliLoop} {round : CliRound} {intervalNs : Int}
    (hnow : ¬round.nowNs ≤ 0) (hdown : (!l.transport.connected) = true)
    (hanswers : round.answers = [])
    (hearly : ¬(l.nextReconnectNs = 0 || round.nowNs ≥ l.nextReconnectNs) = true) :
    l.receive intervalNs round = some (l, {}) := by
  rw [CliLoop.receive, if_neg hnow, if_pos hdown, if_neg (by simp [hanswers]), if_neg hearly]

theorem receive_up {l : CliLoop} {round : CliRound} {intervalNs : Int} (hnow : ¬round.nowNs ≤ 0)
    (hup : ¬(!l.transport.connected) = true) {result : IoResult} {data : List UInt8}
    {transport : PosixSerialTransport}
    (hread : l.transport.readSome WheeltecVcuSerial.serialBufferSize round.readDeadlineNs
      round.answers = some (result, data, transport)) :
    l.receive intervalNs round = some (CliLoop.dispatch
      { l with transport := transport, serialBuffer := storeFront l.serialBuffer data } round
      result) := by
  rw [CliLoop.receive, if_neg hnow, if_neg hup, hread]
  rfl

theorem reconnect_hears {nowNs : Int} (s : CliState) (hs : s.port.Ready) (hnow : ¬nowNs ≤ 0)
    (hdown : (!s.port.connected) = true) :
    Makes (s.reconnect config nowNs) fun s' made => Hears config s s' made := by
  have hclosed : s.port.connected = false := by simpa using hdown
  refine .ite (fun hdue => ?_) fun hearly => .pure ⟨hs, fun _ => ?_⟩
  · refine .bind (s.port.request_makes _) ?_
    rintro _ _ ⟨e, rfl, rfl, hperform⟩
    obtain ⟨result, hresult, hopened⟩ := SerialPort.opened_of_reopen hs.sound hperform
    obtain ⟨opened, hreopened⟩ := hopened.reopened hs.sound.closed rfl
    have hcall := SerialPort.call_of_perform hperform
    have hunheard : Unheard [.port e] :=
      ⟨by simp [ProcessCall.portEvents, hcall, PortCall.reads], by simp [ProcessCall.sessionEvent]⟩
    have htransport : e.record.after.toPosixSerialTransport = s.loop.transport.reopened opened := by
      rw [hreopened]
      cases opened <;> rfl
    -- the parser starts over where a connection has come about
    have hround (s' : CliState) (hport : s'.port = e.record.after)
        (hnext : s'.nextReconnectNs =
          nowNs + millisecondsToNanoseconds config.reconnectIntervalMs)
        (hparser : s'.parser = if result.ok then s.parser.reset else s.parser)
        (hbuffer : s'.serialBuffer = s.serialBuffer) : Hears config s s' [.port e] := by
      refine ⟨hport ▸ hs.performed hperform, fun _ => ⟨{ nowNs := nowNs, opened := opened }, {}, ?_,
        (Recounts.unheard hunheard).append (.idle rfl rfl)⟩⟩
      refine (receive_due hnow hdown rfl hdue).trans ?_
      dsimp only
      rw [← htransport, ← hopened.ok_eq rfl]
      simp [CliState.loop, hport, hnext, hparser, hbuffer]
    rw [hresult]
    refine .ite (fun hok => .pure ?_) fun hfailed => .pure ?_
    · rw [List.append_nil]
      exact hround _ rfl rfl (if_pos hok).symm rfl
    · rw [List.append_nil]
      exact hround _ rfl rfl (if_neg hfailed).symm rfl
  · exact ⟨{ nowNs := nowNs }, {}, receive_early hnow hdown rfl hearly, .idle rfl rfl⟩

theorem receive_hears {nowNs : Int} (s : CliState) (hs : s.port.Ready) (hnow : ¬nowNs ≤ 0) :
    Makes (s.receive config nowNs) fun s' made => Hears config s s' made := by
  refine .ite (reconnect_hears s hs hnow) fun hup => ?_
  refine .bind (s.port.request_makes _) ?_
  rintro _ _ ⟨e, rfl, rfl, hperform⟩
  obtain ⟨result, data, hresult, hread⟩ := SerialPort.readSome_of_perform hperform
  have hcall := SerialPort.call_of_perform hperform
  have hgeneration : e.generation = s.port.generation := by
    rw [PortEvent.generation, (hs.sound.performed hperform).1]
  rw [hresult]
  refine (received_dispatches _ nowNs result).weaken ?_
  rintro s' made ⟨receiptNs, hdispatch⟩
  refine ⟨?_, fun hreads => ?_⟩
  · obtain ⟨_, -, hshows⟩ := hdispatch { nowNs := nowNs, receiptNs := receiptNs } rfl rfl
    exact hshows.port ▸ hs.performed hperform
  rw [systemTrace_append] at hreads
  have hcalls : systemTrace [.port e] = e.calls := by
    simp [systemTrace, portTrace, ProcessCall.portEvents]
  obtain ⟨hfits, hrefines⟩ :=
    SerialPort.readSome_refines hs.operations hread (hcalls ▸ hreads.left)
  let round : CliRound :=
    { nowNs := nowNs, answers := e.answers, receiptNs := receiptNs, fits := hfits }
  obtain ⟨received, hdispatched, hshows⟩ := hdispatch round rfl rfl
  refine ⟨round, received, ?_, ?_⟩
  · refine (receive_up hnow hup hrefines).trans ?_
    exact congrArg some hdispatched
  · have hchunk : (if result.status = .ok then
        (data ++ s.serialBuffer.drop data.length).take result.bytesTransferred else []) =
          received.chunk :=
      (CliLoop.dispatch_chunk _ round result).symm.trans (congrArg (·.2.chunk) hdispatched)
    have hkept : e.kept = received.chunk := by
      rw [PortEvent.kept_of_read hresult, ← hchunk]
      split
      · case isTrue hok => rw [SerialPort.transferred_of_ok hperform hresult hok, List.take_left]
      · rfl
    rw [← hgeneration]
    refine .read hcall hkept hshows.silent (fun x hx => ?_) hshows.ops
    rw [hgeneration]
    exact (hshows.generation x hx).trans (PosixSerialTransport.readSome_generation hrefines)

/-! ### Rounds -/

/-- A round of the process is a round of the receiving loop. -/
theorem Hears.step (h : Hears config s s' made) (hrest : Apart s' s'' more)
    (hreads : ReadsWithin (systemTrace (made ++ more))) :
    ∃ e, (receiver config).step s.loop e s''.loop ∧ Recounts [e] (made ++ more) := by
  rw [systemTrace_append] at hreads
  obtain ⟨round, received, hreceive, hrecounts⟩ := h.round hreads.left
  obtain ⟨unplugged, hfinish⟩ := hrest.finish round
  exact ⟨_, ⟨rfl, { round with unplugged := unplugged, leaves := false }, received, s'.loop,
    hreceive, hfinish.symm, rfl⟩, hrecounts.append (.unheard hrest.unheard)⟩

/-- Where a round leaves the receiving loop: one round on, or out of it. -/
def Phase.Follows (config : RuntimeConfig) (s : CliState) (made : List ProcessCall) :
    Phase → Prop
  | .starting => False
  | .running s' => s'.port.Ready ∧ (ReadsWithin (systemTrace made) →
      ∃ e, (receiver config).step s.loop e s'.loop ∧ Recounts [e] made)
  | .leaving _ => ReadsWithin (systemTrace made) →
      Unheard made ∨ ∃ e l, (receiver config).step s.loop e l ∧ Recounts [e] made

theorem round_follows (s : CliState) (hs : s.port.Ready) :
    Makes (s.round config) fun phase made => phase.Follows config s made := by
  refine .ite (fun _ => .pure fun _ => .inl .nil) fun _ => ?_
  refine .bind shutdownRequested_makes ?_
  rintro value _ rfl
  have hshutdown : Unheard [.shutdownRequested value] := .outside rfl rfl
  refine .ite (fun _ => .pure fun _ => .inl hshutdown) fun _ => ?_
  refine .bind monotonicNowNs_makes ?_
  rintro ns _ rfl
  have hclock : Unheard ([.shutdownRequested value] ++ [.monotonicNow ns]) :=
    hshutdown.append (.outside rfl rfl)
  refine .ite (fun _ => ?_) fun hnow => ?_
  · refine .bind (s.perform_makes fun _ => rfl) ?_
    rintro g _ ⟨e, rfl, hop, -⟩
    have hlatch : Unheard [.session e []] :=
      ⟨by simp [ProcessCall.portEvents], by simp [ProcessCall.sessionEvent, hop, Op.shown]⟩
    exact .pure fun _ => .inl (hclock.append hlatch)
  refine .bind (receive_hears s hs hnow) fun s₁ made hhears => ?_
  refine (takeInput_apart s₁ ns hhears.ready).weaken fun phase more hrest => ?_
  simp only [← List.append_assoc]
  rw [List.append_assoc]
  have hstep {s'' : CliState} (hapart : Apart s₁ s'' more) (hreads : ReadsWithin
      (systemTrace ([.shutdownRequested value] ++ [.monotonicNow ns] ++ (made ++ more)))) :
      ∃ e, (receiver config).step s.loop e s''.loop ∧
        Recounts [e] ([.shutdownRequested value] ++ [.monotonicNow ns] ++ (made ++ more)) := by
    rw [systemTrace_append] at hreads
    obtain ⟨e, hstep, hrecounts⟩ := hhears.step hapart hreads.right
    exact ⟨e, hstep, (Recounts.unheard hclock).append hrecounts⟩
  cases phase with
  | starting => exact hrest
  | running s'' => exact ⟨hrest.ready hhears.ready, hstep hrest⟩
  | leaving s'' =>
    intro hreads
    obtain ⟨e, he⟩ := hstep hrest hreads
    exact .inr ⟨e, _, he⟩

/-! ### The beginning and the end -/

theorem start_hears : Makes (start config) fun next made => Unheard made ∧
    ∀ s, next = .inl (.running s) → s.port.Ready ∧ (receiver config).init s.loop := by
  refine .bind ((opening config).port.request_makes .open) ?_
  rintro _ _ ⟨e, rfl, rfl, hperform⟩
  have hcall := SerialPort.call_of_perform hperform
  have hopen : Unheard [.port e] :=
    ⟨by simp [ProcessCall.portEvents, hcall, PortCall.reads], by simp [ProcessCall.sessionEvent]⟩
  have hsound : (opening config).port.Sound := opening_sound
  obtain ⟨result, hresult, hopened⟩ := SerialPort.opened_of_open hsound rfl hperform
  rw [hresult]
  refine .ite (fun _ => ?_) fun hok => ?_
  · refine .bind (close_makes (makeSafetyConfig config) _) ?_
    rintro closed made ⟨hclosed, -⟩
    exact .pure ⟨by simpa using hopen.append hclosed.unheard, by simp⟩
  refine .bind (construct_makes e.record.after (makeSafetyConfig config)) ?_
  rintro ⟨port, session⟩ _ ⟨rfl, rfl, rfl⟩
  have hconstructed : Unheard ([.port e] ++
      [.construct (makeSafetyConfig config) e.record.after.link]) :=
    hopen.append (.outside rfl rfl)
  refine .ite (fun _ => ?_) fun _ => ?_
  · refine .bind (closeTwice_makes (makeSafetyConfig config) _) ?_
    rintro _ made ⟨p', hclosed⟩
    exact .pure ⟨by simpa using hconstructed.append hclosed.unheard, by simp⟩
  refine .bind enable_makes ?_
  rintro mode made ⟨haside, -⟩
  have hmode := hconstructed.append (unheard_of_aside haside)
  refine .ite (fun _ => ?_) fun _ => .pure ⟨by simpa using hmode, ?_⟩
  · refine .bind (attemptFinalZero_makes (makeSafetyConfig config) _) ?_
    rintro ⟨success, p⟩ attempted ⟨hattempts, -⟩
    refine .bind (closeTwice_makes (makeSafetyConfig config) p) ?_
    rintro _ closing ⟨p', hclosed⟩
    have hrefused := (hmode.append hattempts.unheard).append hclosed.unheard
    exact .pure ⟨by simpa using hrefused, by simp⟩
  · rintro _ ⟨⟩
    refine ⟨SerialPort.Ready.performed ⟨hsound, rfl⟩ hperform, ?_⟩
    obtain ⟨fd, hfd⟩ := hopened.connected_of_ok hsound rfl (by simpa using hok)
    exact ⟨fd, congrArg (fun t => ({ transport := t } : CliLoop)) hfd⟩

theorem Stopped.unheard {ns : Int} {g : GuardedPort} (h : Stopped s.toGuardedPort ns made g) :
    Unheard made := by
  cases h with
  | unclocked => exact .nil
  | @stopped e e' answers _ _ _ hop htick _ hguard' =>
    have hdisarm : Unheard [.session e []] :=
      ⟨by simp [ProcessCall.portEvents], by simp [ProcessCall.sessionEvent, hop, Op.shown]⟩
    exact hdisarm.append (tick_unheard htick hguard')

theorem Finished.unheard {code : Nat} (h : Finished config limits s code made) :
    Unheard made := by
  cases h with
  | @mk ns _ _ _ _ _ _ _ _ _ _ shutdown hstopped hattempted _ hclosing hrestored hdestroying =>
    have hclock : Unheard [.monotonicNow ns] := .outside rfl rfl
    have hshutdown : Unheard [.shutdownRequested shutdown] := .outside rfl rfl
    have hend := hshutdown.append
      ((unheard_of_aside hrestored.aside).append hdestroying.unheard)
    exact hclock.append (hstopped.unheard.append
      (hattempted.unheard.append (hclosing.unheard.append hend)))

/-! ### The process -/

/-- Where the reads of a process keep to their buffer, it has gone through the receiving loop. -/
def Accounted (config : RuntimeConfig) (made : List ProcessCall) : Prop :=
  ReadsWithin (systemTrace made) → ∃ l, Relayed (receiver config) made l

/-- How far the receiving loop has got, as the phases of the process tell. -/
def Phase.Receives (config : RuntimeConfig) (made : List ProcessCall) : Phase → Prop
  | .starting => Unheard made
  | .running s => s.port.Ready ∧
      (ReadsWithin (systemTrace made) → Relayed (receiver config) made s.loop)
  | .leaving _ => Accounted config made

theorem step_receives {phase : Phase} (h : phase.Receives config made) :
    Makes (step config phase) fun next more =>
      next.elim (Phase.Receives config (made ++ more))
        fun _ => Accounted config (made ++ more) := by
  cases phase with
  | starting =>
    refine start_hears.weaken fun next more ⟨hstart, hrunning⟩ => ?_
    have hunheard : Unheard (made ++ more) := Unheard.append h hstart
    have hinit {l : CliLoop} (hl : (receiver config).init l) :
        Relayed (receiver config) (made ++ more) l := ⟨[], .start hl, .unheard hunheard⟩
    rcases next with (_ | s | s) | code
    · exact hunheard
    · obtain ⟨hready, hloop⟩ := hrunning s rfl
      exact ⟨hready, fun _ => hinit hloop⟩
    · exact fun _ => ⟨_, hinit ⟨0, rfl⟩⟩
    · exact fun _ => ⟨_, hinit ⟨0, rfl⟩⟩
  | running s =>
    obtain ⟨hready, hreceived⟩ := h
    refine .bind (round_follows s hready) fun phase more hphase => .pure ?_
    rw [List.append_nil]
    cases phase with
    | starting => exact hphase.elim
    | running s' =>
      refine ⟨hphase.1, fun hreads => ?_⟩
      rw [systemTrace_append] at hreads
      obtain ⟨e, hstep, hrecounts⟩ := hphase.2 hreads.right
      exact (hreceived hreads.left).round hstep hrecounts
    | leaving s' =>
      intro hreads
      rw [systemTrace_append] at hreads
      rcases hphase hreads.right with hunheard | ⟨e, l, hstep, hrecounts⟩
      · exact ⟨_, (hreceived hreads.left).silent hunheard⟩
      · exact ⟨l, (hreceived hreads.left).round hstep hrecounts⟩
  | leaving s =>
    refine .bind (finish_makes (makeSafetyConfig config) s) fun code more hfinished => .pure ?_
    rw [List.append_nil]
    intro hreads
    rw [systemTrace_append] at hreads
    obtain ⟨l, hl⟩ := h hreads.left
    exact ⟨l, hl.silent hfinished.unheard⟩

theorem received_of_run {h : List (List ProcessCall)} {next : Phase ⊕ Nat}
    (run : (process config).Run h next) (hreads : ReadsWithin (systemTrace (called h))) :
    ∃ l, Relayed (receiver config) (called h) l := by
  have hreceives : next.elim (Phase.Receives config (called h))
      fun _ => Accounted config (called h) := by
    have hstart : Phase.starting.Receives config [] := Unheard.nil
    exact Makes.roundMachine (I := fun phase made => Phase.Receives config made phase) hstart
      (fun _ _ => step_receives) run
  rcases next with (_ | s | s) | code
  · exact ⟨_, [], .start ⟨0, rfl⟩, .unheard hreceives⟩
  · exact ⟨_, hreceives.2 hreads⟩
  · exact hreceives hreads
  · exact hreceives hreads

/-- What a process has made of the bytes of a connection. -/
structure Connected (generation : Nat) (trace : List ProcessCall) : Prop where
  frames : shownFrames generation trace =
    (feedbackFormat.scan (keptBytes generation trace)).1
  kept_iff : keptBytes generation trace = arrivedBytes generation trace ↔
    ∀ e ∈ portTrace trace, e.generation = generation → e.InTime

/-- A process shows its session exactly the frames that are in the bytes that it keeps of a
connection, and it keeps all bytes that arrive over one if and only if no read that delivers bytes
completes after its deadline. -/
theorem frames_of_bytes {h : List (List ProcessCall)} {next : Phase ⊕ Nat}
    (run : (process config).Run h next) (hreads : ReadsWithin (systemTrace (called h)))
    (generation : Nat) : Connected generation (called h) := by
  obtain ⟨l, receptions, hrun, hrecounts⟩ := received_of_run run hreads
  obtain ⟨d, hacts, -⟩ := acts_of_run run
  have hport := portRun_of_guarded hacts.guarded
  have hsound : (opening config).port.Sound := opening_sound
  have harrived : Reception.arrived generation receptions = arrivedBytes generation (called h) :=
    (hrecounts.arrived (· = generation)).trans (hport.arrived hsound _)
  have hkept : Reception.consumed generation receptions = keptBytes generation (called h) :=
    (hrecounts.kept (· = generation)).trans (hport.kept hsound _)
  have hshown : Reception.observed generation receptions = shownFrames generation (called h) :=
    hrecounts.shown (· = generation)
  refine ⟨?_, ?_⟩
  · rw [← hshown, ← hkept]
    exact observed_eq_scan hrun generation
  · rw [← hkept, ← harrived, bytes_kept_iff (.cli hrun) generation]
    have htime := (hrecounts.inTime (· = generation)).trans (inTime_portReads _ (called h))
    simpa [portCalls, List.mem_filter] using htime

theorem drive_frames :
    shownFrames 1 (called drive.reverse) = [allowedFeedback.toList] ∧
      ∀ e ∈ portTrace (called drive.reverse), e.generation = 1 → e.InTime := by
  have hreads : ReadsWithin (systemTrace (called drive.reverse)) := by
    unfold ReadsWithin
    decide +kernel
  have hscan : (feedbackFormat.scan (keptBytes 1 (called drive.reverse))).1 =
      [allowedFeedback.toList] := by decide +kernel
  have hall : keptBytes 1 (called drive.reverse) = arrivedBytes 1 (called drive.reverse) := by
    decide +kernel
  have hconnected := frames_of_bytes drive_run hreads 1
  exact ⟨hconnected.frames.trans hscan, hconnected.kept_iff.mp hall⟩

end WheeltecVcuSerial.Cli
