import WheeltecVcuSerial.Monitor.Reception
import WheeltecVcuSerial.Parser.Streaming

namespace WheeltecVcuSerial.Monitor

open Framing Process Trace Program

variable {options : Options} {s s' : MonitorState} {made more : List ProcessCall}
  {feedback : List FeedbackData} {frames : List ParsedFeedbackFrame} {a : Aggregate}

/-! ### What is counted -/

def summarise (feedback : List FeedbackData) : Aggregate := feedback.foldl Aggregate.add {}

/-- What an aggregate says of all feedback that it counts. -/
structure Summary (feedback : List FeedbackData) (a : Aggregate) : Prop where
  frames : a.frames = feedback.length
  allowed : a.allowed = feedback.countP (·.controlAllowed)
  inhibited : a.inhibited = feedback.countP (·.controlInhibited)
  linearSum : a.linearSum = (feedback.map (·.linearSpeedMps)).sum
  yawSum : a.yawSum = (feedback.map (·.yawRateRadps)).sum
  voltageSum : a.voltageSum = (feedback.map (·.supplyVoltageV)).sum
  slowest : feedback = [] ∧ a.linearMin = .infinite false ∨
    ∃ f ∈ feedback, a.linearMin = .finite f.linearSpeedMps ∧
      ∀ g ∈ feedback, f.linearSpeedMps ≤ g.linearSpeedMps
  fastest : feedback = [] ∧ a.linearMax = .infinite true ∨
    ∃ f ∈ feedback, a.linearMax = .finite f.linearSpeedMps ∧
      ∀ g ∈ feedback, g.linearSpeedMps ≤ f.linearSpeedMps

theorem Summary.slowest_add (h : Summary feedback a) (f : FeedbackData) :
    ∃ f' ∈ feedback ++ [f], (a.add f).linearMin = .finite f'.linearSpeedMps ∧
      ∀ g ∈ feedback ++ [f], f'.linearSpeedMps ≤ g.linearSpeedMps := by
  rcases h.slowest with ⟨rfl, hmin⟩ | ⟨f', hmem, hmin, hle⟩
  · exact ⟨f, by simp, by simp [Aggregate.add, hmin, Double.lt], by simp⟩
  · by_cases hlt : f.linearSpeedMps < f'.linearSpeedMps
    · exact ⟨f, by simp, by simp [Aggregate.add, hmin, hlt], List.forall_mem_append.mpr
        ⟨fun g hg => hlt.le.trans (hle g hg), by simp⟩⟩
    · exact ⟨f', by simp [hmem], by simp [Aggregate.add, hmin, hlt], List.forall_mem_append.mpr
        ⟨hle, by simpa using not_lt.mp hlt⟩⟩

theorem Summary.fastest_add (h : Summary feedback a) (f : FeedbackData) :
    ∃ f' ∈ feedback ++ [f], (a.add f).linearMax = .finite f'.linearSpeedMps ∧
      ∀ g ∈ feedback ++ [f], g.linearSpeedMps ≤ f'.linearSpeedMps := by
  rcases h.fastest with ⟨rfl, hmax⟩ | ⟨f', hmem, hmax, hle⟩
  · exact ⟨f, by simp, by simp [Aggregate.add, hmax, Double.lt], by simp⟩
  · by_cases hlt : f'.linearSpeedMps < f.linearSpeedMps
    · exact ⟨f, by simp, by simp [Aggregate.add, hmax, hlt], List.forall_mem_append.mpr
        ⟨fun g hg => (hle g hg).trans hlt.le, by simp⟩⟩
    · exact ⟨f', by simp [hmem], by simp [Aggregate.add, hmax, hlt], List.forall_mem_append.mpr
        ⟨hle, by simpa using not_lt.mp hlt⟩⟩

theorem summary (feedback : List FeedbackData) : Summary feedback (summarise feedback) := by
  induction feedback using List.reverseRecOn with
  | nil => exact ⟨rfl, rfl, rfl, rfl, rfl, rfl, .inl ⟨rfl, rfl⟩, .inl ⟨rfl, rfl⟩⟩
  | append_singleton feedback f ih =>
    have hadd : summarise (feedback ++ [f]) = (summarise feedback).add f := by
      rw [summarise, List.foldl_append]
      rfl
    rw [hadd]
    refine ⟨?_, ?_, ?_, ?_, ?_, ?_, .inr (ih.slowest_add f), .inr (ih.fastest_add f)⟩
    · simp [Aggregate.add, ih.frames]
    · simp [Aggregate.add, ih.allowed, List.countP_cons]
    · simp [Aggregate.add, ih.inhibited, List.countP_cons]
    · simp [Aggregate.add, ih.linearSum]
    · simp [Aggregate.add, ih.yawSum]
    · simp [Aggregate.add, ih.voltageSum]

def mean (values : List ℚ) : ℚ := values.sum / values.length

/-- What a line that is printed says of all feedback that it counts. -/
structure Report.Tells (feedback : List FeedbackData) (r : Report) : Prop where
  receiptFrames : r.receiptFrames = feedback.length
  controlAllowed : r.controlAllowed = feedback.countP (·.controlAllowed)
  controlInhibited : r.controlInhibited = feedback.countP (·.controlInhibited)
  linearMean : r.linearMeanMps = mean (feedback.map (·.linearSpeedMps))
  yawMean : r.yawMeanRadps = mean (feedback.map (·.yawRateRadps))
  voltageMean : r.voltageMeanV = mean (feedback.map (·.supplyVoltageV))
  slowest : ∃ f ∈ feedback, r.linearRangeMps.1 = .finite f.linearSpeedMps ∧
    ∀ g ∈ feedback, f.linearSpeedMps ≤ g.linearSpeedMps
  fastest : ∃ f ∈ feedback, r.linearRangeMps.2 = .finite f.linearSpeedMps ∧
    ∀ g ∈ feedback, g.linearSpeedMps ≤ f.linearSpeedMps

theorem Summary.tells {o : Outcome} {r : Report} (h : Summary feedback o.aggregate)
    (hreport : o.report = some r) : r.Tells feedback := by
  obtain ⟨hframes, rfl⟩ := Option.ite_none_right_eq_some.mp hreport |>.imp_right Option.some.inj
  have hsome : feedback ≠ [] := by
    rintro rfl
    rw [h.frames] at hframes
    exact absurd hframes (lt_irrefl 0)
  constructor
  · exact h.frames
  · exact h.allowed
  · exact h.inhibited
  · simp [mean, h.linearSum, h.frames]
  · simp [mean, h.yawSum, h.frames]
  · simp [mean, h.voltageSum, h.frames]
  · exact h.slowest.resolve_left fun hnone => hsome hnone.1
  · exact h.fastest.resolve_left fun hnone => hsome hnone.1

theorem Summary.report_eq_none_iff {o : Outcome} (h : Summary feedback o.aggregate) :
    o.report = none ↔ feedback = [] := by
  rw [Outcome.report, h.frames]
  simp [List.length_eq_zero_iff]

/-- The loop over the frames of a read takes as many of them as are still wanted. -/
theorem addFrames_eq {frameCount : Nat} (h : a.frames < frameCount) :
    a.addFrames frameCount frames =
      ((frames.take (frameCount - a.frames)).map (·.feedback)).foldl Aggregate.add a := by
  induction frames generalizing a with
  | nil => simp [Aggregate.addFrames]
  | cons frame frames ih =>
    obtain ⟨wanted, hwanted⟩ : ∃ wanted, frameCount - a.frames = wanted + 1 :=
      ⟨frameCount - a.frames - 1, by omega⟩
    have hframes : (a.add frame.feedback).frames = a.frames + 1 := rfl
    rw [Aggregate.addFrames, hwanted, List.take_succ_cons]
    split
    · case isTrue hfull =>
      obtain rfl : wanted = 0 := by omega
      rfl
    · case isFalse hmore =>
      rw [ih (not_le.mp hmore), List.map_cons, List.foldl_cons,
        show frameCount - (a.add frame.feedback).frames = wanted by omega]

/-- What is counted of the frames of a whole stream: the first ones. -/
def counted (frameCount : Nat) (frames : List ParsedFeedbackFrame) : Aggregate :=
  summarise ((frames.take frameCount).map (·.feedback))

theorem counted_frames (frameCount : Nat) :
    (counted frameCount frames).frames = min frameCount frames.length := by
  rw [counted, (summary _).frames, List.length_map, List.length_take]

theorem counted_append {frameCount : Nat} (h : (counted frameCount frames).frames < frameCount)
    (later : List ParsedFeedbackFrame) :
    (counted frameCount frames).addFrames frameCount later =
      counted frameCount (frames ++ later) := by
  have hshort : frames.length < frameCount := by
    rw [counted_frames] at h
    omega
  rw [addFrames_eq h, counted_frames, min_eq_right hshort.le, counted, counted, summarise,
    summarise, List.take_append, List.take_of_length_le hshort.le, List.map_append,
    List.foldl_append]

/-! ### What is received -/

/-- The bytes of the reads that are told to be good. -/
def received (trace : List ProcessCall) : List UInt8 := (portTrace trace).flatMap PortEvent.kept

/-- The bytes that `read_bytes` delivered. -/
def arrived (trace : List ProcessCall) : List UInt8 := (portTrace trace).flatMap PortEvent.arrived

theorem received_append (trace more : List ProcessCall) :
    received (trace ++ more) = received trace ++ received more := by
  rw [received, portTrace_append, List.flatMap_append]
  rfl

def parsed (trace : List ProcessCall) : FeedbackParser × List ParsedFeedbackFrame :=
  ({} : FeedbackParser).consumeBytes (received trace)

theorem consumeBytes_append (parser : FeedbackParser) (first second : List UInt8) :
    parser.consumeBytes (first ++ second) =
      (((parser.consumeBytes first).1.consumeBytes second).1,
        (parser.consumeBytes first).2 ++
          ((parser.consumeBytes first).1.consumeBytes second).2) := by
  induction first generalizing parser with
  | nil => rfl
  | cons byte first ih => simp [FeedbackParser.consumeBytes, ih]

/-- The clock readings of a process. -/
def clock : ProcessCall → Option Int
  | .monotonicNow ns => some ns
  | _ => none

/-- What the calls so far say of a monitor that is in its loop. -/
structure Watching (options : Options) (made : List ProcessCall) (s : MonitorState) : Prop where
  port : PortRun (.construct options.device .readOnly {}) (portTrace made) s.port
  parser : s.parser = (parsed made).1
  aggregate : s.aggregate = counted options.frameCount (parsed made).2
  started : ∃ startedNs, (made.filterMap clock).head? = some startedNs ∧
    s.sessionDeadlineNs = startedNs + options.timeoutMs * 1000000
  reads : ∀ e ∈ portTrace made, ∀ dataNull capacity deadlineNs,
    e.record.call = .readSome dataNull capacity deadlineNs → deadlineNs ≤ s.sessionDeadlineNs

/-- A monitor that has left its loop, with the code that it has by then. -/
inductive Left (options : Options) (s : MonitorState) (made : List ProcessCall) : Nat → Prop
  | enough : options.frameCount ≤ s.aggregate.frames → Left options s made 0
  | stopped {before : List ProcessCall} : made = before ++ [.shutdownRequested true] →
      Left options s made 0
  | late {before : List ProcessCall} : s.aggregate.frames < options.frameCount →
      made = before ++ [.monotonicNow ns] → ns ≤ 0 ∨ s.sessionDeadlineNs ≤ ns →
      Left options s made 5
  | failed {before : List ProcessCall} : s.aggregate.frames < options.frameCount →
      made = before ++ [.port e] → e.record.result = .read result data →
      result.status ≠ .ok → result.status ≠ .deadlineExceeded → Left options s made 6

def Stands (options : Options) (made : List ProcessCall) : Phase → Prop
  | .starting => made = []
  | .running s => Watching options made s
  | .leaving s code => Watching options made s ∧ Left options s made code

theorem Watching.aside (h : Watching options made s) {call : ProcessCall}
    (hport : call.portEvents = []) : Watching options (made ++ [call]) s := by
  have htrace : portTrace (made ++ [call]) = portTrace made := by simp [portTrace_append, hport]
  have hreceived : received (made ++ [call]) = received made := by rw [received, htrace, received]
  obtain ⟨startedNs, hstarted, hdeadline⟩ := h.started
  refine ⟨htrace ▸ h.port, ?_, ?_, ⟨startedNs, ?_, hdeadline⟩, htrace ▸ h.reads⟩
  · rw [parsed, hreceived]
    exact h.parser
  · rw [parsed, hreceived]
    exact h.aggregate
  · rw [List.filterMap_append, List.head?_append, hstarted]
    rfl

theorem Watching.read (h : Watching options made s) {e : PortEvent} {deadlineNs : Int}
    (hperform : s.port.perform (.readSome false bufferSize deadlineNs) e.calls =
      some (e.record, []))
    (hdeadline : deadlineNs ≤ s.sessionDeadlineNs) (hport : s'.port = e.record.after)
    (hsession : s'.sessionDeadlineNs = s.sessionDeadlineNs)
    (hparser : s'.parser = (parsed (made ++ [.port e])).1)
    (haggregate : s'.aggregate = counted options.frameCount (parsed (made ++ [.port e])).2) :
    Watching options (made ++ [.port e]) s' := by
  have hcall := SerialPort.call_of_perform hperform
  have htrace : portTrace (made ++ [.port e]) = portTrace made ++ [e] := by
    simp [portTrace_append, ProcessCall.portEvents]
  obtain ⟨startedNs, hstarted, hstart⟩ := h.started
  refine ⟨?_, hparser, haggregate, ⟨startedNs, ?_, hsession.trans hstart⟩, ?_⟩
  · rw [htrace, hport]
    exact h.port.trans (.cons (hcall ▸ hperform) .nil)
  · rw [List.filterMap_append, List.head?_append, hstarted]
    rfl
  · rw [htrace, List.forall_mem_append, List.forall_mem_singleton, hsession]
    refine ⟨h.reads, fun dataNull capacity deadlineNs' hasked => ?_⟩
    obtain ⟨-, -, rfl⟩ := PortCall.readSome.inj (hcall.symm.trans hasked)
    exact hdeadline

/-- What a round makes of its read. -/
theorem Watching.received (h : Watching options made s) {e : PortEvent} {deadlineNs : Int}
    {result : IoResult} {data : List UInt8}
    (hperform : s.port.perform (.readSome false bufferSize deadlineNs) e.calls =
      some (e.record, []))
    (hdeadline : deadlineNs ≤ s.sessionDeadlineNs) (hread : e.record.result = .read result data)
    (hmissing : s.aggregate.frames < options.frameCount) :
    Stands options (made ++ [.port e])
      ({ s with port := e.record.after, buffer := data ++ s.buffer.drop data.length }.received
        options result) := by
  have hnone (hbad : result.status ≠ .ok) : parsed (made ++ [.port e]) = parsed made := by
    rw [parsed, received_append]
    simp [Monitor.received, PortEvent.kept_of_read hread, ProcessCall.portEvents, hbad, parsed]
  have hsome (hok : result.status = .ok) :
      Monitor.received (made ++ [.port e]) = Monitor.received made ++ data := by
    rw [received_append]
    simp [Monitor.received, PortEvent.kept_of_read hread, ProcessCall.portEvents, hok]
  unfold MonitorState.received
  split
  · case isTrue hlate =>
    have hbad : result.status ≠ .ok := by simp [hlate]
    exact h.read hperform hdeadline rfl rfl (by rw [hnone hbad]; exact h.parser)
      (by rw [hnone hbad]; exact h.aggregate)
  · case isFalse hlate =>
    split
    · case isTrue hbad =>
      exact ⟨h.read hperform hdeadline rfl rfl (by rw [hnone hbad]; exact h.parser)
        (by rw [hnone hbad]; exact h.aggregate), .failed hmissing rfl hread hbad hlate⟩
    · case isFalse hok =>
      have hok := not_not.mp hok
      have htaken : (data ++ s.buffer.drop data.length).take result.bytesTransferred = data := by
        rw [SerialPort.transferred_of_ok hperform hread hok, List.take_left]
      have hparsed : parsed (made ++ [.port e]) = ((s.parser.consumeBytes data).1,
          (parsed made).2 ++ (s.parser.consumeBytes data).2) := by
        rw [parsed, hsome hok, consumeBytes_append, h.parser]
        rfl
      refine h.read hperform hdeadline rfl rfl ?_ ?_
      · rw [hparsed, htaken, FeedbackParser.consume_bytes]
      · rw [hparsed, htaken, FeedbackParser.consume_bytes]
        rw [h.aggregate] at hmissing ⊢
        exact counted_append hmissing _

theorem saturatedAddMilliseconds_pos {originNs milliseconds : Int}
    (h : ¬saturatedAddMilliseconds originNs milliseconds ≤ 0) :
    saturatedAddMilliseconds originNs milliseconds = originNs + milliseconds * 1000000 := by
  unfold saturatedAddMilliseconds at h ⊢
  split at h
  · exact absurd le_rfl h
  · case isFalse hin => rw [if_neg hin]

/-! ### The end -/

/-- The readings of the stop flag. -/
def flag : ProcessCall → Option Bool
  | .shutdownRequested value => some value
  | _ => none

/-- What a monitor that is over has done and reports. -/
structure Over (options : Options) (o : Outcome) (trace : List ProcessCall) : Prop where
  port : ∃ p, PortRun (.construct options.device .readOnly {}) (portTrace trace) p ∧
    p.connected = false
  aggregate : o.aggregate = counted options.frameCount (parsed trace).2
  statistics : o.statistics = (parsed trace).1.statistics
  reads : ∀ e ∈ portTrace trace, ∀ dataNull capacity deadlineNs,
    e.record.call = .readSome dataNull capacity deadlineNs →
      ∃ startedNs, (trace.filterMap clock).head? = some startedNs ∧
        deadlineNs ≤ startedNs + options.timeoutMs * 1000000
  among : o.code ∈ [0, 3, 4, 5, 6, 130]
  complete : o.code = 0 ∨ o.code = 130 →
    (trace.filterMap flag).getLast? = some (decide (o.code = 130))
  enough : o.code = 0 → options.frameCount ≤ o.aggregate.frames
  short : o.code = 5 ∨ o.code = 6 → o.aggregate.frames < options.frameCount
  unread : o.code = 3 ∨ o.code = 4 → o.aggregate.frames = 0

theorem round_makes (h : Watching options made s) :
    Makes (s.round options) fun phase more => Stands options (made ++ more) phase := by
  refine .ite (fun henough => .pure ?_) fun hmissing => ?_
  · rw [List.append_nil]
    exact ⟨h, .enough henough⟩
  refine .bind shutdownRequested_makes ?_
  rintro stopped _ rfl
  have hflag : Watching options (made ++ [.shutdownRequested stopped]) s := h.aside rfl
  refine .ite (fun hstopped => .pure ?_) fun _ => ?_
  · rw [List.append_nil]
    obtain rfl := hstopped
    exact ⟨hflag, .stopped rfl⟩
  refine .bind monotonicNowNs_makes ?_
  rintro nowNs _ rfl
  have hclock :
      Watching options (made ++ [.shutdownRequested stopped] ++ [.monotonicNow nowNs]) s :=
    hflag.aside rfl
  rw [List.append_assoc] at hclock
  refine .ite (fun hover => .pure ?_) fun _ => ?_
  · rw [List.append_nil]
    refine ⟨hclock, .late (not_le.mp hmissing) (List.append_assoc ..).symm ?_⟩
    simpa using hover
  refine .bind (s.port.request_makes _) ?_
  rintro _ _ ⟨e, rfl, rfl, hperform⟩
  split
  · case h_1 result data hread =>
    refine .pure ?_
    rw [List.append_nil]
    have hreceived := hclock.received hperform (min_le_left _ _) hread (not_le.mp hmissing)
    simpa using hreceived
  · exact .failure

/-- Calls that lead a port from `p` to `p'` and read nothing from it. -/
structure Unread (p : SerialPort) (made : List ProcessCall) (p' : SerialPort) : Prop where
  port : PortRun p (portTrace made) p'
  reads : ∀ e ∈ portTrace made, e.record.call.reads = false
  nothing : received made = []

namespace Unread

variable {p p' p'' : SerialPort}

theorem aside {call : ProcessCall} (hcall : call.portEvents = []) : Unread p [call] p := by
  have htrace : portTrace [call] = [] := by simp [hcall]
  refine ⟨?_, by simp [htrace], by rw [received, htrace, List.flatMap_nil]⟩
  rw [htrace]
  exact .nil

theorem one {e : PortEvent} {call : PortCall}
    (hperform : p.perform call e.calls = some (e.record, [])) (hreads : call.reads = false) :
    Unread p [.port e] e.record.after := by
  obtain rfl := SerialPort.call_of_perform hperform
  exact ⟨.cons hperform .nil, by simpa [ProcessCall.portEvents] using hreads,
    by simpa [received, ProcessCall.portEvents] using PortEvent.kept_of_unread hperform hreads⟩

theorem trans (first : Unread p made p') (second : Unread p' more p'') :
    Unread p (made ++ more) p'' := by
  refine ⟨?_, ?_, by rw [received_append, first.nothing, second.nothing, List.append_nil]⟩
  · rw [portTrace_append]
    exact first.port.trans second.port
  · rw [portTrace_append, List.forall_mem_append]
    exact ⟨first.reads, second.reads⟩

theorem call_ne (h : Unread p made p') {e : PortEvent} (he : e ∈ portTrace made)
    {dataNull : Bool} {capacity : Nat} {deadlineNs : Int} :
    e.record.call ≠ .readSome dataNull capacity deadlineNs := by
  intro hcall
  have hreads := h.reads e he
  simp [PortCall.reads, hcall] at hreads

theorem parsed_append (h : Unread p more p') (made : List ProcessCall) :
    parsed (made ++ more) = parsed made := by
  rw [parsed, received_append, h.nothing, List.append_nil, parsed]

end Unread

theorem close_makes (p : SerialPort) :
    Makes (p.request .close) fun record made =>
      Unread p made record.after ∧ record.after.connected = false ∧ ∃ e, made = [.port e] := by
  refine (p.request_makes .close).weaken ?_
  rintro _ _ ⟨e, rfl, rfl, hperform⟩
  exact ⟨.one hperform rfl, SerialPort.connected_of_close hperform, e, rfl⟩

theorem closeTwice_makes (p : SerialPort) :
    Makes (closeTwice p) fun _ made => ∃ p', Unread p made p' ∧ p'.connected = false := by
  refine .bind (close_makes p) ?_
  rintro closed made ⟨hclose, -, -⟩
  refine .bind (close_makes closed.after) ?_
  rintro destroyed more ⟨hdestroy, hdestroyed, -⟩
  exact .pure ⟨_, by simpa using hclose.trans hdestroy, hdestroyed⟩

/-- What a monitor reports that has not been in its loop. -/
theorem over_of_unread {p : SerialPort} {code : Nat}
    (h : Unread (.construct options.device .readOnly {}) made p) (hclosed : p.connected = false)
    (hcode : code = 3 ∨ code = 4) : Over options { code := code } made := by
  have hparsed : parsed made = ({}, []) := h.parsed_append []
  refine ⟨⟨p, h.port, hclosed⟩, ?_, ?_, fun e he _ _ _ hread => absurd hread (h.call_ne he), ?_,
    ?_, ?_, ?_, fun _ => rfl⟩
  · rw [hparsed]
    simp [counted, summarise]
  · rw [hparsed]
  all_goals rcases hcode with rfl | rfl <;> simp

/-- How the code of `finish` comes about. -/
def finalCode (stopped missing : Bool) (resultCode : Nat) : Nat :=
  let resultCode := if stopped && resultCode = 0 then 130 else resultCode
  if missing && resultCode = 0 then 5 else resultCode

/-- What the code says of the stop flag and of the frames. -/
theorem finalCode_tells : ∀ stopped missing, ∀ resultCode ∈ [0, 5, 6],
    (resultCode ≠ 0 → missing = true) →
      finalCode stopped missing resultCode ∈ [0, 3, 4, 5, 6, 130] ∧
        (finalCode stopped missing resultCode = 0 ∨ finalCode stopped missing resultCode = 130 →
          stopped = decide (finalCode stopped missing resultCode = 130)) ∧
        (finalCode stopped missing resultCode = 0 → missing = false) ∧
        (finalCode stopped missing resultCode = 5 ∨ finalCode stopped missing resultCode = 6 →
          missing = true) ∧
        ¬(finalCode stopped missing resultCode = 3 ∨ finalCode stopped missing resultCode = 4) := by
  decide

theorem Left.missing {resultCode : Nat} (h : Left options s made resultCode) :
    resultCode ∈ [0, 5, 6] ∧
      (resultCode ≠ 0 → decide (s.aggregate.frames < options.frameCount) = true) := by
  cases h with
  | enough | stopped => simp
  | late hmissing | failed hmissing => simpa using hmissing

theorem finish_makes {resultCode : Nat} (h : Watching options made s)
    (hleft : Left options s made resultCode) :
    Makes (s.finish options resultCode) fun o more => Over options o (made ++ more) := by
  refine .bind (close_makes s.port) ?_
  rintro closed _ ⟨hclose, -, closing, rfl⟩
  refine .bind shutdownRequested_makes ?_
  rintro stopped _ rfl
  refine .bind (close_makes closed.after) ?_
  rintro destroyed _ ⟨hdestroy, hdestroyed, destroying, rfl⟩
  refine .pure ?_
  have hunread : Unread s.port [.port closing, .shutdownRequested stopped, .port destroying]
      destroyed.after := hclose.trans ((Unread.aside rfl).trans hdestroy)
  obtain ⟨startedNs, hstarted, hdeadline⟩ := h.started
  obtain ⟨hcode, hmissing⟩ := hleft.missing
  obtain ⟨hamong, hflag, henough, hshort, hlooped⟩ := finalCode_tells stopped
    (decide (s.aggregate.frames < options.frameCount)) resultCode hcode hmissing
  simp only [List.append_nil, List.cons_append, List.nil_append]
  refine ⟨⟨_, ?_, hdestroyed⟩, ?_, ?_, ?_, hamong, fun hends => ?_, fun hends => ?_,
    fun hends => ?_, fun hends => absurd hends hlooped⟩
  · rw [portTrace_append]
    exact h.port.trans hunread.port
  · rw [hunread.parsed_append]
    exact h.aggregate
  · rw [hunread.parsed_append, ← h.parser]
  · rw [portTrace_append, List.forall_mem_append]
    refine ⟨fun e he dataNull capacity deadlineNs hasked => ⟨startedNs, ?_, ?_⟩,
      fun e he _ _ _ hasked => absurd hasked (hunread.call_ne he)⟩
    · rw [List.filterMap_append, List.head?_append, hstarted]
      rfl
    · exact hdeadline ▸ h.reads e he dataNull capacity deadlineNs hasked
  · rw [List.filterMap_append, List.getLast?_append]
    exact congrArg some (hflag hends)
  · simpa using henough hends
  · simpa using hshort hends

/-! ### The beginning -/

theorem start_makes : Makes (start options) fun next made =>
    next.elim (Stands options made) (Over options · made) := by
  refine .bind ((SerialPort.construct options.device .readOnly {}).request_makes .open) ?_
  rintro _ _ ⟨opened, rfl, rfl, hperform⟩
  have hopened := Unread.one hperform rfl
  split
  · case h_1 opening hresult =>
    refine .ite (fun _ => ?_) fun _ => ?_
    · refine .bind (close_makes opened.record.after) ?_
      rintro closed made ⟨hclose, hclosed, -⟩
      refine .pure (over_of_unread ?_ hclosed (.inl rfl))
      simpa using hopened.trans hclose
    · refine .bind monotonicNowNs_makes ?_
      rintro startedNs _ rfl
      refine .ite (fun _ => ?_) fun hstarted => .pure ?_
      · refine .bind (closeTwice_makes opened.record.after) ?_
        rintro _ made ⟨p, hclose, hclosed⟩
        refine .pure (over_of_unread ?_ hclosed (.inr rfl))
        rw [List.append_nil]
        exact hopened.trans ((Unread.aside rfl).trans hclose)
      · have hstands : Unread (.construct options.device .readOnly {})
            [.port opened, .monotonicNow startedNs] opened.record.after :=
          hopened.trans (.aside rfl)
        have hparsed : parsed [.port opened, .monotonicNow startedNs] = ({}, []) :=
          hstands.parsed_append []
        refine ⟨hstands.port, ?_, ?_, ⟨startedNs, rfl, saturatedAddMilliseconds_pos hstarted⟩,
          fun e he _ _ _ hasked => absurd hasked (hstands.call_ne he)⟩
        · exact (congrArg Prod.fst hparsed).symm
        · have hempty : counted options.frameCount [] = {} := by simp [counted, summarise]
          exact hempty.symm.trans (congrArg (counted options.frameCount ·.2) hparsed.symm)
  · exact .failure

theorem step_makes {phase : Phase} (h : Stands options made phase) :
    Makes (step options phase) fun next more =>
      next.elim (Stands options (made ++ more)) (Over options · (made ++ more)) := by
  cases phase with
  | starting =>
    obtain rfl : made = [] := h
    exact start_makes
  | running s =>
    refine .bind (round_makes h) fun phase more hphase => .pure ?_
    rw [List.append_nil]
    exact hphase
  | leaving s resultCode =>
    refine .bind (finish_makes h.1 h.2) fun o more hover => .pure ?_
    rw [List.append_nil]
    exact hover

theorem conducted {h : List (List ProcessCall)} {next : Phase ⊕ Outcome}
    (run : (process options).Run h next) :
    next.elim (Stands options (called h)) (Over options · (called h)) := by
  refine Makes.roundMachine (I := fun phase made => Stands options made phase) ?_ ?_ run
  · rfl
  · exact fun phase made h => step_makes h

/-! ### The report -/

/-- The feedback in the frames of all bytes that were received. -/
def seen (trace : List ProcessCall) : List FeedbackData :=
  (feedbackFormat.scan (received trace)).1.map fun frame =>
    (decodeFeedbackSpan (.bytes frame)).feedback

theorem parsed_seen (trace : List ProcessCall) :
    (parsed trace).2.map (·.feedback) = seen trace ∧
      ∀ frame ∈ (parsed trace).2,
        frame.feedback.controlInhibited = !frame.feedback.controlAllowed := by
  have hdecoded := FeedbackParser.consumeBytes_decoded {} (received trace)
  have hscan : (feedbackFormat.scan (received trace)).1 =
      (parsed trace).2.map (·.frame.toList) := by
    have hpush := FrameFormat.Partial.nil.pushAll (F := feedbackFormat) (received trace)
    have hconsume := FeedbackParser.consumeBytes_pushAll {} (received trace)
    exact congrArg Prod.fst (hpush.symm.trans hconsume)
  refine ⟨?_, fun frame hframe => ?_⟩
  · rw [seen, hscan, List.map_map]
    exact List.map_congr_left fun frame hframe => (hdecoded frame hframe).2
  · obtain ⟨hok, hfeedback⟩ := hdecoded frame hframe
    rw [hfeedback]
    exact controlInhibited_of_ok hok

/-- What a monitor reports, whatever the bytes are and however they come. -/
structure Reported (options : Options) (trace : List ProcessCall) (o : Outcome) : Prop where
  descriptors : (systemTrace trace).foldlM ledger none = some none
  summary : Summary ((seen trace).take options.frameCount) o.aggregate
  frames : o.aggregate.frames = min options.frameCount (seen trace).length
  judged : o.aggregate.allowed + o.aggregate.inhibited = o.aggregate.frames
  printed : ∀ r, o.report = some r → r.Tells ((seen trace).take options.frameCount)
  silent : o.report = none ↔ seen trace = []
  statistics : o.statistics =
    (({} : FeedbackParser).consume (.bytes (received trace))).1.statistics
  kept_iff : ReadsWithin (systemTrace trace) →
    (received trace = arrived trace ↔ ∀ e ∈ portTrace trace, e.InTime)
  deadlines : ∀ e ∈ portTrace trace, ∀ dataNull capacity deadlineNs,
    e.record.call = .readSome dataNull capacity deadlineNs →
      ∃ startedNs, (trace.filterMap clock).head? = some startedNs ∧
        deadlineNs ≤ startedNs + options.timeoutMs * 1000000
  complete : o.code = 0 → o.aggregate.frames = options.frameCount ∧
    (trace.filterMap flag).getLast? = some false
  interrupted : o.code = 130 → (trace.filterMap flag).getLast? = some true
  incomplete : o.code ∉ [0, 130] → o.aggregate.frames < options.frameCount
  among : o.code ∈ [0, 3, 4, 5, 6, 130]

/-- A frame that is counted either allows the control or inhibits it. -/
theorem judged_seen (trace : List ProcessCall) (n : Nat) :
    ((seen trace).take n).countP (·.controlAllowed) +
      ((seen trace).take n).countP (·.controlInhibited) = ((seen trace).take n).length := by
  obtain ⟨hseen, hflags⟩ := parsed_seen trace
  rw [List.length_eq_countP_add_countP (·.controlAllowed)]
  congr 1
  refine List.countP_congr fun f hf => ?_
  have hf := List.mem_of_mem_take hf
  rw [← hseen] at hf
  obtain ⟨frame, hframe, rfl⟩ := List.mem_map.mp hf
  rw [hflags frame hframe]
  simp

/-- A monitor keeps all bytes that arrive if and only if its reads are in time. -/
theorem received_eq_arrived_iff {p q : SerialPort} {trace : List ProcessCall}
    (hrun : PortRun p (portTrace trace) q) (hp : p.Sound) (h : Accounted trace)
    (hreads : ReadsWithin (systemTrace trace)) :
    received trace = arrived trace ↔ ∀ e ∈ portTrace trace, e.InTime := by
  obtain ⟨receptions, hreceives, hrecounts⟩ := h hreads
  have hall : portCalls (fun _ => true) trace = portTrace trace := List.filter_true _
  have hkept := (hrecounts.kept fun _ => true).trans (hrun.kept hp _)
  have harrived := (hrecounts.arrived fun _ => true).trans (hrun.arrived hp _)
  have htime := (hrecounts.inTime fun _ => true).trans (inTime_portReads _ trace)
  rw [hall, List.filter_true] at hkept harrived
  rw [hall] at htime
  rw [received, arrived, ← hkept, ← harrived, ← htime, flatMap_eq_iff]
  · simp only [List.mem_reverse, forall_const]
    exact forall_congr' fun e => forall_congr' fun he => (hreceives.relays e he).all_iff
  · exact fun e he => (hreceives.relays e (List.mem_reverse.mp he)).all_or_nothing

theorem Over.reported {o : Outcome} {trace : List ProcessCall} (h : Over options o trace)
    (haccounted : Accounted trace) (hcount : 0 < options.frameCount) :
    Reported options trace o := by
  obtain ⟨p, hrun, hclosed⟩ := h.port
  obtain ⟨hledger, -, -⟩ := SystemCall.ledger_of_guarded (hrun.guarded construct_ready.sound)
  rw [SerialPort.holding_closed hclosed] at hledger
  have hsummary : Summary ((seen trace).take options.frameCount) o.aggregate := by
    rw [h.aggregate, counted, ← (parsed_seen trace).1, List.map_take]
    exact summary _
  have hframes : (counted options.frameCount (parsed trace).2).frames =
      min options.frameCount (parsed trace).2.length := counted_frames options.frameCount
  rw [← h.aggregate] at hframes
  refine ⟨hledger, hsummary, ?_, ?_, fun r => hsummary.tells, ?_, ?_,
    received_eq_arrived_iff hrun construct_ready.sound haccounted, h.reads,
    fun hcode => ⟨?_, ?_⟩, fun hcode => ?_, fun hcode => ?_, h.among⟩
  · rw [hsummary.frames, List.length_take]
  · rw [hsummary.allowed, hsummary.inhibited, hsummary.frames]
    exact judged_seen trace options.frameCount
  · rw [hsummary.report_eq_none_iff, List.take_eq_nil_iff, or_iff_right hcount.ne']
  · rw [h.statistics, FeedbackParser.consume_bytes]
    rfl
  · have := h.enough hcode
    omega
  · simpa [hcode] using h.complete (.inl hcode)
  · simpa [hcode] using h.complete (.inr hcode)
  · have hamong := h.among
    simp only [List.mem_cons, List.not_mem_nil, or_false, not_or] at hamong hcode
    rcases hamong with hzero | hthree | hfour | hfive | hsix | hsignal
    · exact absurd hzero hcode.1
    · exact h.unread (.inl hthree) ▸ hcount
    · exact h.unread (.inr hfour) ▸ hcount
    · exact h.short (.inl hfive)
    · exact h.short (.inr hsix)
    · exact absurd hsignal hcode.2

/-! ### The words of the command line -/

/-- The words of each option, and the field that they set. -/
inductive Sets (options : Options) : List String → Options → Prop
  | readOnly : Sets options ["--read-only"] { options with readOnlySelected := true }
  | device : Sets options ["--device", value] { options with device := value.toList }
  | frames : parsePositiveInt64 value.toList = some count →
      Sets options ["--frames", value] { options with frameCount := count.toNat }
  | timeout : parsePositiveInt64 value.toList = some ms →
      Sets options ["--timeout-ms", value] { options with timeoutMs := ms }
  | confirmation : Sets options ["--operator-confirmation", value]
      { options with confirmation := value }

theorem sets_of_brings {before after : Options} {brought : List String}
    (h : Text.Brings readOption before brought after) : Sets before brought after := by
  cases h with
  | flag hflag =>
    unfold readOption at hflag
    split_ifs at hflag with hhelp hreadOnly
    cases hflag
    exact hreadOnly ▸ .readOnly
  | setting hsetting htake =>
    unfold readOption at hsetting
    split_ifs at hsetting with hhelp hreadOnly hdevice hframes htimeout hconfirmation <;>
      cases hsetting
    · cases htake
      exact hdevice ▸ .device
    · obtain ⟨count, hcount, rfl⟩ := Option.map_eq_some_iff.mp htake
      exact hframes ▸ .frames hcount
    · obtain ⟨ms, hms, rfl⟩ := Option.map_eq_some_iff.mp htake
      exact htimeout ▸ .timeout hms
    · cases htake
      exact hconfirmation ▸ .confirmation
    · cases htake

/-- What the operator has to say for the monitor to open the device. -/
structure Confirmed (arguments : List String) (options : Options) : Prop where
  readOnly : ["--read-only"] <:+: arguments
  confirmation : ["--operator-confirmation", readOnlyConfirmation] <:+: arguments
  device : validDevicePath options.device = true
  frames : 0 < options.frameCount ∧ options.frameCount ≤ 100000
  timeout : 100 ≤ options.timeoutMs ∧ options.timeoutMs ≤ 3600000

open Cue

def watchOptions : Options where
  device := ['/', 'd', 'e', 'v', '/', 'x']
  frameCount := 1
  timeoutMs := 1000
  readOnlySelected := true
  confirmation := readOnlyConfirmation

/-- The calls of the monitor, part by part. -/
def watch : List (List ProcessCall) :=
  Guard.parts { port := .construct watchOptions.device .readOnly {} }
    [[port .open
        (.open watchOptions.device (SerialPort.openFlags .readOnly) ⟨3, 0⟩ ::
          (sampleOpening 3).tail),
      aside (.monotonicNow 1000)],
      [aside (.shutdownRequested false), aside (.monotonicNow 2000),
        port (.readSome false bufferSize 100002000)
          [.monotonicNow 2001,
            .readBytes 3 bufferSize (.delivered (0 :: allowedFeedback.toList)),
            .monotonicNow 2002]],
      [],
      [port .close (sampleClosing 3), aside (.shutdownRequested false), port .close []]]

end WheeltecVcuSerial.Monitor
