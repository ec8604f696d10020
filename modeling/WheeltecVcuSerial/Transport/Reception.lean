import WheeltecVcuSerial.Parser.FeedbackParser
import WheeltecVcuSerial.Session.Machine
import WheeltecVcuSerial.Transport.ReadSome

/-! The receiving side of the two applications: the loop of the CLI and the loop of the monitor. -/

namespace WheeltecVcuSerial

/-- `sizeof` the buffers of both loops. -/
def serialBufferSize : Nat := 512

/-- What a round passes on: bytes to `consume`, and calls to the session. -/
structure Received where
  chunk : List UInt8 := []
  calls : List Op := []
  deriving DecidableEq

/-- What the system answers in one round of the CLI loop. -/
structure CliRound where
  nowNs : Int
  /-- The descriptor of a successful reopening. -/
  opened : Option Nat := none
  /-- The answers to the operations of `readSome`. -/
  answers : List Answer := []
  /-- The clock reading that replaces a missing completion time. -/
  receiptNs : Int := nowNs
  /-- Whether a write of this round's `tick` finds the device gone. -/
  unplugged : Bool := false
  /-- Whether the rest of this round leaves the loop. -/
  leaves : Bool := false
  fits : Fits serialBufferSize answers := by simp [Fits, serialBufferSize]

structure CliLoop where
  transport : PosixSerialTransport
  parser : FeedbackParser := {}
  serialBuffer : List UInt8 := List.replicate serialBufferSize 0
  nextReconnectNs : Int := 0
  running : Bool := true

def CliRound.readDeadlineNs (round : CliRound) : Int := round.nowNs + 1000000

/-- The bytes of a read at the front of the buffer. -/
def storeFront (buffer data : List UInt8) : List UInt8 := data ++ buffer.drop data.length

namespace CliLoop

/-- The dispatch on the status of a read. -/
def dispatch (s : CliLoop) (round : CliRound) (result : IoResult) : CliLoop × Received :=
  match result.status with
  | .ok =>
    let chunk := s.serialBuffer.take result.bytesTransferred
    let parsed := s.parser.consume (.bytes chunk)
    let receiptNs :=
      if result.completionMonotonicNs > 0 then result.completionMonotonicNs else round.receiptNs
    ({ s with parser := parsed.1 },
      { chunk := chunk
        calls := parsed.2.map fun frame => .observeFeedback frame.frame receiptNs })
  | .deadlineExceeded | .disconnected => (s, {})
  | _ => (s, { calls := [.latchEmergencyStop round.nowNs] })

/-- A round up to its reading of `stdin`.  Answers to a call that it does not make are none. -/
def receive (s : CliLoop) (reconnectIntervalNs : Int) (round : CliRound) :
    Option (CliLoop × Received) :=
  if round.nowNs ≤ 0 then
    if round.answers ≠ [] then none
    else some ({ s with running := false }, { calls := [.latchEmergencyStop round.nowNs] })
  else if !s.transport.connected then
    if round.answers ≠ [] then none
    else if s.nextReconnectNs = 0 || round.nowNs ≥ s.nextReconnectNs then
      let transport := s.transport.reopened round.opened
      some ({ s with
        transport := transport
        nextReconnectNs := round.nowNs + reconnectIntervalNs
        parser := if transport.connected then s.parser.reset else s.parser }, {})
    else some (s, {})
  else
    (s.transport.readSome serialBufferSize round.readDeadlineNs round.answers).map
      fun (result, data, transport) =>
        dispatch { s with transport := transport, serialBuffer := storeFront s.serialBuffer data }
          round result

def finish (s : CliLoop) (round : CliRound) : CliLoop :=
  { s with
    transport := if round.unplugged then s.transport.close else s.transport
    running := s.running && !round.leaves }

end CliLoop

/-- One round of a receiving loop, as its transport and its parser see it. -/
structure Reception where
  generation : Nat
  deadlineNs : Int
  answers : List Answer
  received : Received
  deriving DecidableEq

def cliMachine (reconnectIntervalNs : Int) : Trace.Machine CliLoop Reception where
  init s := ∃ fd : Nat, s = { transport := { fd := fd, connected := true, generation := 1 } }
  step s e s' := s.running ∧ ∃ round received s'',
    s.receive reconnectIntervalNs round = some (s'', received) ∧ s' = s''.finish round ∧
      e = ⟨s.transport.generation, round.readDeadlineNs, round.answers, received⟩

/-- What the system answers in one round of the monitor loop. -/
structure MonitorRound where
  nowNs : Int
  answers : List Answer := []
  fits : Fits serialBufferSize answers := by simp [Fits, serialBufferSize]

structure MonitorLoop where
  transport : PosixSerialTransport
  parser : FeedbackParser := {}
  buffer : List UInt8 := List.replicate serialBufferSize 0
  frames : Nat := 0
  running : Bool := true

def MonitorRound.readDeadlineNs (round : MonitorRound) (sessionDeadlineNs : Int) : Int :=
  min sessionDeadlineNs (round.nowNs + 100000000)

namespace MonitorLoop

def dispatch (s : MonitorLoop) (frameCount : Nat) (result : IoResult) : MonitorLoop × Received :=
  match result.status with
  | .deadlineExceeded => (s, {})
  | .ok =>
    let chunk := s.buffer.take result.bytesTransferred
    let parsed := s.parser.consume (.bytes chunk)
    ({ s with parser := parsed.1, frames := min (s.frames + parsed.2.length) frameCount },
      { chunk := chunk })
  | _ => ({ s with running := false }, {})

def receive (s : MonitorLoop) (frameCount : Nat) (sessionDeadlineNs : Int) (round : MonitorRound) :
    Option (MonitorLoop × Received) :=
  if round.nowNs ≤ 0 || round.nowNs ≥ sessionDeadlineNs then
    if round.answers ≠ [] then none else some ({ s with running := false }, {})
  else
    (s.transport.readSome serialBufferSize (round.readDeadlineNs sessionDeadlineNs)
      round.answers).map fun (result, data, transport) =>
        dispatch { s with transport := transport, buffer := storeFront s.buffer data } frameCount
          result

end MonitorLoop

def monitorMachine (frameCount : Nat) (sessionDeadlineNs : Int) :
    Trace.Machine MonitorLoop Reception where
  init s := ∃ fd : Nat, s = { transport := { fd := fd, connected := true, generation := 1 } }
  step s e s' := s.running ∧ s.frames < frameCount ∧ ∃ round received,
    s.receive frameCount sessionDeadlineNs round = some (s', received) ∧
      e = ⟨s.transport.generation, round.readDeadlineNs sessionDeadlineNs, round.answers, received⟩

/-! ### What a round relays -/

namespace Reception

/-- A round passes on all that was delivered in it or nothing, and all of it exactly in time. -/
structure Relays (e : Reception) : Prop where
  all_or_nothing : e.received.chunk = delivered e.answers ∨ e.received.chunk = []
  all_iff : e.received.chunk = delivered e.answers ↔ InTime e.deadlineNs e.answers

variable {e : Reception}

theorem relays_idle (hanswers : e.answers = []) (hchunk : e.received.chunk = []) : e.Relays := by
  constructor
  · exact .inr hchunk
  · rw [hanswers, hchunk]
    exact iff_of_true rfl (inTime_of_delivered_nil rfl)

/-- Both loops look at the status of a read, and only at a status `ok` for its bytes. -/
theorem relays_read {result : IoResult} {data : List UInt8} (buffer : List UInt8)
    (hread : PosixSerialTransport.Reads e.deadlineNs e.answers result data)
    (hchunk : e.received.chunk =
      if result.status = .ok then (storeFront buffer data).take result.bytesTransferred else []) :
    e.Relays := by
  have hfront : (storeFront buffer data).take result.bytesTransferred = data := by
    rw [hread.bytesTransferred_eq, storeFront, List.take_left]
  rw [hfront] at hchunk
  constructor
  · rw [hread.delivered_eq, hchunk]
    split <;> simp
  · rw [hread.inTime_iff, hread.delivered_eq, hchunk]
    split
    · case isTrue hok => simp [hok]
    · case isFalse hok => simp [hok, eq_comm]

end Reception

theorem CliLoop.dispatch_chunk (s : CliLoop) (round : CliRound) (result : IoResult) :
    (s.dispatch round result).2.chunk =
      if result.status = .ok then s.serialBuffer.take result.bytesTransferred else [] := by
  unfold dispatch
  cases result.status <;> rfl

theorem MonitorLoop.dispatch_chunk (s : MonitorLoop) (frameCount : Nat) (result : IoResult) :
    (s.dispatch frameCount result).2.chunk =
      if result.status = .ok then s.buffer.take result.bytesTransferred else [] := by
  unfold dispatch
  cases result.status <;> rfl

theorem cli_relays {reconnectIntervalNs : Int} {s s' : CliLoop} {e : Reception}
    (h : (cliMachine reconnectIntervalNs).step s e s') : e.Relays := by
  obtain ⟨-, round, received, s'', hreceive, -, rfl⟩ := h
  unfold CliLoop.receive at hreceive
  split_ifs at hreceive with hclock hanswers hdown hanswers hreconnect
  · cases hreceive
    exact Reception.relays_idle (by simpa using hanswers) rfl
  · cases hreceive
    exact Reception.relays_idle (by simpa using hanswers) rfl
  · cases hreceive
    exact Reception.relays_idle (by simpa using hanswers) rfl
  · obtain ⟨⟨result, data, transport⟩, hread, heq⟩ := Option.map_eq_some_iff.mp hreceive
    refine Reception.relays_read s.serialBuffer (PosixSerialTransport.reads round.fits hread) ?_
    have hchunk := congrArg (·.2.chunk) heq
    exact hchunk.symm.trans (CliLoop.dispatch_chunk _ round result)

theorem monitor_relays {frameCount : Nat} {sessionDeadlineNs : Int} {s s' : MonitorLoop}
    {e : Reception} (h : (monitorMachine frameCount sessionDeadlineNs).step s e s') :
    e.Relays := by
  obtain ⟨-, -, round, received, hreceive, rfl⟩ := h
  unfold MonitorLoop.receive at hreceive
  split_ifs at hreceive with hclock hanswers
  · cases hreceive
    exact Reception.relays_idle (by simpa using hanswers) rfl
  · obtain ⟨⟨result, data, transport⟩, hread, heq⟩ := Option.map_eq_some_iff.mp hreceive
    refine Reception.relays_read s.buffer (PosixSerialTransport.reads round.fits hread) ?_
    have hchunk := congrArg (·.2.chunk) heq
    exact hchunk.symm.trans (MonitorLoop.dispatch_chunk _ frameCount result)

/-! ### Whole runs -/

theorem flatMap_length_le {parts : List ε} {kept taken : ε → List α}
    (h : ∀ e ∈ parts, kept e = taken e ∨ kept e = []) :
    (parts.flatMap kept).length ≤ (parts.flatMap taken).length := by
  induction parts with
  | nil => rfl
  | cons e parts ih =>
    rw [List.forall_mem_cons] at h
    have hrest := ih h.2
    rw [List.flatMap_cons, List.flatMap_cons, List.length_append, List.length_append]
    have he : (kept e).length ≤ (taken e).length := by
      rcases h.1 with he | he <;> simp [he]
    omega

/-- Where every part is all or nothing, the whole is there only if every part is. -/
theorem flatMap_eq_iff {parts : List ε} {kept taken : ε → List α}
    (h : ∀ e ∈ parts, kept e = taken e ∨ kept e = []) :
    parts.flatMap kept = parts.flatMap taken ↔ ∀ e ∈ parts, kept e = taken e := by
  induction parts with
  | nil => simp
  | cons e parts ih =>
    rw [List.forall_mem_cons] at h ⊢
    rw [← ih h.2, List.flatMap_cons, List.flatMap_cons]
    rcases h.1 with he | he
    · simp [he]
    · constructor
      · intro heq
        have hlength := congrArg List.length heq
        simp only [he, List.length_append, List.length_nil] at hlength
        have hrest := flatMap_length_le h.2
        have hempty : taken e = [] := List.eq_nil_of_length_eq_zero (by omega)
        rw [he, hempty, List.nil_append] at heq
        exact ⟨by rw [he, hempty], heq⟩
      · rintro ⟨hsame, hrest⟩
        rw [hsame, hrest]

namespace Reception

/-- What the rounds of a generation come to, put together in the order of the rounds. -/
def together (f : Reception → List α) (generation : Nat) (h : List Reception) : List α :=
  (h.reverse.filter (·.generation = generation)).flatMap f

theorem together_cons (f : Reception → List α) {e : Reception} (h : List Reception) :
    together f e.generation (e :: h) = together f e.generation h ++ f e := by
  rw [together, together, List.reverse_cons, List.filter_append, List.flatMap_append]
  simp

theorem together_skip (f : Reception → List α) {generation : Nat} {e : Reception}
    (he : e.generation = generation → f e = []) (h : List Reception) :
    together f generation (e :: h) = together f generation h := by
  rw [together, together, List.reverse_cons, List.filter_append, List.flatMap_append,
    List.append_right_eq_self, List.flatMap_eq_nil_iff]
  intro e' he'
  obtain ⟨hmem, hgeneration⟩ := List.mem_filter.mp he'
  rw [List.mem_singleton.mp hmem] at hgeneration ⊢
  exact he (of_decide_eq_true hgeneration)

theorem together_eq_nil (f : Reception → List α) {generation : Nat} {h : List Reception}
    (hpast : ∀ e ∈ h, e.generation < generation) : together f generation h = [] := by
  rw [together, List.filter_eq_nil_iff.mpr, List.flatMap_nil]
  intro e he
  simpa using (hpast e (List.mem_reverse.mp he)).ne

/-- The bytes of a generation that `consume` was given. -/
def consumed : Nat → List Reception → List UInt8 := together (·.received.chunk)

/-- The bytes of a generation that `read_bytes` delivered. -/
def arrived : Nat → List Reception → List UInt8 := together (WheeltecVcuSerial.delivered ·.answers)

theorem consumed_eq_arrived_iff {h : List Reception} (hrelays : ∀ e ∈ h, e.Relays)
    (generation : Nat) :
    consumed generation h = arrived generation h ↔
      ∀ e ∈ h, e.generation = generation → InTime e.deadlineNs e.answers := by
  rw [consumed, arrived, together, together, flatMap_eq_iff]
  · simp only [List.mem_filter, List.mem_reverse, decide_eq_true_eq, and_imp]
    exact forall_congr' fun e => forall_congr' fun he => by rw [(hrelays e he).all_iff]
  · intro e he
    exact (hrelays e (List.mem_reverse.mp (List.mem_of_mem_filter he))).all_or_nothing

end Reception

/-- The runs of the two loops. -/
inductive Receives : List Reception → Prop
  | cli : (cliMachine reconnectIntervalNs).Run h s → Receives h
  | monitor : (monitorMachine frameCount sessionDeadlineNs).Run h s → Receives h

theorem Receives.relays {h : List Reception} (run : Receives h) : ∀ e ∈ h, e.Relays := by
  cases run with
  | cli run => exact run.forall_mem cli_relays
  | monitor run => exact run.forall_mem monitor_relays

/-- In each of its generations a loop gives the parser exactly what arrives if and only if no read
that delivers bytes completes after its deadline. -/
theorem bytes_kept_iff {h : List Reception} (run : Receives h) (generation : Nat) :
    Reception.consumed generation h = Reception.arrived generation h ↔
      ∀ e ∈ h, e.generation = generation → InTime e.deadlineNs e.answers :=
  Reception.consumed_eq_arrived_iff run.relays generation

/-! One read of a frame, with the clock reading after it. -/

def inhibitedFeedback : FeedbackFrame :=
  #v[frameHeader, 1, 0, 0, 0, 0, 0, 0, 0, 0, 0, 0, 0, 0, 0, 0, 0, 0, 0, 0, 0, 0, 0x7A, frameTail]

example : (decodeFeedbackFrame inhibitedFeedback).feedback.controlInhibited = true := by decide

def oneRead (completionNs : Int) : List Answer :=
  [.monotonicNow 1000, .readBytes (.delivered inhibitedFeedback.toList),
    .monotonicNow completionNs]

theorem oneRead_fits (completionNs : Int) : Fits serialBufferSize (oneRead completionNs) := by
  intro data hdata
  simp only [oneRead, List.mem_cons, reduceCtorEq, Answer.readBytes.injEq,
    ReadAnswer.delivered.injEq, List.not_mem_nil, or_false, false_or] at hdata
  subst hdata
  decide

def cliReception (completionNs : Int) (received : Received) : Reception :=
  ⟨1, 1001000, oneRead completionNs, received⟩

def monitorReception (completionNs : Int) (received : Received) : Reception :=
  ⟨1, 100001000, oneRead completionNs, received⟩

theorem receives_cliReception {completionNs : Int} {received : Received} {s : CliLoop}
    (h : CliLoop.receive { transport := { fd := 3, connected := true, generation := 1 } } 1000000000
      { nowNs := 1000, answers := oneRead completionNs, fits := oneRead_fits completionNs } =
        some (s, received)) :
    Receives [cliReception completionNs received] :=
  .cli (.next (.start ⟨3, rfl⟩) ⟨rfl, _, received, s, h, rfl, rfl⟩)

theorem receives_monitorReception {completionNs : Int} {received : Received} {s : MonitorLoop}
    (h : MonitorLoop.receive { transport := { fd := 3, connected := true, generation := 1 } } 1
      2000000000
      { nowNs := 1000, answers := oneRead completionNs, fits := oneRead_fits completionNs } =
        some (s, received)) :
    Receives [monitorReception completionNs received] :=
  .monitor (.next (.start ⟨3, rfl⟩) ⟨rfl, Nat.one_pos, _, received, h, rfl⟩)

/-- An inhibited frame that no parser sees. -/
theorem late_frame_dropped :
    Receives [cliReception 1001001 {}] ∧ Receives [monitorReception 100001001 {}] ∧
      (∀ e ∈ [cliReception 1001001 {}, monitorReception 100001001 {}],
        Reception.consumed 1 [e] = [] ∧
          Reception.arrived 1 [e] = inhibitedFeedback.toList) ∧
      (decodeFeedbackFrame inhibitedFeedback).feedback.controlInhibited = true := by
  refine ⟨receives_cliReception rfl, receives_monitorReception rfl, ?_, by decide⟩
  rw [List.forall_mem_cons, List.forall_mem_singleton]
  exact ⟨⟨rfl, rfl⟩, rfl, rfl⟩

theorem frame_in_time :
    (∀ e ∈ [cliReception 1001000 ⟨inhibitedFeedback.toList,
        [.observeFeedback inhibitedFeedback 1001000]⟩],
      e.generation = 1 → InTime e.deadlineNs e.answers) ∧
    (∀ e ∈ [monitorReception 100001000 ⟨inhibitedFeedback.toList, []⟩],
      e.generation = 1 → InTime e.deadlineNs e.answers) :=
  ⟨(bytes_kept_iff (receives_cliReception rfl) 1).mp rfl,
    (bytes_kept_iff (receives_monitorReception rfl) 1).mp rfl⟩

end WheeltecVcuSerial
