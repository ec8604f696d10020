import WheeltecVcuSerial.Session.Machine
import WheeltecVcuSerial.Trace.Loop
import WheeltecVcuSerial.Transport.Lifecycle

namespace WheeltecVcuSerial

open Trace

/-- A call of the port, with the system calls that it is made of. -/
structure PortEvent where
  record : PortRecord
  calls : List SystemCall
  deriving DecidableEq

/-- `timespec`. -/
structure Timespec where
  seconds : Int
  nanoseconds : Int
  deriving DecidableEq

/-- `-1` with its `errno`, or the characters that `::read` delivered: none at the end of input. -/
inductive StdinAnswer
  | failed (errorNumber : Int)
  | delivered (data : List Char)
  deriving DecidableEq

/-- A call that leaves the main program: to the port, to the session or to the system. -/
inductive ProcessCall
  | port (e : PortEvent)
  /-- The constructor of `SafetySession`. -/
  | construct (config : SafetyConfig) (link : Link)
  /-- A call of the session, with the calls that it makes of the port. -/
  | session (e : Event) (answers : List PortEvent)
  | processLine (line : List Char)
  | monotonicNow (ns : Int)
  | shutdownRequested (value : Bool)
  | getStdinFlags (reply : SystemReply)
  | setStdinFlags (flags : Nat) (reply : SystemReply)
  | readStdin (answer : StdinAnswer)
  | pollStdin (answer : PollAnswer)
  | nanosleep (request : Timespec) (reply : SystemReply) (remaining : Timespec)
  deriving DecidableEq

abbrev Process := Program ProcessCall

/-- `connected()` and `generation()`. -/
def SerialPort.link (p : SerialPort) : Link := ⟨p.connected, p.generation⟩

def PortResult.ioResult : PortResult → Option IoResult
  | .wrote result => some result
  | _ => none

namespace SerialPort

/-- The port after the writes of the session, if these are the answers to them. -/
def answer (p : SerialPort) : List Write → List PortEvent → Option SerialPort
  | [], [] => some p
  | write :: writes, e :: answers =>
    if p.perform (.writeAll (.bytes write.buffer) write.deadlineNs) e.calls = some (e.record, []) ∧
        write.outcome = ⟨e.record.result.ioResult, e.record.after.link⟩ then
      e.record.after.answer writes answers
    else none
  | _, _ => none

/-- A call that the main program makes of the port. -/
def request (p : SerialPort) (call : PortCall) : Process PortRecord :=
  .call fun
    | .port e => if p.perform call e.calls = some (e.record, []) then some e.record else none
    | _ => none

end SerialPort

/-- A port and the session that writes to it. -/
structure GuardedPort where
  port : SerialPort
  session : SafetySession
  deriving DecidableEq

def Op.isTick (now : Int) : Op → Bool
  | .tick now' _ _ => now' = now
  | _ => false

namespace GuardedPort

/-- A call of the session.  What the port answers to a tick is settled by the calls in it. -/
def call (g : GuardedPort) (asks : Op → Bool) : Process (Event × GuardedPort) :=
  .call fun
    | .session e answers =>
      if e.before = g.session ∧ e.link = g.port.link ∧ asks e.op then
        (g.port.answer e.writes answers).map fun port => (e, { port := port, session := e.after })
      else none
    | _ => none

def perform (g : GuardedPort) (op : Op) : Process GuardedPort := do
  let (_, g) ← g.call (· = op)
  return g

def tick (g : GuardedPort) (now : Int) : Process GuardedPort := do
  let (_, g) ← g.call (Op.isTick now)
  return g

end GuardedPort

namespace Process

def construct (port : SerialPort) (config : SafetyConfig) : Process GuardedPort :=
  .call fun
    | .construct config' link =>
      if config' = config ∧ link = port.link then
        some { port := port, session := .construct config (some link) }
      else none
    | _ => none

def monotonicNowNs : Process Int :=
  .call fun
    | .monotonicNow ns => some ns
    | _ => none

def shutdownRequested : Process Bool :=
  .call fun
    | .shutdownRequested value => some value
    | _ => none

def nanosleep (request : Timespec) : Process (SystemReply × Timespec) :=
  .call fun
    | .nanosleep request' reply remaining =>
      if request' = request then some (reply, remaining) else none
    | _ => none

end Process

/-- A call that neither the port nor the session nor the input sees. -/
def ProcessCall.aside : ProcessCall → Bool
  | .monotonicNow _ | .shutdownRequested _ | .nanosleep _ _ _ => true
  | .getStdinFlags _ | .setStdinFlags _ _ => true
  | .pollStdin (.failed errorNumber) => errorNumber = Errno.eintr
  | .pollStdin _ => true
  | _ => false

/-! ### What the calls leave -/

def PortCall.writes : PortCall → Bool
  | .writeAll _ _ => true
  | _ => false

/-- A write past the session is the zero frame. -/
def PortCall.harmless : PortCall → Bool
  | .writeAll data _ => data = .bytes makeZeroCommandFrame.toList
  | _ => true

theorem PortCall.harmless_of_not_writes {call : PortCall} (h : call.writes = false) :
    call.harmless = true := by
  cases call with
  | writeAll => cases h
  | _ => rfl

theorem PortCall.write_of_not_harmless {call : PortCall} (h : call.harmless = false) :
    ∃ data deadlineNs, call = .writeAll data deadlineNs ∧
      data ≠ .bytes makeZeroCommandFrame.toList := by
  cases call with
  | writeAll data deadlineNs => exact ⟨data, deadlineNs, rfl, by simpa [harmless] using h⟩
  | _ => cases h

/-- The port, and the session once there is one. -/
structure Guard where
  port : SerialPort
  session : Option SafetySession := none
  deriving DecidableEq

/-- What a call leaves of the port and of the session, if it is one that they take. -/
def guard (g : Guard) : ProcessCall → Option Guard
  | .port e =>
    if g.port.perform e.record.call e.calls = some (e.record, []) ∧ e.record.call.harmless then
      some { g with port := e.record.after }
    else none
  | .construct config link =>
    if g.session = none ∧ link = g.port.link then
      some { g with session := some (.construct config (some link)) }
    else none
  | .session e answers =>
    if some e.before = g.session ∧ e.link = g.port.link then
      (g.port.answer e.writes answers).map fun port => { port := port, session := some e.after }
    else none
  | _ => some g

def GuardedPort.guard (g : GuardedPort) : Guard := { port := g.port, session := some g.session }

/-! ### Sample calls -/

/-- A call as it comes from what the calls before it have left. -/
abbrev Cue := Guard → ProcessCall

/-- The calls for some cues, and what they leave. -/
def Guard.cued (g : Guard) : List Cue → List ProcessCall × Guard
  | [] => ([], g)
  | cue :: cues =>
    let (made, g') := ((guard g (cue g)).getD g).cued cues
    (cue g :: made, g')

/-- The same part by part. -/
def Guard.parts (g : Guard) : List (List Cue) → List (List ProcessCall)
  | [] => []
  | cues :: later =>
    let (made, g') := g.cued cues
    made :: g'.parts later

/-- A call of the port, which answers with what the system calls make of it. -/
def SerialPort.event (p : SerialPort) (call : PortCall) (calls : List SystemCall) : PortEvent :=
  ⟨((p.perform call calls).map Prod.fst).getD ⟨p, call, .closed, [], p⟩, calls⟩

/-- The system calls of a write that takes the whole frame at once. -/
def wholeWriteCalls (fd : Int) (frame : List UInt8) (now : Int) : List SystemCall :=
  [.monotonicNow now, .writeBytes fd frame (.accepted frame.length), .monotonicNow now]

namespace Cue

def port (call : PortCall) (calls : List SystemCall) : Cue :=
  fun g => .port (g.port.event call calls)

def session (op : Link → Op) : Cue := fun g =>
  g.session.elim (.shutdownRequested true) fun s =>
    let e : Event := ⟨s, g.port.link, op g.port.link⟩
    .session e <| e.writes.map fun write =>
      g.port.event (.writeAll (.bytes write.buffer) write.deadlineNs)
        (wholeWriteCalls g.port.fd write.buffer e.op.now)

def tick (now : Int) : Cue := session fun link =>
  let whole : WriteOutcome := ⟨some ⟨.ok, commandFrameSize, 0, true, false, now⟩, link⟩
  .tick now whole whole

/-- A call that does not depend on what is there. -/
def aside (call : ProcessCall) : Cue := fun _ => call

end Cue

end WheeltecVcuSerial
