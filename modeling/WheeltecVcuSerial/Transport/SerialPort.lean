import WheeltecVcuSerial.Trace.Program
import WheeltecVcuSerial.Transport.Deadline

namespace WheeltecVcuSerial

open Errno Trace

/-! ### Terminal settings -/

/-- The fields of `termios` that the transport reads or writes. -/
structure Termios where
  inputFlags : UInt32
  outputFlags : UInt32
  controlFlags : UInt32
  localFlags : UInt32
  inputSpeed : UInt32
  outputSpeed : UInt32
  minimum : UInt8
  time : UInt8
  deriving DecidableEq

namespace Termios

def b115200 : UInt32 := 0x1002
def csize : UInt32 := 0x30
def cs8 : UInt32 := 0x30
def cstopb : UInt32 := 0x40
def cread : UInt32 := 0x80
def parenb : UInt32 := 0x100
def clocal : UInt32 := 0x800
def crtscts : UInt32 := 0x80000000
def ixon : UInt32 := 0x400
def ixany : UInt32 := 0x800
def ixoff : UInt32 := 0x1000

/-- `IGNBRK`, `BRKINT`, `PARMRK`, `ISTRIP`, `INLCR`, `IGNCR`, `ICRNL` and `IXON` go, as do `OPOST`
and `ECHO`, `ECHONL`, `ICANON`, `ISIG`, `IEXTEN`. -/
def cfmakeraw (settings : Termios) : Termios :=
  { settings with
    inputFlags := settings.inputFlags &&& ~~~0x5EB
    outputFlags := settings.outputFlags &&& ~~~0x1
    localFlags := settings.localFlags &&& ~~~0x804B
    controlFlags := settings.controlFlags &&& ~~~(csize ||| parenb) ||| cs8
    minimum := 1
    time := 0 }

/-- What `configureSerialPort` makes of raw settings once the speeds are set. -/
def configured (settings : Termios) : Termios :=
  { settings with
    inputSpeed := b115200
    outputSpeed := b115200
    controlFlags :=
      (settings.controlFlags &&& ~~~(csize ||| parenb ||| cstopb) |||
        (cs8 ||| clocal ||| cread)) &&& ~~~crtscts
    inputFlags := settings.inputFlags &&& ~~~(ixon ||| ixoff ||| ixany)
    minimum := 0
    time := 0 }

def serialSettingsMatch (settings : Termios) : Bool :=
  settings.inputSpeed = b115200 && settings.outputSpeed = b115200 &&
    settings.controlFlags &&& csize = cs8 && settings.controlFlags &&& (parenb ||| cstopb) = 0 &&
    settings.controlFlags &&& (clocal ||| cread) = clocal ||| cread &&
    settings.controlFlags &&& crtscts = 0 &&
    settings.inputFlags &&& (ixon ||| ixoff ||| ixany) = 0 &&
    settings.minimum = 0 && settings.time = 0

theorem and_masked (flags keep add test : UInt32) :
    (flags &&& keep ||| add) &&& test = flags &&& (keep &&& test) ||| add &&& test := by
  apply UInt32.toBitVec_inj.mp
  simp only [UInt32.toBitVec_and, UInt32.toBitVec_or]
  rw [BitVec.and_or_distrib_right, BitVec.and_assoc]

theorem and_or_self (flags test : UInt32) : flags &&& test ||| test = test := by
  apply UInt32.toBitVec_inj.mp
  apply BitVec.eq_of_getElem_eq
  intro i hi
  cases hbit : test.toBitVec[i] <;> simp [hbit]

/-- The settings that are asked for are the ones that are looked for. -/
theorem configured_matches (settings : Termios) :
    settings.configured.serialSettingsMatch = true := by
  have hcleared (test : UInt32)
      (hkeep : ~~~(csize ||| parenb ||| cstopb) &&& (~~~crtscts &&& test) = 0) :
      settings.configured.controlFlags &&& test =
        (cs8 ||| clocal ||| cread) &&& (~~~crtscts &&& test) := by
    rw [configured, UInt32.and_assoc, and_masked, hkeep, UInt32.and_zero, UInt32.zero_or]
  simp only [serialSettingsMatch, Bool.and_eq_true, decide_eq_true_eq]
  refine ⟨⟨⟨⟨⟨⟨⟨⟨rfl, rfl⟩, ?_⟩, ?_⟩, ?_⟩, ?_⟩, ?_⟩, rfl⟩, rfl⟩
  · rw [hcleared _ (by decide)]
    decide
  · rw [hcleared _ (by decide)]
    decide
  · rw [configured, UInt32.and_assoc, and_masked]
    exact and_or_self settings.controlFlags (clocal ||| cread)
  · rw [configured, UInt32.and_assoc]
    exact UInt32.and_zero
  · rw [configured, UInt32.and_assoc]
    exact UInt32.and_zero

end Termios

/-! ### System calls -/

/-- What a system call comes back with, and `errno` after it. -/
structure SystemReply where
  value : Int
  errorNumber : Int := 0
  deriving DecidableEq

def SystemReply.interrupted (reply : SystemReply) : Bool :=
  reply.value < 0 && reply.errorNumber = eintr

inductive ExclusiveRequest
  | tiocexcl
  | tiocnxcl
  deriving DecidableEq

inductive FlagsCommand
  | getFl
  | getFd
  deriving DecidableEq

inductive LineSpeed
  | input
  | output
  deriving DecidableEq

/-- A call that leaves the program, with its arguments and what it comes back with. -/
inductive SystemCall
  | open (path : List Char) (flags : Nat) (reply : SystemReply)
  | fstat (fd : Int) (reply : SystemReply) (characterDevice : Bool)
  | isatty (fd : Int) (reply : SystemReply)
  | ioctl (fd : Int) (request : ExclusiveRequest) (reply : SystemReply)
  | fcntl (fd : Int) (command : FlagsCommand) (reply : SystemReply)
  | tcgetattr (fd : Int) (reply : SystemReply) (settings : Termios)
  | cfsetspeed (line : LineSpeed) (reply : SystemReply)
  | tcsetattr (fd : Int) (settings : Termios) (reply : SystemReply)
  | close (fd : Int) (reply : SystemReply)
  | monotonicNow (ns : Int)
  | writeBytes (fd : Int) (data : List UInt8) (answer : WriteAnswer)
  | readBytes (fd : Int) (capacity : Nat) (answer : ReadAnswer)
  | pollOne (fd : Int) (requestedEvents : UInt16) (timeoutMs : Int) (answer : PollAnswer)
  deriving DecidableEq

/-- The call of one of the `IoOperations` that it is. -/
def SystemCall.io : SystemCall → Option IoCall
  | .monotonicNow _ => some .monotonicNow
  | .writeBytes fd data _ => some (.writeBytes fd data)
  | .readBytes fd capacity _ => some (.readBytes fd capacity)
  | .pollOne fd requestedEvents timeoutMs _ => some (.pollOne fd requestedEvents timeoutMs)
  | _ => none

def SystemCall.toWrite : SystemCall → Option WriteReply
  | .monotonicNow ns => some (.monotonicNow ns)
  | .writeBytes _ _ answer => some (.writeBytes answer)
  | .pollOne _ _ _ answer => some (.pollOne answer)
  | _ => none

def SystemCall.toRead : SystemCall → Option Answer
  | .monotonicNow ns => some (.monotonicNow ns)
  | .readBytes _ _ answer => some (.readBytes answer)
  | .pollOne _ _ _ answer => some (.pollOne answer)
  | _ => none

theorem SystemCall.io_of_toWrite {call : SystemCall} {reply : WriteReply}
    (h : call.toWrite = some reply) : call.io.isSome = true := by
  cases call <;> first | rfl | cases h

theorem SystemCall.io_of_toRead {call : SystemCall} {answer : Answer}
    (h : call.toRead = some answer) : call.io.isSome = true := by
  cases call <;> first | rfl | cases h

/-- The answer of a call with the arguments that are asked for. -/
def SystemCall.answering (asked : Option IoCall) (reply : SystemCall → Option α)
    (call : SystemCall) : Option α :=
  if call.io = asked then reply call else none

abbrev Syscalls := Program SystemCall

namespace Syscalls

def openPath (path : List Char) (flags : Nat) : Syscalls SystemReply :=
  .retry (fun
    | .open path' flags' reply => if path' = path ∧ flags' = flags then some reply else none
    | _ => none) SystemReply.interrupted

def getFileStatusWithoutInterruption (fd : Int) : Syscalls (SystemReply × Bool) :=
  .retry (fun
    | .fstat fd' reply characterDevice => if fd' = fd then some (reply, characterDevice) else none
    | _ => none) fun (reply, _) => reply.interrupted

def isatty (fd : Int) : Syscalls SystemReply :=
  .call fun
    | .isatty fd' reply => if fd' = fd then some reply else none
    | _ => none

def ioctl (fd : Int) (request : ExclusiveRequest) : Syscalls SystemReply :=
  .retry (fun
    | .ioctl fd' request' reply => if fd' = fd ∧ request' = request then some reply else none
    | _ => none) SystemReply.interrupted

def fcntl (fd : Int) (command : FlagsCommand) : Syscalls SystemReply :=
  .retry (fun
    | .fcntl fd' command' reply => if fd' = fd ∧ command' = command then some reply else none
    | _ => none) SystemReply.interrupted

def getTermiosWithoutInterruption (fd : Int) : Syscalls (SystemReply × Termios) :=
  .retry (fun
    | .tcgetattr fd' reply settings => if fd' = fd then some (reply, settings) else none
    | _ => none) fun (reply, _) => reply.interrupted

def cfsetspeed (line : LineSpeed) : Syscalls SystemReply :=
  .call fun
    | .cfsetspeed line' reply => if line' = line then some reply else none
    | _ => none

def setTermiosWithoutInterruption (fd : Int) (settings : Termios) : Syscalls SystemReply :=
  .retry (fun
    | .tcsetattr fd' settings' reply =>
      if fd' = fd ∧ settings' = settings then some reply else none
    | _ => none) SystemReply.interrupted

/-- `::close`, which is never called again. -/
def close (fd : Int) : Syscalls SystemReply :=
  .call fun
    | .close fd' reply => if fd' = fd then some reply else none
    | _ => none

def monotonicNow : Syscalls Int :=
  .call fun
    | .monotonicNow ns => some ns
    | _ => none

end Syscalls

open Syscalls

/-- `none` for success, or `errno` where it fails. -/
def configureSerialPort (fd : Int) : Syscalls (Option Int) := do
  let (got, settings) ← getTermiosWithoutInterruption fd
  if got.value ≠ 0 then return some got.errorNumber
  let inputSet ← cfsetspeed .input
  if inputSet.value ≠ 0 then return some inputSet.errorNumber
  let outputSet ← cfsetspeed .output
  if outputSet.value ≠ 0 then return some outputSet.errorNumber
  let set ← setTermiosWithoutInterruption fd settings.cfmakeraw.configured
  if set.value ≠ 0 then return some set.errorNumber
  let (seen, observed) ← getTermiosWithoutInterruption fd
  if seen.value ≠ 0 then return some seen.errorNumber
  if !observed.serialSettingsMatch then return some errorIo
  return none

def releaseExclusiveAndClose (fd : Int) : Syscalls Unit := do
  if fd < 0 then return ()
  let _ ← ioctl fd .tiocnxcl
  let _ ← Syscalls.close fd
  return ()

/-! ### The port -/

inductive SerialAccess
  | readOnly
  | readWrite
  /-- A value that `SerialAccess` has no name for. -/
  | other (value : UInt8)
  deriving DecidableEq

/-- Which members of `IoOperations` are set. -/
structure IoOperations where
  monotonicNow : Bool := true
  writeBytes : Bool := true
  readBytes : Bool := true
  pollOne : Bool := true
  deriving DecidableEq

/-- All of a `PosixSerialTransport`. -/
structure SerialPort extends PosixSerialTransport where
  devicePath : List Char
  access : SerialAccess := .readOnly
  operations : IoOperations := {}
  deriving DecidableEq

structure SerialOpenResult where
  status : TransportStatus := .ioError
  osError : Int := 0
  generation : Nat := 0
  deriving DecidableEq

def SerialOpenResult.ok (result : SerialOpenResult) : Bool := result.status = .ok

def explicitDevicePathIsValid (path : List Char) : Bool :=
  path ≠ [] && path.head? = some '/' && path.getLast? ≠ some '/' && !path.contains (Char.ofNat 0)

namespace SerialPort

def oRdonly : Nat := 0
def oRdwr : Nat := 0x2
def oNoctty : Nat := 0x100
def oNonblock : Nat := 0x800
def oNofollow : Nat := 0x20000
def oCloexec : Nat := 0x80000
def fdCloexec : Nat := 0x1

def generationMax : Nat := 2 ^ 64 - 1

def openFlags (access : SerialAccess) : Nat :=
  (if access = .readOnly then oRdonly else oRdwr) |||
    oNonblock ||| oNoctty ||| oCloexec ||| oNofollow

def openFailureStatus (openError : Int) : TransportStatus :=
  if isDisconnectError openError || openError = enoent then .disconnected
  else if openError = ebusy then .configurationError
  else .ioError

def refused (p : SerialPort) (status : TransportStatus) (osError : Int) :
    SerialOpenResult × SerialPort :=
  ({ status := status, osError := osError, generation := p.generation }, p)

/-- The port that holds a descriptor of its own. -/
def connect (p : SerialPort) (fd : Int) : SerialPort :=
  { p with fd := fd, connected := true, generation := (p.generation + 1) % 2 ^ 64 }

def errnoOr (errorNumber fallback : Int) : Int := if errorNumber = 0 then fallback else errorNumber

def openNewGeneration (p : SerialPort) : Syscalls (SerialOpenResult × SerialPort) := do
  if !explicitDevicePathIsValid p.devicePath then return p.refused .invalidArgument einval
  if p.generation = generationMax then return p.refused .configurationError eoverflow
  if p.access ≠ .readOnly && p.access ≠ .readWrite then return p.refused .invalidArgument einval
  let opened ← openPath p.devicePath (openFlags p.access)
  if opened.value < 0 then
    let openError := errnoOr opened.errorNumber errorIo
    return p.refused (openFailureStatus openError) openError
  let fd := opened.value
  let (stat, characterDevice) ← getFileStatusWithoutInterruption fd
  if stat.value ≠ 0 then
    let _ ← Syscalls.close fd
    return p.refused .configurationError (errnoOr stat.errorNumber errorIo)
  if !characterDevice then
    let _ ← Syscalls.close fd
    return p.refused .configurationError enotty
  let terminal ← isatty fd
  if terminal.value ≠ 1 then
    let _ ← Syscalls.close fd
    return p.refused .configurationError (errnoOr terminal.errorNumber enotty)
  let exclusive ← ioctl fd .tiocexcl
  if exclusive.value ≠ 0 then
    let _ ← Syscalls.close fd
    return p.refused .configurationError (errnoOr exclusive.errorNumber ebusy)
  let file ← fcntl fd .getFl
  let descriptor ← fcntl fd .getFd
  if file.value < 0 || descriptor.value < 0 then
    releaseExclusiveAndClose fd
    return p.refused .configurationError (errnoOr descriptor.errorNumber errorIo)
  if file.value.toNat &&& oNonblock = 0 || descriptor.value.toNat &&& fdCloexec = 0 then
    releaseExclusiveAndClose fd
    return p.refused .configurationError errorIo
  let failure ← configureSerialPort fd
  if let some configurationError := failure then
    releaseExclusiveAndClose fd
    return p.refused .configurationError (errnoOr configurationError errorIo)
  let p := p.connect fd
  return ({ status := .ok, generation := p.generation }, p)

def close (p : SerialPort) : Syscalls SerialPort := do
  let p := { p with connected := false }
  if p.fd ≥ 0 then
    releaseExclusiveAndClose p.fd
    return { p with fd := -1 }
  return p

def markDisconnected (p : SerialPort) : Syscalls SerialPort := p.close

def «open» (p : SerialPort) : Syscalls (SerialOpenResult × SerialPort) :=
  if p.connected then return ({ status := .ok, generation := p.generation }, p)
  else p.openNewGeneration

/-- `reopen`, with the port between closing and opening. -/
def reopen (p : SerialPort) : Syscalls (SerialPort × SerialOpenResult × SerialPort) := do
  let closed ← p.close
  return (closed, ← closed.openNewGeneration)

/-- The time of a result for a port that is closed. -/
def disconnectedNs (p : SerialPort) : Syscalls Int :=
  if p.operations.monotonicNow then Syscalls.monotonicNow else return 0

def writeRequest (p : SerialPort) (data : ByteSpan) (absoluteDeadlineNs : Int) : WriteRequest :=
  { fd := p.fd, data := data, absoluteDeadlineNs := absoluteDeadlineNs
    operationsComplete :=
      p.operations.monotonicNow && p.operations.writeBytes && p.operations.pollOne }

def writeAll (p : SerialPort) (data : ByteSpan) (absoluteDeadlineNs : Int) :
    Syscalls (IoResult × SerialPort) := do
  if p.access ≠ .readWrite then
    return ({ status := .writeDisabled, osError := eacces }, p)
  if !p.connected || p.fd < 0 then
    let ns ← p.disconnectedNs
    return ({ status := .disconnected, osError := enotconn, outcomeUncertain := true
              completionMonotonicNs := ns }, p)
  let r := p.writeRequest data absoluteDeadlineNs
  let .returned result ← Program.follow r.procedure
    (fun p => SystemCall.answering (r.calling p) SystemCall.toWrite) r.start | failure
  if result.status = .disconnected then return (result, ← p.markDisconnected)
  return (result, p)

def readRequest (p : SerialPort) (dataNull : Bool) (capacity : Nat) (absoluteDeadlineNs : Int) :
    ReadRequest :=
  { fd := p.fd, dataNull := dataNull, capacity := capacity
    absoluteDeadlineNs := absoluteDeadlineNs
    operationsComplete :=
      p.operations.monotonicNow && p.operations.readBytes && p.operations.pollOne }

/-- `readSome`, with the bytes that it has put at the front of the buffer. -/
def readSome (p : SerialPort) (dataNull : Bool) (capacity : Nat) (absoluteDeadlineNs : Int) :
    Syscalls (IoResult × List UInt8 × SerialPort) := do
  if !p.connected || p.fd < 0 then
    let ns ← p.disconnectedNs
    return ({ status := .disconnected, osError := enotconn, completionMonotonicNs := ns }, [], p)
  let r := p.readRequest dataNull capacity absoluteDeadlineNs
  let .returned result data ← Program.follow r.procedure
    (fun p => SystemCall.answering (r.calling p) SystemCall.toRead) r.start | failure
  if result.status = .disconnected then return (result, data, ← p.markDisconnected)
  return (result, data, p)

end SerialPort

inductive PortCall
  | open
  | reopen
  | close
  | writeAll (data : ByteSpan) (absoluteDeadlineNs : Int)
  | readSome (dataNull : Bool) (capacity : Nat) (absoluteDeadlineNs : Int)
  deriving DecidableEq

def PortCall.reads : PortCall → Bool
  | .readSome _ _ _ => true
  | _ => false

inductive PortResult
  | opened (result : SerialOpenResult)
  | closed
  | wrote (result : IoResult)
  | read (result : IoResult) (data : List UInt8)
  deriving DecidableEq

/-- A call that is over, with the port before it, between its parts and after it. -/
structure PortRecord where
  before : SerialPort
  call : PortCall
  result : PortResult
  between : List SerialPort := []
  after : SerialPort
  deriving DecidableEq

namespace SerialPort

def perform (p : SerialPort) : PortCall → Syscalls PortRecord
  | .open => do
    let (result, after) ← p.open
    return { before := p, call := .open, result := .opened result, after := after }
  | .reopen => do
    let (closed, result, after) ← p.reopen
    return { before := p, call := .reopen, result := .opened result
             between := [closed], after := after }
  | .close => do
    let after ← p.close
    return { before := p, call := .close, result := .closed, after := after }
  | .writeAll data absoluteDeadlineNs => do
    let (result, after) ← p.writeAll data absoluteDeadlineNs
    return { before := p, call := .writeAll data absoluteDeadlineNs
             result := .wrote result, after := after }
  | .readSome dataNull capacity absoluteDeadlineNs => do
    let (result, data, after) ← p.readSome dataNull capacity absoluteDeadlineNs
    return { before := p, call := .readSome dataNull capacity absoluteDeadlineNs
             result := .read result data, after := after }

/-- One call after another. -/
def performAll (p : SerialPort) : List PortCall → Syscalls (List PortRecord)
  | [] => return []
  | call :: calls => do
    let record ← p.perform call
    return record :: (← record.after.performAll calls)

end SerialPort

end WheeltecVcuSerial
