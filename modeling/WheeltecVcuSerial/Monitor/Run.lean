import WheeltecVcuSerial.Config.DevicePath
import WheeltecVcuSerial.Config.Numbers
import WheeltecVcuSerial.Parser.FeedbackParser
import WheeltecVcuSerial.Process.Guard
import WheeltecVcuSerial.Text.Arguments

namespace WheeltecVcuSerial.Monitor

open Process Text Trace

/-! ### Options -/

def readOnlyConfirmation : String := "I_UNDERSTAND_OPENING_A_TTY_CAN_AFFECT_THE_DEVICE"

structure Options where
  device : List Char := []
  frameCount : Nat := 0
  timeoutMs : Int := 0
  readOnlySelected : Bool := false
  confirmation : String := ""
  deriving DecidableEq

/-- The text is read as `parseInt64Strict` reads it. -/
def parsePositiveInt64 (text : List Char) : Option Int :=
  (parseInt64Strict text).filter fun parsed => 0 < parsed

/-- One round of the loop of `parseOptions`. -/
def readOption (options : Options) (argument : String) : Text.Argument Options String :=
  if argument = "--help" || argument = "-h" then .help
  else if argument = "--read-only" then .flag { options with readOnlySelected := true }
  else .setting fun value =>
    if argument = "--device" then some { options with device := value.toList }
    else if argument = "--frames" then
      (parsePositiveInt64 value.toList).map fun parsed =>
        { options with frameCount := parsed.toNat }
    else if argument = "--timeout-ms" then
      (parsePositiveInt64 value.toList).map fun parsed => { options with timeoutMs := parsed }
    else if argument = "--operator-confirmation" then
      some { options with confirmation := value }
    else none

/-- What `parseOptions` checks once it has read all words. -/
def Options.admitted (options : Options) : Bool :=
  options.readOnlySelected &&
    directDevicePath (options.device.length + 1) options.device = some true &&
    0 < options.frameCount && options.frameCount ≤ 100000 && 100 ≤ options.timeoutMs &&
    options.timeoutMs ≤ 3600000 && options.confirmation = readOnlyConfirmation

/-- The function `parseOptions`; asked for help it ends the process. -/
def parseOptions (arguments : List String) : Text.Parsed Options :=
  match Text.parse readOption {} arguments with
  | .accepted options => if options.admitted then .accepted options else .refused
  | parsed => parsed

/-! ### The loop -/

/-- What is counted and added up of the frames, with sums that are not rounded. -/
structure Aggregate where
  frames : Nat := 0
  allowed : Nat := 0
  inhibited : Nat := 0
  linearSum : ℚ := 0
  yawSum : ℚ := 0
  voltageSum : ℚ := 0
  linearMin : Double := .infinite false
  linearMax : Double := .infinite true
  deriving DecidableEq

namespace Aggregate

def add (a : Aggregate) (feedback : FeedbackData) : Aggregate :=
  let speed := Double.finite feedback.linearSpeedMps
  { frames := a.frames + 1
    allowed := a.allowed + if feedback.controlAllowed then 1 else 0
    inhibited := a.inhibited + if feedback.controlInhibited then 1 else 0
    linearSum := a.linearSum + feedback.linearSpeedMps
    yawSum := a.yawSum + feedback.yawRateRadps
    voltageSum := a.voltageSum + feedback.supplyVoltageV
    linearMin := if speed.lt a.linearMin then speed else a.linearMin
    linearMax := if a.linearMax.lt speed then speed else a.linearMax }

/-- The loop over the frames of a read. -/
def addFrames (frameCount : Nat) (a : Aggregate) : List ParsedFeedbackFrame → Aggregate
  | [] => a
  | frame :: frames =>
    let a := a.add frame.feedback
    if a.frames ≥ frameCount then a else a.addFrames frameCount frames

end Aggregate

def saturatedAddMilliseconds (originNs milliseconds : Int) : Int :=
  if originNs ≤ 0 || milliseconds ≤ 0 || milliseconds > (2 ^ 63 - 1 - originNs) / 1000000 then 0
  else originNs + milliseconds * 1000000

def bufferSize : Nat := 512

structure MonitorState where
  port : SerialPort
  sessionDeadlineNs : Int
  parser : FeedbackParser := {}
  aggregate : Aggregate := {}
  buffer : List UInt8 := List.replicate bufferSize 0

/-- How a process ends, with what it reports of. -/
structure Outcome where
  code : Nat
  aggregate : Aggregate := {}
  statistics : FeedbackParserStatistics := {}

/-- The line that a process prints at its end, with quotients that are not rounded. -/
structure Report where
  receiptFrames : Nat
  controlAllowed : Nat
  controlInhibited : Nat
  linearMeanMps : ℚ
  linearRangeMps : Double × Double
  yawMeanRadps : ℚ
  voltageMeanV : ℚ
  checksumFailures : UInt64
  framingFailures : UInt64
  discardedBytes : UInt64
  vcuAckAvailable : Bool := false
  sourceTimeAvailable : Bool := false
  deriving DecidableEq

def Outcome.report (o : Outcome) : Option Report :=
  if o.aggregate.frames > 0 then
    let denominator : ℚ := o.aggregate.frames
    some
      { receiptFrames := o.aggregate.frames
        controlAllowed := o.aggregate.allowed
        controlInhibited := o.aggregate.inhibited
        linearMeanMps := o.aggregate.linearSum / denominator
        linearRangeMps := (o.aggregate.linearMin, o.aggregate.linearMax)
        yawMeanRadps := o.aggregate.yawSum / denominator
        voltageMeanV := o.aggregate.voltageSum / denominator
        checksumFailures := o.statistics.checksumFailures
        framingFailures := o.statistics.framingFailures
        discardedBytes := o.statistics.discardedBytes }
  else none

inductive Phase
  | starting
  | running (s : MonitorState)
  | leaving (s : MonitorState) (resultCode : Nat)

/-- `close()`, and once more in the destructor. -/
def closeTwice (p : SerialPort) : Process Unit := do
  let closed ← p.request .close
  let _ ← closed.after.request .close
  return ()

/-- The function `main` from the transport on, up to its loop. -/
def start (options : Options) : Process (Phase ⊕ Outcome) := do
  let opened ← (SerialPort.construct options.device .readOnly {}).request .open
  let .opened opening := opened.result | failure
  if !opening.ok then
    let _ ← opened.after.request .close
    return .inr { code := 3 }
  let startedNs ← monotonicNowNs
  let sessionDeadlineNs := saturatedAddMilliseconds startedNs options.timeoutMs
  if sessionDeadlineNs ≤ 0 then
    closeTwice opened.after
    return .inr { code := 4 }
  return .inl (.running { port := opened.after, sessionDeadlineNs := sessionDeadlineNs })

namespace MonitorState

/-- What a round does with the result of its read, the bytes of which are in the buffer. -/
def received (options : Options) (s : MonitorState) (result : IoResult) : Phase :=
  if result.status = .deadlineExceeded then .running s
  else if result.status ≠ .ok then .leaving s 6
  else
    let consumed := s.parser.consume (.bytes (s.buffer.take result.bytesTransferred))
    .running { s with
      parser := consumed.1
      aggregate := s.aggregate.addFrames options.frameCount consumed.2 }

/-- One round of the loop; the stop flag is the shutdown flag of the other application. -/
def round (options : Options) (s : MonitorState) : Process Phase := do
  if s.aggregate.frames ≥ options.frameCount then return .leaving s 0
  if ← shutdownRequested then return .leaving s 0
  let nowNs ← monotonicNowNs
  if nowNs ≤ 0 || nowNs ≥ s.sessionDeadlineNs then return .leaving s 5
  let read ← s.port.request
    (.readSome false bufferSize (min s.sessionDeadlineNs (nowNs + 100000000)))
  let .read result data := read.result | failure
  return { s with
    port := read.after
    buffer := data ++ s.buffer.drop data.length }.received options result

/-- The end of `main`, the destructor included. -/
def finish (options : Options) (s : MonitorState) (resultCode : Nat) : Process Outcome := do
  let closed ← s.port.request .close
  let stopped ← shutdownRequested
  let _ ← closed.after.request .close
  let resultCode := if stopped && resultCode = 0 then 130 else resultCode
  return { code := if s.aggregate.frames < options.frameCount && resultCode = 0 then 5
                   else resultCode
           aggregate := s.aggregate
           statistics := s.parser.statistics }

end MonitorState

def step (options : Options) : Phase → Process (Phase ⊕ Outcome)
  | .starting => start options
  | .running s => return .inl (← s.round options)
  | .leaving s resultCode => return .inr (← s.finish options resultCode)

/-- The runs of the process, be they over or not. -/
def process (options : Options) : Machine (Phase ⊕ Outcome) (List ProcessCall) :=
  Program.roundMachine (step options) .starting

end WheeltecVcuSerial.Monitor
