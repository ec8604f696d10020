import WheeltecVcuSerial.Cli.ProcessLine
import WheeltecVcuSerial.Cli.Stdin
import WheeltecVcuSerial.Config.SafetyLimits
import WheeltecVcuSerial.Parser.FeedbackParser

namespace WheeltecVcuSerial

open Errno Process Trace

/-- A line of the input, with the call that it makes of the session. -/
def GuardedPort.processLine (g : GuardedPort) (line : List Char) :
    Process (Cli.LineResult × GuardedPort) := do
  Program.call fun
    | .processLine line' => if line' = line then some () else none
    | _ => none
  let nowNs ← monotonicNowNs
  let (op, result) := Cli.processLine line nowNs
  return (result, ← g.perform op)

namespace Cli

/-- The size of the buffer that `run` reads the port into. -/
def serialBufferSize : Nat := 512

/-- The variables of `run`, but for those that only its messages use. -/
structure CliState extends GuardedPort where
  stdinMode : NonblockingStdin
  parser : FeedbackParser := {}
  serialBuffer : List UInt8 := List.replicate serialBufferSize 0
  pendingInput : List Char := []
  inputEof : Bool := false
  quit : Bool := false
  inputFailed : Bool := false
  nextReconnectNs : Int := 0

/-- Where `run` is: the loop is ahead, under way or over. -/
inductive Phase
  | starting
  | running (s : CliState)
  | leaving (s : CliState)

def pollStdin : Process PollAnswer :=
  .call fun
    | .pollStdin answer => some answer
    | _ => none

/-- The loop around `::poll`. -/
def waitForStdin : Process PollAnswer :=
  .loop (fun _ => do
    let answer ← pollStdin
    if answer = .failed eintr then
      if ← shutdownRequested then return .inr answer
      return .inl ()
    return .inr answer) ()

/-- One round of the loop of `boundedSleepNanoseconds`. -/
def sleepRound (request : Timespec) : Process (Timespec ⊕ Unit) := do
  let (reply, remaining) ← nanosleep request
  if reply.value ≠ 0 && reply.errorNumber = eintr then
    if ← shutdownRequested then return .inr ()
    return .inl remaining
  return .inr ()

def boundedSleepNanoseconds (nanoseconds : Int) : Process Unit := do
  if nanoseconds ≤ 0 then return ()
  .loop sleepRound ⟨nanoseconds / 1000000000, nanoseconds % 1000000000⟩

/-- The loop of `attemptFinalZero`, with the attempts that are left. -/
def finalZeroAttempts (config : RuntimeConfig) : Nat → SerialPort → Process (Bool × SerialPort)
  | 0, p => return (false, p)
  | n + 1, p => do
    let nowNs ← monotonicNowNs
    if nowNs ≤ 0 then return (false, p)
    let record ← p.request (.writeAll (.bytes makeZeroCommandFrame.toList)
      (nowNs + millisecondsToNanoseconds config.writeTimeoutMs))
    let .wrote written := record.result | failure
    if written.completes commandFrameSize then return (true, record.after)
    if !record.after.connected then return (false, record.after)
    boundedSleepNanoseconds (millisecondsToNanoseconds config.zeroRetryIntervalMs)
    finalZeroAttempts config n record.after

def attemptFinalZero (config : RuntimeConfig) (p : SerialPort) : Process (Bool × SerialPort) := do
  if !p.connected then return (false, p)
  finalZeroAttempts config config.zeroRetryAttempts p

/-- `close()`, and once more in the destructor. -/
def closeTwice (p : SerialPort) : Process Unit := do
  let closed ← p.request .close
  let _ ← closed.after.request .close
  return ()

/-- `run` up to its loop. -/
def start (config : RuntimeConfig) : Process (Phase ⊕ Nat) := do
  let opened ← (SerialPort.construct config.devicePath .readWrite {}).request .open
  let .opened opening := opened.result | failure
  if !opening.ok then
    let _ ← opened.after.request .close
    return .inr 4
  let g ← construct opened.after (makeSafetyConfig config)
  if !g.session.configurationValid then
    closeTwice g.port
    return .inr 5
  let mode ← NonblockingStdin.enable
  if !mode.enabled then
    let (_, port) ← attemptFinalZero config g.port
    closeTwice port
    return .inr 6
  return .inl (.running { g with stdinMode := mode })

namespace CliState

def withPort (s : CliState) (port : SerialPort) : CliState := { s with port := port }

def withGuarded (s : CliState) (g : GuardedPort) : CliState :=
  { s with port := g.port, session := g.session }

/-- The loop over the frames that a read has completed. -/
def observeFrames (s : CliState) (receiptNs : Int) : List ParsedFeedbackFrame → Process CliState
  | [] => return s
  | frame :: frames => do
    let g ← s.perform (.observeFeedback frame.frame receiptNs)
    (s.withGuarded g).observeFrames receiptNs frames

def receiptTime (result : IoResult) : Process Int :=
  if result.completionMonotonicNs > 0 then return result.completionMonotonicNs else monotonicNowNs

/-- The reconnect branch of a round. -/
def reconnect (config : RuntimeConfig) (nowNs : Int) (s : CliState) : Process CliState := do
  if s.nextReconnectNs = 0 || nowNs ≥ s.nextReconnectNs then
    let reopened ← s.port.request .reopen
    let .opened opening := reopened.result | failure
    let s := { s.withPort reopened.after with
      nextReconnectNs := nowNs + millisecondsToNanoseconds config.reconnectIntervalMs }
    if opening.ok then return { s with parser := s.parser.reset }
    return s
  return s

/-- What a round does with the result of its read, the bytes of which are in the buffer. -/
def received (nowNs : Int) (s : CliState) (result : IoResult) : Process CliState := do
  if result.status = .ok then
    let consumed := s.parser.consume (.bytes (s.serialBuffer.take result.bytesTransferred))
    let receiptNs ← receiptTime result
    { s with parser := consumed.1 }.observeFrames receiptNs consumed.2
  else if result.status ≠ .deadlineExceeded && result.status ≠ .disconnected then
    return s.withGuarded (← s.perform (.latchEmergencyStop nowNs))
  else return s

/-- The part of a round that sees to the port. -/
def receive (config : RuntimeConfig) (nowNs : Int) (s : CliState) : Process CliState := do
  if !s.port.connected then s.reconnect config nowNs
  else
    let read ← s.port.request (.readSome false serialBufferSize (nowNs + 1000000))
    let .read result data := read.result | failure
    { s.withPort read.after with
      serialBuffer := data ++ s.serialBuffer.drop data.length }.received nowNs result

/-- The end of the input where it fails: the motion is disarmed. -/
def failInput (s : CliState) (nowNs : Int) : Process CliState := do
  let g ← s.perform (.disarm nowNs)
  return { s.withGuarded g with inputFailed := true }

def processLine (s : CliState) (line : List Char) : Process CliState := do
  let (result, g) ← s.toGuardedPort.processLine line
  return { s.withGuarded g with
    quit := s.quit || result.quit
    inputFailed := s.inputFailed || !result.valid }

/-- The loop over the lines of a round. -/
def processLines (nowNs : Int) (s : CliState) : List (List Char) → Process CliState
  | [] => return s
  | line :: lines => do
    if line.length > lineLimit then s.failInput nowNs
    else (← s.processLine line).processLines nowNs lines

/-- The end of the input: what it leaves without a newline counts as a line. -/
def processTrailing (s : CliState) : Process CliState := do
  if s.pendingInput ≠ [] then
    let s ← s.processLine s.pendingInput
    return { s with pendingInput := [], quit := true }
  return { s with quit := true }

/-- The part of a round from the tick on. -/
def tickAndWait (s : CliState) : Process Phase := do
  let nowNs ← monotonicNowNs
  let g ← s.tick nowNs
  let s := s.withGuarded g
  match ← waitForStdin with
  | .failed errorNumber =>
    if errorNumber = eintr then return .running s
    return .leaving (← s.failInput nowNs)
  | _ => return .running s

/-- The part of a round that sees to the input. -/
def takeInput (s : CliState) (nowNs : Int) : Process Phase := do
  let input ← appendStdin s.pendingInput s.inputEof
  let s := { s with pendingInput := input.pending, inputEof := input.eof }
  if !input.ok then return .leaving (← s.failInput nowNs)
  let (lines, rest) := takeCompleteLines s.pendingInput
  let s ← { s with pendingInput := rest }.processLines nowNs lines
  if s.inputFailed then return .leaving s
  if s.inputEof then (← s.processTrailing).tickAndWait
  else s.tickAndWait

/-- One round of the loop. -/
def round (config : RuntimeConfig) (s : CliState) : Process Phase := do
  if s.quit then return .leaving s
  if ← shutdownRequested then return .leaving s
  let nowNs ← monotonicNowNs
  if nowNs ≤ 0 then
    let g ← s.perform (.latchEmergencyStop nowNs)
    return .leaving { s.withGuarded g with inputFailed := true }
  (← s.receive config nowNs).takeInput nowNs

/-- The last calls of the session. -/
def stop (s : CliState) (stopNs : Int) : Process GuardedPort := do
  if stopNs > 0 then (← s.perform (.disarm stopNs)).tick stopNs
  else return s.toGuardedPort

/-- `run` from the end of its loop on, destructors included. -/
def finish (config : RuntimeConfig) (s : CliState) : Process Nat := do
  let stopNs ← monotonicNowNs
  let g ← s.stop stopNs
  let (finalZeroComplete, port) ← attemptFinalZero config g.port
  let closed ← port.request .close
  let shutdown ← shutdownRequested
  s.stdinMode.restore
  let _ ← closed.after.request .close
  if shutdown then return if finalZeroComplete then 130 else 131
  if s.inputFailed then return if finalZeroComplete then 7 else 8
  return if finalZeroComplete then 0 else 9

end CliState

/-- `run`, part by part. -/
def step (config : RuntimeConfig) : Phase → Process (Phase ⊕ Nat)
  | .starting => start config
  | .running s => return .inl (← s.round config)
  | .leaving s => return .inr (← s.finish config)

/-- The runs of the process, be they over or not. -/
def process (config : RuntimeConfig) : Machine (Phase ⊕ Nat) (List ProcessCall) :=
  Program.roundMachine (step config) .starting

end Cli

/-! ### A sample process

It reads the lines of a controller in pieces, moves the vehicle once the third command is there, and
ends with the input.  All numbers are ones that a `double` holds exactly. -/

namespace Cli

open Cue

def driveConfig : RuntimeConfig :=
  { exampleConfig with
    devicePath := ['/', 'd', 'e', 'v', '/', 'x']
    maxLinearSpeedMps := .finite 0.5
    minSelectedSpeedMps := .finite 0.0625
    initialSelectedSpeedMps := .finite 0.125
    maxSelectedSpeedMps := .finite 0.25
    speedStepMps := .finite 0.0625 }

/-- A round of the loop, with the system calls of its read and the cues for what they bring. -/
def driveRound (now : Int) (reading : List SystemCall) (receiving : List Cue) (input : String)
    (lines : List String) : List Cue :=
  [aside (.shutdownRequested false), aside (.monotonicNow now),
    port (.readSome false serialBufferSize (now + 1000000)) reading] ++
  receiving ++
  [aside (.readStdin (.delivered input.toList)), aside (.readStdin (.failed eagain))] ++
  lines.flatMap (fun line =>
    [aside (.processLine line.toList), aside (.monotonicNow (now + 1000001)),
      session fun _ => (processLine line.toList (now + 1000001)).1]) ++
  [aside (.monotonicNow (now + 1000002)), tick (now + 1000002), aside (.pollStdin .timedOut)]

/-- A round without a byte from the port. -/
def silentRound (now : Int) (input : String) (lines : List String) : List Cue :=
  driveRound now [.monotonicNow (now + 1000000)] [] input lines

def feedbackRound (now : Int) (input : String) (lines : List String) : List Cue :=
  driveRound now
    [.monotonicNow now, .readBytes 3 serialBufferSize (.delivered allowedFeedback.toList),
      .monotonicNow (now + 1)]
    [session fun _ => .observeFeedback allowedFeedback (now + 1)] input lines

def driveCommands : List String :=
  ["CMD 4000000 4000000 184000000 0.125000000 0.000000000",
    "CMD 54000000 54000000 234000000 0.125000000 0.000000000",
    "CMD 104000000 104000000 284000000 0.125000000 0.000000000"]

def driveCues : List (List Cue) :=
  [[port .open
      (.open driveConfig.devicePath (SerialPort.openFlags .readWrite) ⟨3, 0⟩ ::
        (sampleOpening 3).tail),
    fun g => .construct (makeSafetyConfig driveConfig) g.port.link,
    aside (.getStdinFlags ⟨0, 0⟩), aside (.setStdinFlags SerialPort.oNonblock ⟨0, 0⟩)],
    silentRound 1500000 "STOP\nAU" ["STOP"],
    feedbackRound 2600000 "TH 2000000\nSTOP\n" ["AUTH 2000000", "STOP"],
    silentRound 110000000 (String.join (driveCommands.map (· ++ "\n"))) driveCommands,
    silentRound 130000000 "STOP\nQUIT\n" ["STOP", "QUIT"],
    [],
    [aside (.monotonicNow 132000000), session fun _ => .disarm 132000000, tick 132000000,
      aside (.monotonicNow 132000001),
      port (.writeAll (.bytes makeZeroCommandFrame.toList) 142000001)
        (wholeWriteCalls 3 makeZeroCommandFrame.toList 132000001),
      port .close (sampleClosing 3), aside (.shutdownRequested false),
      aside (.setStdinFlags 0 ⟨0, 0⟩), port .close []]]

/-- The calls of the process, part by part. -/
def drive : List (List ProcessCall) :=
  Guard.parts { port := .construct driveConfig.devicePath .readWrite {} } driveCues

/-- The state of the process at the head of its loop after some rounds. -/
def driven (rounds : Nat) : Option CliState :=
  match Program.follows (step driveConfig) (.inl .starting) (drive.take (rounds + 1)) with
  | some (.inl (.running s)) => some s
  | _ => none

theorem drive_run : (process driveConfig).Run drive.reverse (.inr 0) := by
  have hfollows : (Program.follows (step driveConfig) (.inl .starting) drive).bind Sum.getRight? =
      some 0 := by decide +kernel
  obtain ⟨next, hfollows, hnext⟩ := Option.bind_eq_some_iff.mp hfollows
  rw [Sum.getRight?_eq_some_iff] at hnext
  exact Program.run_of_follows (hnext ▸ hfollows)

end Cli

end WheeltecVcuSerial
