import WheeltecVcuSerial.Teleop.Config
import WheeltecVcuSerial.Decimal.Rounding
import Mathlib.Tactic.Simps.Basic

namespace WheeltecVcuSerial.Teleop

open Decimal

inductive Direction
  | w
  | s
  | a
  | d
  deriving DecidableEq

/-- What `handle_event` tells keys apart by. -/
inductive Key
  | direction (direction : Direction)
  | r
  | q
  | e
  | space
  | x
  | esc
  | other
  deriving DecidableEq

/-- No letter outside ASCII has one of these keys as its lower case. -/
def Key.ofLower : String → Key
  | "w" => .direction .w
  | "s" => .direction .s
  | "a" => .direction .a
  | "d" => .direction .d
  | "r" => .r
  | "q" => .q
  | "e" => .e
  | "space" => .space
  | "x" => .x
  | "esc" => .esc
  | _ => .other

/-- `repeated` is the field `repeat` of the source. -/
structure KeyEvent where
  key : String
  pressed : Bool
  repeated : Bool := false
  deriving DecidableEq

def KeyEvent.kind (event : KeyEvent) : Key := Key.ofLower event.key.toLower

/-- The lines of the machine protocol, with the numbers that they are printed from. -/
inductive ProtocolLine
  | auth (token : ℤ)
  | command (sequence createdNs deadlineNs : ℤ) (linearMps yawRadps : ℚ)
  | stop
  | estop
  | quit
  deriving DecidableEq

/-- The fields of `TeleopController`, and the lines it has emitted, the latest one first. -/
structure TeleopController where
  config : ValidatedConfig
  selectedSpeedMps : ℚ
  authorized : Bool := false
  estopLatched : Bool := false
  activeDirection : Option Direction := none
  lastDirectionActivityNs : Option ℤ := none
  nextCommandNs : Option ℤ := none
  lastClockNs : Option ℤ := none
  lastAuthToken : ℤ := 0
  authorizationEventNs : ℤ := 0
  sequence : ℤ := 0
  directionConflictUntilNs : ℤ := 0
  stoppedEmitted : Bool := false
  quitRequested : Bool := false
  finished : Bool := false
  output : List ProtocolLine := []
  deriving DecidableEq

namespace TeleopController

def construct (config : ValidatedConfig) : TeleopController :=
  { config := config, selectedSpeedMps := config.initialSelectedSpeedMps }

@[simps] def emitProtocol (c : TeleopController) (line : ProtocolLine) : TeleopController :=
  { c with output := line :: c.output }

@[simps] def clearDirection (c : TeleopController) : TeleopController :=
  { c with activeDirection := none, lastDirectionActivityNs := none, nextCommandNs := none }

/-- The assignment `self._authorized = False`. -/
@[simps] def unauthorize (c : TeleopController) : TeleopController := { c with authorized := false }

def emitStop (c : TeleopController) (force : Bool) : TeleopController :=
  if force || !c.stoppedEmitted then { c.emitProtocol .stop with stoppedEmitted := true } else c

def forceStop (c : TeleopController) : TeleopController := c.clearDirection.emitStop true

def stopAndClear (c : TeleopController) : TeleopController := c.clearDirection.emitStop false

@[simps] def noteClock (c : TeleopController) (nowNs : ℤ) : TeleopController :=
  { c with lastClockNs := some nowNs }

/-- Whether the clock reading is positive and no regression. -/
def AcceptsClock (c : TeleopController) (nowNs : ℤ) : Prop :=
  0 < nowNs ∧ ∀ last ∈ c.lastClockNs, last ≤ nowNs

instance (c : TeleopController) (nowNs : ℤ) : Decidable (c.AcceptsClock nowNs) :=
  inferInstanceAs (Decidable (_ ∧ _))

def validNow (c : TeleopController) (nowNs : ℤ) : TeleopController × Bool :=
  if nowNs ≤ 0 || c.lastClockNs.any (nowNs < ·) then
    (c.unauthorize.clearDirection.emitStop true, false)
  else (c.noteClock nowNs, true)

@[simps] def grant (c : TeleopController) (token nowNs : ℤ) : TeleopController :=
  { c with
    lastAuthToken := token
    authorized := true
    authorizationEventNs := nowNs
    directionConflictUntilNs := 0 }

/-- The token of the next authorization. -/
def nextToken (c : TeleopController) (nowNs : ℤ) : ℤ := max nowNs (c.lastAuthToken + 1)

def authorize (c : TeleopController) (nowNs : ℤ) : TeleopController :=
  if c.estopLatched then c.unauthorize.stopAndClear
  else
    let token := c.nextToken nowNs
    if token > int64Max then c.unauthorize.stopAndClear
    else ((c.grant token nowNs).clearDirection.emitProtocol (.auth token)).emitStop true

@[simps] def selectSpeed (c : TeleopController) (speed : ℚ) : TeleopController :=
  { c with selectedSpeedMps := speed }

/-- The speed that `_change_speed` selects. -/
def nextSpeed (c : TeleopController) (deltaMps : ℚ) : ℚ :=
  roundTo 12 (min c.config.maxSelectedSpeedMps
    (max c.config.minSelectedSpeedMps (c.selectedSpeedMps + deltaMps)))

def changeSpeed (c : TeleopController) (deltaMps : ℚ) : TeleopController :=
  let c := if c.activeDirection.isSome then c.stopAndClear else c
  c.selectSpeed (c.nextSpeed deltaMps)

/-- `_motion`; both callers of `_emit_command` have an active direction. -/
def motion (c : TeleopController) : Direction → ℚ × ℚ
  | .w => (c.selectedSpeedMps, 0)
  | .s => (-c.selectedSpeedMps, 0)
  | .a => (c.selectedSpeedMps, c.selectedSpeedMps * c.config.curvatureInvM)
  | .d => (c.selectedSpeedMps, -c.selectedSpeedMps * c.config.curvatureInvM)

/-- The sequence id of the next command. -/
def nextSequence (c : TeleopController) (nowNs : ℤ) : ℤ := max (c.sequence + 1) nowNs

def commandLine (c : TeleopController) (direction : Direction) (nowNs : ℤ) : ProtocolLine :=
  .command (c.nextSequence nowNs) nowNs (nowNs + c.config.releaseTimeoutNs)
    (c.motion direction).1 (c.motion direction).2

/-- Neither the sequence ids nor the deadline overflow. -/
def CanCommand (c : TeleopController) (nowNs : ℤ) : Prop :=
  c.sequence < uint64Max ∧ nowNs ≤ int64Max - c.config.releaseTimeoutNs

instance (c : TeleopController) (nowNs : ℤ) : Decidable (c.CanCommand nowNs) :=
  inferInstanceAs (Decidable (_ ∧ _))

@[simps] def noteCommand (c : TeleopController) (nowNs : ℤ) : TeleopController :=
  { c with
    sequence := c.nextSequence nowNs
    stoppedEmitted := false
    nextCommandNs := some (nowNs + c.config.commandPeriodNs) }

def emitCommand (c : TeleopController) (direction : Direction) (nowNs : ℤ) : TeleopController :=
  if c.sequence ≥ uint64Max then c.unauthorize.stopAndClear
  else if nowNs > int64Max - c.config.releaseTimeoutNs then c.unauthorize.stopAndClear
  else (c.noteCommand nowNs).emitProtocol (c.commandLine direction nowNs)

/-- The active direction has gone without a press for as long as the release timeout. -/
def expired (c : TeleopController) (nowNs : ℤ) : Bool :=
  c.activeDirection.isSome &&
    c.lastDirectionActivityNs.any fun last => nowNs - last ≥ c.config.releaseTimeoutNs

def expireDirectionIfNeeded (c : TeleopController) (nowNs : ℤ) : TeleopController × Bool :=
  if c.expired nowNs then (c.stopAndClear, true) else (c, false)

@[simps] def inhibitDirections (c : TeleopController) (untilNs : ℤ) : TeleopController :=
  { c with directionConflictUntilNs := untilNs }

/-- The time that a conflict at `nowNs` inhibits directions until. -/
def conflictEnd (c : TeleopController) (nowNs : ℤ) : ℤ :=
  min int64Max (nowNs + c.config.releaseTimeoutNs)

@[simps] def holdDirection (c : TeleopController) (direction : Direction) (nowNs : ℤ) :
    TeleopController :=
  { c with
    activeDirection := some direction
    lastDirectionActivityNs := some nowNs
    nextCommandNs := some (c.nextCommandNs.getD nowNs) }

/-- The press of a direction key in `handle_event`. -/
def pressDirection (c : TeleopController) (direction : Direction) (nowNs : ℤ) : TeleopController :=
  if nowNs < c.directionConflictUntilNs then
    (c.inhibitDirections (c.conflictEnd nowNs)).stopAndClear
  else if !c.authorized then c.stopAndClear
  else if nowNs ≤ c.authorizationEventNs then c.stopAndClear
  else if c.activeDirection.isSome && c.activeDirection ≠ some direction then
    (c.inhibitDirections (c.conflictEnd nowNs)).stopAndClear
  else
    let c := c.holdDirection direction nowNs
    if c.nextCommandNs.any (nowNs ≥ ·) then c.emitCommand direction nowNs else c

@[simps] def latchEstop (c : TeleopController) : TeleopController :=
  { c.unauthorize with estopLatched := true }

@[simps] def requestQuit (c : TeleopController) : TeleopController :=
  { c with quitRequested := true }

/-- `handle_event` behind its clock check and the release timeout. -/
def handleKey (c : TeleopController) (event : KeyEvent) (nowNs : ℤ) : TeleopController :=
  if !event.pressed then
    match event.kind with
    | .direction direction => if c.activeDirection = some direction then c.stopAndClear else c
    | _ => c
  else
    match event.kind with
    | .r => c.authorize nowNs
    | .q => c.changeSpeed c.config.speedStepMps
    | .e => c.changeSpeed (-c.config.speedStepMps)
    | .space => (c.inhibitDirections 0).stopAndClear
    | .x => (c.latchEstop.clearDirection.emitProtocol .estop).emitStop true
    | .esc => c.requestQuit.stopAndClear
    | .other =>
      if c.activeDirection.isSome then (c.inhibitDirections (c.conflictEnd nowNs)).stopAndClear
      else c
    | .direction direction => c.pressDirection direction nowNs

def handleEvent (c : TeleopController) (event : KeyEvent) (nowNs : ℤ) : TeleopController :=
  match c.validNow nowNs with
  | (c, false) => c
  | (c, true) => (c.expireDirectionIfNeeded nowNs).1.handleKey event nowNs

/-- `tick` behind its clock check and the release timeout. -/
def pace (c : TeleopController) (nowNs : ℤ) : TeleopController :=
  match c.activeDirection with
  | none => c
  | some direction =>
    if c.authorized && c.nextCommandNs.any (nowNs ≥ ·) then c.emitCommand direction nowNs else c

def tick (c : TeleopController) (nowNs : ℤ) : TeleopController :=
  match c.validNow nowNs with
  | (c, false) => c
  | (c, true) =>
    match c.expireDirectionIfNeeded nowNs with
    | (c, true) => c
    | (c, false) => c.pace nowNs

def finish (c : TeleopController) : TeleopController :=
  if c.finished then c
  else
    ({ c with finished := true }.unauthorize.clearDirection.emitStop true).emitProtocol .quit

end TeleopController

end WheeltecVcuSerial.Teleop
