import WheeltecVcuSerial.Teleop.RunSession
import WheeltecVcuSerial.Teleop.Text

namespace WheeltecVcuSerial.Teleop

open TeleopController

/-- What `main` meets outside the controller. -/
structure World where
  /-- Whether `parse_args` returns. -/
  parsed : Bool := true
  /-- The numbers of the file and its optional limit of the yaw rate, if it can be read. -/
  values : Option (TeleopConfig × Option ℚ)
  /-- Whether the event source is made and entered with the handlers of the signals installed. -/
  entered : Bool := true
  helpShown : Bool := true
  rounds : List Round := []

/-- The controller of `main`, if it gets as far as that. -/
def World.controller (w : World) : Option TeleopController :=
  if !w.parsed then none
  else
    match w.values with
    | none => none
    | some (values, optionalYawLimit) =>
      match loadConfig values optionalYawLimit with
      | .error _ => none
      | .ok config =>
        if h : validateConfig config = .ok () then some (construct ⟨config, h⟩) else none

/-- All that `main` writes, whichever way it ends. -/
def main (w : World) : List ProtocolLine :=
  match w.controller with
  | none => [.stop, .quit]
  | some c => (if w.entered then c.runSession w.helpShown w.rounds else c).finish.output.reverse

/-! ### A session is a sequence of calls -/

/-- The key event of a call. -/
def Call.event : Call → Option KeyEvent
  | .handleEvent event _ => some event
  | _ => none

namespace TeleopController

variable {c : TeleopController}

theorem run_append (c : TeleopController) (calls more : List Call) :
    c.run (calls ++ more) = (c.run calls).run more := List.foldl_append

/-- The calls for the events of one poll; the flag tells whether one of them raised. -/
def eventCalls (c : TeleopController) (nowNs : ℤ) :
    List (Option KeyEvent × Bool) → List Call × Bool
  | [] => ([], false)
  | (none, _) :: _ => ([], true)
  | (some event, shutdown) :: events =>
    let c := c.handleEvent event nowNs
    if c.quitRequested || shutdown then ([.handleEvent event nowNs], false)
    else
      let (calls, raised) := c.eventCalls nowNs events
      (.handleEvent event nowNs :: calls, raised)

/-- The calls of one round; the flag tells whether the loop goes on. -/
def roundCalls (c : TeleopController) (round : Round) : List Call × Bool :=
  if c.quitRequested || round.shutdownAtHead then ([], false)
  else
    match round.tickNs with
    | none => ([], false)
    | some nowNs =>
      let c := c.tick nowNs
      if c.quitRequested || round.shutdownAfterTick then ([.tick nowNs], false)
      else
        match round.polled, round.eventsNs with
        | some events, some eventsNs =>
          if round.shutdownAfterPoll then ([.tick nowNs], false)
          else
            let (calls, raised) := c.eventCalls eventsNs events
            (.tick nowNs :: (calls ++ if raised then [] else [.tick eventsNs]), !raised)
        | _, _ => ([.tick nowNs], false)

/-- The calls of the loop of `run_session`. -/
def sessionCalls (c : TeleopController) : List Round → List Call
  | [] => []
  | round :: rounds =>
    let (calls, goesOn) := c.roundCalls round
    calls ++ if goesOn then (c.run calls).sessionCalls rounds else []

theorem sessionCalls_cons (c : TeleopController) (round : Round) (rounds : List Round) :
    c.sessionCalls (round :: rounds) = (c.roundCalls round).1 ++
      if (c.roundCalls round).2 then (c.run (c.roundCalls round).1).sessionCalls rounds else [] :=
  rfl

/-- The calls of `run_session`. -/
def allCalls (c : TeleopController) (helpShown : Bool) (rounds : List Round) : List Call :=
  if helpShown then .forceStop :: (c.forceStop.sessionCalls rounds ++ [.finish]) else [.finish]

end TeleopController

/-- The controller of `main` is a new one. -/
theorem World.constructed {w : World} {c : TeleopController} (h : w.controller = some c) :
    ∃ config, c = construct config := by
  rw [World.controller] at h
  split at h
  · cases h
  split at h
  · cases h
  split at h
  · cases h
  split at h
  · exact ⟨_, (Option.some.inj h).symm⟩
  · cases h

def driveValues : TeleopConfig :=
  { sampleValues with
    maxLinearSpeedMps := 1 / 2
    minSelectedSpeedMps := 1 / 16
    initialSelectedSpeedMps := 1 / 8
    maxSelectedSpeedMps := 1 / 4
    speedStepMps := 1 / 16 }

def driveTeleop : ValidatedConfig := ⟨driveValues, by decide +kernel⟩

def driveRounds : List Round :=
  [{ tickNs := some 1000000
     polled := some [(some ⟨"r", true, false⟩, false)]
     eventsNs := some 2000000 },
    { tickNs := some 2000010
      polled := some [(some ⟨"w", true, false⟩, false)]
      eventsNs := some 4000000 },
    { tickNs := some 4000010, polled := some [], eventsNs := some 54000000 },
    { tickNs := some 54000010, polled := some [], eventsNs := some 104000000 }]

def driveLines : List ProtocolLine :=
  [.stop, .auth 2000000, .stop, .command 4000000 4000000 184000000 (1 / 8) 0,
    .command 54000000 54000000 234000000 (1 / 8) 0,
    .command 104000000 104000000 284000000 (1 / 8) 0, .stop, .quit]

end WheeltecVcuSerial.Teleop
