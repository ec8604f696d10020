import WheeltecVcuSerial.Session.Operations
import WheeltecVcuSerial.Trace.Machine

namespace WheeltecVcuSerial

/-- The calls of the public interface; a `tick` comes with the answers of its writes. -/
inductive Op
  | authorize (authorizationToken : Nat) (now : Int)
  | disarm (now : Int)
  | requestStop (now : Int)
  | submit (command : TimedMotionCommand) (now : Int)
  | observeFeedback (frame : FeedbackFrame) (now : Int)
  | latchEmergencyStop (now : Int)
  | resetEmergencyStop (resetToken : Nat) (now : Int)
  | tick (now : Int) (motionOutcome zeroOutcome : WriteOutcome)
  deriving DecidableEq

inductive Response
  | authorization (status : AuthorizationStatus)
  | flag (value : Bool)
  | submission (status : SubmissionStatus)
  | feedback (result : FeedbackObservationResult)
  | nothing
  | cycle (result : CycleResult)
  deriving DecidableEq

structure Outcome where
  session : SafetySession
  link : Link
  response : Response
  writes : List Write := []
  deriving DecidableEq

def SafetySession.perform (s : SafetySession) (link : Link) : Op → Outcome
  | .authorize token now =>
    let r := s.authorize link token now
    { session := r.1, link := link, response := .authorization r.2 }
  | .disarm now =>
    let r := s.disarm link now
    { session := r.1, link := link, response := .flag r.2 }
  | .requestStop now =>
    let r := s.requestStop link now
    { session := r.1, link := link, response := .flag r.2 }
  | .submit command now =>
    let r := s.submit link command now
    { session := r.1, link := link, response := .submission r.2 }
  | .observeFeedback frame now =>
    let r := s.observeFeedback link frame now
    { session := r.1, link := link, response := .feedback r.2 }
  | .latchEmergencyStop now =>
    { session := s.latchEmergencyStop link now, link := link, response := .nothing }
  | .resetEmergencyStop token now =>
    let r := s.resetEmergencyStop link token now
    { session := r.1, link := link, response := .flag r.2 }
  | .tick now motionOutcome zeroOutcome =>
    let cycle := s.tick link now motionOutcome zeroOutcome
    { session := cycle.session
      link := cycle.link
      response := .cycle cycle.result
      writes := cycle.writes }

def Op.now : Op → Int
  | .authorize _ now => now
  | .disarm now => now
  | .requestStop now => now
  | .submit _ now => now
  | .observeFeedback _ now => now
  | .latchEmergencyStop now => now
  | .resetEmergencyStop _ now => now
  | .tick now _ _ => now

/-- Whether the call puts its time to the clock check. -/
def Op.checksClock (s : SafetySession) : Op → Bool
  | .resetEmergencyStop _ _ => s.configurationValid && s.emergencyStopLatched
  | _ => s.configurationValid

/-- A call of the session: the state and the link that it finds. -/
structure Event where
  before : SafetySession
  link : Link
  op : Op
  deriving DecidableEq

namespace Event

def outcome (e : Event) : Outcome := e.before.perform e.link e.op
def after (e : Event) : SafetySession := e.outcome.session
def linkAfter (e : Event) : Link := e.outcome.link
def response (e : Event) : Response := e.outcome.response
def writes (e : Event) : List Write := e.outcome.writes

end Event

/-- The transport contract on generations: none is lower than an earlier one, and every reconnect
reports a greater one. -/
def Link.Evolves (earlier later : Link) : Prop :=
  earlier.generation ≤ later.generation ∧
    (earlier.connected = false → later.connected = true → earlier.generation < later.generation)

instance : DecidableRel Link.Evolves := fun _ _ => inferInstanceAs (Decidable (_ ∧ _))

structure World where
  session : SafetySession
  link : Link
  deriving DecidableEq

/-- The links that the call of `e` meets, one at its start and one after each write. -/
def Event.links (e : Event) : List Link := e.link :: e.writes.map (fun w => w.outcome.link)

/-- A session over a transport whose link changes only between calls and inside `writeAll`, there
as `admits` says. -/
def sessionMachine (admits : Link → Link → Prop) (config : SafetyConfig) :
    Trace.Machine World Event where
  init w :=
    w.session = SafetySession.construct config (some w.link) ∨
      w.session = SafetySession.construct config none
  step w e w' :=
    e.before = w.session ∧ List.IsChain admits (w.link :: e.links) ∧ w' = ⟨e.after, e.linkAfter⟩

/-- The history and the final world of a list of calls, each with the link that it finds. -/
def World.replay : World → List (Link × Op) → List Event × World
  | w, [] => ([], w)
  | w, (link, op) :: calls =>
    let e : Event := ⟨w.session, link, op⟩
    let rest := World.replay ⟨e.after, e.linkAfter⟩ calls
    (rest.1 ++ [e], rest.2)

/-- Whether the links of a replay evolve as `admits` says. -/
def World.Admitted (admits : Link → Link → Prop) : World → List (Link × Op) → Prop
  | _, [] => True
  | w, (link, op) :: calls =>
    let e : Event := ⟨w.session, link, op⟩
    List.IsChain admits (w.link :: e.links) ∧
      World.Admitted admits ⟨e.after, e.linkAfter⟩ calls

instance World.decidableAdmitted {admits : Link → Link → Prop} [DecidableRel admits] :
    (w : World) → (calls : List (Link × Op)) → Decidable (w.Admitted admits calls)
  | _, [] => inferInstanceAs (Decidable True)
  | w, (link, op) :: calls =>
    have := @decidableAdmitted admits _
      ⟨(⟨w.session, link, op⟩ : Event).after, (⟨w.session, link, op⟩ : Event).linkAfter⟩ calls
    inferInstanceAs (Decidable (_ ∧ _))

theorem World.path_replay {admits : Link → Link → Prop} {config : SafetyConfig} {w : World}
    {calls : List (Link × Op)} (h : w.Admitted admits calls) :
    (sessionMachine admits config).Path w (w.replay calls).1 (w.replay calls).2 := by
  induction calls generalizing w with
  | nil => exact .refl
  | cons call calls ih =>
    obtain ⟨link, op⟩ := call
    obtain ⟨hchain, hrest⟩ := h
    exact .head ⟨rfl, hchain, rfl⟩ (ih hrest)

theorem World.run_replay {admits : Link → Link → Prop} {config : SafetyConfig} {link : Link}
    {calls : List (Link × Op)}
    (hadmitted : World.Admitted admits ⟨.construct config (some link), link⟩ calls) :
    (sessionMachine admits config).Run
      (World.replay ⟨.construct config (some link), link⟩ calls).1
      (World.replay ⟨.construct config (some link), link⟩ calls).2 := by
  have start : (sessionMachine admits config).Run [] ⟨.construct config (some link), link⟩ :=
    .start (Or.inl rfl)
  simpa using start.append (path_replay hadmitted)

/-! A small configuration over a transport that stays up: two fresh commands before motion. -/

def steadyConfig : SafetyConfig :=
  { maxLinearSpeedMps := .finite (1 / 2)
    maxAbsYawRateRadps := .finite 1
    maxCommandAgeNs := 50
    feedbackTimeoutNs := 60
    transmitPeriodNs := 10
    writeTimeoutNs := 5
    zeroRetryIntervalNs := 10
    maximumZeroAttempts := 3
    freshCommandsRequired := 2 }

def steadyLink : Link := ⟨true, 1⟩

def steadyStart : World := ⟨.construct steadyConfig (some steadyLink), steadyLink⟩

def steadyReplay (calls : List Op) : List Event × World :=
  steadyStart.replay (calls.map fun op => (steadyLink, op))

theorem steady_run (calls : List Op) {h : List Event}
    (hadmitted : steadyStart.Admitted Link.Evolves (calls.map fun op => (steadyLink, op)))
    (heq : (steadyReplay calls).1 = h) :
    (sessionMachine Link.Evolves steadyConfig).Run h (steadyReplay calls).2 :=
  heq ▸ World.run_replay hadmitted

/-- The call `op` after `calls`. -/
def steadyEvent (calls : List Op) (op : Op) : Event :=
  ⟨(steadyReplay calls).2.session, steadyLink, op⟩

def wholeWrite (now : Int) : WriteOutcome :=
  ⟨some ⟨.ok, commandFrameSize, 0, true, false, now⟩, steadyLink⟩

def plainTick (now : Int) : Op := .tick now (wholeWrite now) (wholeWrite now)

def allowedFeedback : FeedbackFrame :=
  #v[frameHeader, 0, 0, 0, 0, 0, 0, 0, 0, 0, 0, 0, 0, 0, 0, 0, 0, 0, 0, 0, 0, 0, frameHeader,
    frameTail]

def forwardCommand (sequenceId : Nat) (created : Int) : TimedMotionCommand :=
  ⟨sequenceId, created, created + 40, { linearSpeedMps := .finite (1 / 4) }⟩

/-- The first zero frame, the permission and a fresh run. -/
def steadyCalls : List Op :=
  [plainTick 100, .observeFeedback allowedFeedback 101, .authorize 1 102,
    .submit (forwardCommand 1 103) 103, .submit (forwardCommand 2 104) 104]

/-- The motion of `steadyCalls` is on the wire. -/
def movingCalls : List Op := steadyCalls ++ [plainTick 105]

example : (steadyReplay movingCalls).1.map (fun e => e.writes.length) = [1, 0, 0, 0, 0, 1] := by
  decide +kernel

theorem moving_run :
    (sessionMachine Link.Evolves steadyConfig).Run (steadyReplay movingCalls).1
      (steadyReplay movingCalls).2 :=
  steady_run movingCalls (by decide +kernel) rfl

end WheeltecVcuSerial
