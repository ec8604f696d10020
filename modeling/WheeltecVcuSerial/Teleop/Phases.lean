import WheeltecVcuSerial.Teleop.Controller
import WheeltecVcuSerial.Trace.Machine

namespace WheeltecVcuSerial.Teleop

/-- The calls of the controller's interface. -/
inductive Call
  | handleEvent (event : KeyEvent) (nowNs : ℤ)
  | tick (nowNs : ℤ)
  | forceStop
  | finish
  deriving DecidableEq

/-- The clock reading of a call. -/
def Call.reading : Call → Option ℤ
  | .handleEvent _ nowNs => some nowNs
  | .tick nowNs => some nowNs
  | _ => none

/-- The phases that a call goes through. -/
inductive Action
  | reject (nowNs : ℤ)
  | accept (nowNs : ℤ)
  | expire (nowNs : ℤ)
  | key (event : KeyEvent) (nowNs : ℤ)
  | pace (nowNs : ℤ)
  | forceStop
  | finish
  deriving DecidableEq

namespace TeleopController

variable {c : TeleopController} {nowNs : ℤ}

def perform (c : TeleopController) : Call → TeleopController
  | .handleEvent event nowNs => c.handleEvent event nowNs
  | .tick nowNs => c.tick nowNs
  | .forceStop => c.forceStop
  | .finish => c.finish

def act (c : TeleopController) : Action → TeleopController
  | .reject _ => c.unauthorize.clearDirection.emitStop true
  | .accept nowNs => c.noteClock nowNs
  | .expire nowNs => (c.expireDirectionIfNeeded nowNs).1
  | .key event nowNs => c.handleKey event nowNs
  | .pace nowNs => c.pace nowNs
  | .forceStop => c.forceStop
  | .finish => c.finish

/-- When a phase can come next. -/
def Enabled (c : TeleopController) : Action → Prop
  | .reject nowNs => ¬ c.AcceptsClock nowNs
  | .accept nowNs => c.AcceptsClock nowNs
  | .expire nowNs => c.lastClockNs = some nowNs
  | .key _ nowNs => c.lastClockNs = some nowNs ∧ c.expired nowNs = false
  | .pace nowNs => c.lastClockNs = some nowNs ∧ c.expired nowNs = false
  | .forceStop => True
  | .finish => True

def actions (c : TeleopController) : Call → List Action
  | .handleEvent event nowNs =>
    if c.AcceptsClock nowNs then [.accept nowNs, .expire nowNs, .key event nowNs]
    else [.reject nowNs]
  | .tick nowNs =>
    if c.AcceptsClock nowNs then [.accept nowNs, .expire nowNs, .pace nowNs] else [.reject nowNs]
  | .forceStop => [.forceStop]
  | .finish => [.finish]

end TeleopController

/-- A phase of a call: the controller that it finds. -/
structure Phase where
  before : TeleopController
  action : Action
  deriving DecidableEq

namespace Phase

def after (e : Phase) : TeleopController := e.before.act e.action

/-- The lines that a phase emits, the latest one first. -/
def lines (e : Phase) : List ProtocolLine :=
  e.after.output.take (e.after.output.length - e.before.output.length)

theorem lines_eq {e : Phase} {lines : List ProtocolLine}
    (h : e.after.output = lines ++ e.before.output) : e.lines = lines := by
  simp [Phase.lines, h]

end Phase

def phaseMachine (config : ValidatedConfig) : Trace.Machine TeleopController Phase where
  init c := c = .construct config
  step c e c' := e.before = c ∧ c.Enabled e.action ∧ c' = e.after

namespace TeleopController

variable {c c' : TeleopController} {nowNs : ℤ} {config : ValidatedConfig}

def phases (c : TeleopController) : List Action → List Phase
  | [] => []
  | action :: actions => (c.act action).phases actions ++ [⟨c, action⟩]

/-- The controller after a sequence of calls. -/
def run (c : TeleopController) (calls : List Call) : TeleopController := calls.foldl perform c

/-- The phases of a sequence of calls, the latest one first. -/
def trace (c : TeleopController) : List Call → List Phase
  | [] => []
  | call :: calls => (c.perform call).trace calls ++ c.phases (c.actions call)

theorem validNow_of_accepts (h : c.AcceptsClock nowNs) :
    c.validNow nowNs = (c.noteClock nowNs, true) := by
  obtain ⟨hpos, hlast⟩ := h
  rw [validNow, if_neg]
  cases hclock : c.lastClockNs with
  | none => simpa using hpos
  | some last => simpa [hpos] using hlast last hclock

theorem validNow_of_rejects (h : ¬ c.AcceptsClock nowNs) :
    c.validNow nowNs = (c.act (.reject nowNs), false) := by
  rw [validNow, if_pos, act]
  by_contra hvalid
  apply h
  cases hclock : c.lastClockNs with
  | none => simpa [AcceptsClock, hclock] using hvalid
  | some last => simpa [AcceptsClock, hclock] using hvalid

theorem expired_stopAndClear (c : TeleopController) (nowNs : ℤ) :
    c.stopAndClear.expired nowNs = false := by
  have hactive : c.stopAndClear.activeDirection = none := by
    rw [stopAndClear, emitStop]
    split <;> rfl
  rw [expired, hactive]
  rfl

theorem expired_expire (c : TeleopController) (nowNs : ℤ) :
    (c.act (.expire nowNs)).expired nowNs = false := by
  rw [act, expireDirectionIfNeeded]
  split
  · exact expired_stopAndClear c nowNs
  · case isFalse hexpired => exact Bool.eq_false_iff.mpr hexpired

theorem lastClockNs_expire (c : TeleopController) (nowNs : ℤ) :
    (c.act (.expire nowNs)).lastClockNs = c.lastClockNs := by
  rw [act, expireDirectionIfNeeded]
  split
  · rw [stopAndClear, emitStop]
    split <;> rfl
  · rfl

theorem handleEvent_of_accepts (h : c.AcceptsClock nowNs) (event : KeyEvent) :
    c.handleEvent event nowNs =
      ((c.act (.accept nowNs)).act (.expire nowNs)).act (.key event nowNs) := by
  rw [handleEvent, validNow_of_accepts h]
  rfl

theorem tick_of_accepts (h : c.AcceptsClock nowNs) :
    c.tick nowNs = ((c.act (.accept nowNs)).act (.expire nowNs)).act (.pace nowNs) := by
  rw [tick, validNow_of_accepts h]
  simp only [act, expireDirectionIfNeeded]
  by_cases hexpired : (c.noteClock nowNs).expired nowNs = true
  · -- A direction that has just expired leaves nothing to send.
    have hactive : (c.noteClock nowNs).stopAndClear.activeDirection = none := by
      rw [stopAndClear, emitStop]
      split <;> rfl
    simp [hexpired, pace, hactive]
  · simp [hexpired]

theorem handleEvent_of_rejects (h : ¬ c.AcceptsClock nowNs) (event : KeyEvent) :
    c.handleEvent event nowNs = c.act (.reject nowNs) := by
  rw [handleEvent, validNow_of_rejects h]

theorem tick_of_rejects (h : ¬ c.AcceptsClock nowNs) : c.tick nowNs = c.act (.reject nowNs) := by
  rw [tick, validNow_of_rejects h]

theorem path_action {action : Action} (henabled : c.Enabled action) :
    (phaseMachine config).Path c [⟨c, action⟩] (c.act action) :=
  .next .refl ⟨rfl, henabled, rfl⟩

/-- The accepted reading of a call, the release timeout and what the call is for. -/
theorem path_accepted {action : Action} (h : c.AcceptsClock nowNs)
    (haction : ∀ c' : TeleopController, c'.lastClockNs = some nowNs → c'.expired nowNs = false →
      c'.Enabled action) :
    (phaseMachine config).Path c (c.phases [.accept nowNs, .expire nowNs, action])
      (((c.act (.accept nowNs)).act (.expire nowNs)).act action) := by
  have haccept : c.Enabled (.accept nowNs) := h
  have hclock : (c.act (.accept nowNs)).lastClockNs = some nowNs := rfl
  have hexpire : (c.act (.accept nowNs)).Enabled (.expire nowNs) := hclock
  have hlast := haction ((c.act (.accept nowNs)).act (.expire nowNs))
    (by rw [lastClockNs_expire, hclock]) (expired_expire _ _)
  exact ((path_action haccept).trans (path_action hexpire)).trans (path_action hlast)

theorem path_perform (c : TeleopController) (call : Call) :
    (phaseMachine config).Path c (c.phases (c.actions call)) (c.perform call) := by
  cases call with
  | handleEvent event nowNs =>
    by_cases h : c.AcceptsClock nowNs
    · rw [actions, if_pos h, perform, handleEvent_of_accepts h]
      exact path_accepted h fun _ hclock hexpired => ⟨hclock, hexpired⟩
    · rw [actions, if_neg h, perform, handleEvent_of_rejects h]
      exact path_action h
  | tick nowNs =>
    by_cases h : c.AcceptsClock nowNs
    · rw [actions, if_pos h, perform, tick_of_accepts h]
      exact path_accepted h fun _ hclock hexpired => ⟨hclock, hexpired⟩
    · rw [actions, if_neg h, perform, tick_of_rejects h]
      exact path_action h
  | forceStop => exact path_action trivial
  | finish => exact path_action trivial

theorem path_trace (c : TeleopController) (calls : List Call) :
    (phaseMachine config).Path c (c.trace calls) (c.run calls) := by
  induction calls generalizing c with
  | nil => exact .refl
  | cons call calls ih => exact (path_perform c call).trans (ih (c.perform call))

theorem action_of_phases {actions : List Action} {e : Phase} (he : e ∈ c.phases actions) :
    e.action ∈ actions := by
  induction actions generalizing c with
  | nil => cases he
  | cons action actions ih =>
    rcases List.mem_append.mp he with hlater | hfirst
    · exact List.mem_cons_of_mem _ (ih hlater)
    · rw [List.mem_singleton.mp hfirst]
      exact List.mem_cons_self

theorem reading_of_actions {call : Call} (h : .accept nowNs ∈ c.actions call) :
    call.reading = some nowNs := by
  cases call with
  | handleEvent event now =>
    rw [actions] at h
    split at h
    · simpa [Call.reading, eq_comm] using h
    · simp at h
  | tick now =>
    rw [actions] at h
    split at h
    · simpa [Call.reading, eq_comm] using h
    · simp at h
  | _ => simp [actions] at h

/-- An accepted reading is that of a call. -/
theorem reading_of_accept {calls : List Call} {e : Phase} (he : e ∈ c.trace calls)
    (haction : e.action = .accept nowNs) : ∃ call ∈ calls, call.reading = some nowNs := by
  induction calls generalizing c with
  | nil => cases he
  | cons call calls ih =>
    rcases List.mem_append.mp he with hlater | hcall
    · obtain ⟨call, hmem, hreading⟩ := ih hlater
      exact ⟨call, List.mem_cons_of_mem _ hmem, hreading⟩
    · refine ⟨call, List.mem_cons_self, ?_⟩
      have hmem := action_of_phases hcall
      rw [haction] at hmem
      exact reading_of_actions hmem

/-- Every sequence of calls is a run of phases. -/
theorem run_trace (config : ValidatedConfig) (calls : List Call) :
    (phaseMachine config).Run ((construct config).trace calls) ((construct config).run calls) := by
  have start : (phaseMachine config).Run [] (construct config) := .start rfl
  simpa using start.append (path_trace (construct config) calls)

end TeleopController

/-! A small configuration, an authorization and the press of a direction after it. -/

def sampleValues : TeleopConfig :=
  { maxLinearSpeedMps := 3 / 10
    minSelectedSpeedMps := 1 / 20
    initialSelectedSpeedMps := 1 / 10
    maxSelectedSpeedMps := 1 / 5
    speedStepMps := 1 / 20
    curvatureInvM := 3 / 4
    releaseTimeoutMs := 180
    commandRateHz := 20 }

theorem sampleValues_validated : validateConfig sampleValues = .ok () := by decide +kernel

def sampleConfig : ValidatedConfig := ⟨sampleValues, sampleValues_validated⟩

def pressCall (key : String) (nowNs : ℤ) : Call := .handleEvent ⟨key, true, false⟩ nowNs

def sampleCalls : List Call := [.forceStop, pressCall "r" 1000, pressCall "w" 1001]

def sampleTrace : List Phase := (TeleopController.construct sampleConfig).trace sampleCalls

example : sampleTrace.map Phase.lines =
    [[.command 1001 1001 180001001 (1 / 10) 0], [], [], [.stop, .auth 1000], [], [], [.stop]] := by
  decide +kernel

end WheeltecVcuSerial.Teleop
