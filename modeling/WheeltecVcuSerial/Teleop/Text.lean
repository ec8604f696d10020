import WheeltecVcuSerial.Teleop.Increasing
import WheeltecVcuSerial.Decimal.Text

namespace WheeltecVcuSerial.Teleop

open Decimal TeleopController

namespace ProtocolLine

/-- The text of a line.  The flags tell whether a zero speed is the negative zero of a float, which
no rational number is. -/
def text (minusZero : Bool × Bool) : ProtocolLine → List Char
  | .auth token => ['A', 'U', 'T', 'H'] ++ ' ' :: intText token
  | .command sequenceNumber createdNs deadlineNs linearMps yawRadps =>
    ['C', 'M', 'D'] ++ ' ' :: (intText sequenceNumber ++ ' ' :: (intText createdNs ++
      ' ' :: (intText deadlineNs ++ ' ' :: (formatFixed 9 minusZero.1 linearMps ++
        ' ' :: formatFixed 9 minusZero.2 yawRadps))))
  | .stop => ['S', 'T', 'O', 'P']
  | .estop => ['E', 'S', 'T', 'O', 'P']
  | .quit => ['Q', 'U', 'I', 'T']

/-- The integers of a line fit the types that they are read into. -/
def InRange : ProtocolLine → Prop
  | .auth token => 0 < token ∧ token ≤ int64Max
  | .command sequenceNumber createdNs deadlineNs _ _ =>
    (0 < sequenceNumber ∧ sequenceNumber ≤ uint64Max) ∧ (0 < createdNs ∧ createdNs ≤ int64Max) ∧
      0 < deadlineNs ∧ deadlineNs ≤ int64Max
  | _ => True

end ProtocolLine

variable {c c' : TeleopController} {action : Action} {lines : List ProtocolLine}
  {config : ValidatedConfig} {h : List Phase} {nowNs : ℤ}

theorem inRange_of_halt {stopped latched : Bool} (hlines : HaltLines action stopped latched lines) :
    ∀ line ∈ lines, line.InRange := by
  cases hlines <;> simp [ProtocolLine.InRange]

theorem inRange_commandLine (hcan : c.CanCommand nowNs) (hpos : 0 < nowNs) (direction : Direction) :
    (c.commandLine direction nowNs).InRange := by
  have htimeout := c.config.safe.timeoutPositive
  obtain ⟨hsequence, hdeadline⟩ := hcan
  have hwide : int64Max ≤ uint64Max := by decide
  have hnext : nowNs ≤ c.nextSequence nowNs := le_max_right _ _
  have hlimit : c.nextSequence nowNs ≤ uint64Max := max_le (by omega) (by omega)
  exact ⟨⟨by omega, hlimit⟩, ⟨hpos, by omega⟩, by omega, by omega⟩

theorem Effect.inRange (hdrift : Drift c) (henabled : c.Enabled action)
    (h : Effect c action lines c') : ∀ line ∈ lines, line.InRange := by
  cases h with
  | halted _ _ hlines => exact inRange_of_halt hlines
  | @granted event nowNs _ _ _ htoken =>
    have hclock := hdrift.clock
    rw [clock_of_enabled henabled (.inl ⟨event, rfl⟩)] at hclock
    have hle : nowNs ≤ c.nextToken nowNs := le_max_left _ _
    simp only [List.forall_mem_cons]
    exact ⟨trivial, ⟨by omega, htoken⟩, by simp⟩
  | @pressed event nowNs direction _ _ hcan =>
    have hclock := hdrift.clock
    rw [clock_of_enabled henabled (.inl ⟨event, rfl⟩)] at hclock
    simpa using inRange_commandLine hcan (by omega) direction
  | @paced direction nowNs next _ _ _ _ hcan =>
    have hclock := hdrift.clock
    rw [clock_of_enabled henabled (.inr rfl)] at hclock
    simpa using inRange_commandLine hcan (by omega) direction
  | _ => simp

theorem inRange_of_run (run : (phaseMachine config).Run h c) : ∀ line ∈ c.output, line.InRange :=
  output_of_run (fun run henabled heffect => heffect.inRange (drift_of_run run) henabled) run

end WheeltecVcuSerial.Teleop
