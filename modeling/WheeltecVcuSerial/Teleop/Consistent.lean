import WheeltecVcuSerial.Teleop.Effects

namespace WheeltecVcuSerial.Teleop

open Trace TeleopController

/-- The latest of the stops and commands that have been emitted, the latest line first. -/
def lastMotion (output : List ProtocolLine) : Option ProtocolLine :=
  output.find? fun
    | .command .. => true
    | .stop => true
    | _ => false

/-- How the fields of the controller fit together, and fit what it has emitted. -/
structure Consistent (c : TeleopController) : Prop where
  latched : .estop ∈ c.output → c.estopLatched = true
  unauthorized : c.estopLatched = true → c.authorized = false
  stopped : c.stoppedEmitted = true ↔ lastMotion c.output = some .stop
  still : c.activeDirection = none →
    c.nextCommandNs = none ∧ ∀ line, lastMotion c.output = some line → line = .stop
  authorized : c.activeDirection.isSome → c.authorized = true
  moving : ∀ direction, c.activeDirection = some direction →
    ∃ sequence createdNs, lastMotion c.output =
      some (.command sequence createdNs (createdNs + c.config.releaseTimeoutNs)
        (c.motion direction).1 (c.motion direction).2)
  paced : c.activeDirection.isSome → c.nextCommandNs.isSome
  held : c.activeDirection.isSome → ∃ p, c.lastDirectionActivityNs = some p ∧
    c.authorizationEventNs < p ∧ ∃ last, c.lastClockNs = some last ∧ p ≤ last

theorem Consistent.construct (config : ValidatedConfig) : Consistent (construct config) := by
  constructor <;> simp [TeleopController.construct, lastMotion]

theorem lastMotion_halt {action : Action} {stopped latched : Bool}
    {lines output : List ProtocolLine}
    (hlines : HaltLines action stopped latched lines)
    (hstopped : stopped = true → lastMotion output = some .stop) :
    lastMotion (lines ++ output) = some .stop := by
  cases hlines with
  | silent hsilent => exact hstopped hsilent
  | stop => rfl
  | estop => rfl
  | quit => rfl

theorem estop_of_halt {action : Action} {stopped latched : Bool} {lines output : List ProtocolLine}
    (hlines : HaltLines action stopped latched lines) (hmem : .estop ∈ lines ++ output) :
    latched = true ∨ .estop ∈ output := by
  cases hlines with
  | silent => exact .inr hmem
  | stop => exact .inr (by simpa using hmem)
  | estop hlatched => exact .inl hlatched
  | quit => exact .inr (by simpa using hmem)

/-- Every phase keeps the fields together. -/
theorem Consistent.effect {c c' : TeleopController} {action : Action} {lines : List ProtocolLine}
    (hc : Consistent c) (henabled : c.Enabled action) (h : Effect c action lines c') :
    Consistent c' := by
  cases h with
  | clocked haccepts =>
    refine { hc with held := ?_ }
    intro hactive
    obtain ⟨p, hp, hauthorized, last, hlast, hle⟩ := hc.held hactive
    exact ⟨p, hp, hauthorized, _, rfl, hle.trans (haccepts.2 last hlast)⟩
  | idle => exact hc
  | selected hactive =>
    refine { hc with moving := ?_ }
    intro direction hdirection
    rw [selectSpeed_activeDirection, hactive] at hdirection
    cases hdirection
  | halted hauthorized hlatched hlines _ _ =>
    have hlast : lastMotion (_ ++ c.output) = some .stop := lastMotion_halt hlines hc.stopped.mp
    constructor
    · intro hmem
      exact (estop_of_halt hlines hmem).elim id fun h => hlatched (hc.latched h)
    · intro h
      by_contra hstill
      obtain ⟨hbefore, hsame, -⟩ := hauthorized (Bool.not_eq_false _ ▸ hstill)
      rw [hc.unauthorized (hsame ▸ h)] at hbefore
      cases hbefore
    · exact ⟨fun _ => hlast, fun _ => rfl⟩
    · refine fun _ => ⟨rfl, fun line hline => ?_⟩
      exact (Option.some.inj (hlast.symm.trans hline)).symm
    all_goals simp
  | granted _ _ hlatched _ =>
    constructor
    · intro hmem
      have hbefore : .estop ∈ c.output := by simpa [granted, emitStop] using hmem
      exact hc.latched hbefore
    · intro h
      have hbefore : c.estopLatched = true := h
      rw [hlatched] at hbefore
      cases hbefore
    · exact ⟨fun _ => rfl, fun _ => rfl⟩
    · refine fun _ => ⟨rfl, fun line hline => ?_⟩
      exact (Option.some.inj hline).symm
    all_goals simp [granted, emitStop]
  | @held event nowNs next direction hpress hnext _ =>
    have hsame : c.activeDirection = some direction := by
      cases hactive : c.activeDirection with
      | none => simp [(hc.still hactive).1] at hnext
      | some other => rw [hpress.same other hactive]
    constructor
    · exact hc.latched
    · exact hc.unauthorized
    · exact hc.stopped
    · intro hactive
      cases hactive
    · exact fun _ => hpress.authorized
    · rintro _ ⟨⟩
      exact hc.moving direction hsame
    · exact fun _ => rfl
    · exact fun _ => ⟨nowNs, rfl, hpress.later, nowNs, henabled.1, le_rfl⟩
  | @pressed event nowNs direction hpress hdue hcan =>
    constructor
    · intro hmem
      exact hc.latched (by simpa [command, holdDirection, commandLine] using hmem)
    · exact hc.unauthorized
    · constructor <;> intro h <;> cases h
    · intro hactive
      cases hactive
    · exact fun _ => hpress.authorized
    · rintro _ ⟨⟩
      exact ⟨_, _, rfl⟩
    · exact fun _ => rfl
    · exact fun _ => ⟨nowNs, rfl, hpress.later, nowNs, henabled.1, le_rfl⟩
  | @paced direction nowNs next hactive hauthorized hnext hdue hcan =>
    constructor
    · intro hmem
      exact hc.latched (by simpa [command, commandLine] using hmem)
    · exact hc.unauthorized
    · constructor <;> intro h <;> cases h
    · intro hstill
      exact absurd (hactive.symm.trans hstill) (by simp)
    · exact hc.authorized
    · intro other hother
      obtain rfl := Option.some.inj (hactive.symm.trans hother)
      exact ⟨_, _, rfl⟩
    · exact fun _ => rfl
    · exact hc.held

theorem consistent_of_run {config : ValidatedConfig} {h : List Phase} {c : TeleopController}
    (run : (phaseMachine config).Run h c) : Consistent c :=
  invariant_of_run (.construct config) (fun _ hc henabled heffect => hc.effect henabled heffect) run

theorem Effect.config {c c' : TeleopController} {action : Action} {lines : List ProtocolLine}
    (h : Effect c action lines c') : c'.config = c.config := by
  cases h <;> rfl

theorem config_of_run {config : ValidatedConfig} {h : List Phase} {c : TeleopController}
    (run : (phaseMachine config).Run h c) : c.config = config :=
  invariant_of_run (P := (·.config = config)) rfl
    (fun _ hc _ heffect => heffect.config.trans hc) run

theorem Consistent.moving_iff {c : TeleopController} (hc : Consistent c) :
    (∃ sequence created deadline linear yaw,
      lastMotion c.output = some (.command sequence created deadline linear yaw)) ↔
    c.activeDirection.isSome := by
  constructor
  · rintro ⟨sequence, created, deadline, linear, yaw, hlast⟩
    cases hactive : c.activeDirection with
    | none => cases (hc.still hactive).2 _ hlast
    | some direction => rfl
  · intro hactive
    obtain ⟨direction, hdirection⟩ := Option.isSome_iff_exists.mp hactive
    obtain ⟨sequence, created, hlast⟩ := hc.moving direction hdirection
    exact ⟨_, _, _, _, _, hlast⟩

end WheeltecVcuSerial.Teleop
