import WheeltecVcuSerial.Teleop.Phases

namespace WheeltecVcuSerial.Teleop

/-- A release of the key of `direction`, the press of another direction, a speed change, space, `x`,
`r` or Esc. -/
def Action.Ends (direction : Direction) : Action → Prop
  | .key event _ =>
    event.pressed = false ∧ event.kind = .direction direction ∨
      event.pressed = true ∧
        (event.kind ∈ [Key.r, .q, .e, .space, .x, .esc] ∨
          ∃ other, other ≠ direction ∧ event.kind = .direction other)
  | _ => False

/-- What `_stop_and_clear`, `force_stop`, the press of `x` and `finish` emit, the latest line
first; only a stop that is already out is not repeated. -/
inductive HaltLines (action : Action) (stoppedEmitted estopLatched : Bool) :
    List ProtocolLine → Prop
  | silent : stoppedEmitted = true → HaltLines action stoppedEmitted estopLatched []
  | stop : HaltLines action stoppedEmitted estopLatched [.stop]
  | estop : estopLatched = true → HaltLines action stoppedEmitted estopLatched [.stop, .estop]
  | quit : action = .finish → HaltLines action stoppedEmitted estopLatched [.quit, .stop]

/-- The press of a direction key that `handle_event` acts on. -/
structure Press (c : TeleopController) (event : KeyEvent) (nowNs : ℤ) (direction : Direction) :
    Prop where
  pressed : event.pressed = true
  kind : event.kind = .direction direction
  authorized : c.authorized = true
  later : c.authorizationEventNs < nowNs
  same : ∀ other, c.activeDirection = some other → other = direction

namespace TeleopController

/-- A command for `direction`, with what `_emit_command` notes of it. -/
def command (c : TeleopController) (direction : Direction) (nowNs : ℤ) : TeleopController :=
  (c.noteCommand nowNs).emitProtocol (c.commandLine direction nowNs)

def granted (c : TeleopController) (nowNs : ℤ) : TeleopController :=
  ((c.grant (c.nextToken nowNs) nowNs).clearDirection.emitProtocol
    (.auth (c.nextToken nowNs))).emitStop true

end TeleopController

/-- What a phase does: one case for each way it ends. -/
inductive Effect (c : TeleopController) :
    Action → List ProtocolLine → TeleopController → Prop
  | clocked : c.AcceptsClock nowNs → Effect c (.accept nowNs) [] (c.noteClock nowNs)
  | idle : (∀ nowNs, action ≠ .reject nowNs) →
      (∀ direction, c.activeDirection = some direction → ¬ action.Ends direction) →
      Effect c action [] c
  | selected : c.activeDirection = none →
      Effect c (.key event nowNs) [] (c.selectSpeed (c.nextSpeed delta))
  | halted : (authorized = true →
        c.authorized = true ∧ estopLatched = c.estopLatched ∧ ∀ nowNs, action ≠ .reject nowNs) →
      (c.estopLatched = true → estopLatched = true) →
      HaltLines action c.stoppedEmitted estopLatched lines →
      finished = c.finished ∨ action = .finish →
      selectedSpeedMps = c.selectedSpeedMps ∨ (∃ delta, selectedSpeedMps = c.nextSpeed delta) →
      Effect c action lines
        { c with
          selectedSpeedMps := selectedSpeedMps
          authorized := authorized
          estopLatched := estopLatched
          activeDirection := none
          lastDirectionActivityNs := none
          nextCommandNs := none
          directionConflictUntilNs := directionConflictUntilNs
          stoppedEmitted := true
          quitRequested := quitRequested
          finished := finished
          output := lines ++ c.output }
  | granted {event : KeyEvent} {nowNs : ℤ} :
      event.pressed = true → event.kind = .r → c.estopLatched = false →
      c.nextToken nowNs ≤ int64Max →
      Effect c (.key event nowNs) [.stop, .auth (c.nextToken nowNs)] (c.granted nowNs)
  | held {event : KeyEvent} {nowNs next : ℤ} {direction : Direction} :
      Press c event nowNs direction → c.nextCommandNs = some next → nowNs < next →
      Effect c (.key event nowNs) [] (c.holdDirection direction nowNs)
  | pressed {event : KeyEvent} {nowNs : ℤ} {direction : Direction} :
      Press c event nowNs direction → (∀ next ∈ c.nextCommandNs, next ≤ nowNs) →
      c.CanCommand nowNs →
      Effect c (.key event nowNs) [c.commandLine direction nowNs]
        ((c.holdDirection direction nowNs).command direction nowNs)
  | paced {direction : Direction} {nowNs next : ℤ} :
      c.activeDirection = some direction → c.authorized = true →
      c.nextCommandNs = some next → next ≤ nowNs → c.CanCommand nowNs →
      Effect c (.pace nowNs) [c.commandLine direction nowNs] (c.command direction nowNs)

namespace TeleopController

variable {c : TeleopController} {nowNs : ℤ} {action : Action}

/-- What is left of `_stop_and_clear` is whether it says STOP again. -/
theorem stopAndClear_eq (c : TeleopController) :
    ∃ lines, (∀ action latched, HaltLines action c.stoppedEmitted latched lines) ∧
      c.stopAndClear =
        { c.clearDirection with stoppedEmitted := true, output := lines ++ c.output } := by
  cases hstopped : c.stoppedEmitted with
  | false =>
    refine ⟨[.stop], fun _ _ => .stop, ?_⟩
    simp [stopAndClear, emitStop, hstopped, emitProtocol, clearDirection]
  | true =>
    refine ⟨[], fun _ _ => .silent rfl, ?_⟩
    simp [stopAndClear, emitStop, hstopped, clearDirection]

/-- A stop of the controller that a phase has changed as far as a halt may change it. -/
theorem effect_stopAndClear {action : Action} (d : TeleopController)
    (hauthorized : d.authorized = true →
      c.authorized = true ∧ d.estopLatched = c.estopLatched ∧ ∀ nowNs, action ≠ .reject nowNs)
    (hlatched : c.estopLatched = true → d.estopLatched = true)
    (hsame : d.clearDirection =
      { c.clearDirection with
        authorized := d.authorized
        estopLatched := d.estopLatched
        directionConflictUntilNs := d.directionConflictUntilNs
        quitRequested := d.quitRequested }) :
    ∃ lines, Effect c action lines d.stopAndClear := by
  obtain ⟨lines, hlines, heq⟩ := d.stopAndClear_eq
  have hstopped : d.clearDirection.stoppedEmitted = c.stoppedEmitted := by rw [hsame]; rfl
  have houtput : d.clearDirection.output = c.output := by rw [hsame]; rfl
  rw [clearDirection_stoppedEmitted] at hstopped
  rw [clearDirection_output] at houtput
  rw [hstopped] at hlines
  refine ⟨lines, ?_⟩
  rw [heq, hsame, houtput]
  exact .halted hauthorized hlatched (hlines _ _) (.inl rfl) (.inl rfl)

theorem effect_changeSpeed (c : TeleopController) (event : KeyEvent) (nowNs : ℤ) (delta : ℚ) :
    ∃ lines, Effect c (.key event nowNs) lines (c.changeSpeed delta) := by
  cases hactive : c.activeDirection with
  | none =>
    refine ⟨[], ?_⟩
    simp only [changeSpeed, hactive, Option.isSome_none, Bool.false_eq_true, if_false]
    exact .selected hactive
  | some direction =>
    obtain ⟨lines, hlines, heq⟩ := c.stopAndClear_eq
    refine ⟨lines, ?_⟩
    simp only [changeSpeed, hactive, Option.isSome_some, if_true, heq]
    exact .halted (fun h => ⟨h, rfl, by simp⟩) (fun h => h) (hlines _ _) (.inl rfl)
      (.inr ⟨delta, rfl⟩)

theorem emitCommand_of_can (h : c.CanCommand nowNs) (direction : Direction) :
    c.emitCommand direction nowNs = c.command direction nowNs := by
  rw [emitCommand, if_neg (not_le.mpr h.1), if_neg (not_lt.mpr h.2)]
  rfl

theorem emitCommand_of_overflow (h : ¬ c.CanCommand nowNs) (direction : Direction) :
    c.emitCommand direction nowNs = c.unauthorize.stopAndClear := by
  rw [emitCommand]
  split
  · rfl
  · case isFalse hsequence =>
    rw [if_pos]
    by_contra hdeadline
    exact h ⟨not_le.mp hsequence, not_lt.mp hdeadline⟩

theorem effect_authorize {event : KeyEvent} (hpressed : event.pressed = true)
    (hkind : event.kind = .r) :
    ∃ lines, Effect c (.key event nowNs) lines (c.authorize nowNs) := by
  rw [authorize]
  split
  · exact effect_stopAndClear c.unauthorize (by simp [unauthorize]) (fun h => h) rfl
  · case isFalse hlatched =>
    dsimp only
    split
    · exact effect_stopAndClear c.unauthorize (by simp [unauthorize]) (fun h => h) rfl
    · case isFalse htoken =>
      exact ⟨_, .granted hpressed hkind (Bool.eq_false_iff.mpr hlatched) (not_lt.mp htoken)⟩

theorem effect_pressDirection {event : KeyEvent} {direction : Direction}
    (hpressed : event.pressed = true) (hkind : event.kind = .direction direction) :
    ∃ lines, Effect c (.key event nowNs) lines (c.pressDirection direction nowNs) := by
  rw [pressDirection]
  split
  · exact effect_stopAndClear (c.inhibitDirections (c.conflictEnd nowNs))
      (fun h => ⟨h, rfl, by simp⟩) (fun h => h) rfl
  split
  · exact effect_stopAndClear c (fun h => ⟨h, rfl, by simp⟩) (fun h => h) rfl
  · case isFalse hauthorized =>
    split
    · exact effect_stopAndClear c (fun h => ⟨h, rfl, by simp⟩) (fun h => h) rfl
    · case isFalse hlater =>
      split
      · exact effect_stopAndClear (c.inhibitDirections (c.conflictEnd nowNs))
          (fun h => ⟨h, rfl, by simp⟩) (fun h => h) rfl
      · case isFalse hother =>
        have hpress : Press c event nowNs direction := by
          refine ⟨hpressed, hkind, by simpa using hauthorized, not_le.mp hlater, ?_⟩
          intro other hactive
          simpa [hactive] using hother
        dsimp only
        split
        · case isTrue hdue =>
          by_cases hcan : c.CanCommand nowNs
          · rw [emitCommand_of_can (by exact hcan)]
            refine ⟨[c.commandLine direction nowNs], .pressed hpress ?_ hcan⟩
            intro next hnext
            simpa [Option.mem_def.mp hnext] using hdue
          · rw [emitCommand_of_overflow (by exact hcan)]
            exact effect_stopAndClear (c.holdDirection direction nowNs).unauthorize
              (by simp [unauthorize]) (fun h => h) rfl
        · case isFalse hdue =>
          cases hnext : c.nextCommandNs with
          | none => simp [hnext] at hdue
          | some next => exact ⟨_, .held hpress hnext (by simpa [hnext] using hdue)⟩

theorem effect_pace (c : TeleopController) (nowNs : ℤ) :
    ∃ lines, Effect c (.pace nowNs) lines (c.pace nowNs) := by
  have hidle : Effect c (.pace nowNs) [] c := .idle (by simp) fun _ _ h => h
  rw [pace]
  cases hactive : c.activeDirection with
  | none => exact ⟨_, hidle⟩
  | some direction =>
    dsimp only
    split
    · case isTrue hdue =>
      rw [Bool.and_eq_true] at hdue
      by_cases hcan : c.CanCommand nowNs
      · rw [emitCommand_of_can hcan]
        cases hnext : c.nextCommandNs with
        | none => simp [hnext] at hdue
        | some next => exact ⟨_, .paced hactive hdue.1 hnext (by simpa [hnext] using hdue.2) hcan⟩
      · rw [emitCommand_of_overflow hcan]
        exact effect_stopAndClear c.unauthorize (by simp [unauthorize]) (fun h => h) rfl
    · exact ⟨_, hidle⟩

theorem effect_handleKey (c : TeleopController) (event : KeyEvent) (nowNs : ℤ) :
    ∃ lines, Effect c (.key event nowNs) lines (c.handleKey event nowNs) := by
  rw [handleKey]
  cases hpressed : event.pressed with
  | false =>
    have hrelease : ∀ direction, event.kind ≠ .direction direction →
        ¬ (Action.key event nowNs).Ends direction := by
      intro direction hkind hends
      rcases hends with ⟨-, h⟩ | ⟨h, -⟩
      · exact hkind h
      · rw [hpressed] at h
        cases h
    rw [Bool.not_false, if_pos rfl]
    split
    · case h_1 direction hkind =>
      split
      · exact effect_stopAndClear c (fun h => ⟨h, rfl, by simp⟩) (fun h => h) rfl
      · case isFalse hother =>
        refine ⟨_, .idle (by simp) fun active hactive => hrelease active ?_⟩
        rw [hkind]
        rintro ⟨⟩
        exact hother hactive
    · case h_2 hkind =>
      exact ⟨_, .idle (by simp) fun direction _ => hrelease direction (hkind direction)⟩
  | true =>
    rw [Bool.not_true, if_neg Bool.false_ne_true]
    split
    · case h_1 hkind => exact effect_authorize hpressed hkind
    · exact effect_changeSpeed c event nowNs _
    · exact effect_changeSpeed c event nowNs _
    · exact effect_stopAndClear (c.inhibitDirections 0) (fun h => ⟨h, rfl, by simp⟩)
        (fun h => h) rfl
    · refine ⟨[.stop, .estop], ?_⟩
      exact .halted (by simp) (fun _ => rfl) (.estop rfl) (.inl rfl) (.inl rfl)
    · exact effect_stopAndClear c.requestQuit (fun h => ⟨h, rfl, by simp⟩) (fun h => h) rfl
    · case h_7 hkind =>
      split
      · exact effect_stopAndClear (c.inhibitDirections (c.conflictEnd nowNs))
          (fun h => ⟨h, rfl, by simp⟩) (fun h => h) rfl
      · case isFalse hactive =>
        refine ⟨_, .idle (by simp) fun direction h => ?_⟩
        simp [h] at hactive
    · case h_8 direction hkind => exact effect_pressDirection hpressed hkind

/-- What every phase can do. -/
theorem effect_act (henabled : c.Enabled action) :
    ∃ lines, Effect c action lines (c.act action) := by
  cases action with
  | reject nowNs =>
    refine ⟨[.stop], ?_⟩
    exact .halted (by simp) (fun h => h) .stop (.inl rfl) (.inl rfl)
  | accept nowNs => exact ⟨_, .clocked henabled⟩
  | expire nowNs =>
    rw [act, expireDirectionIfNeeded]
    split
    · exact effect_stopAndClear c (fun h => ⟨h, rfl, by simp⟩) (fun h => h) rfl
    · exact ⟨_, .idle (by simp) fun _ _ h => h⟩
  | key event nowNs => exact effect_handleKey c event nowNs
  | pace nowNs => exact effect_pace c nowNs
  | forceStop =>
    refine ⟨[.stop], ?_⟩
    exact .halted (fun h => ⟨h, rfl, by simp⟩) (fun h => h) .stop (.inl rfl) (.inl rfl)
  | finish =>
    rw [act, finish]
    split
    · exact ⟨_, .idle (by simp) fun _ _ h => h⟩
    · refine ⟨[.quit, .stop], ?_⟩
      exact .halted (fun h => absurd h Bool.false_ne_true) (fun h => h) (.quit rfl) (.inr rfl)
        (.inl rfl)

end TeleopController

open TeleopController

theorem Effect.output {c c' : TeleopController} {action : Action} {lines : List ProtocolLine}
    (h : Effect c action lines c') : c'.output = lines ++ c.output := by
  cases h <;> rfl

/-- The effect of a step, with the lines that it emits. -/
theorem effect_of_step {config : ValidatedConfig} {c c' : TeleopController} {e : Phase}
    (h : (phaseMachine config).step c e c') : Effect c e.action e.lines c' := by
  obtain ⟨rfl, henabled, rfl⟩ := h
  obtain ⟨lines, heffect⟩ := effect_act henabled
  rw [Phase.lines_eq heffect.output]
  exact heffect

/-- The rule for the invariants of all runs. -/
theorem invariant_of_run {config : ValidatedConfig} {P : TeleopController → Prop}
    {h : List Phase} {c : TeleopController} (hinit : P (construct config))
    (heffect : ∀ {h c action lines c'}, (phaseMachine config).Run h c → P c → c.Enabled action →
      Effect c action lines c' → P c')
    (run : (phaseMachine config).Run h c) : P c := by
  induction run with
  | start hstart => rwa [hstart]
  | next run hstep ih => exact heffect run ih hstep.2.1 (effect_of_step hstep)

/-- The rule for the lines that all runs emit. -/
theorem output_of_run {config : ValidatedConfig} {P : ProtocolLine → Prop} {h : List Phase}
    {c : TeleopController}
    (hlines : ∀ {h c action lines c'}, (phaseMachine config).Run h c → c.Enabled action →
      Effect c action lines c' → ∀ line ∈ lines, P line)
    (run : (phaseMachine config).Run h c) : ∀ line ∈ c.output, P line := by
  refine invariant_of_run (P := fun c => ∀ line ∈ c.output, P line) (by simp [construct]) ?_ run
  intro h c action lines c' run ih henabled heffect line hline
  rw [heffect.output] at hline
  rcases List.mem_append.mp hline with hnew | hold
  · exact hlines run henabled heffect line hnew
  · exact ih line hold

end WheeltecVcuSerial.Teleop
