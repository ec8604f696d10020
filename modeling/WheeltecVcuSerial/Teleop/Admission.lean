import WheeltecVcuSerial.Teleop.Consistent

namespace WheeltecVcuSerial.Teleop

open Trace TeleopController

namespace Phase

/-- An authorization at `nowNs`. -/
def Grants (nowNs : ℤ) (e : Phase) : Prop :=
  ∃ event token, e.action = .key event nowNs ∧ .auth token ∈ e.lines

/-- Neither a rejected reading nor an authorization. -/
def KeepsPermission (e : Phase) : Prop :=
  (∀ nowNs, e.action ≠ .reject nowNs) ∧ ∀ token, .auth token ∉ e.lines

/-- The press, or the repeat, of the key of `direction` at `nowNs`, without a STOP. -/
def Presses (direction : Direction) (nowNs : ℤ) (e : Phase) : Prop :=
  ∃ event, e.action = .key event nowNs ∧ event.pressed = true ∧
    event.kind = .direction direction ∧ .stop ∉ e.lines

/-- No STOP, and no key that ends the motion of `direction`. -/
def KeepsMotion (direction : Direction) (e : Phase) : Prop :=
  .stop ∉ e.lines ∧ ¬ e.action.Ends direction

end Phase

variable {c c' : TeleopController} {action : Action} {lines : List ProtocolLine}
  {config : ValidatedConfig} {h : List Phase} {e : Phase} {direction : Direction}

theorem auth_of_halt {stopped latched : Bool} {token : ℤ}
    (hlines : HaltLines action stopped latched lines) : .auth token ∉ lines := by
  cases hlines <;> simp

theorem Effect.permission {nowNs : ℤ} (h : Effect c action lines c')
    (hafter : c'.authorized = true ∧ c'.authorizationEventNs = nowNs) :
    (∃ event token, action = .key event nowNs ∧ .auth token ∈ lines) ∨
      ((∀ nowNs, action ≠ .reject nowNs) ∧ ∀ token, .auth token ∉ lines) ∧
        c.authorized = true ∧ c.authorizationEventNs = nowNs := by
  cases h with
  | clocked => exact .inr ⟨by simp, hafter⟩
  | idle haction => exact .inr ⟨⟨haction, by simp⟩, hafter⟩
  | selected => exact .inr ⟨by simp, hafter⟩
  | halted hauthorized _ hlines =>
    obtain ⟨hbefore, -, haction⟩ := hauthorized hafter.1
    exact .inr ⟨⟨haction, fun _ => auth_of_halt hlines⟩, hbefore, hafter.2⟩
  | granted =>
    obtain ⟨-, rfl⟩ := hafter
    exact .inl ⟨_, _, rfl, List.mem_cons_of_mem _ (List.mem_singleton_self _)⟩
  | held => exact .inr ⟨by simp, hafter⟩
  | pressed => exact .inr ⟨by simp [commandLine], hafter⟩
  | paced => exact .inr ⟨by simp [commandLine], hafter⟩

/-- A permission has lasted since its authorization. -/
theorem permission_since (run : (phaseMachine config).Run h c) (hauthorized : c.authorized = true) :
    Since Phase.KeepsPermission (fun e _ => e.Grants c.authorizationEventNs) h := by
  refine Machine.Run.since (P := fun s : TeleopController =>
    s.authorized = true ∧ s.authorizationEventNs = c.authorizationEventNs) ?_ ?_ run
    ⟨hauthorized, rfl⟩
  · rintro s rfl ⟨h, -⟩
    cases h
  · intro h s e t _ hstep hafter
    exact (effect_of_step hstep).permission hafter

theorem Effect.motion {p : ℤ} (h : Effect c action lines c')
    (hafter : c'.activeDirection = some direction ∧ c'.lastDirectionActivityNs = some p) :
    (∃ event, action = .key event p ∧ event.pressed = true ∧ event.kind = .direction direction ∧
        .stop ∉ lines) ∨
      (.stop ∉ lines ∧ ¬ action.Ends direction) ∧
        c.activeDirection = some direction ∧ c.lastDirectionActivityNs = some p := by
  have hpress : ∀ {event nowNs other}, Press c event nowNs other →
      some other = some direction ∧ some nowNs = some p →
      ∃ e, Action.key event nowNs = .key e p ∧ e.pressed = true ∧
        e.kind = .direction direction := by
    rintro event nowNs other hpress ⟨⟨⟩, ⟨⟩⟩
    exact ⟨event, rfl, hpress.pressed, hpress.kind⟩
  cases h with
  | clocked => exact .inr ⟨⟨by simp, fun h => h⟩, hafter⟩
  | idle _ hends => exact .inr ⟨⟨by simp, hends direction hafter.1⟩, hafter⟩
  | selected hactive =>
    rw [selectSpeed_activeDirection, hactive] at hafter
    cases hafter.1
  | halted => cases hafter.1
  | granted => cases hafter.1
  | held hheld =>
    obtain ⟨event, haction, hevent⟩ := hpress hheld hafter
    exact .inl ⟨event, haction, hevent.1, hevent.2, by simp⟩
  | pressed hpressed =>
    obtain ⟨event, haction, hevent⟩ := hpress hpressed hafter
    exact .inl ⟨event, haction, hevent.1, hevent.2, by simp [commandLine]⟩
  | paced => exact .inr ⟨⟨by simp [commandLine], fun h => h⟩, hafter⟩

/-- A motion has been held since the latest press of its key. -/
theorem motion_since {p : ℤ} (run : (phaseMachine config).Run h c)
    (hactive : c.activeDirection = some direction)
    (hactivity : c.lastDirectionActivityNs = some p) :
    Since (Phase.KeepsMotion direction) (fun e _ => e.Presses direction p) h := by
  refine Machine.Run.since (P := fun s : TeleopController =>
    s.activeDirection = some direction ∧ s.lastDirectionActivityNs = some p) ?_ ?_ run
    ⟨hactive, hactivity⟩
  · rintro s rfl ⟨h, -⟩
    cases h
  · intro h s e t _ hstep hafter
    exact (effect_of_step hstep).motion hafter

/-- A phase that sends a command: the state that the command is for, and what it is. -/
theorem Effect.command {sequence created deadline : ℤ} {linear yaw : ℚ}
    (hc : Consistent c) (henabled : c.Enabled action) (h : Effect c action lines c')
    (hcommand : .command sequence created deadline linear yaw ∈ lines) :
    ∃ direction p, lines = [c.commandLine direction created] ∧
      ((∃ event, action = .key event created) ∨ action = .pace created) ∧ c.CanCommand created ∧
      c.authorized = true ∧ c.authorizationEventNs < created ∧
      c'.activeDirection = some direction ∧ c'.lastDirectionActivityNs = some p ∧
      created - p < c.config.releaseTimeoutNs := by
  cases h with
  | halted _ _ hlines => cases hlines <;> simp at hcommand
  | granted => simp at hcommand
  | @pressed event nowNs direction hpress hdue hcan =>
    simp only [commandLine, List.mem_singleton, ProtocolLine.command.injEq] at hcommand
    obtain ⟨-, rfl, -⟩ := hcommand
    refine ⟨direction, created, rfl, .inl ⟨event, rfl⟩, hcan, hpress.authorized, hpress.later,
      rfl, rfl, ?_⟩
    rw [sub_self]
    exact c.config.safe.timeoutPositive
  | @paced direction nowNs next hactive hauthorized hnext hdue hcan =>
    simp only [commandLine, List.mem_singleton, ProtocolLine.command.injEq] at hcommand
    obtain ⟨-, rfl, -⟩ := hcommand
    obtain ⟨p, hp, hlater, last, hlast, hle⟩ := hc.held (by rw [hactive]; rfl)
    obtain ⟨hclock, hexpired⟩ := henabled
    obtain rfl := Option.some.inj (hlast.symm.trans hclock)
    refine ⟨direction, p, rfl, .inr rfl, hcan, hauthorized, hlater.trans_le hle, hactive, hp, ?_⟩
    simpa [expired, hactive, hp] using hexpired
  | _ => cases hcommand

/-- The phase after `earlier` in a sequence of calls. -/
theorem step_of_trace {calls : List Call} {later earlier : List Phase}
    (htrace : (construct config).trace calls = later ++ e :: earlier) :
    ∃ c', (phaseMachine config).Run earlier e.before ∧ (phaseMachine config).Run (e :: earlier) c' ∧
      (phaseMachine config).step e.before e c' := by
  have run := run_trace config calls
  rw [htrace] at run
  obtain ⟨c, c', hrun, hstep, -⟩ := run.step_of_mem
  obtain rfl := hstep.1
  exact ⟨c', hrun, hrun.next hstep, hstep⟩

theorem latched_of_run (run : (phaseMachine config).Run h c) (he : e ∈ h)
    (hestop : .estop ∈ e.lines) :
    .estop ∈ c.output := by
  induction run with
  | start => cases he
  | next run hstep ih =>
    rw [(effect_of_step hstep).output]
    rcases List.mem_cons.mp he with rfl | he
    · exact List.mem_append_left _ hestop
    · exact List.mem_append_right _ (ih he)

/-- Every command comes after no ESTOP, under a permission granted strictly before it that no
rejected reading has revoked, with the time of its call and a deadline that does not overflow, and
for a direction whose key was pressed within the release timeout and has been held since. -/
theorem command_admitted (config : ValidatedConfig) (calls : List Call) {later earlier : List Phase}
    {e : Phase} {sequence created deadline : ℤ} {linear yaw : ℚ}
    (htrace : (construct config).trace calls = later ++ e :: earlier)
    (hcommand : .command sequence created deadline linear yaw ∈ e.lines) :
    (∀ x ∈ e :: earlier, .estop ∉ x.lines) ∧
      ((∃ event, e.action = .key event created) ∨ e.action = .pace created) ∧
      deadline = created + config.releaseTimeoutNs ∧ deadline ≤ int64Max ∧
      (∃ nowNs, nowNs < created ∧
        Since Phase.KeepsPermission (fun x _ => x.Grants nowNs) earlier) ∧
      ∃ direction p, (linear, yaw) = e.before.motion direction ∧
        created - p < config.releaseTimeoutNs ∧
        Since (Phase.KeepsMotion direction) (fun x _ => x.Presses direction p) (e :: earlier) := by
  obtain ⟨c', run, runAfter, hstep⟩ := step_of_trace htrace
  have hconsistent := consistent_of_run run
  obtain ⟨direction, p, hlines, haction, hcan, hauthorized, hlater, hactive, hactivity, htimeout⟩ :=
    (effect_of_step hstep).command hconsistent hstep.2.1 hcommand
  have hconfig := config_of_run run
  rw [hlines, List.mem_singleton, commandLine, ProtocolLine.command.injEq, hconfig] at hcommand
  obtain ⟨-, -, rfl, rfl, rfl⟩ := hcommand
  rw [CanCommand, hconfig] at hcan
  rw [hconfig] at htimeout
  refine ⟨?_, haction, rfl, by linarith [hcan.2], ⟨_, hlater, permission_since run hauthorized⟩,
    direction, p, rfl, htimeout, motion_since runAfter hactive hactivity⟩
  intro x hx hestop
  rcases List.mem_cons.mp hx with rfl | hx
  · simp [hlines, commandLine] at hestop
  · have hlatched := hconsistent.latched (latched_of_run run hx hestop)
    rw [hconsistent.unauthorized hlatched] at hauthorized
    cases hauthorized

theorem sampleTrace_ne_nil : sampleTrace ≠ [] := by decide +kernel

/-- The press that `sampleCalls` end with. -/
def samplePress : Phase := sampleTrace.head sampleTrace_ne_nil

theorem sampleTrace_eq :
    (construct sampleConfig).trace sampleCalls = [] ++ samplePress :: sampleTrace.tail :=
  (List.cons_head_tail sampleTrace_ne_nil).symm

theorem samplePress_sends : .command 1001 1001 180001001 (1 / 10) 0 ∈ samplePress.lines := by
  decide +kernel

theorem samplePress_admitted :
    (∃ nowNs, nowNs < 1001 ∧
        Since Phase.KeepsPermission (fun x _ => x.Grants nowNs) sampleTrace.tail) ∧
      ∃ direction p, (1 / 10, 0) = samplePress.before.motion direction ∧
        1001 - p < sampleConfig.releaseTimeoutNs ∧
        Since (Phase.KeepsMotion direction) (fun x _ => x.Presses direction p)
          (samplePress :: sampleTrace.tail) :=
  (command_admitted sampleConfig sampleCalls sampleTrace_eq samplePress_sends).2.2.2.2

end WheeltecVcuSerial.Teleop
