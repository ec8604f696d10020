import WheeltecVcuSerial.Teleop.Admission
import WheeltecVcuSerial.Teleop.RunSession

namespace WheeltecVcuSerial.Teleop

open Trace TeleopController

namespace TeleopController

/-- The call emits STOP. -/
def Stops (c : TeleopController) (call : Call) : Prop :=
  ∃ lines, (c.perform call).output = lines ++ c.output ∧ .stop ∈ lines

/-- The calls at or after the deadman time, of a release, of a conflict, with a rejected clock and
with an overflow. -/
inductive Halts (c : TeleopController) : Call → Prop
  | rejected : call.reading = some nowNs → ¬ c.AcceptsClock nowNs → Halts c call
  | deadman : call.reading = some nowNs → c.AcceptsClock nowNs → c.expired nowNs = true →
      Halts c call
  | released : event.pressed = false → event.kind = .direction direction →
      c.activeDirection = some direction → Halts c (.handleEvent event nowNs)
  | conflicting : event.pressed = true → c.activeDirection = some direction →
      event.kind = .other ∨ (∃ other, other ≠ direction ∧ event.kind = .direction other) →
      Halts c (.handleEvent event nowNs)
  | inhibited : event.pressed = true → event.kind = .direction direction →
      nowNs < c.directionConflictUntilNs → Halts c (.handleEvent event nowNs)
  | tokenOverflow : event.pressed = true → event.kind = .r → int64Max < c.nextToken nowNs →
      Halts c (.handleEvent event nowNs)
  | pressOverflow : event.pressed = true → event.kind = .direction direction →
      (∀ next ∈ c.nextCommandNs, next ≤ nowNs) → ¬ c.CanCommand nowNs →
      Halts c (.handleEvent event nowNs)
  | tickOverflow : c.activeDirection.isSome → (∀ next ∈ c.nextCommandNs, next ≤ nowNs) →
      ¬ c.CanCommand nowNs → Halts c (.tick nowNs)

variable {c c' : TeleopController} {call : Call} {event : KeyEvent} {direction : Direction}
  {nowNs : ℤ} {config : ValidatedConfig} {h : List Phase}

theorem perform_of_rejects (hreading : call.reading = some nowNs) (h : ¬ c.AcceptsClock nowNs) :
    c.perform call = c.act (.reject nowNs) := by
  cases call with
  | handleEvent event now =>
    cases hreading
    exact handleEvent_of_rejects h event
  | tick now =>
    cases hreading
    exact tick_of_rejects h
  | _ => cases hreading

/-- The last phase of a call with an accepted reading. -/
def Action.Finishes (nowNs : ℤ) (action : Action) : Prop :=
  (∃ event, action = .key event nowNs) ∨ action = .pace nowNs

theorem perform_of_accepts (hreading : call.reading = some nowNs) (h : c.AcceptsClock nowNs) :
    ∃ action, Action.Finishes nowNs action ∧
      c.perform call = ((c.act (.accept nowNs)).act (.expire nowNs)).act action := by
  cases call with
  | handleEvent event now =>
    cases hreading
    exact ⟨.key event nowNs, .inl ⟨event, rfl⟩, handleEvent_of_accepts h event⟩
  | tick now =>
    cases hreading
    exact ⟨.pace nowNs, .inr rfl, tick_of_accepts h⟩
  | _ => cases hreading

/-- What the last phase of a call does, in the state that the release timeout leaves. -/
theorem effect_of_finishes {action : Action} (haction : Action.Finishes nowNs action)
    (c : TeleopController) :
    ∃ lines, Effect ((c.act (.accept nowNs)).act (.expire nowNs)) action lines
      (((c.act (.accept nowNs)).act (.expire nowNs)).act action) := by
  apply effect_act
  have hclock : ((c.act (.accept nowNs)).act (.expire nowNs)).lastClockNs = some nowNs := by
    rw [lastClockNs_expire]
    rfl
  have hlive := expired_expire (c.act (.accept nowNs)) nowNs
  rcases haction with ⟨event, rfl⟩ | rfl
  · exact ⟨hclock, hlive⟩
  · exact ⟨hclock, hlive⟩

/-- The last phase of a call lets nothing expire. -/
theorem expired_of_effect {action : Action} {lines : List ProtocolLine}
    (haction : Action.Finishes nowNs action) (hlive : c.expired nowNs = false)
    (h : Effect c action lines c') : c'.expired nowNs = false := by
  have hfresh : ∀ {d : TeleopController}, d.lastDirectionActivityNs = some nowNs →
      d.expired nowNs = false := by
    intro d hd
    have htimeout := d.config.safe.timeoutPositive
    simp [expired, hd, htimeout]
  have hkey : ∀ {event now}, Action.Finishes nowNs (.key event now) → now = nowNs := by
    rintro event now (⟨_, ⟨⟩⟩ | ⟨⟨⟩⟩)
    rfl
  cases h with
  | clocked => exact hlive
  | idle => exact hlive
  | selected => exact hlive
  | halted => rfl
  | granted => rfl
  | held =>
    obtain rfl := hkey haction
    exact hfresh rfl
  | pressed =>
    obtain rfl := hkey haction
    exact hfresh rfl
  | paced => exact hlive

theorem expired_perform (hreading : call.reading = some nowNs) (haccepts : c.AcceptsClock nowNs) :
    (c.perform call).expired nowNs = false := by
  obtain ⟨action, haction, hperform⟩ := perform_of_accepts hreading haccepts
  obtain ⟨lines, heffect⟩ := effect_of_finishes haction c
  rw [hperform]
  exact expired_of_effect haction (expired_expire _ _) heffect

theorem stops_of_rejects (hreading : call.reading = some nowNs) (h : ¬ c.AcceptsClock nowNs) :
    c.Stops call := by
  rw [Stops, perform_of_rejects hreading h]
  exact ⟨[.stop], rfl, by simp⟩

theorem stopAndClear_output (hstopped : c.stoppedEmitted = false) :
    c.stopAndClear.output = .stop :: c.output := by
  simp [stopAndClear, emitStop, hstopped]

theorem stops_of_expired (hstopped : c.stoppedEmitted = false)
    (hreading : call.reading = some nowNs) (haccepts : c.AcceptsClock nowNs)
    (hexpired : c.expired nowNs = true) : c.Stops call := by
  obtain ⟨action, haction, hperform⟩ := perform_of_accepts hreading haccepts
  have hexpire : ((c.act (.accept nowNs)).act (.expire nowNs)).output = .stop :: c.output := by
    have hnoted : (c.noteClock nowNs).expired nowNs = true := hexpired
    simp only [act, expireDirectionIfNeeded, hnoted, if_true]
    exact stopAndClear_output hstopped
  obtain ⟨lines, heffect⟩ := effect_of_finishes haction c
  refine ⟨lines ++ [.stop], ?_, by simp⟩
  rw [hperform, heffect.output, hexpire, List.append_assoc]
  rfl

/-- Without a direction to expire, an accepted reading is only noted. -/
theorem expire_of_live (hexpired : c.expired nowNs = false) :
    (c.act (.accept nowNs)).act (.expire nowNs) = c.noteClock nowNs := by
  have hnoted : (c.noteClock nowNs).expired nowNs = false := hexpired
  simp [act, expireDirectionIfNeeded, hnoted]

theorem authorize_stops (hstopped : c.stoppedEmitted = false)
    (htoken : int64Max < c.nextToken nowNs) :
    (c.authorize nowNs).output = .stop :: c.output := by
  rw [authorize]
  split
  · exact stopAndClear_output (c := c.unauthorize) hstopped
  · dsimp only
    rw [if_pos htoken]
    exact stopAndClear_output (c := c.unauthorize) hstopped

theorem pressDirection_stops (hstopped : c.stoppedEmitted = false)
    (h : nowNs < c.directionConflictUntilNs ∨
      (∃ other, other ≠ direction ∧ c.activeDirection = some other) ∨
      (∀ next ∈ c.nextCommandNs, next ≤ nowNs) ∧ ¬ c.CanCommand nowNs) :
    (c.pressDirection direction nowNs).output = .stop :: c.output := by
  rw [pressDirection]
  split
  · exact stopAndClear_output (c := c.inhibitDirections _) hstopped
  split
  · exact stopAndClear_output hstopped
  split
  · exact stopAndClear_output hstopped
  split
  · exact stopAndClear_output (c := c.inhibitDirections _) hstopped
  · case isFalse huninhibited _ _ hsame =>
    rcases h with hinhibited | ⟨other, hne, hactive⟩ | ⟨hdue, hcan⟩
    · exact absurd hinhibited huninhibited
    · simp [hactive, hne] at hsame
    · dsimp only
      have hnext : (c.holdDirection direction nowNs).nextCommandNs.any (nowNs ≥ ·) = true := by
        cases hnext : c.nextCommandNs with
        | none => simp [hnext]
        | some next => simpa [hnext] using hdue next hnext
      rw [if_pos hnext, emitCommand_of_overflow (by exact hcan)]
      exact stopAndClear_output (c := (c.holdDirection direction nowNs).unauthorize) hstopped

theorem pace_stops (hstopped : c.stoppedEmitted = false) (hc : Consistent c)
    (hactive : c.activeDirection.isSome) (hdue : ∀ next ∈ c.nextCommandNs, next ≤ nowNs)
    (hcan : ¬ c.CanCommand nowNs) : (c.pace nowNs).output = .stop :: c.output := by
  obtain ⟨direction, hdirection⟩ := Option.isSome_iff_exists.mp hactive
  obtain ⟨next, hnext⟩ := Option.isSome_iff_exists.mp (hc.paced hactive)
  rw [pace, hdirection]
  dsimp only
  rw [if_pos, emitCommand_of_overflow hcan]
  · exact stopAndClear_output (c := c.unauthorize) hstopped
  · simpa [hc.authorized hactive, hnext] using hdue next hnext

/-- A call of one of the listed kinds emits STOP unless it is what has been emitted last. -/
theorem stops_of_halts (hc : Consistent c) (h : c.Halts call)
    (hlast : lastMotion c.output ≠ some .stop) : c.Stops call := by
  have hstopped : c.stoppedEmitted = false := by
    by_contra hstopped
    exact hlast (hc.stopped.mp (Bool.not_eq_false _ ▸ hstopped))
  have hkey : ∀ {event nowNs}, ((c.noteClock nowNs).handleKey event nowNs).output =
      .stop :: c.output → c.Stops (.handleEvent event nowNs) := by
    intro event nowNs houtput
    by_cases haccepts : c.AcceptsClock nowNs
    · cases hexpired : c.expired nowNs with
      | true => exact stops_of_expired hstopped rfl haccepts hexpired
      | false =>
        refine ⟨[.stop], ?_, by simp⟩
        rw [perform, handleEvent_of_accepts haccepts, expire_of_live hexpired]
        exact houtput
    · exact stops_of_rejects rfl haccepts
  cases h with
  | rejected hreading hrejects => exact stops_of_rejects hreading hrejects
  | deadman hreading haccepts hexpired => exact stops_of_expired hstopped hreading haccepts hexpired
  | released hpressed hkind hactive =>
    apply hkey
    simp only [handleKey, hpressed, hkind, noteClock_activeDirection, hactive]
    exact stopAndClear_output (c := c.noteClock _) hstopped
  | conflicting hpressed hactive hkind =>
    apply hkey
    rcases hkind with hkind | ⟨other, hne, hkind⟩
    · simp only [handleKey, hpressed, hkind, noteClock_activeDirection, hactive]
      exact stopAndClear_output (c := (c.noteClock _).inhibitDirections _) hstopped
    · simp only [handleKey, hpressed, hkind]
      exact pressDirection_stops (c := c.noteClock _) hstopped
        (.inr (.inl ⟨_, hne.symm, hactive⟩))
  | inhibited hpressed hkind hinhibited =>
    apply hkey
    simp only [handleKey, hpressed, hkind]
    exact pressDirection_stops (c := c.noteClock _) hstopped (.inl hinhibited)
  | tokenOverflow hpressed hkind htoken =>
    apply hkey
    simp only [handleKey, hpressed, hkind]
    exact authorize_stops (c := c.noteClock _) hstopped htoken
  | pressOverflow hpressed hkind hdue hcan =>
    apply hkey
    simp only [handleKey, hpressed, hkind]
    exact pressDirection_stops (c := c.noteClock _) hstopped (.inr (.inr ⟨hdue, hcan⟩))
  | @tickOverflow nowNs hactive hdue hcan =>
    by_cases haccepts : c.AcceptsClock nowNs
    · have hnoted : c.Enabled (.accept nowNs) := haccepts
      cases hexpired : c.expired nowNs with
      | true => exact stops_of_expired hstopped rfl haccepts hexpired
      | false =>
        refine ⟨[.stop], ?_, by simp⟩
        rw [perform, tick_of_accepts haccepts, expire_of_live hexpired]
        exact pace_stops (c := c.noteClock _) hstopped
          (hc.effect hnoted (.clocked haccepts)) hactive hdue hcan
    · exact stops_of_rejects rfl haccepts

/-- What holds when `call` has turned `c` into `c'`, with the phases `h` up to then. -/
structure Disciplined (c c' : TeleopController) (call : Call) (h : List Phase) : Prop where
  moving : (∃ sequence created deadline linear yaw,
      lastMotion c'.output = some (.command sequence created deadline linear yaw)) ↔
    c'.activeDirection.isSome
  authorized : c'.activeDirection.isSome → c'.authorized = true
  encoded : ∀ direction, c'.activeDirection = some direction → ∃ sequence created deadline,
    lastMotion c'.output = some (.command sequence created deadline
      (c'.motion direction).1 (c'.motion direction).2)
  held : ∀ direction nowNs, c'.activeDirection = some direction → call.reading = some nowNs →
    c.AcceptsClock nowNs → ∃ p, nowNs - p < c'.config.releaseTimeoutNs ∧
      Since (Phase.KeepsMotion direction) (fun e _ => e.Presses direction p) h
  rejected : ∀ nowNs, call.reading = some nowNs → ¬ c.AcceptsClock nowNs → c.Stops call
  halted : c.Halts call → lastMotion c.output ≠ some .stop → c.Stops call

theorem disciplined (run : (phaseMachine config).Run h c)
    (runAfter : (phaseMachine config).Run h' (c.perform call)) :
    Disciplined c (c.perform call) call h' := by
  have hc := consistent_of_run run
  have hc' := consistent_of_run runAfter
  constructor
  · exact hc'.moving_iff
  · exact hc'.authorized
  · intro direction hdirection
    obtain ⟨sequence, created, hlast⟩ := hc'.moving direction hdirection
    exact ⟨_, _, _, hlast⟩
  · intro direction nowNs hdirection hreading haccepts
    obtain ⟨p, hp, -⟩ := hc'.held (by rw [hdirection]; rfl)
    have hlive := expired_perform hreading haccepts
    refine ⟨p, by simpa [expired, hdirection, hp] using hlive, ?_⟩
    exact motion_since runAfter hdirection hp
  · exact fun nowNs => stops_of_rejects
  · exact stops_of_halts hc

/-- Whenever a call returns, a command is the latest of the stops and commands just in case a
direction is active, which is then permitted, sent and held; a call that ends the motion emits STOP
unless that is out already; and `run_session` begins and ends with STOP, before a single QUIT. -/
theorem stop_discipline (config : ValidatedConfig) :
    (∀ calls call, Disciplined ((construct config).run calls)
      ((construct config).run (calls ++ [call])) call
      ((construct config).trace (calls ++ [call]))) ∧
    ∀ (c : TeleopController) (helpShown : Bool) (rounds : List Round), c.finished = false →
      ∃ lines, (c.runSession helpShown rounds).output = .quit :: .stop :: lines ++ c.output ∧
        .quit ∉ lines ∧ (.stop :: lines).getLast? = some ProtocolLine.stop := by
  constructor
  · intro calls call
    have runAfter := run_trace config (calls ++ [call])
    have hafter : (construct config).run (calls ++ [call]) =
        ((construct config).run calls).perform call := List.foldl_concat ..
    rw [hafter] at runAfter ⊢
    exact disciplined (run_trace config calls) runAfter
  · intro c helpShown rounds hfinished
    exact runSession_output hfinished helpShown rounds

/-- An authorization, and then an input that fails. -/
def sampleRounds : List Round :=
  [{ tickNs := some 1000
     polled := some [(some ⟨"r", true, false⟩, false)]
     eventsNs := some 1001 },
    { tickNs := some 1002, polled := none, eventsNs := none }]

theorem sample_session :
    ∃ lines, ((construct sampleConfig).runSession true sampleRounds).output =
        .quit :: .stop :: lines ++ (construct sampleConfig).output ∧
      .quit ∉ lines ∧ (.stop :: lines).getLast? = some ProtocolLine.stop :=
  (stop_discipline sampleConfig).2 (construct sampleConfig) true sampleRounds rfl

/-- An authorization so late that no deadline fits after it. -/
def lateController : TeleopController :=
  (construct sampleConfig).run [pressCall "r" (int64Max - 10)]

theorem late_press_output :
    (lateController.perform (pressCall "w" (int64Max - 9))).output = lateController.output := by
  decide +kernel

theorem late_press_overflows : ¬ lateController.CanCommand (int64Max - 9) := by decide +kernel

theorem late_press_due : ∀ next ∈ lateController.nextCommandNs, next ≤ int64Max - 9 := by
  have hnone : lateController.nextCommandNs = none := by decide +kernel
  simp [hnone]

theorem late_press_silent :
    ¬ ∀ (config : ValidatedConfig) (calls : List Call) (call : Call),
      ((construct config).run calls).Halts call → ((construct config).run calls).Stops call := by
  intro hstops
  have hkind : (⟨"w", true, false⟩ : KeyEvent).kind = .direction .w := by decide +kernel
  have hhalts : lateController.Halts (pressCall "w" (int64Max - 9)) :=
    .pressOverflow rfl hkind late_press_due late_press_overflows
  obtain ⟨lines, houtput, hmem⟩ := hstops sampleConfig [pressCall "r" (int64Max - 10)] _ hhalts
  have hsilent : lateController.output = lines ++ lateController.output :=
    late_press_output.symm.trans houtput
  rw [List.self_eq_append_left.mp hsilent] at hmem
  cases hmem

end TeleopController

end WheeltecVcuSerial.Teleop
