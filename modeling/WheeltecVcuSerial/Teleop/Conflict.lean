import WheeltecVcuSerial.Teleop.Increasing

namespace WheeltecVcuSerial.Teleop

open Trace TeleopController

/-- The key that a phase handles the press of. -/
def Action.pressed : Action → Option (Key × ℤ)
  | .key event nowNs => if event.pressed then some (event.kind, nowNs) else none
  | _ => none

namespace Phase

/-- The press of a direction key at `nowNs`, whatever comes of it. -/
def PressesDirection (nowNs : ℤ) (e : Phase) : Prop :=
  ∃ direction, e.action.pressed = some (.direction direction, nowNs)

/-- The press of an unmapped key, or of another direction than the active one. -/
def Conflicts (nowNs : ℤ) (e : Phase) : Prop :=
  ∃ active, e.before.activeDirection = some active ∧
    (e.action.pressed = some (.other, nowNs) ∨
      ∃ direction, direction ≠ active ∧ e.action.pressed = some (.direction direction, nowNs))

/-- A press that lifts the inhibition: `r` or space. -/
def Clears (e : Phase) : Prop := ∃ press ∈ e.action.pressed, press.1 = .r ∨ press.1 = .space

instance : DecidablePred Clears := fun e =>
  inferInstanceAs (Decidable (∃ press ∈ e.action.pressed, press.1 = .r ∨ press.1 = .space))

/-- A motion starts. -/
def Starts (e : Phase) : Prop :=
  e.before.activeDirection = none ∧ e.after.activeDirection.isSome

end Phase

/-- What a phase can do to a controller without an active direction, unless it lifts the
inhibition. -/
inductive Calm (c : TeleopController) : Action → TeleopController → Prop
  | revoked : c'.authorized = false → Calm c action c'
  | kept : (∀ direction nowNs, action.pressed ≠ some (.direction direction, nowNs)) →
      c'.activeDirection = none → c'.directionConflictUntilNs = c.directionConflictUntilNs →
      c'.authorizationEventNs = c.authorizationEventNs → c'.lastClockNs = c.lastClockNs →
      Calm c action c'
  | clocked : c.AcceptsClock nowNs → Calm c (.accept nowNs) (c.noteClock nowNs)
  | inhibited {direction : Direction} {nowNs : ℤ} :
      action.pressed = some (.direction direction, nowNs) → nowNs < c.directionConflictUntilNs →
      c'.activeDirection = none → c'.directionConflictUntilNs = c.conflictEnd nowNs →
      c'.authorizationEventNs = c.authorizationEventNs → c'.lastClockNs = c.lastClockNs →
      Calm c action c'
  | early {direction : Direction} {nowNs : ℤ} :
      action.pressed = some (.direction direction, nowNs) → nowNs ≤ c.authorizationEventNs →
      Calm c action c'
  | started {direction : Direction} {nowNs : ℤ} :
      action.pressed = some (.direction direction, nowNs) → c.directionConflictUntilNs ≤ nowNs →
      c.CanCommand nowNs → c'.activeDirection = some direction →
      Calm c action c'

variable {c c' : TeleopController} {action : Action} {lines : List ProtocolLine}
  {config : ValidatedConfig} {h later earlier : List Phase} {e conflict : Phase} {nowNs : ℤ}

theorem Action.pressed_key {event : KeyEvent} (hpressed : event.pressed = true) :
    (Action.key event nowNs).pressed = some (event.kind, nowNs) := if_pos hpressed

theorem Action.eq_of_pressed {key : Key} (h : action.pressed = some (key, nowNs)) :
    ∃ event, action = .key event nowNs ∧ event.pressed = true ∧ event.kind = key := by
  cases action with
  | key event now =>
    rw [Action.pressed] at h
    split at h
    · case isTrue hpressed =>
      obtain ⟨rfl, rfl⟩ := Prod.mk.inj (Option.some.inj h)
      exact ⟨event, rfl, hpressed, rfl⟩
    · cases h
  | _ => cases h

namespace TeleopController

@[simp] theorem stopAndClear_activeDirection (c : TeleopController) :
    c.stopAndClear.activeDirection = none := by
  rw [stopAndClear, emitStop]
  split <;> rfl

@[simp] theorem stopAndClear_directionConflictUntilNs (c : TeleopController) :
    c.stopAndClear.directionConflictUntilNs = c.directionConflictUntilNs := by
  rw [stopAndClear, emitStop]
  split <;> rfl

@[simp] theorem stopAndClear_authorizationEventNs (c : TeleopController) :
    c.stopAndClear.authorizationEventNs = c.authorizationEventNs := by
  rw [stopAndClear, emitStop]
  split <;> rfl

@[simp] theorem stopAndClear_lastClockNs (c : TeleopController) :
    c.stopAndClear.lastClockNs = c.lastClockNs := by
  rw [stopAndClear, emitStop]
  split <;> rfl

@[simp] theorem stopAndClear_authorized (c : TeleopController) :
    c.stopAndClear.authorized = c.authorized := by
  rw [stopAndClear, emitStop]
  split <;> rfl

theorem calm_pressDirection {direction : Direction} (hactive : c.activeDirection = none)
    (hnext : c.nextCommandNs = none)
    (hpressed : action.pressed = some (.direction direction, nowNs)) :
    Calm c action (c.pressDirection direction nowNs) := by
  rw [pressDirection]
  split
  · case isTrue hinhibited =>
    exact .inhibited hpressed hinhibited (by simp) (by simp) (by simp) (by simp)
  case isFalse hfree =>
  split
  · case isTrue hauthorized => exact .revoked (by simpa using hauthorized)
  split
  · case isTrue hearly => exact .early hpressed hearly
  rw [if_neg (by simp [hactive])]
  dsimp only
  rw [if_pos (by simp [hnext])]
  by_cases hcan : c.CanCommand nowNs
  · rw [emitCommand_of_can (by exact hcan)]
    exact .started hpressed (not_lt.mp hfree) hcan rfl
  · rw [emitCommand_of_overflow (by exact hcan)]
    exact .revoked (by simp)

theorem calm_changeSpeed (hactive : c.activeDirection = none) (delta : ℚ)
    (hpressed : ∀ direction nowNs, action.pressed ≠ some (.direction direction, nowNs)) :
    Calm c action (c.changeSpeed delta) := by
  rw [changeSpeed, hactive, Option.isSome_none, if_neg Bool.false_ne_true]
  exact .kept hpressed hactive rfl rfl rfl

theorem calm_handleKey {event : KeyEvent} (hactive : c.activeDirection = none)
    (hnext : c.nextCommandNs = none)
    (hclears : ¬ (Phase.mk c (.key event nowNs)).Clears) :
    Calm c (.key event nowNs) (c.handleKey event nowNs) := by
  rw [handleKey]
  cases hpressed : event.pressed with
  | false =>
    have hquiet : ∀ direction now,
        (Action.key event nowNs).pressed ≠ some (.direction direction, now) := by
      simp [Action.pressed, hpressed]
    rw [Bool.not_false, if_pos rfl]
    split
    · simp only [hactive, reduceCtorEq, if_false]
      exact .kept hquiet hactive rfl rfl rfl
    · exact .kept hquiet hactive rfl rfl rfl
  | true =>
    have hkey : (Action.key event nowNs).pressed = some (event.kind, nowNs) :=
      Action.pressed_key hpressed
    have hquiet : (∀ direction, event.kind ≠ .direction direction) → ∀ direction now,
        (Action.key event nowNs).pressed ≠ some (.direction direction, now) := by
      intro hkind direction now
      simp [hkey, hkind direction]
    rw [Bool.not_true, if_neg Bool.false_ne_true]
    split
    · case h_1 hkind => exact absurd ⟨_, hkey, .inl hkind⟩ hclears
    · case h_2 hkind => exact calm_changeSpeed hactive _ (hquiet (by simp [hkind]))
    · case h_3 hkind => exact calm_changeSpeed hactive _ (hquiet (by simp [hkind]))
    · case h_4 hkind => exact absurd ⟨_, hkey, .inr hkind⟩ hclears
    · exact .revoked rfl
    · case h_6 hkind =>
      exact .kept (hquiet (by simp [hkind])) (by simp) (by simp) (by simp) (by simp)
    · case h_7 hkind =>
      rw [hactive, Option.isSome_none, if_neg Bool.false_ne_true]
      exact .kept (hquiet (by simp [hkind])) hactive rfl rfl rfl
    · case h_8 direction hkind => exact calm_pressDirection hactive hnext (hkind ▸ hkey)

theorem calm_act (hactive : c.activeDirection = none) (hnext : c.nextCommandNs = none)
    (henabled : c.Enabled action) (hclears : ¬ (Phase.mk c action).Clears) :
    Calm c action (c.act action) := by
  cases action with
  | reject nowNs => exact .revoked rfl
  | accept nowNs => exact .clocked henabled
  | expire nowNs =>
    have hlive : c.expired nowNs = false := by simp [expired, hactive]
    rw [act, expireDirectionIfNeeded, hlive]
    exact .kept (by simp [Action.pressed]) hactive rfl rfl rfl
  | key event nowNs => exact calm_handleKey hactive hnext hclears
  | pace nowNs =>
    rw [act, pace, hactive]
    exact .kept (by simp [Action.pressed]) hactive rfl rfl rfl
  | forceStop => exact .kept (by simp [Action.pressed]) rfl rfl rfl rfl
  | finish =>
    rw [act, finish]
    split
    · exact .kept (by simp [Action.pressed]) hactive rfl rfl rfl
    · exact .revoked rfl

end TeleopController

/-- The press of a key comes at the latest reading of the clock. -/
theorem clock_of_pressed {key : Key} (henabled : c.Enabled action)
    (hpressed : action.pressed = some (key, nowNs)) : c.lastClockNs = some nowNs := by
  obtain ⟨event, rfl, -⟩ := Action.eq_of_pressed hpressed
  exact henabled.1

/-- The conflict, or the press of a direction after it. -/
def Inhibitor (conflictNs : ℤ) (later : List Phase) (pressNs : ℤ) : Prop :=
  pressNs = conflictNs ∨ ∃ x ∈ later, x.PressesDirection pressNs

/-- No motion has started since the conflict, and every press so far inhibits the next one. -/
structure Waiting (config : ValidatedConfig) (conflictNs : ℤ) (later : List Phase)
    (c : TeleopController) : Prop where
  still : c.activeDirection = none
  granted : c.authorizationEventNs < conflictNs
  clock : ∃ last, c.lastClockNs = some last ∧ ∀ pressNs, Inhibitor conflictNs later pressNs →
    pressNs ≤ last ∧
      min int64Max (pressNs + config.releaseTimeoutNs) ≤ c.directionConflictUntilNs

/-- What the phases after a conflict lead to. -/
inductive Stage (config : ValidatedConfig) (conflictNs : ℤ) (later : List Phase)
    (c : TeleopController) : Prop
  | waiting : Waiting config conflictNs later c → Stage config conflictNs later c
  | revoked : c.authorized = false → Stage config conflictNs later c
  | passed : (∃ x ∈ later, x.Starts) → c.lastClockNs = some last →
      conflictNs + config.releaseTimeoutNs ≤ last → Stage config conflictNs later c

theorem inhibitor_cons {conflictNs pressNs : ℤ}
    (h : Inhibitor conflictNs (e :: later) pressNs) :
    e.PressesDirection pressNs ∨ Inhibitor conflictNs later pressNs := by
  rcases h with h | ⟨x, hx, h⟩
  · exact .inr (.inl h)
  · rcases List.mem_cons.mp hx with rfl | hx
    · exact .inl h
    · exact .inr (.inr ⟨x, hx, h⟩)

/-- A motion starts no sooner than the release timeout after each of the presses. -/
theorem Waiting.starts {conflictNs : ℤ} (hw : Waiting config conflictNs later c)
    (hconfig : c.config = config) (hc' : Consistent c') (henabled : c.Enabled action)
    (hcalm : Calm c action c') (hmoving : c'.activeDirection.isSome) :
    ∃ pressNs, (Phase.mk c action).PressesDirection pressNs ∧ c.lastClockNs = some pressNs ∧
      ∀ olderNs, Inhibitor conflictNs later olderNs →
        olderNs + config.releaseTimeoutNs ≤ pressNs := by
  obtain ⟨last, hlast, hinhibited⟩ := hw.clock
  cases hcalm with
  | revoked hrevoked => simp [hc'.authorized hmoving] at hrevoked
  | kept _ hstill => simp [hstill] at hmoving
  | clocked => simp [hw.still] at hmoving
  | inhibited _ _ hstill => simp [hstill] at hmoving
  | early hpressed hearly =>
    obtain rfl := Option.some.inj (hlast.symm.trans (clock_of_pressed henabled hpressed))
    have hlater := hw.granted.trans_le (hinhibited conflictNs (.inl rfl)).1
    exact absurd hearly hlater.not_ge
  | started hpressed huntil hcan =>
    refine ⟨_, ⟨_, hpressed⟩, clock_of_pressed henabled hpressed, fun olderNs holder => ?_⟩
    have htimeout := config.safe.timeoutPositive
    have hdeadline := hcan.2
    rw [hconfig] at hdeadline
    rcases min_le_iff.mp ((hinhibited olderNs holder).2.trans huntil) with hmax | hend
    · -- So late there is no room for a deadline, and no command.
      linarith
    · exact hend

theorem Waiting.next {conflictNs : ℤ} (hw : Waiting config conflictNs later c)
    (hconfig : c.config = config) (henabled : c.Enabled action) (hcalm : Calm c action c')
    (hstill : c'.activeDirection = none) :
    Stage config conflictNs (⟨c, action⟩ :: later) c' := by
  obtain ⟨last, hlast, hinhibited⟩ := hw.clock
  cases hcalm with
  | revoked hrevoked => exact .revoked hrevoked
  | kept hquiet _ huntil hgranted hclock =>
    refine .waiting ⟨hstill, hgranted ▸ hw.granted, last, hclock.trans hlast, ?_⟩
    intro pressNs hpress
    rw [huntil]
    rcases inhibitor_cons hpress with ⟨direction, hpressed⟩ | hpress
    · exact absurd hpressed (hquiet direction pressNs)
    · exact hinhibited pressNs hpress
  | @clocked nowNs haccepts =>
    refine .waiting ⟨hstill, hw.granted, nowNs, rfl, fun pressNs hpress => ?_⟩
    rcases inhibitor_cons hpress with ⟨direction, hpressed⟩ | hpress
    · cases hpressed
    · obtain ⟨hle, hend⟩ := hinhibited pressNs hpress
      exact ⟨hle.trans (haccepts.2 last hlast), hend⟩
  | inhibited hpressed _ _ huntil hgranted hclock =>
    obtain rfl := Option.some.inj (hlast.symm.trans (clock_of_pressed henabled hpressed))
    refine .waiting ⟨hstill, hgranted ▸ hw.granted, last, hclock.trans hlast, ?_⟩
    intro pressNs hpress
    have hle : pressNs ≤ last := by
      rcases inhibitor_cons hpress with ⟨direction, hagain⟩ | hpress
      · obtain ⟨-, rfl⟩ := Prod.mk.inj (Option.some.inj (hpressed.symm.trans hagain))
        exact le_rfl
      · exact (hinhibited pressNs hpress).1
    refine ⟨hle, ?_⟩
    rw [huntil, conflictEnd, hconfig]
    exact min_le_min_left _ (add_le_add_left hle _)
  | early hpressed hearly =>
    obtain rfl := Option.some.inj (hlast.symm.trans (clock_of_pressed henabled hpressed))
    have hlater := hw.granted.trans_le (hinhibited conflictNs (.inl rfl)).1
    exact absurd hearly hlater.not_ge
  | started _ _ _ hmoving => simp [hstill] at hmoving

/-- Only `r` gives a permission back. -/
theorem Effect.revoked (h : Effect c action lines c') (hclears : ¬ (Phase.mk c action).Clears)
    (hrevoked : c.authorized = false) : c'.authorized = false := by
  cases h with
  | clocked => exact hrevoked
  | idle => exact hrevoked
  | selected => exact hrevoked
  | halted hauthorized =>
    by_contra hpermitted
    obtain ⟨hbefore, -⟩ := hauthorized (by simpa using hpermitted)
    simp [hrevoked] at hbefore
  | granted hpressed hkind =>
    exact absurd ⟨_, Action.pressed_key hpressed, .inl hkind⟩ hclears
  | held hpress => simp [hpress.authorized] at hrevoked
  | pressed hpress => simp [hpress.authorized] at hrevoked
  | paced _ hauthorized => simp [hauthorized] at hrevoked

theorem Stage.next {conflictNs : ℤ} (hs : Stage config conflictNs later c)
    (hconfig : c.config = config) (hc : Consistent c) (hc' : Consistent c')
    (hclears : ¬ e.Clears) (hstep : (phaseMachine config).step c e c') :
    Stage config conflictNs (e :: later) c' := by
  have heffect := effect_of_step hstep
  obtain ⟨rfl, henabled, rfl⟩ := hstep
  cases hs with
  | waiting hw =>
    have hcalm := calm_act hw.still (hc.still hw.still).1 henabled hclears
    cases hmoving : e.after.activeDirection with
    | none => exact hw.next hconfig henabled hcalm hmoving
    | some direction =>
      have hmoving : e.after.activeDirection.isSome := by rw [hmoving]; rfl
      obtain ⟨nowNs, hpress, hclock, hspaced⟩ := hw.starts hconfig hc' henabled hcalm hmoving
      have hafter : e.after.lastClockNs = some nowNs := by
        rcases heffect.lastClockNs with hsame | ⟨now, haction, -⟩
        · exact hsame.trans hclock
        · obtain ⟨direction, hpressed⟩ := hpress
          rw [haction] at hpressed
          cases hpressed
      exact .passed ⟨e, List.mem_cons_self, hw.still, hmoving⟩ hafter
        (hspaced conflictNs (.inl rfl))
  | revoked hrevoked => exact .revoked (heffect.revoked hclears hrevoked)
  | passed hstarted hlast hpassed =>
    obtain ⟨x, hx, hstarts⟩ := hstarted
    have hstarted : ∃ x ∈ e :: later, x.Starts := ⟨x, List.mem_cons_of_mem e hx, hstarts⟩
    rcases heffect.lastClockNs with hsame | ⟨nowNs, haction, hnow⟩
    · exact .passed hstarted (hsame.trans hlast) hpassed
    · have haccepts : e.before.AcceptsClock nowNs := by simpa [haction, Enabled] using henabled
      exact .passed hstarted hnow (hpassed.trans (haccepts.2 _ hlast))

theorem pressDirection_of_conflict {active direction : Direction} (hc : Consistent c)
    (hactive : c.activeDirection = some active) (hother : direction ≠ active)
    (hgranted : c.authorizationEventNs < nowNs) :
    c.pressDirection direction nowNs =
      (c.inhibitDirections (c.conflictEnd nowNs)).stopAndClear := by
  have hauthorized : c.authorized = true := hc.authorized (by rw [hactive]; rfl)
  rw [pressDirection]
  split
  · rfl
  · rw [if_neg (by simp [hauthorized]), if_neg hgranted.not_ge,
      if_pos (by simpa [hactive] using hother.symm)]

/-- A conflict ends the motion and inhibits the next one. -/
theorem waiting_of_conflict (hc : Consistent c) (hconfig : c.config = config)
    (henabled : c.Enabled action) (hconflict : (Phase.mk c action).Conflicts nowNs) :
    Waiting config nowNs [] (c.act action) := by
  obtain ⟨active, hactive, hkey⟩ := hconflict
  obtain ⟨p, -, hgranted, last, hlast, hle⟩ := hc.held (by rw [hactive]; rfl)
  have hclock : c.lastClockNs = some nowNs := by
    rcases hkey with hkey | ⟨direction, -, hkey⟩
    · exact clock_of_pressed henabled hkey
    · exact clock_of_pressed henabled hkey
  obtain rfl := Option.some.inj (hlast.symm.trans hclock)
  have hgranted : c.authorizationEventNs < last := hgranted.trans_le hle
  have hact : c.act action = (c.inhibitDirections (c.conflictEnd last)).stopAndClear := by
    rcases hkey with hkey | ⟨direction, hother, hkey⟩
    · obtain ⟨event, rfl, hpressed, hkind⟩ := Action.eq_of_pressed hkey
      rw [act, handleKey, hpressed, hkind, Bool.not_true, if_neg Bool.false_ne_true]
      dsimp only
      rw [hactive, Option.isSome_some, if_pos rfl]
    · obtain ⟨event, rfl, hpressed, hkind⟩ := Action.eq_of_pressed hkey
      simp only [act, handleKey, hpressed, hkind]
      exact pressDirection_of_conflict hc hactive hother hgranted
  rw [hact]
  refine ⟨by simp, by simpa using hgranted, last, by simpa using hclock, ?_⟩
  rintro pressNs (rfl | ⟨x, hx, -⟩)
  · exact ⟨le_rfl, by simp [conflictEnd, hconfig]⟩
  · cases hx

theorem stage_of_run (run : (phaseMachine config).Run (later ++ conflict :: earlier) c)
    (hconflict : conflict.Conflicts nowNs) (hclears : ∀ x ∈ later, ¬ x.Clears) :
    Stage config nowNs later c := by
  induction later generalizing c with
  | nil =>
    cases run with
    | next run hstep =>
      obtain ⟨rfl, henabled, rfl⟩ := hstep
      exact .waiting (waiting_of_conflict (consistent_of_run run) (config_of_run run) henabled
        hconflict)
  | cons e later ih =>
    rw [List.forall_mem_cons] at hclears
    have hconsistent := consistent_of_run run
    cases run with
    | next run hstep =>
      exact (ih run hclears.2).next (config_of_run run) (consistent_of_run run) hconsistent
        hclears.1 hstep

/-- The phase sends a command that names `createdNs` as its time. -/
def Phase.Sends (createdNs : ℤ) (e : Phase) : Prop :=
  ∃ sequence deadlineNs linear yaw, .command sequence createdNs deadlineNs linear yaw ∈ e.lines

/-- What the phases `later` after a conflict at `conflictNs` do, as long as nothing clears it. -/
structure Inhibits (config : ValidatedConfig) (conflictNs : ℤ) (later : List Phase) : Prop where
  commands : ∀ x ∈ later, ∀ createdNs, x.Sends createdNs →
    ((∃ event, x.action = .key event createdNs) ∨ x.action = .pace createdNs) ∧
      conflictNs + config.releaseTimeoutNs ≤ createdNs
  starts : ∀ newer x older, later = newer ++ x :: older → x.Starts → (∀ y ∈ older, ¬ y.Starts) →
    ∃ pressNs, x.PressesDirection pressNs ∧ conflictNs + config.releaseTimeoutNs ≤ pressNs ∧
      ∀ y ∈ older, ∀ olderNs, y.PressesDirection olderNs →
        olderNs + config.releaseTimeoutNs ≤ pressNs
  repeats : (∀ newer x older pressNs, later = newer ++ x :: older → x.PressesDirection pressNs →
      pressNs < conflictNs + config.releaseTimeoutNs ∨
        ∃ y ∈ older, ∃ olderNs, y.PressesDirection olderNs ∧
          pressNs < olderNs + config.releaseTimeoutNs) →
    ∀ x ∈ later, x.after.activeDirection = none ∧ ∀ createdNs, ¬ x.Sends createdNs

/-- A start of motion after the conflict, the first one or a later one. -/
theorem Stage.starts {conflictNs : ℤ} (hs : Stage config conflictNs later c)
    (hconfig : c.config = config) (hc : Consistent c) (hc' : Consistent c')
    (hclears : ¬ e.Clears) (hstep : (phaseMachine config).step c e c') (hstarts : e.Starts) :
    (∃ x ∈ later, x.Starts) ∨
      ∃ pressNs, e.PressesDirection pressNs ∧ c.lastClockNs = some pressNs ∧
        ∀ olderNs, Inhibitor conflictNs later olderNs →
          olderNs + config.releaseTimeoutNs ≤ pressNs := by
  have heffect := effect_of_step hstep
  obtain ⟨rfl, henabled, rfl⟩ := hstep
  cases hs with
  | waiting hw =>
    have hcalm := calm_act hw.still (hc.still hw.still).1 henabled hclears
    exact .inr (hw.starts hconfig hc' henabled hcalm hstarts.2)
  | revoked hrevoked =>
    have hafter := heffect.revoked hclears hrevoked
    simp [hc'.authorized hstarts.2] at hafter
  | passed hstarted => exact .inl hstarted

/-- A command after the conflict. -/
theorem Stage.sends {conflictNs createdNs : ℤ} (hs : Stage config conflictNs later c)
    (hconfig : c.config = config) (hc : Consistent c) (hc' : Consistent c')
    (hclears : ¬ e.Clears) (hstep : (phaseMachine config).step c e c')
    (hsends : e.Sends createdNs) :
    ((∃ event, e.action = .key event createdNs) ∨ e.action = .pace createdNs) ∧
      conflictNs + config.releaseTimeoutNs ≤ createdNs ∧
      ((∃ x ∈ later, x.Starts) ∨ e.Starts) := by
  have heffect := effect_of_step hstep
  obtain ⟨sequence, deadlineNs, linear, yaw, hcommand⟩ := hsends
  obtain ⟨direction, p, -, haction, -, hauthorized, -, hactive, -⟩ :=
    heffect.command hc hstep.2.1 hcommand
  have hclock : c.lastClockNs = some createdNs := by
    obtain ⟨-, henabled, -⟩ := hstep
    rcases haction with ⟨event, haction⟩ | haction
    · rw [haction] at henabled
      exact henabled.1
    · rw [haction] at henabled
      exact henabled.1
  refine ⟨haction, ?_⟩
  have hbefore := hstep.1
  have hafter := hstep.2.2
  cases hs with
  | waiting hw =>
    have hstarts : e.Starts := by
      refine ⟨hbefore ▸ hw.still, ?_⟩
      rw [← hafter, hactive]
      rfl
    obtain ⟨rfl, henabled, rfl⟩ := hstep
    have hcalm := calm_act hw.still (hc.still hw.still).1 henabled hclears
    obtain ⟨pressNs, -, hlast, hspaced⟩ := hw.starts hconfig hc' henabled hcalm hstarts.2
    obtain rfl := Option.some.inj (hlast.symm.trans hclock)
    exact ⟨hspaced conflictNs (.inl rfl), .inr hstarts⟩
  | revoked hrevoked => simp [hauthorized] at hrevoked
  | passed hstarted hlast hpassed =>
    obtain rfl := Option.some.inj (hlast.symm.trans hclock)
    exact ⟨hpassed, .inl hstarted⟩

/-- A phase after the conflict, with the stages that it finds and leaves. -/
theorem stage_of_append {newer older : List Phase}
    (run : (phaseMachine config).Run (newer ++ e :: older ++ conflict :: earlier) c)
    (hconflict : conflict.Conflicts nowNs) (hclears : ∀ x ∈ newer ++ e :: older, ¬ x.Clears) :
    (phaseMachine config).Run (older ++ conflict :: earlier) e.before ∧ Consistent e.after ∧
      (phaseMachine config).step e.before e e.after ∧ Stage config nowNs older e.before ∧
      Stage config nowNs (e :: older) e.after := by
  rw [List.append_assoc, List.cons_append] at run
  obtain ⟨c₁, c₂, hrun, hstep, -⟩ := run.step_of_mem
  obtain rfl := hstep.1
  obtain rfl := hstep.2.2
  have hrunAfter : (phaseMachine config).Run ((e :: older) ++ conflict :: earlier) e.after :=
    hrun.next hstep
  have holder : ∀ x ∈ e :: older, ¬ x.Clears := fun x hx => hclears x (by simp [hx])
  exact ⟨hrun, consistent_of_run hrunAfter, hstep,
    stage_of_run hrun hconflict fun x hx => holder x (List.mem_cons_of_mem e hx),
    stage_of_run hrunAfter hconflict holder⟩

theorem starts_of_append {newer older : List Phase}
    (run : (phaseMachine config).Run (newer ++ e :: older ++ conflict :: earlier) c)
    (hconflict : conflict.Conflicts nowNs) (hclears : ∀ x ∈ newer ++ e :: older, ¬ x.Clears)
    (hstarts : e.Starts) (hfirst : ∀ x ∈ older, ¬ x.Starts) :
    ∃ pressNs, e.PressesDirection pressNs ∧ nowNs + config.releaseTimeoutNs ≤ pressNs ∧
      ∀ x ∈ older, ∀ olderNs, x.PressesDirection olderNs →
        olderNs + config.releaseTimeoutNs ≤ pressNs := by
  obtain ⟨hrun, hafter, hstep, hstage, -⟩ := stage_of_append run hconflict hclears
  have hclear := hclears e (by simp)
  rcases hstage.starts (config_of_run hrun) (consistent_of_run hrun) hafter hclear hstep hstarts
    with ⟨x, hx, hstarted⟩ | ⟨pressNs, hpressed, -, hspaced⟩
  · exact absurd hstarted (hfirst x hx)
  · exact ⟨pressNs, hpressed, hspaced nowNs (.inl rfl),
      fun x hx olderNs hold => hspaced olderNs (.inr ⟨x, hx, hold⟩)⟩

theorem sends_of_append {newer older : List Phase} {createdNs : ℤ}
    (run : (phaseMachine config).Run (newer ++ e :: older ++ conflict :: earlier) c)
    (hconflict : conflict.Conflicts nowNs) (hclears : ∀ x ∈ newer ++ e :: older, ¬ x.Clears)
    (hsends : e.Sends createdNs) :
    ((∃ event, e.action = .key event createdNs) ∨ e.action = .pace createdNs) ∧
      nowNs + config.releaseTimeoutNs ≤ createdNs ∧ ((∃ x ∈ older, x.Starts) ∨ e.Starts) := by
  obtain ⟨hrun, hafter, hstep, hstage, -⟩ := stage_of_append run hconflict hclears
  exact hstage.sends (config_of_run hrun) (consistent_of_run hrun) hafter (hclears e (by simp))
    hstep hsends

theorem inhibits_of_run (run : (phaseMachine config).Run (later ++ conflict :: earlier) c)
    (hconflict : conflict.Conflicts nowNs) (hclears : ∀ x ∈ later, ¬ x.Clears) :
    Inhibits config nowNs later := by
  constructor
  · intro x hx createdNs hsent
    obtain ⟨newer, older, rfl⟩ := List.append_of_mem hx
    obtain ⟨haction, hspaced, -⟩ := sends_of_append run hconflict hclears hsent
    exact ⟨haction, hspaced⟩
  · rintro newer x older rfl
    exact starts_of_append run hconflict hclears
  · intro hrepeats
    have hnone : ∀ x ∈ later, ¬ x.Starts := by
      by_contra hstarted
      push Not at hstarted
      obtain ⟨newer, x, older, rfl, hstarted, hfirst⟩ := exists_earliest hstarted
      obtain ⟨pressNs, hpressed, hspaced, holder⟩ :=
        starts_of_append run hconflict hclears hstarted hfirst
      rcases hrepeats newer x older pressNs rfl hpressed with hclose | ⟨y, hy, olderNs, hold⟩
      · exact absurd hspaced hclose.not_ge
      · exact absurd (holder y hy olderNs hold.1) hold.2.not_ge
    intro x hx
    obtain ⟨newer, older, rfl⟩ := List.append_of_mem hx
    constructor
    · obtain ⟨-, hconsistent, -, -, hstage⟩ := stage_of_append run hconflict hclears
      cases hstage with
      | waiting hw => exact hw.still
      | revoked hrevoked =>
        by_contra hmoving
        rw [hconsistent.authorized (Option.isSome_iff_ne_none.mpr hmoving)] at hrevoked
        cases hrevoked
      | passed hstarted =>
        obtain ⟨y, hy, hstarted⟩ := hstarted
        exact absurd hstarted (hnone y (List.mem_append_right newer hy))
    · intro createdNs hsent
      rcases (sends_of_append run hconflict hclears hsent).2.2 with ⟨y, hy, hstarted⟩ | hstarted
      · exact hnone y (by simp [hy]) hstarted
      · exact hnone x hx hstarted

/-- Until `r` or space is pressed, a conflict of keys inhibits commands for the release timeout, and
every press of a direction inhibits the next motion for as long again. -/
theorem conflict_inhibits (config : ValidatedConfig) (calls : List Call)
    (htrace : (construct config).trace calls = later ++ conflict :: earlier)
    (hconflict : conflict.Conflicts nowNs) (hclears : ∀ x ∈ later, ¬ x.Clears) :
    Inhibits config nowNs later := by
  have run := run_trace config calls
  rw [htrace] at run
  exact inhibits_of_run run hconflict hclears

/-- A conflict at 1002, a press that comes too early, and one that starts the motion again. -/
def conflictTrace : List Phase :=
  (construct sampleConfig).trace
    (sampleCalls ++ [pressCall "a" 1002, pressCall "w" 1003, pressCall "w" 180001003])

example : (conflictTrace.take 6).map Phase.lines =
    [[.command 180001003 180001003 360001003 (1 / 10) 0], [], [], [], [], []] := by
  decide +kernel

theorem conflictTrace_length : 6 < conflictTrace.length := by decide +kernel

/-- The press that conflicts. -/
def sampleConflict : Phase := conflictTrace.get ⟨6, conflictTrace_length⟩

theorem conflictTrace_eq :
    conflictTrace = conflictTrace.take 6 ++ sampleConflict :: conflictTrace.drop 7 := by
  rw [sampleConflict, List.get_eq_getElem, List.getElem_cons_drop, List.take_append_drop]

theorem conflictTrace_inhibits : Inhibits sampleConfig 1002 (conflictTrace.take 6) := by
  have hconflict : sampleConflict.Conflicts 1002 :=
    ⟨.w, by decide +kernel, .inr ⟨.a, by decide, by decide +kernel⟩⟩
  exact conflict_inhibits sampleConfig _ conflictTrace_eq hconflict (by decide +kernel)

end WheeltecVcuSerial.Teleop
