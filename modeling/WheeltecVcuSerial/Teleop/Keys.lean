import WheeltecVcuSerial.Teleop.KeyRecords
import WheeltecVcuSerial.Teleop.Limits
import WheeltecVcuSerial.Teleop.Main

namespace WheeltecVcuSerial.Teleop

open Framing Trace TeleopController

variable {c c' : TeleopController} {action : Action} {lines : List ProtocolLine}
  {config : ValidatedConfig} {h : List Phase} {e : Phase} {answers : List InputAnswer}
  {events : List KeyEvent} {source after : EventSource} {rounds : List Round}

/-! ### The keys behind a line -/

/-- Keys of these kinds have been pressed, in this order. -/
def Pressed (keys : List KeyEvent) (kinds : List Key) : Prop :=
  kinds.Sublist ((keys.filter (·.pressed)).map KeyEvent.kind)

theorem Pressed.mono {keys more : List KeyEvent} {kinds : List Key} (h : Pressed keys kinds)
    (hmore : keys.Sublist more) : Pressed more kinds :=
  h.trans ((hmore.filter _).map _)

theorem Pressed.append {keys more : List KeyEvent} {kinds others : List Key}
    (h : Pressed keys kinds) (h' : Pressed more others) :
    Pressed (keys ++ more) (kinds ++ others) := by
  rw [Pressed, List.filter_append, List.map_append]
  exact List.Sublist.append h h'

theorem pressed_singleton {event : KeyEvent} (h : event.pressed = true) :
    Pressed [event] [event.kind] := by
  simp [Pressed, h]

/-- The key of a phase. -/
def Action.event : Action → Option KeyEvent
  | .key event _ => some event
  | _ => none

/-- The keys of a history, in the order in which they have come. -/
def phaseKeys (h : List Phase) : List KeyEvent := h.reverse.filterMap (·.action.event)

theorem phaseKeys_cons (e : Phase) (h : List Phase) :
    phaseKeys (e :: h) = phaseKeys h ++ e.action.event.toList := by
  rw [phaseKeys, List.reverse_cons, List.filterMap_append]
  cases haction : e.action.event <;> simp [phaseKeys, haction]

theorem Pressed.cons {kinds : List Key} (hh : Pressed (phaseKeys h) kinds) (e : Phase) :
    Pressed (phaseKeys (e :: h)) kinds :=
  hh.mono (phaseKeys_cons e h ▸ List.sublist_append_left _ _)

/-- A key that is pressed after others. -/
theorem Pressed.press {event : KeyEvent} {nowNs : ℤ} {kinds : List Key}
    (hh : Pressed (phaseKeys h) kinds) (haction : e.action = .key event nowNs)
    (hpressed : event.pressed = true) : Pressed (phaseKeys (e :: h)) (kinds ++ [event.kind]) := by
  rw [phaseKeys_cons, haction]
  exact hh.append (pressed_singleton hpressed)

/-- `_motion` at a speed. -/
def Direction.motion (curvatureInvM speedMps : ℚ) : Direction → ℚ × ℚ
  | .w => (speedMps, 0)
  | .s => (-speedMps, 0)
  | .a => (speedMps, speedMps * curvatureInvM)
  | .d => (speedMps, -speedMps * curvatureInvM)

/-- The keys for a line have been pressed, `r` first, and a command has the motion of its key at a
speed that can be selected. -/
def Asked (pressed : List Key → Prop) (config : TeleopConfig) : ProtocolLine → Prop
  | .auth _ => pressed [.r]
  | .command _ _ _ linearMps yawRadps =>
    ∃ direction speedMps, pressed [.r, .direction direction] ∧
      config.lowestSpeed ≤ speedMps ∧ speedMps ≤ config.highestSpeed ∧
        (linearMps, yawRadps) = direction.motion config.curvatureInvM speedMps
  | _ => True

theorem Asked.mono {pressed pressed' : List Key → Prop} {values : TeleopConfig}
    {line : ProtocolLine} (hline : Asked pressed values line)
    (hmore : ∀ kinds, pressed kinds → pressed' kinds) : Asked pressed' values line := by
  cases line with
  | command sequence created deadline linear yaw =>
    obtain ⟨direction, speed, hdirection, hspeed⟩ := hline
    exact ⟨direction, speed, hmore _ hdirection, hspeed⟩
  | auth token => exact hmore _ hline
  | stop | estop | quit => trivial

/-- Behind everything that a controller does there are its keys. -/
structure Founded (config : TeleopConfig) (h : List Phase) (c : TeleopController) : Prop where
  authorized : c.authorized = true → Pressed (phaseKeys h) [.r]
  direction : ∀ direction, c.activeDirection = some direction →
    Pressed (phaseKeys h) [.r, .direction direction]
  lines : ∀ line ∈ c.output, Asked (Pressed (phaseKeys h)) config line

theorem Founded.cons {values : TeleopConfig} (hc : Founded values h c)
    (hauthorized : c'.authorized = true →
      c.authorized = true ∨ Pressed (phaseKeys (e :: h)) [.r])
    (hdirection : ∀ direction, c'.activeDirection = some direction →
      c.activeDirection = some direction ∨
        Pressed (phaseKeys (e :: h)) [.r, .direction direction])
    (houtput : c'.output = lines ++ c.output)
    (hlines : ∀ line ∈ lines, Asked (Pressed (phaseKeys (e :: h))) values line) :
    Founded values (e :: h) c' where
  authorized hon := (hauthorized hon).elim (fun hbefore => (hc.authorized hbefore).cons e) id
  direction direction hactive := (hdirection direction hactive).elim
    (fun hbefore => (hc.direction direction hbefore).cons e) id
  lines line hline := by
    rw [houtput, List.mem_append] at hline
    exact hline.elim (hlines line) fun hold =>
      (hc.lines line hold).mono fun _ hpressed => hpressed.cons e

theorem asked_of_halt {stopped latched : Bool} {pressed : List Key → Prop} {values : TeleopConfig}
    (hlines : HaltLines action stopped latched lines) :
    ∀ line ∈ lines, Asked pressed values line := by
  cases hlines <;> simp [Asked]

theorem asked_commandLine {direction : Direction} {nowNs : ℤ} {pressed : List Key → Prop}
    (hc : SelectsWithin c) (hpressed : pressed [.r, .direction direction]) :
    Asked pressed c.config.toTeleopConfig (c.commandLine direction nowNs) := by
  refine ⟨direction, c.selectedSpeedMps, hpressed, hc.1, hc.2, ?_⟩
  cases direction <;> rfl

/-- A press of a direction key by an authorized controller. -/
theorem Founded.press {direction : Direction} {event : KeyEvent} {nowNs : ℤ}
    (hc : Founded c.config.toTeleopConfig h c) (haction : e.action = .key event nowNs)
    (hpress : Press c event nowNs direction) :
    Pressed (phaseKeys (e :: h)) [.r, .direction direction] :=
  hpress.kind ▸ (hc.authorized hpress.authorized).press haction hpress.pressed

theorem Founded.effect (hc : Founded c.config.toTeleopConfig h c) (hselects : SelectsWithin c)
    (heffect : Effect c e.action lines c') : Founded c.config.toTeleopConfig (e :: h) c' := by
  have houtput := heffect.output
  generalize haction : e.action = action at heffect
  cases heffect with
  | clocked | idle | selected => exact hc.cons .inl (fun _ => .inl) houtput (by simp)
  | halted hauthorized _ hlines =>
    exact hc.cons (fun hon => .inl (hauthorized hon).1) nofun houtput (asked_of_halt hlines)
  | @granted event nowNs hpressed hkind =>
    have hnone : Pressed (phaseKeys h) [] := List.nil_sublist _
    have hr : Pressed (phaseKeys (e :: h)) [.r] := hkind ▸ hnone.press haction hpressed
    exact hc.cons (fun _ => .inr hr) nofun houtput (by simpa [Asked] using hr)
  | @held event nowNs next direction hpress =>
    have hpressed := hc.press haction hpress
    refine hc.cons (fun _ => .inl hpress.authorized) ?_ houtput (by simp)
    rintro _ ⟨⟩
    exact .inr hpressed
  | @pressed event nowNs direction hpress =>
    have hpressed := hc.press haction hpress
    refine hc.cons (fun _ => .inl hpress.authorized) ?_ houtput ?_
    · rintro _ ⟨⟩
      exact .inr hpressed
    · simpa using asked_commandLine hselects hpressed
  | @paced direction nowNs next hactive =>
    have hpressed := (hc.direction direction hactive).cons e
    refine hc.cons .inl (fun _ => .inl) houtput ?_
    simpa using asked_commandLine hselects hpressed

namespace EventSource

/-- The key events that bytes stand for. -/
def keys (data : List UInt8) : EventSource → List KeyEvent
  | tty => data.filterMap ttyEvent
  | inputEvent source =>
    (source.native.records.scan data).1.filterMap fun record => (source.native.unpack record).key

/-- Bytes in which keys of these kinds are pressed, in this order. -/
def Presses (source : EventSource) (data : List UInt8) (kinds : List Key) : Prop :=
  Pressed (source.keys data) kinds

end EventSource

/-- A session whose polls ask a source; one that raises is the last one. -/
inductive Fed : EventSource → List Round → List InputAnswer → Prop
  | nil {source : EventSource} : Fed source [] []
  | last {source : EventSource} {round : Round} : round.polled = none → Fed source [round] []
  | round {source after : EventSource} {answer : InputAnswer} {events : List KeyEvent}
      {polled : List (Option KeyEvent × Bool)} {round : Round} {rounds : List Round}
      {answers : List InputAnswer} :
      source.poll answer = .ok (events, after) → round.polled = some polled →
      (polled.filterMap Prod.fst).Sublist events →
      Fed after rounds answers → Fed source (round :: rounds) (answer :: answers)

/-- The first rounds of a session have asked for the first answers. -/
theorem Fed.take (hfed : Fed source rounds answers) (n : Nat) :
    Fed source (rounds.take n) (answers.take n) := by
  induction hfed generalizing n with
  | nil => simpa using Fed.nil
  | last hpolled =>
    cases n with
    | zero => exact .nil
    | succ n => simpa using Fed.last hpolled
  | round hpoll hpolled hevents _ ih =>
    cases n with
    | zero => exact .nil
    | succ n => exact .round hpoll hpolled hevents (ih n)

/-- A session that is as long as the first rounds of another one. -/
def World.first (w : World) (n : Nat) : World := { w with rounds := w.rounds.take n }

end WheeltecVcuSerial.Teleop
