import WheeltecVcuSerial.Teleop.Consistent
import WheeltecVcuSerial.Teleop.Main

namespace WheeltecVcuSerial.Teleop

open Trace TeleopController

namespace TeleopController

/-- When the poll of a round is to be over, `nowNs` being the reading of its tick. -/
def wakeNs (c : TeleopController) (nowNs : ℤ) : ℤ :=
  if c.activeDirection.isSome then
    let wakeNs :=
      match c.lastDirectionActivityNs with
      | some pressed => min (nowNs + 100000000) (pressed + c.config.releaseTimeoutNs)
      | none => nowNs + 100000000
    match c.nextCommandNs with
    | some next => min wakeNs next
    | none => wakeNs
  else nowNs + 100000000

def nextPollTimeoutSeconds (c : TeleopController) (nowNs : ℤ) : ℚ :=
  max 0 ((c.wakeNs nowNs - nowNs : ℤ) / 1000000000)

end TeleopController

/-- A round that reads the clock in time: soon after the round before it, and soon after the timeout
of its poll. -/
def Round.Prompt (latenessNs : ℤ) (c : TeleopController) (round : Round) : Prop :=
  ∀ tickNs ∈ round.tickNs, (∀ last ∈ c.lastClockNs, tickNs ≤ last + latenessNs) ∧
    ∀ eventsNs ∈ round.eventsNs,
      (eventsNs : ℚ) ≤
        tickNs + 1000000000 * (c.tick tickNs).nextPollTimeoutSeconds tickNs + latenessNs

/-- A session all of whose rounds read the clock in time. -/
def PromptSession (latenessNs : ℤ) (c : TeleopController) : List Round → Prop
  | [] => True
  | round :: rounds => round.Prompt latenessNs c ∧
    ((c.roundCalls round).2 = true → PromptSession latenessNs (c.run (c.roundCalls round).1) rounds)

instance {latenessNs : ℤ} {c : TeleopController} {round : Round} :
    Decidable (round.Prompt latenessNs c) :=
  inferInstanceAs (Decidable (∀ tickNs ∈ round.tickNs, _ ∧ _))

instance decidablePromptSession {latenessNs : ℤ} :
    (c : TeleopController) → (rounds : List Round) → Decidable (PromptSession latenessNs c rounds)
  | _, [] => inferInstanceAs (Decidable True)
  | c, round :: rounds =>
    have : Decidable (PromptSession latenessNs (c.run (c.roundCalls round).1) rounds) :=
      decidablePromptSession _ rounds
    inferInstanceAs (Decidable (_ ∧ (_ → _)))

variable {c c' : TeleopController} {action : Action} {lines : List ProtocolLine}
  {config : ValidatedConfig} {h : List Phase} {nowNs latenessNs : ℤ}

/-! ### What is due -/

/-- No command is out for longer than a period, and no press for longer than the release timeout,
lateness aside. -/
def Timely (latenessNs : ℤ) (c : TeleopController) (nowNs : ℤ) : Prop :=
  ∀ sequence created deadline linear yaw,
    lastMotion c.output = some (.command sequence created deadline linear yaw) →
      nowNs ≤ created + c.config.commandPeriodNs + latenessNs ∧
        ∃ pressed, c.lastDirectionActivityNs = some pressed ∧
          nowNs ≤ pressed + c.config.releaseTimeoutNs + latenessNs

/-- Nothing is due at the last reading of the clock. -/
def Ahead (c : TeleopController) (nowNs : ℤ) : Prop :=
  c.activeDirection.isSome → c.lastClockNs = some nowNs ∧
    (∀ pressed ∈ c.lastDirectionActivityNs, nowNs < pressed + c.config.releaseTimeoutNs) ∧
      ∀ next ∈ c.nextCommandNs, nowNs < next

/-- The next command comes a period after the last one. -/
def Scheduled (c : TeleopController) : Prop :=
  ∀ sequence created deadline linear yaw,
    lastMotion c.output = some (.command sequence created deadline linear yaw) →
      c.nextCommandNs = some (created + c.config.commandPeriodNs)

theorem Scheduled.effect (hconsistent : Consistent c) (hc : Scheduled c)
    (h : Effect c action lines c') : Scheduled c' := by
  intro sequence created deadline linear yaw hlast
  cases h with
  | clocked | idle | selected => exact hc _ _ _ _ _ hlast
  | halted _ _ hlines =>
    have hstop : lastMotion (_ ++ c.output) = some .stop :=
      lastMotion_halt hlines hconsistent.stopped.mp
    rw [hstop] at hlast
    cases hlast
  | granted => cases hlast
  | held _ hnext =>
    rw [holdDirection_nextCommandNs, hnext]
    exact hnext.symm.trans (hc _ _ _ _ _ hlast)
  | pressed | paced =>
    cases hlast
    rfl

theorem scheduled_of_run (run : (phaseMachine config).Run h c) : Scheduled c :=
  invariant_of_run (by simp [Scheduled, construct, lastMotion])
    (fun run hc _ heffect => hc.effect (consistent_of_run run) heffect) run

/-- Under a command, there are a next one and a last press that bound the time. -/
theorem timely_of_due (run : (phaseMachine config).Run h c)
    (hdue : c.activeDirection.isSome →
      (∀ pressed ∈ c.lastDirectionActivityNs,
        nowNs ≤ pressed + c.config.releaseTimeoutNs + latenessNs) ∧
      ∀ next ∈ c.nextCommandNs, nowNs ≤ next + latenessNs) : Timely latenessNs c nowNs := by
  have hc := consistent_of_run run
  intro sequence created deadline linear yaw hlast
  have hactive := hc.moving_iff.mp ⟨sequence, created, deadline, linear, yaw, hlast⟩
  obtain ⟨hpressed, hnext⟩ := hdue hactive
  obtain ⟨pressed, hheld, -⟩ := hc.held hactive
  exact ⟨hnext _ (scheduled_of_run run _ _ _ _ _ hlast), pressed, hheld, hpressed _ hheld⟩

/-- Soon after a reading at which nothing was due. -/
theorem Ahead.timely {last : ℤ} (run : (phaseMachine config).Run h c) (hc : Ahead c last)
    (hnow : ∀ last ∈ c.lastClockNs, nowNs ≤ last + latenessNs) : Timely latenessNs c nowNs := by
  refine timely_of_due run fun hactive => ?_
  obtain ⟨hclock, hpressed, hnext⟩ := hc hactive
  have hlate := hnow last hclock
  constructor
  · intro pressed hheld
    linarith [hpressed pressed hheld]
  · intro next hscheduled
    linarith [hnext next hscheduled]

theorem wakeNs_le (hactive : c.activeDirection.isSome) :
    (∀ pressed ∈ c.lastDirectionActivityNs, c.wakeNs nowNs ≤ pressed + c.config.releaseTimeoutNs) ∧
      ∀ next ∈ c.nextCommandNs, c.wakeNs nowNs ≤ next := by
  rw [wakeNs, if_pos hactive]
  constructor
  · intro pressed hheld
    rw [Option.mem_def.mp hheld]
    cases c.nextCommandNs with
    | none => exact min_le_right _ _
    | some next => exact (min_le_left _ _).trans (min_le_right _ _)
  · intro next hscheduled
    rw [Option.mem_def.mp hscheduled]
    exact min_le_right _ _

/-- The wait is over by the time that something is due. -/
theorem nanoseconds_nextPollTimeout (c : TeleopController) (nowNs : ℤ) :
    1000000000 * c.nextPollTimeoutSeconds nowNs = (max 0 (c.wakeNs nowNs - nowNs) : ℤ) := by
  rw [nextPollTimeoutSeconds, mul_max_of_nonneg _ _ (by norm_num), mul_zero]
  rw [mul_div_cancel₀ _ (by norm_num)]
  exact (Int.cast_max ..).symm

/-- Soon after the timeout of a poll that began with nothing due. -/
theorem Ahead.timely_poll {tickNs : ℤ} (run : (phaseMachine config).Run h c) (hc : Ahead c tickNs)
    (hnow : (nowNs : ℚ) ≤
      tickNs + 1000000000 * c.nextPollTimeoutSeconds tickNs + latenessNs) :
    Timely latenessNs c nowNs := by
  rw [nanoseconds_nextPollTimeout] at hnow
  have hnow : nowNs ≤ tickNs + max 0 (c.wakeNs tickNs - tickNs) + latenessNs := by
    exact_mod_cast hnow
  refine timely_of_due run fun hactive => ?_
  obtain ⟨-, hpressed, hnext⟩ := hc hactive
  obtain ⟨hwakePressed, hwakeNext⟩ :
      (∀ pressed ∈ c.lastDirectionActivityNs,
        c.wakeNs tickNs ≤ pressed + c.config.releaseTimeoutNs) ∧
      ∀ next ∈ c.nextCommandNs, c.wakeNs tickNs ≤ next := wakeNs_le hactive
  constructor
  · intro pressed hheld
    have hahead := hpressed pressed hheld
    have hwake := hwakePressed pressed hheld
    omega
  · intro next hscheduled
    have hahead := hnext next hscheduled
    have hwake := hwakeNext next hscheduled
    omega

/-! ### What a call leaves -/

theorem ahead_of_still (hstill : c.activeDirection = none) : Ahead c nowNs := by
  simp [Ahead, hstill]

/-- A tick leaves nothing due. -/
theorem ahead_tick (run : (phaseMachine config).Run h c) (nowNs : ℤ) :
    Ahead (c.tick nowNs) nowNs := by
  by_cases haccepts : c.AcceptsClock nowNs
  · rw [tick_of_accepts haccepts]
    have hclock : ((c.act (.accept nowNs)).act (.expire nowNs)).lastClockNs = some nowNs :=
      lastClockNs_expire _ _
    have haccept : (phaseMachine config).Path c [⟨c, .accept nowNs⟩] (c.act (.accept nowNs)) :=
      path_action haccepts
    have hexpire : (phaseMachine config).Path (c.act (.accept nowNs))
        [⟨c.act (.accept nowNs), .expire nowNs⟩] ((c.act (.accept nowNs)).act (.expire nowNs)) :=
      path_action rfl
    have hrun := (run.append haccept).append hexpire
    have hc := consistent_of_run hrun
    have hexpired := expired_expire (c.act (.accept nowNs)) nowNs
    generalize (c.act (.accept nowNs)).act (.expire nowNs) = d at hclock hc hexpired
    rw [act, pace]
    cases hactive : d.activeDirection with
    | none => exact ahead_of_still hactive
    | some direction =>
      have hfresh : ∀ pressed ∈ d.lastDirectionActivityNs,
          nowNs < pressed + d.config.releaseTimeoutNs := by
        intro pressed hheld
        rw [expired, hactive, Option.mem_def.mp hheld] at hexpired
        have hbefore : nowNs - pressed < d.config.releaseTimeoutNs := by simpa using hexpired
        linarith
      have hauthorized := hc.authorized (by simp [hactive])
      dsimp only
      split
      · by_cases hcan : d.CanCommand nowNs
        · rw [emitCommand_of_can hcan]
          refine fun _ => ⟨hclock, hfresh, ?_⟩
          rintro _ ⟨⟩
          exact lt_add_of_pos_right nowNs d.config.safe.periodPositive
        · rw [emitCommand_of_overflow hcan]
          refine ahead_of_still ?_
          rw [stopAndClear, emitStop]
          split <;> rfl
      · case isFalse hdue =>
        refine fun _ => ⟨hclock, hfresh, fun next hscheduled => ?_⟩
        simpa [hauthorized, Option.mem_def.mp hscheduled] using hdue
  · rw [tick_of_rejects haccepts]
    exact ahead_of_still rfl

/-- A phase that acts at this reading, if at any. -/
def Action.At (nowNs : ℤ) : Action → Prop
  | .key _ readingNs | .pace readingNs => readingNs = nowNs
  | _ => True

theorem Timely.effect (hlate : 0 ≤ latenessNs) (hconsistent : Consistent c)
    (hc : Timely latenessNs c nowNs) (haction : action.At nowNs) (h : Effect c action lines c') :
    Timely latenessNs c' nowNs := by
  have hperiod := c.config.safe.periodPositive
  have htimeout := c.config.safe.timeoutPositive
  intro sequence created deadline linear yaw hlast
  cases h with
  | clocked | idle | selected => exact hc _ _ _ _ _ hlast
  | halted _ _ hlines =>
    have hstop : lastMotion (_ ++ c.output) = some .stop :=
      lastMotion_halt hlines hconsistent.stopped.mp
    rw [hstop] at hlast
    cases hlast
  | granted => cases hlast
  | held =>
    obtain rfl := haction
    refine ⟨(hc _ _ _ _ _ hlast).1, _, rfl, ?_⟩
    change _ ≤ _ + c.config.releaseTimeoutNs + latenessNs
    linarith
  | pressed =>
    obtain rfl := haction
    cases hlast
    refine ⟨?_, _, rfl, ?_⟩
    · change _ ≤ _ + c.config.commandPeriodNs + latenessNs
      linarith
    · change _ ≤ _ + c.config.releaseTimeoutNs + latenessNs
      linarith
  | paced hactive =>
    obtain rfl := haction
    cases hlast
    have hbefore := hconsistent.moving_iff.mpr (by simp [hactive])
    obtain ⟨_, _, _, _, _, hbefore⟩ := hbefore
    refine ⟨?_, (hc _ _ _ _ _ hbefore).2⟩
    change _ ≤ _ + c.config.commandPeriodNs + latenessNs
    linarith

theorem Timely.path {later : List Phase} (hlate : 0 ≤ latenessNs)
    (run : (phaseMachine config).Run h c) (hc : Timely latenessNs c nowNs)
    (path : (phaseMachine config).Path c later c') (hlater : ∀ e ∈ later, e.action.At nowNs) :
    Timely latenessNs c' nowNs := by
  induction path with
  | refl => exact hc
  | next path hstep ih =>
    rw [List.forall_mem_cons] at hlater
    have hconsistent := consistent_of_run (run.append path)
    exact (ih hlater.2).effect hlate hconsistent hlater.1 (effect_of_step hstep)

/-- The press of a key leaves nothing late that was not. -/
theorem Timely.handleEvent (hlate : 0 ≤ latenessNs) (run : (phaseMachine config).Run h c)
    (hc : Timely latenessNs c nowNs) (event : KeyEvent) :
    Timely latenessNs (c.handleEvent event nowNs) nowNs := by
  refine hc.path hlate run (path_perform c (.handleEvent event nowNs)) fun e he => ?_
  have hmem := action_of_phases he
  rw [actions] at hmem
  split at hmem
  · simp only [List.mem_cons, List.not_mem_nil, or_false] at hmem
    rcases hmem with hmem | hmem | hmem <;> simp [hmem, Action.At]
  · simp [List.mem_singleton.mp hmem, Action.At]

/-! ### Sessions -/

/-- Calls each of which comes in time. -/
def InTime (latenessNs : ℤ) (c : TeleopController) : List Call → Prop
  | [] => True
  | call :: calls =>
    (∀ nowNs ∈ call.reading, Timely latenessNs c nowNs) ∧ InTime latenessNs (c.perform call) calls

theorem inTime_append {calls more : List Call} :
    InTime latenessNs c (calls ++ more) ↔
      InTime latenessNs c calls ∧ InTime latenessNs (c.run calls) more := by
  induction calls generalizing c with
  | nil => simp [InTime, TeleopController.run]
  | cons call calls ih =>
    rw [List.cons_append, InTime, InTime, ih, and_assoc]
    rfl

theorem InTime.eventCalls (hlate : 0 ≤ latenessNs) (run : (phaseMachine config).Run h c)
    (hc : Timely latenessNs c nowNs) (events : List (Option KeyEvent × Bool)) :
    InTime latenessNs c (c.eventCalls nowNs events).1 ∧
      Timely latenessNs (c.run (c.eventCalls nowNs events).1) nowNs := by
  induction events generalizing c h with
  | nil => exact ⟨trivial, hc⟩
  | cons event events ih =>
    rcases event with ⟨_ | event, shutdown⟩
    · exact ⟨trivial, hc⟩
    · have hnext := hc.handleEvent hlate run event
      have hcall : ∀ now ∈ (Call.handleEvent event nowNs).reading, Timely latenessNs c now := by
        rintro _ ⟨⟩
        exact hc
      simp only [TeleopController.eventCalls]
      split
      · exact ⟨⟨hcall, trivial⟩, hnext⟩
      · obtain ⟨hcalls, hafter⟩ := ih (run.append (path_perform c (.handleEvent event nowNs))) hnext
        exact ⟨⟨hcall, hcalls⟩, hafter⟩

theorem InTime.roundCalls (hlate : 0 ≤ latenessNs) {last : ℤ} {round : Round}
    (run : (phaseMachine config).Run h c) (hc : Ahead c last)
    (hprompt : round.Prompt latenessNs c) :
    InTime latenessNs c (c.roundCalls round).1 ∧
      ((c.roundCalls round).2 = true → ∃ last, Ahead (c.run (c.roundCalls round).1) last) := by
  rw [TeleopController.roundCalls]
  split
  · exact ⟨trivial, by simp⟩
  split
  · exact ⟨trivial, by simp⟩
  · case h_2 tickNs htick =>
    obtain ⟨hhead, hpoll⟩ := hprompt tickNs htick
    have hcall : ∀ now ∈ (Call.tick tickNs).reading, Timely latenessNs c now := by
      rintro _ ⟨⟩
      exact hc.timely run hhead
    have hticked := run.append (path_perform c (.tick tickNs))
    dsimp only
    split
    · exact ⟨⟨hcall, trivial⟩, by simp⟩
    split
    · case h_1 events eventsNs _ hevents =>
      split
      · exact ⟨⟨hcall, trivial⟩, by simp⟩
      · have hwoken := (ahead_tick run tickNs).timely_poll hticked (hpoll eventsNs hevents)
        obtain ⟨hcalls, hafter⟩ := InTime.eventCalls hlate hticked hwoken events
        have hhandled := hticked.append (path_trace (c.tick tickNs)
          ((c.tick tickNs).eventCalls eventsNs events).1)
        cases ((c.tick tickNs).eventCalls eventsNs events).2 with
        | true =>
          refine ⟨⟨hcall, ?_⟩, by simp⟩
          rw [if_pos rfl, List.append_nil]
          exact hcalls
        | false =>
          refine ⟨⟨hcall, inTime_append.mpr ⟨hcalls, ?_, trivial⟩⟩, fun _ => ⟨eventsNs, ?_⟩⟩
          · rintro _ ⟨⟩
            exact hafter
          · have hlast := ahead_tick hhandled eventsNs
            simpa [TeleopController.run, perform] using hlast
    · exact ⟨⟨hcall, trivial⟩, by simp⟩

theorem InTime.sessionCalls (hlate : 0 ≤ latenessNs) {last : ℤ} {rounds : List Round}
    (run : (phaseMachine config).Run h c) (hc : Ahead c last)
    (hprompt : PromptSession latenessNs c rounds) :
    InTime latenessNs c (c.sessionCalls rounds) := by
  induction rounds generalizing c h last with
  | nil => trivial
  | cons round rounds ih =>
    obtain ⟨hcalls, hnext⟩ := InTime.roundCalls hlate run hc hprompt.1
    rw [sessionCalls_cons, inTime_append]
    refine ⟨hcalls, ?_⟩
    split
    · case isTrue hgoes =>
      obtain ⟨last, hahead⟩ := hnext hgoes
      exact ih (run.append (path_trace c _)) hahead (hprompt.2 hgoes)
    · trivial

/-- A session that reads the clock in time holds no direction for longer than the release timeout
after its last press, sends the next command of a direction that is held within a period of the
last one, and does both before the deadline of that command, lateness aside: at no call is anything
overdue. -/
theorem session_in_time {rounds : List Round} (hlate : 0 ≤ latenessNs)
    (hprompt : PromptSession latenessNs (construct config).forceStop rounds)
    {before after : List Call} {call : Call}
    (hcalls : (construct config).allCalls true rounds = before ++ call :: after)
    (hreading : call.reading = some nowNs) {sequence created deadline : ℤ} {linear yaw : ℚ}
    (hmoving : lastMotion ((construct config).run before).output =
      some (.command sequence created deadline linear yaw)) :
    nowNs ≤ created + config.commandPeriodNs + latenessNs ∧
      (latenessNs ≤ config.releaseTimeoutNs - config.commandPeriodNs → nowNs ≤ deadline) ∧
      ∃ pressed, ((construct config).run before).lastDirectionActivityNs = some pressed ∧
        nowNs ≤ pressed + config.releaseTimeoutNs + latenessNs := by
  have hintime :
      InTime latenessNs (construct config) ((construct config).allCalls true rounds) := by
    have hahead : Ahead ((construct config).run [.forceStop]) nowNs := ahead_of_still rfl
    have hloop := InTime.sessionCalls hlate (run_trace config [.forceStop]) hahead hprompt
    refine ⟨by simp [Call.reading], inTime_append.mpr ⟨hloop, by simp [Call.reading], trivial⟩⟩
  rw [hcalls, inTime_append] at hintime
  have hrun := run_trace config before
  have hconsistent := consistent_of_run hrun
  have hconfig := config_of_run hrun
  obtain ⟨hcommand, pressed, hheld, hpressed⟩ :=
    hintime.2.1 nowNs hreading _ _ _ _ _ hmoving
  rw [hconfig] at hcommand hpressed
  refine ⟨hcommand, fun hshort => ?_, pressed, hheld, hpressed⟩
  have hactive := hconsistent.moving_iff.mp ⟨_, _, _, _, _, hmoving⟩
  obtain ⟨direction, hdirection⟩ := Option.isSome_iff_exists.mp hactive
  obtain ⟨sequence', created', hlast⟩ := hconsistent.moving direction hdirection
  rw [hmoving, hconfig] at hlast
  cases hlast
  linarith

/-! The sample session reads the clock within ten nanoseconds. -/

def driveBefore : List Call := ((construct driveTeleop).allCalls true driveRounds).take 10

theorem drive_in_time :
    104000000 ≤ 54000000 + driveTeleop.commandPeriodNs + 10 ∧
      (10 ≤ driveTeleop.releaseTimeoutNs - driveTeleop.commandPeriodNs →
        (104000000 : ℤ) ≤ 234000000) ∧
      ∃ pressed, ((construct driveTeleop).run driveBefore).lastDirectionActivityNs = some pressed ∧
        104000000 ≤ pressed + driveTeleop.releaseTimeoutNs + 10 := by
  have hprompt : PromptSession 10 (construct driveTeleop).forceStop driveRounds := by
    decide +kernel
  have hcalls : (construct driveTeleop).allCalls true driveRounds =
      driveBefore ++ .tick 104000000 :: [.finish] := by decide +kernel
  have hmoving : lastMotion ((construct driveTeleop).run driveBefore).output =
      some (.command 54000000 54000000 234000000 (1 / 8) 0) := by decide +kernel
  exact session_in_time (by decide) hprompt hcalls rfl hmoving

end WheeltecVcuSerial.Teleop
