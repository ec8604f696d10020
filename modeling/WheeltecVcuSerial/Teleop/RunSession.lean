import WheeltecVcuSerial.Teleop.Consistent

namespace WheeltecVcuSerial.Teleop

open Trace

/-- What one round of the loop of `run_session` meets outside the controller; `none` stands for an
exception. -/
structure Round where
  shutdownAtHead : Bool := false
  tickNs : Option ℤ
  shutdownAfterTick : Bool := false
  /-- What `poll` returns, each event with whether a shutdown is requested once it is handled. -/
  polled : Option (List (Option KeyEvent × Bool))
  eventsNs : Option ℤ
  shutdownAfterPoll : Bool := false
  deriving DecidableEq

namespace TeleopController

/-- The events of one poll; the flag tells whether one of them raised. -/
def handleEvents (c : TeleopController) (nowNs : ℤ) :
    List (Option KeyEvent × Bool) → TeleopController × Bool
  | [] => (c, false)
  | (none, _) :: _ => (c, true)
  | (some event, shutdown) :: events =>
    let c := c.handleEvent event nowNs
    if c.quitRequested || shutdown then (c, false) else c.handleEvents nowNs events

/-- The loop of `run_session`; a shutdown is requested once the rounds are over. -/
def sessionLoop (c : TeleopController) : List Round → TeleopController
  | [] => c
  | round :: rounds =>
    if c.quitRequested || round.shutdownAtHead then c
    else
      match round.tickNs with
      | none => c
      | some nowNs =>
        let c := c.tick nowNs
        if c.quitRequested || round.shutdownAfterTick then c
        else
          match round.polled, round.eventsNs with
          | some events, some nowNs =>
            if round.shutdownAfterPoll then c
            else
              match c.handleEvents nowNs events with
              | (c, true) => c
              | (c, false) => (c.tick nowNs).sessionLoop rounds
          | _, _ => c

/-- `run_session`; `helpShown` tells whether `show_help` returns. -/
def runSession (c : TeleopController) (helpShown : Bool) (rounds : List Round) :
    TeleopController :=
  (if helpShown then c.forceStop.sessionLoop rounds else c).finish

/-- `c'` comes from `c` with some lines more, none of them QUIT. -/
def Continues (c c' : TeleopController) : Prop :=
  c'.finished = c.finished ∧ ∃ lines, c'.output = lines ++ c.output ∧ .quit ∉ lines

variable {c c' c'' : TeleopController}

theorem Continues.refl (c : TeleopController) : Continues c c := ⟨rfl, [], rfl, by simp⟩

theorem Continues.trans (h : Continues c c') (h' : Continues c' c'') : Continues c c'' := by
  obtain ⟨hfinished, lines, houtput, hquit⟩ := h
  obtain ⟨hfinished', lines', houtput', hquit'⟩ := h'
  refine ⟨hfinished'.trans hfinished, lines' ++ lines, ?_, ?_⟩
  · rw [houtput', houtput, List.append_assoc]
  · rw [List.mem_append]
    exact not_or.mpr ⟨hquit', hquit⟩

theorem continues_of_effect {action : Action} {lines : List ProtocolLine}
    (h : Effect c action lines c') (haction : action ≠ .finish) : Continues c c' := by
  refine ⟨?_, lines, h.output, ?_⟩
  · cases h with
    | halted _ _ _ hfinished => exact hfinished.resolve_right haction
    | _ => rfl
  · cases h with
    | halted _ _ hlines =>
      cases hlines with
      | quit hfinish => exact absurd hfinish haction
      | _ => simp
    | _ => simp [commandLine]

theorem continues_of_path {config : ValidatedConfig} {h : List Phase}
    (path : (phaseMachine config).Path c h c') (hactions : ∀ e ∈ h, e.action ≠ .finish) :
    Continues c c' := by
  induction path with
  | refl => exact .refl _
  | next _ hstep ih =>
    rw [List.forall_mem_cons] at hactions
    exact (ih hactions.2).trans (continues_of_effect (effect_of_step hstep) hactions.1)

theorem continues_perform (c : TeleopController) {call : Call} (hcall : call ≠ .finish) :
    Continues c (c.perform call) := by
  have path : (phaseMachine c.config).Path c (c.phases (c.actions call)) (c.perform call) :=
    path_perform c call
  apply continues_of_path path
  cases call with
  | handleEvent => simp only [actions]; split <;> simp [phases]
  | tick => simp only [actions]; split <;> simp [phases]
  | forceStop => simp [actions, phases]
  | finish => exact absurd rfl hcall

theorem continues_handleEvent (c : TeleopController) (event : KeyEvent) (nowNs : ℤ) :
    Continues c (c.handleEvent event nowNs) := by
  have hcall : Call.handleEvent event nowNs ≠ .finish := by simp
  exact c.continues_perform hcall

theorem continues_tick (c : TeleopController) (nowNs : ℤ) : Continues c (c.tick nowNs) := by
  have hcall : Call.tick nowNs ≠ .finish := by simp
  exact c.continues_perform hcall

theorem continues_handleEvents (c : TeleopController) (nowNs : ℤ)
    (events : List (Option KeyEvent × Bool)) : Continues c (c.handleEvents nowNs events).1 := by
  induction events generalizing c with
  | nil => exact .refl c
  | cons event events ih =>
    rcases event with ⟨_ | event, shutdown⟩
    · exact .refl c
    · simp only [handleEvents]
      split
      · exact c.continues_handleEvent event nowNs
      · exact (c.continues_handleEvent event nowNs).trans (ih _)

theorem continues_sessionLoop (c : TeleopController) (rounds : List Round) :
    Continues c (c.sessionLoop rounds) := by
  induction rounds generalizing c with
  | nil => exact .refl c
  | cons round rounds ih =>
    rw [sessionLoop]
    split
    · exact .refl c
    split
    · exact .refl c
    · case h_2 nowNs _ =>
      dsimp only
      split
      · exact c.continues_tick nowNs
      split
      · case h_1 events eventsNs _ _ =>
        have hevents := (c.continues_tick nowNs).trans (continues_handleEvents _ eventsNs events)
        split
        · exact c.continues_tick nowNs
        split
        · case h_1 heq => rwa [heq] at hevents
        · case h_2 heq =>
          rw [heq] at hevents
          exact hevents.trans ((continues_tick _ _).trans (ih _))
      · exact c.continues_tick nowNs

/-- What `finish` adds to an unfinished controller. -/
theorem finish_output (hfinished : c.finished = false) :
    c.finish.output = .quit :: .stop :: c.output := by
  rw [finish, if_neg (by rw [hfinished]; exact Bool.false_ne_true)]
  rfl

/-- Whatever the world outside does, `run_session` begins with STOP, and ends with STOP and its
only QUIT. -/
theorem runSession_output (hfinished : c.finished = false) (helpShown : Bool)
    (rounds : List Round) :
    ∃ lines, (c.runSession helpShown rounds).output = .quit :: .stop :: lines ++ c.output ∧
      .quit ∉ lines ∧ (.stop :: lines).getLast? = some ProtocolLine.stop := by
  cases helpShown with
  | false => exact ⟨[], finish_output hfinished, by simp, rfl⟩
  | true =>
    obtain ⟨hsame, lines, houtput, hquit⟩ := continues_sessionLoop c.forceStop rounds
    have hforced : c.forceStop.finished = false := hfinished
    refine ⟨lines ++ [.stop], ?_, ?_, ?_⟩
    · rw [runSession, if_pos rfl, finish_output (hsame.trans hforced), houtput]
      simp [forceStop, emitStop]
    · simpa using hquit
    · rw [← List.cons_append, List.getLast?_concat]

end TeleopController

end WheeltecVcuSerial.Teleop
