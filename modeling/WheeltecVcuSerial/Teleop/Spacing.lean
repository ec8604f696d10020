import WheeltecVcuSerial.Teleop.Increasing

namespace WheeltecVcuSerial.Teleop

open Trace TeleopController

/-- No command of `output` that is not followed by a STOP is younger than `boundNs`. -/
def UnstoppedUntil (boundNs : ℤ) (output : List ProtocolLine) : Prop :=
  ∀ later line earlier created, output = later ++ line :: earlier → line.createdNs = some created →
    .stop ∉ later → created ≤ boundNs

/-- Commands without a STOP between them are a period apart. -/
def Spaced (periodNs : ℤ) : List ProtocolLine → Prop :=
  Historically fun line earlier =>
    ∀ created ∈ line.createdNs, UnstoppedUntil (created - periodNs) earlier

variable {c c' : TeleopController} {action : Action} {lines output : List ProtocolLine}
  {line : ProtocolLine} {config : ValidatedConfig} {h : List Phase} {boundNs created periodNs : ℤ}

theorem UnstoppedUntil.mono {boundNs' : ℤ} (h : UnstoppedUntil boundNs output)
    (hle : boundNs ≤ boundNs') : UnstoppedUntil boundNs' output :=
  fun later line earlier created houtput hcreated hstop =>
    (h later line earlier created houtput hcreated hstop).trans hle

/-- After a STOP there is nothing to wait for. -/
theorem unstopped_of_still (hlast : ∀ line, lastMotion output = some line → line = .stop)
    (boundNs : ℤ) : UnstoppedUntil boundNs output := by
  rintro later line earlier created rfl hcreated hstop
  exfalso
  induction later with
  | nil =>
    cases line with
    | command => cases hlast _ rfl
    | _ => cases hcreated
  | cons x later ih =>
    rw [List.mem_cons, not_or] at hstop
    cases x with
    | command => cases hlast _ rfl
    | stop => exact hstop.1 rfl
    | _ => exact ih hlast hstop.2

theorem UnstoppedUntil.cons (h : UnstoppedUntil boundNs output)
    (hcreated : line.createdNs = some created)
    (hle : boundNs ≤ created) : UnstoppedUntil created (line :: output) := by
  intro later x earlier time houtput htime hstop
  cases later with
  | nil =>
    obtain ⟨rfl, rfl⟩ := List.cons.inj houtput
    exact (Option.some.inj (htime.symm.trans hcreated)).le
  | cons y later =>
    obtain ⟨rfl, rfl⟩ := List.cons.inj houtput
    have hbound := h later x earlier time rfl htime fun hmem => hstop (List.mem_cons_of_mem _ hmem)
    exact hbound.trans hle

theorem Spaced.append_other (h : Spaced periodNs output)
    (hlines : ∀ line ∈ lines, line.createdNs = none) : Spaced periodNs (lines ++ output) := by
  induction lines with
  | nil => exact h
  | cons line lines ih =>
    rw [List.forall_mem_cons] at hlines
    refine ⟨fun created hmem => ?_, ih hlines.2⟩
    rw [hlines.1] at hmem
    cases hmem

theorem createdNs_of_halt {stopped latched : Bool}
    (hlines : HaltLines action stopped latched lines) : ∀ line ∈ lines, line.createdNs = none := by
  cases hlines <;> simp [ProtocolLine.createdNs]

/-- The pacing of the commands: they are a period apart, and the next one waits for a period from
the last one on. -/
structure Paced (c : TeleopController) : Prop where
  spaced : Spaced c.config.commandPeriodNs c.output
  next : ∀ next ∈ c.nextCommandNs, UnstoppedUntil (next - c.config.commandPeriodNs) c.output

theorem Paced.command (hc : Consistent c) (hpaced : Paced c) {nowNs : ℤ}
    (hdue : ∀ next ∈ c.nextCommandNs, next ≤ nowNs) (hcreated : line.createdNs = some nowNs) :
    Spaced c.config.commandPeriodNs (line :: c.output) ∧
      UnstoppedUntil nowNs (line :: c.output) := by
  have hperiod := c.config.safe.periodPositive
  have hbefore : UnstoppedUntil (nowNs - c.config.commandPeriodNs) c.output := by
    cases hnext : c.nextCommandNs with
    | some next => exact (hpaced.next next hnext).mono (by linarith [hdue next hnext])
    | none =>
      have hstill : c.activeDirection = none := by
        by_contra hactive
        have hpending := hc.paced (Option.isSome_iff_ne_none.mpr hactive)
        rw [hnext] at hpending
        cases hpending
      exact unstopped_of_still (hc.still hstill).2 _
  refine ⟨⟨fun created hmem => ?_, hpaced.spaced⟩, hbefore.cons hcreated (by linarith)⟩
  obtain rfl := Option.some.inj (hcreated.symm.trans hmem)
  exact hbefore

theorem Paced.effect (hc : Consistent c) (hpaced : Paced c) (h : Effect c action lines c') :
    Paced c' := by
  cases h with
  | clocked => exact ⟨hpaced.spaced, hpaced.next⟩
  | idle => exact hpaced
  | selected => exact ⟨hpaced.spaced, hpaced.next⟩
  | halted _ _ hlines =>
    refine ⟨hpaced.spaced.append_other (createdNs_of_halt hlines), ?_⟩
    rintro _ ⟨⟩
  | @granted event nowNs =>
    have hother :
        ∀ line ∈ [ProtocolLine.stop, .auth (c.nextToken nowNs)], line.createdNs = none := by
      simp [ProtocolLine.createdNs]
    refine ⟨hpaced.spaced.append_other hother, ?_⟩
    rintro _ ⟨⟩
  | held _ hnext =>
    refine ⟨hpaced.spaced, ?_⟩
    rw [holdDirection_nextCommandNs, hnext]
    exact fun next hmem => hpaced.next next (hnext.trans hmem)
  | @pressed event nowNs direction _ hdue =>
    have hcreated : (c.commandLine direction nowNs).createdNs = some nowNs := rfl
    obtain ⟨hspaced, hunstopped⟩ := hpaced.command hc hdue hcreated
    refine ⟨hspaced, ?_⟩
    rintro _ ⟨⟩
    exact hunstopped.mono (add_sub_cancel_right nowNs _).ge
  | @paced direction nowNs next _ _ hnext hdue =>
    have hcreated : (c.commandLine direction nowNs).createdNs = some nowNs := rfl
    have hdue : ∀ n ∈ c.nextCommandNs, n ≤ nowNs := by
      rw [hnext]
      rintro _ ⟨⟩
      exact hdue
    obtain ⟨hspaced, hunstopped⟩ := hpaced.command hc hdue hcreated
    refine ⟨hspaced, ?_⟩
    rintro _ ⟨⟩
    exact hunstopped.mono (add_sub_cancel_right nowNs _).ge

theorem paced_of_run (run : (phaseMachine config).Run h c) : Paced c :=
  invariant_of_run ⟨trivial, by rintro _ ⟨⟩⟩
    (fun run hc _ heffect => hc.effect (consistent_of_run run) heffect) run

end WheeltecVcuSerial.Teleop
