import WheeltecVcuSerial.Teleop.Admission

namespace WheeltecVcuSerial.Teleop

open Trace TeleopController

namespace ProtocolLine

def token : ProtocolLine → Option ℤ
  | .auth token => some token
  | _ => none

def sequenceId : ProtocolLine → Option ℤ
  | .command sequenceNumber .. => some sequenceNumber
  | _ => none

def createdNs : ProtocolLine → Option ℤ
  | .command _ createdNs .. => some createdNs
  | _ => none

end ProtocolLine

namespace TeleopController

/-- The tokens of the AUTH lines, the latest one first. -/
def tokens (c : TeleopController) : List ℤ := c.output.filterMap ProtocolLine.token

/-- The sequence ids of the CMD lines, the latest one first. -/
def sequenceIds (c : TeleopController) : List ℤ := c.output.filterMap ProtocolLine.sequenceId

/-- The latest accepted clock reading, or the least one that there can be. -/
def clock (c : TeleopController) : ℤ := c.lastClockNs.getD 1

end TeleopController

/-- How far the tokens and the sequence ids can have run ahead of the clock. -/
structure Drift (c : TeleopController) : Prop where
  clock : 1 ≤ c.clock
  token : c.lastAuthToken + 1 ≤ c.clock + c.tokens.length
  sequence : c.sequence + 1 ≤ c.clock + c.sequenceIds.length

variable {c c' : TeleopController} {action : Action} {lines : List ProtocolLine}
  {config : ValidatedConfig} {h : List Phase} {e : Phase} {nowNs : ℤ}

theorem clock_le_of_accepts (h : c.AcceptsClock nowNs) : c.clock ≤ nowNs := by
  obtain ⟨hpos, hlast⟩ := h
  cases hclock : c.lastClockNs with
  | none =>
    rw [TeleopController.clock, hclock]
    exact hpos
  | some last =>
    rw [TeleopController.clock, hclock]
    exact hlast last hclock

theorem tokens_of_halt {stopped latched : Bool} (hlines : HaltLines action stopped latched lines) :
    lines.filterMap ProtocolLine.token = [] := by
  cases hlines <;> rfl

theorem sequenceIds_of_halt {stopped latched : Bool}
    (hlines : HaltLines action stopped latched lines) :
    lines.filterMap ProtocolLine.sequenceId = [] := by
  cases hlines <;> rfl

/-- The new token, if a phase grants one, exceeds the mark of the tokens and becomes it. -/
theorem Effect.token (h : Effect c action lines c') :
    lines.filterMap ProtocolLine.token = [] ∧ c'.lastAuthToken = c.lastAuthToken ∨
      ∃ event nowNs, action = .key event nowNs ∧
        lines.filterMap ProtocolLine.token = [c.nextToken nowNs] ∧
        c'.lastAuthToken = c.nextToken nowNs := by
  cases h with
  | halted _ _ hlines => exact .inl ⟨tokens_of_halt hlines, rfl⟩
  | granted => exact .inr ⟨_, _, rfl, rfl, rfl⟩
  | _ => exact .inl ⟨rfl, rfl⟩

theorem Effect.sequenceId (h : Effect c action lines c') :
    lines.filterMap ProtocolLine.sequenceId = [] ∧ c'.sequence = c.sequence ∨
      ∃ nowNs, ((∃ event, action = .key event nowNs) ∨ action = .pace nowNs) ∧
        lines.filterMap ProtocolLine.sequenceId = [c.nextSequence nowNs] ∧
        c'.sequence = c.nextSequence nowNs := by
  cases h with
  | halted _ _ hlines => exact .inl ⟨sequenceIds_of_halt hlines, rfl⟩
  | pressed => exact .inr ⟨_, .inl ⟨_, rfl⟩, rfl, rfl⟩
  | paced => exact .inr ⟨_, .inr rfl, rfl, rfl⟩
  | _ => exact .inl ⟨rfl, rfl⟩

theorem Effect.lastClockNs (h : Effect c action lines c') :
    c'.lastClockNs = c.lastClockNs ∨
      ∃ nowNs, action = .accept nowNs ∧ c'.lastClockNs = some nowNs := by
  cases h with
  | clocked => exact .inr ⟨_, rfl, rfl⟩
  | _ => exact .inl rfl

/-- A number above the mark, and not above the clock where the clock is ahead, lets the mark run
ahead by one step at most. -/
theorem max_drift {mark clock : ℤ} {count : ℕ} (h : mark + 1 ≤ clock + count) :
    max clock (mark + 1) + 1 ≤ clock + (count + 1 : ℕ) := by
  omega

theorem clock_of_enabled (henabled : c.Enabled action)
    (haction : (∃ event, action = .key event nowNs) ∨ action = .pace nowNs) : c.clock = nowNs := by
  rcases haction with ⟨event, rfl⟩ | rfl
  · rw [TeleopController.clock, henabled.1, Option.getD_some]
  · rw [TeleopController.clock, henabled.1, Option.getD_some]

theorem Drift.construct (config : ValidatedConfig) : Drift (construct config) := by
  constructor <;> simp [TeleopController.construct, TeleopController.clock]

theorem Drift.effect (hdrift : Drift c) (henabled : c.Enabled action)
    (h : Effect c action lines c') : Drift c' := by
  have hclock : c.clock ≤ c'.clock := by
    rcases h.lastClockNs with hsame | ⟨nowNs, rfl, hnow⟩
    · rw [TeleopController.clock, TeleopController.clock, hsame]
    · exact (clock_le_of_accepts henabled).trans_eq (by rw [TeleopController.clock, hnow]; rfl)
  have htokens : c'.tokens = lines.filterMap ProtocolLine.token ++ c.tokens := by
    rw [tokens, h.output, List.filterMap_append, tokens]
  have hids : c'.sequenceIds = lines.filterMap ProtocolLine.sequenceId ++ c.sequenceIds := by
    rw [sequenceIds, h.output, List.filterMap_append, sequenceIds]
  constructor
  · exact hdrift.clock.trans hclock
  · rcases h.token with ⟨hlines, hmark⟩ | ⟨event, nowNs, haction, hlines, hmark⟩
    · rw [htokens, hlines, hmark, List.nil_append]
      exact hdrift.token.trans (by omega)
    · have hnow := clock_of_enabled henabled (.inl ⟨event, haction⟩)
      have hnext := max_drift hdrift.token
      rw [htokens, hlines, hmark, List.singleton_append, List.length_cons, nextToken, ← hnow]
      omega
  · rcases h.sequenceId with ⟨hlines, hmark⟩ | ⟨nowNs, haction, hlines, hmark⟩
    · rw [hids, hlines, hmark, List.nil_append]
      exact hdrift.sequence.trans (by omega)
    · have hnow := clock_of_enabled henabled haction
      have hnext := max_drift hdrift.sequence
      rw [hids, hlines, hmark, List.singleton_append, List.length_cons, nextSequence, ← hnow]
      omega

theorem drift_of_run (run : (phaseMachine config).Run h c) : Drift c :=
  invariant_of_run (.construct config) (fun _ hc henabled heffect => hc.effect henabled heffect) run

/-- Numbers that increase up to a mark, the latest one first. -/
def IncreasesTo (mark : ℤ) (numbers : List ℤ) : Prop :=
  numbers.Pairwise (fun later earlier => earlier < later) ∧ ∀ k ∈ numbers, k ≤ mark

theorem IncreasesTo.cons {mark next : ℤ} {numbers : List ℤ} (h : IncreasesTo mark numbers)
    (hnext : mark < next) : IncreasesTo next (next :: numbers) := by
  obtain ⟨hpair, hbound⟩ := h
  have hless : ∀ k ∈ numbers, k < next := fun k hk => (hbound k hk).trans_lt hnext
  refine ⟨List.pairwise_cons.mpr ⟨hless, hpair⟩, ?_⟩
  rw [List.forall_mem_cons]
  exact ⟨le_rfl, fun k hk => (hless k hk).le⟩

/-- Tokens and sequence ids increase, each up to its mark. -/
theorem increases_of_run (run : (phaseMachine config).Run h c) :
    IncreasesTo c.lastAuthToken c.tokens ∧ IncreasesTo c.sequence c.sequenceIds := by
  induction run with
  | start hinit =>
    rw [hinit]
    exact ⟨⟨.nil, by simp [tokens, construct]⟩, .nil, by simp [sequenceIds, construct]⟩
  | next _ hstep ih =>
    have heffect := effect_of_step hstep
    constructor
    · rw [tokens, heffect.output, List.filterMap_append]
      rcases heffect.token with ⟨hlines, hmark⟩ | ⟨event, nowNs, -, hlines, hmark⟩
      · rw [hlines, hmark]
        exact ih.1
      · rw [hlines, hmark]
        exact ih.1.cons (lt_max_of_lt_right (lt_add_one _))
    · rw [sequenceIds, heffect.output, List.filterMap_append]
      rcases heffect.sequenceId with ⟨hlines, hmark⟩ | ⟨nowNs, -, hlines, hmark⟩
      · rw [hlines, hmark]
        exact ih.2
      · rw [hlines, hmark]
        exact ih.2.cons (lt_max_of_lt_left (lt_add_one _))

/-- The sequence id of a command: at least its time, and ahead of it by no more than the number of
commands before. -/
theorem sequence_drift {sequence created deadline : ℤ} {linear yaw : ℚ}
    (run : (phaseMachine config).Run h c) (hstep : (phaseMachine config).step c e c')
    (hcommand : .command sequence created deadline linear yaw ∈ e.lines) :
    created ≤ sequence ∧ sequence ≤ created + c.sequenceIds.length := by
  have hdrift := drift_of_run run
  have henabled := hstep.2.1
  obtain ⟨direction, p, hlines, haction, -⟩ :=
    (effect_of_step hstep).command (consistent_of_run run) (hstep.1 ▸ henabled) hcommand
  have hnow := clock_of_enabled henabled haction
  rw [hlines, List.mem_singleton, commandLine, ProtocolLine.command.injEq] at hcommand
  rw [hcommand.1, nextSequence, ← hnow]
  have hsequence := hdrift.sequence
  omega

theorem token_drift {token : ℤ} (run : (phaseMachine config).Run h c)
    (hstep : (phaseMachine config).step c e c') (htoken : .auth token ∈ e.lines) :
    ∃ event nowNs, e.action = .key event nowNs ∧ nowNs ≤ token ∧
      token ≤ nowNs + c.tokens.length := by
  have hdrift := (drift_of_run run).token
  have hmem : token ∈ e.lines.filterMap ProtocolLine.token :=
    List.mem_filterMap.mpr ⟨_, htoken, rfl⟩
  rcases (effect_of_step hstep).token with ⟨hlines, -⟩ | ⟨event, nowNs, haction, hlines, -⟩
  · rw [hlines] at hmem
    cases hmem
  · have hnow := clock_of_enabled hstep.2.1 (.inl ⟨event, haction⟩)
    rw [hlines, List.mem_singleton, nextToken, ← hnow] at hmem
    refine ⟨event, nowNs, haction, ?_, ?_⟩
    · rw [hmem, hnow]
      exact le_max_left _ _
    · omega

/-- Over readings from a bound on, the tokens and the sequence ids are from that bound on. -/
theorem numbers_ge_of_run {bound : ℤ} (run : (phaseMachine config).Run h c)
    (hreadings : ∀ e ∈ h, ∀ nowNs, e.action = .accept nowNs → bound ≤ nowNs) :
    (∀ last ∈ c.lastClockNs, bound ≤ last) ∧ (∀ token ∈ c.tokens, bound ≤ token) ∧
      ∀ sequence ∈ c.sequenceIds, bound ≤ sequence := by
  induction run with
  | start hinit =>
    rw [hinit]
    simp [tokens, sequenceIds, TeleopController.construct]
  | @next h c e c' run hstep ih =>
    rw [List.forall_mem_cons] at hreadings
    obtain ⟨hclock, htokens, hids⟩ := ih hreadings.2
    have heffect := effect_of_step hstep
    have hlast : ∀ {nowNs}, ((∃ event, e.action = .key event nowNs) ∨ e.action = .pace nowNs) →
        bound ≤ nowNs := by
      rintro nowNs haction
      have henabled := hstep.2.1
      rcases haction with ⟨event, haction⟩ | haction
      · rw [haction] at henabled
        exact hclock nowNs henabled.1
      · rw [haction] at henabled
        exact hclock nowNs henabled.1
    refine ⟨?_, ?_, ?_⟩
    · rcases heffect.lastClockNs with hsame | ⟨nowNs, haction, hnow⟩
      · rw [hsame]
        exact hclock
      · rw [hnow]
        rintro last ⟨⟩
        exact hreadings.1 nowNs haction
    · intro token htoken
      rw [tokens, heffect.output, List.filterMap_append, List.mem_append] at htoken
      rcases htoken with hnew | hold
      · rcases heffect.token with ⟨hlines, -⟩ | ⟨event, nowNs, haction, hlines, -⟩
        · rw [hlines] at hnew
          cases hnew
        · rw [hlines, List.mem_singleton] at hnew
          rw [hnew]
          exact (hlast (.inl ⟨event, haction⟩)).trans (le_max_left _ _)
      · exact htokens token hold
    · intro sequence hsequence
      rw [sequenceIds, heffect.output, List.filterMap_append, List.mem_append] at hsequence
      rcases hsequence with hnew | hold
      · rcases heffect.sequenceId with ⟨hlines, -⟩ | ⟨nowNs, haction, hlines, -⟩
        · rw [hlines] at hnew
          cases hnew
        · rw [hlines, List.mem_singleton] at hnew
          rw [hnew]
          exact (hlast haction).trans (le_max_right _ _)
      · exact hids sequence hold

end WheeltecVcuSerial.Teleop
