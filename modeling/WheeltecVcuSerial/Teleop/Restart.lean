import WheeltecVcuSerial.Teleop.Spacing
import WheeltecVcuSerial.Session.Presented

namespace WheeltecVcuSerial.Teleop

open Trace TeleopController

/-- How the tokens and the sequence ids of a run lie: each increases, each is its time or ahead of
it by no more than the number of its kind before, and commands without a STOP between them are a
period apart. -/
structure NumbersIncrease (config : ValidatedConfig) (calls : List Call) : Prop where
  tokens : ((construct config).run calls).tokens.Pairwise fun later earlier => earlier < later
  sequenceIds :
    ((construct config).run calls).sequenceIds.Pairwise fun later earlier => earlier < later
  tokenDrift : ∀ later e earlier (token : ℤ),
    (construct config).trace calls = later ++ e :: earlier →
    .auth token ∈ e.lines →
    ∃ event nowNs, e.action = .key event nowNs ∧ nowNs ≤ token ∧
      token ≤ nowNs + e.before.tokens.length
  sequenceDrift : ∀ later e earlier (sequence created deadline : ℤ) linear yaw,
    (construct config).trace calls = later ++ e :: earlier →
    .command sequence created deadline linear yaw ∈ e.lines →
    created ≤ sequence ∧ sequence ≤ created + e.before.sequenceIds.length
  spacing : ∀ later line mid line' earlier created created',
    ((construct config).run calls).output = later ++ line :: mid ++ line' :: earlier →
    line.createdNs = some created → line'.createdNs = some created' → .stop ∉ mid →
    config.commandPeriodNs ≤ created - created'

/-- Every number of `b` is above every one of its kind of `a`, and new to a session that has been
given those of `a` alone. -/
structure Supersedes (b a : TeleopController) : Prop where
  tokens : ∀ token ∈ a.tokens, ∀ token' ∈ b.tokens, token < token'
  sequenceIds : ∀ sequence ∈ a.sequenceIds, ∀ sequence' ∈ b.sequenceIds, sequence < sequence'
  fresh : ∀ {admits : Link → Link → Prop} {config : SafetyConfig} {h : List Event} {w : World},
    (sessionMachine admits config).Run h w →
    (∀ e ∈ h, ∀ token ∈ e.op.presentedToken, (token : ℤ) ∈ a.tokens) →
    (∀ e ∈ h, ∀ sequence ∈ e.op.presentedSequence, (sequence : ℤ) ∈ a.sequenceIds) →
    ∀ link nowNs,
      (∀ token : ℕ, (token : ℤ) ∈ b.tokens →
        (w.session.authorize link token nowNs).2 ≠ .tokenInvalid) ∧
      ∀ command : TimedMotionCommand, (command.sequenceId : ℤ) ∈ b.sequenceIds →
        (w.session.submit link command nowNs).2 ≠ .sequenceInvalid

variable {config config' : ValidatedConfig} {h h' : List Phase} {a b : TeleopController}

theorem numbersIncrease (config : ValidatedConfig) (calls : List Call) :
    NumbersIncrease config calls := by
  have run := run_trace config calls
  obtain ⟨htokens, hids⟩ := increases_of_run run
  constructor
  · exact htokens.1
  · exact hids.1
  · intro later e earlier token htrace htoken
    obtain ⟨c', run, -, hstep⟩ := step_of_trace htrace
    exact token_drift run hstep htoken
  · intro later e earlier sequence created deadline linear yaw htrace hcommand
    obtain ⟨c', run, -, hstep⟩ := step_of_trace htrace
    exact sequence_drift run hstep hcommand
  · intro later line mid line' earlier created created' houtput hcreated hcreated' hstop
    have hspaced := historically_iff.mp (paced_of_run run).spaced later line
      (mid ++ line' :: earlier)
      (by rw [houtput, List.append_assoc, List.cons_append])
    have hle := hspaced created hcreated mid line' earlier created' rfl hcreated' hstop
    rw [config_of_run run] at hle
    linarith

theorem supersedes_of_run {lastNs : ℤ} (runA : (phaseMachine config).Run h a)
    (runB : (phaseMachine config').Run h' b) (hlast : a.lastClockNs = some lastNs)
    (hreadings : ∀ e ∈ h', ∀ nowNs, e.action = .accept nowNs →
      lastNs + max a.sequenceIds.length a.tokens.length ≤ nowNs) : Supersedes b a := by
  have hdrift := drift_of_run runA
  have hclock : a.clock = lastNs := by rw [clock, hlast, Option.getD_some]
  have hpositive := hdrift.clock
  have htokenMark := hdrift.token
  have hsequenceMark := hdrift.sequence
  rw [hclock] at hpositive htokenMark hsequenceMark
  obtain ⟨⟨-, htokens⟩, -, hids⟩ := increases_of_run runA
  obtain ⟨-, htokensB, hidsB⟩ := numbers_ge_of_run runB hreadings
  have htokenB : ∀ token ∈ b.tokens, a.lastAuthToken < token ∧ 0 < token := by
    intro token htoken
    have hle := htokensB token htoken
    omega
  have hsequenceB : ∀ sequence ∈ b.sequenceIds, a.sequence < sequence ∧ 0 < sequence := by
    intro sequence hsequence
    have hle := hidsB sequence hsequence
    omega
  constructor
  · intro token htoken token' htoken'
    exact (htokens token htoken).trans_lt (htokenB token' htoken').1
  · intro sequence hsequence sequence' hsequence'
    exact (hids sequence hsequence).trans_lt (hsequenceB sequence' hsequence').1
  · intro admits safety h w run hpresented hsubmitted link nowNs
    have hwired := (coherent_of_run run).wired
    have hpresented : ∀ e ∈ h, ∀ token ∈ e.op.presentedToken, token ≤ a.lastAuthToken.toNat := by
      intro e he token htoken
      have hle := htokens _ (hpresented e he token htoken)
      omega
    have hsubmitted : ∀ e ∈ h, ∀ sequence ∈ e.op.presentedSequence,
        sequence ≤ a.sequence.toNat := by
      intro e he sequence hsequence
      have hle := hids _ (hsubmitted e he sequence hsequence)
      omega
    obtain ⟨hauthorization, hsequence⟩ := marks_le_of_presented run hpresented hsubmitted
    constructor
    · intro token htoken hinvalid
      have hnew := htokenB token htoken
      have hreplayed := SafetySession.replayed_of_tokenInvalid hwired hinvalid
      omega
    · intro command hcommand hinvalid
      have hnew := hsequenceB command.sequenceId hcommand
      have hreplayed := SafetySession.replayed_of_sequenceInvalid hwired hinvalid
      omega

/-- The numbers of a run increase, and those of a later run go on from them as soon as its clock has
passed the numbers of lines of the first. -/
theorem restart_supersedes (config : ValidatedConfig) (calls : List Call) :
    NumbersIncrease config calls ∧
      ∀ (config' : ValidatedConfig) (calls' : List Call) (lastNs : ℤ),
        ((construct config).run calls).lastClockNs = some lastNs →
        (∀ call ∈ calls', ∀ nowNs, call.reading = some nowNs →
          lastNs + max ((construct config).run calls).sequenceIds.length
            ((construct config).run calls).tokens.length ≤ nowNs) →
        Supersedes ((construct config').run calls') ((construct config).run calls) := by
  refine ⟨numbersIncrease config calls, fun config' calls' lastNs hlast hreadings => ?_⟩
  refine supersedes_of_run (run_trace config calls) (run_trace config' calls') hlast ?_
  intro e he nowNs haction
  obtain ⟨call, hcall, hreading⟩ := reading_of_accept he haction
  exact hreadings call hcall nowNs hreading

/-- The calls of a teleop that is started again. -/
def restartCalls : List Call := [pressCall "r" 1003, pressCall "w" 1004]

theorem sample_lastClock : ((construct sampleConfig).run sampleCalls).lastClockNs = some 1001 := by
  decide +kernel

theorem sample_counts :
    (1001 : ℤ) + max ((construct sampleConfig).run sampleCalls).sequenceIds.length
      ((construct sampleConfig).run sampleCalls).tokens.length = 1002 := by
  decide +kernel

theorem sample_supersedes :
    Supersedes ((construct sampleConfig).run restartCalls)
      ((construct sampleConfig).run sampleCalls) := by
  refine (restart_supersedes sampleConfig sampleCalls).2 sampleConfig restartCalls 1001
    sample_lastClock ?_
  rw [sample_counts]
  simp [restartCalls, pressCall, Call.reading]

end WheeltecVcuSerial.Teleop
