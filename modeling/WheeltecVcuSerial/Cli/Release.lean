import WheeltecVcuSerial.Cli.ExitCode

namespace WheeltecVcuSerial.Cli

open Trace Program

variable {config : RuntimeConfig} {limits : SafetyConfig} {s : CliState}
  {made more : List ProcessCall} {h : List (List ProcessCall)} {code : Nat}

def setsStdin : ProcessCall → Bool
  | .setStdinFlags _ _ => true
  | _ => false

/-- The last request for flags of the standard input has asked for what they were, again for as long
as it was interrupted.  Whether the system has set them nobody looks at. -/
def Reverted (trace : List ProcessCall) : Prop :=
  ∃ before flags reply after, trace = before ++ .setStdinFlags flags reply :: after ∧
    reply.interrupted = false ∧ (∀ call ∈ after, setsStdin call = false) ∧
      ∃ asked, .getStdinFlags asked ∈ before ∧ 0 ≤ asked.value ∧ asked.value.toNat = flags

theorem Finished.reverted (h : Finished config limits s code more)
    (hon : s.stdinMode.enabled = true) (henabled : Enabled s.stdinMode made) :
    Reverted (made ++ more) := by
  obtain ⟨asked, hasked, hnonneg, hflags⟩ := henabled
  cases h with
  | @mk ns stopped g success p attempted closing p' restored destroying p'' shutdown _ _ _ _
      hrestored hdestroying =>
    obtain ⟨again, reply, rfl, hlast⟩ := hrestored.last hon
    refine ⟨made ++ (.monotonicNow ns :: (stopped ++ (attempted ++ (closing ++
      .shutdownRequested shutdown :: again)))), _, reply, destroying, by simp, hlast, ?_, asked,
      by simp [hasked], hnonneg, hflags⟩
    intro call hcall
    obtain ⟨e, rfl⟩ := hdestroying.ports call hcall
    rfl

/-- What a process leaves behind: it has called `close` for every descriptor that it has opened, and
it has asked for the flags of the standard input to be what they were. -/
structure Released (trace : List ProcessCall) (code : Nat) : Prop where
  descriptors : (systemTrace trace).foldlM ledger none = some none
  balanced (fd : Int) : (systemTrace trace).countP (SystemCall.opens fd) =
    (systemTrace trace).countP (SystemCall.closes fd)
  stdin : code ∉ [4, 5, 6] → Reverted trace

theorem release (run : (process config).Run h (.inr code)) : Released (called h) code := by
  obtain ⟨d, hacts, hstanding⟩ := acts_of_run run
  have hguarded := hacts.guarded_opening
  have hheld : d.guard.port.holding = none := SerialPort.holding_closed (hstanding.exited rfl)
  obtain ⟨hledger, -, -⟩ := SystemCall.ledger_of_guarded hguarded.descriptors
  rw [hheld, SerialPort.holding_closed rfl] at hledger
  refine ⟨hledger, by simpa using SystemCall.ledger_count hledger, fun hcode => ?_⟩
  have hover : Over config (makeSafetyConfig config) code (called h) := conducted run
  generalize called h = trace at hover
  cases hover with
  | refused hrefused => exact absurd hrefused.among hcode
  | finished _ _ _ hon henabled hfinished => exact hfinished.reverted hon henabled

theorem drive_released : Released (called drive.reverse) 0 := release drive_run

end WheeltecVcuSerial.Cli
