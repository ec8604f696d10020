import WheeltecVcuSerial.Cli.Pipeline
import WheeltecVcuSerial.Cli.StopDiscipline
import WheeltecVcuSerial.Teleop.Main

namespace WheeltecVcuSerial.Cli

open Teleop Text Trace Program

variable {config : RuntimeConfig} {made : List ProcessCall} {done : List (List Char × Event)}
  {d : Service} {s : CliState} {h : List (List ProcessCall)} {line : ProtocolLine}
  {text : List Char} {lines : List ProtocolLine} {texts : List (List Char)}

/-- With all the lines handled, all of the text has been read. -/
theorem Piped.read (hpiped : Piped lines text made)
    (hcount : lines.length ≤ (completeLines (stdinText made)).length) : stdinText made = text := by
  obtain ⟨⟨texts, hwritten, hemit⟩, hpipe, -⟩ := hpiped
  rw [emitAll_writes hwritten] at hemit
  have hlines : ∀ text ∈ texts, '\n' ∉ text := by
    intro text htext hmem
    obtain ⟨line, -, minusZero, rfl⟩ := exists_of_forall₂ hwritten text htext
    exact (inner_text minusZero line _ hmem).1 rfl
  have hcut : cut '\n' text = (texts, []) := by
    rw [← Option.some.inj hemit]
    exact cut_joined hlines (by simp)
  have hended : (cut '\n' text).2 = [] := by rw [hcut]
  refine eq_of_cut_length hpipe hended ?_
  rw [hcut, ← hwritten.length_eq]
  simpa [completeLines] using hcount

end WheeltecVcuSerial.Cli
