import WheeltecVcuSerial.Teleop.Text
import WheeltecVcuSerial.Text.Lines

namespace WheeltecVcuSerial.Teleop

open Decimal Text

/-- `emit`: what it writes, unless it raises. -/
def emit (line : List Char) : Option (List Char) :=
  if '\n' ∈ line ∨ '\r' ∈ line then none else some (line ++ ['\n'])

/-- What the lines leave in the stream, one after the other. -/
def emitAll (lines : List (List Char)) : Option (List Char) := (lines.mapM emit).map List.flatten

/-- A character that does not end a line. -/
def Inner (c : Char) : Prop := c ≠ '\n' ∧ c ≠ '\r'

theorem inner_of_isDigit {c : Char} (h : c.isDigit = true) : Inner c := by
  constructor <;> rintro rfl <;> cases h

theorem inner_intText (n : ℤ) : ∀ c ∈ intText n, Inner c := by
  intro c hc
  rw [intText, List.mem_append] at hc
  rcases hc with hsign | hdigit
  · obtain ⟨-, rfl⟩ : n < 0 ∧ c = '-' := by simpa using hsign
    exact ⟨by decide, by decide⟩
  · exact inner_of_isDigit (isDigit_of_mem_toDigits hdigit)

theorem inner_fixedText (digits : ℕ) (negative : Bool) (n : ℕ) :
    ∀ c ∈ fixedText digits negative n, Inner c := by
  intro c hc
  simp only [fixedText, List.mem_append, List.mem_cons] at hc
  rcases hc with (hsign | hwhole) | rfl | hfraction
  · obtain ⟨-, rfl⟩ : negative = true ∧ c = '-' := by simpa using hsign
    exact ⟨by decide, by decide⟩
  · exact inner_of_isDigit (isDigit_of_mem_toDigits hwhole)
  · exact ⟨by decide, by decide⟩
  · exact inner_of_isDigit (isDigit_of_mem_paddedText hfraction)

/-- No line of the protocol ends before its newline. -/
theorem inner_text (minusZero : Bool × Bool) (line : ProtocolLine) :
    ∀ c ∈ line.text minusZero, Inner c := by
  have hspace : Inner ' ' := ⟨by decide, by decide⟩
  cases line with
  | auth token =>
    simp only [ProtocolLine.text, List.forall_mem_append, List.forall_mem_cons]
    exact ⟨by simp [Inner], hspace, inner_intText token⟩
  | command sequence created deadline linear yaw =>
    simp only [ProtocolLine.text, List.forall_mem_append, List.forall_mem_cons]
    exact ⟨by simp [Inner], hspace, inner_intText _, hspace, inner_intText _, hspace,
      inner_intText _, hspace, inner_fixedText _ _ _, hspace, inner_fixedText _ _ _⟩
  | stop | estop | quit => simp [ProtocolLine.text, Inner]

/-- A text that a line is written as. -/
def Writes (line : ProtocolLine) (text : List Char) : Prop :=
  ∃ minusZero, text = line.text minusZero

theorem Writes.emit {line : ProtocolLine} {text : List Char} (h : Writes line text) :
    emit text = some (text ++ ['\n']) := by
  obtain ⟨minusZero, rfl⟩ := h
  have hinner := inner_text minusZero line
  exact if_neg (not_or.mpr ⟨fun hmem => (hinner _ hmem).1 rfl, fun hmem => (hinner _ hmem).2 rfl⟩)

/-- The writer never raises on the lines of a controller. -/
theorem emitAll_writes {lines : List ProtocolLine} {texts : List (List Char)}
    (h : List.Forall₂ Writes lines texts) : emitAll texts = some (joined '\n' texts []) := by
  suffices texts.mapM emit = some (texts.map (· ++ ['\n'])) by
    rw [emitAll, this, joined, List.append_nil]
    exact congrArg some List.flatMap_def.symm
  induction h with
  | nil => rfl
  | cons hwrites _ ih => simp [List.mapM_cons, hwrites.emit, ih]

end WheeltecVcuSerial.Teleop
