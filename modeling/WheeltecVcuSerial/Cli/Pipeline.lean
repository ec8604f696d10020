import WheeltecVcuSerial.Cli.Agreement
import WheeltecVcuSerial.Cli.Framing
import WheeltecVcuSerial.Session.Admission
import WheeltecVcuSerial.Teleop.Main
import WheeltecVcuSerial.Teleop.Writer

namespace WheeltecVcuSerial.Cli

open Teleop Text Trace Program

variable {config : RuntimeConfig} {d : Service} {made : List ProcessCall}
  {done : List (List Char × Event)} {h : List (List ProcessCall)} {next : Phase ⊕ Nat}
  {line : ProtocolLine} {text : List Char} {lines : List ProtocolLine} {texts : List (List Char)}

/-- The call that a line of the controller leads to: its own, or a disarm where the clock fails. -/
def Obeys (line : ProtocolLine) (e : Event) : Prop :=
  ∃ ns, 0 < ns ∧ Matches ns line e.op ∨ ns ≤ 0 ∧ e.op = .disarm ns

theorem disarm_of_clock (text : List Char) {ns : Int} (h : ns ≤ 0) :
    (processLine text ns).1 = .disarm ns := by
  have hcall := processLine_call text ns
  generalize processLine text ns = called at hcall
  cases hcall <;> first | rfl | omega

theorem obeys_of_op {e : Event} {ns : Int} (hwrites : Writes line text) (hline : line.InRange)
    (hop : e.op = (processLine text ns).1) : Obeys line e := by
  obtain ⟨minusZero, rfl⟩ := hwrites
  by_cases hns : 0 < ns
  · obtain ⟨op, hparse, hmatches⟩ := processLine_text hns hline minusZero
    rw [hparse] at hop
    exact ⟨ns, .inl ⟨hns, hop ▸ hmatches⟩⟩
  · rw [disarm_of_clock _ (not_lt.mp hns)] at hop
    exact ⟨ns, .inr ⟨not_lt.mp hns, hop⟩⟩

/-- Every handled line has had its call. -/
theorem Handles.called (h : Handles made done) :
    ∀ x ∈ done, ∃ ns, x.2.op = (processLine x.1 ns).1 := by
  induction h with
  | nil => simp
  | other _ _ _ ih => exact ih
  | line _ hop ih => exact List.forall_mem_append.mpr ⟨ih, by simpa using ⟨_, hop⟩⟩

theorem dropCarriageReturn_writes (h : Writes line text) : dropCarriageReturn text = text := by
  obtain ⟨minusZero, rfl⟩ := h
  refine if_neg fun hlast => ?_
  exact (inner_text minusZero line _ (List.mem_of_getLast? hlast)).2 rfl

/-- The lines that were written are the lines that are read. -/
theorem completeLines_written (h : List.Forall₂ Writes lines texts) :
    completeLines (joined '\n' texts []) = texts := by
  have hwrites : ∀ text ∈ texts, ∃ line, Writes line text := fun text htext =>
    (exists_of_forall₂ h text htext).imp fun _ hline => hline.2
  have hnewline : ∀ text ∈ texts, '\n' ∉ text := by
    intro text htext hmem
    obtain ⟨line, minusZero, rfl⟩ := hwrites text htext
    exact (inner_text minusZero line _ hmem).1 rfl
  have hkept : ∀ text ∈ texts, dropCarriageReturn text = text := fun text htext =>
    (hwrites text htext).elim fun _ => dropCarriageReturn_writes
  rw [completeLines, cut_joined hnewline (by simp)]
  exact (List.map_congr_left hkept).trans (List.map_id texts)

/-- The calls that the lines of a controller lead to, line by line. -/
def Obeyed (lines : List ProtocolLine) (done : List (List Char × Event)) : Prop :=
  List.Forall₂ (fun line x => Writes line x.1 ∧ Obeys line x.2) lines done

theorem obeyed_of_writes (hwritten : List.Forall₂ Writes lines texts)
    (hrange : ∀ line ∈ lines, line.InRange)
    (hcalled : ∀ x ∈ done, ∃ ns, x.2.op = (processLine x.1 ns).1)
    (hdone : done.map Prod.fst = texts) : Obeyed lines done := by
  induction hwritten generalizing done with
  | nil =>
    obtain rfl := List.map_eq_nil_iff.mp hdone
    exact .nil
  | @cons line text lines texts hwrites _ ih =>
    obtain ⟨x, rest, rfl, rfl, hrest⟩ := List.map_eq_cons_iff.mp hdone
    rw [List.forall_mem_cons] at hrange hcalled
    obtain ⟨ns, hop⟩ := hcalled.1
    exact .cons ⟨hwrites, obeys_of_op hwrites hrange.1 hop⟩ (ih hrange.2 hcalled.2 hrest)

/-- The lines that a controller has emitted over its calls. -/
def emitted (teleop : ValidatedConfig) (calls : List Call) : List ProtocolLine :=
  ((TeleopController.construct teleop).run calls).output.reverse

/-- A process reads what the writer makes of the lines: `text`, or a beginning of it that does not
end within a line. -/
structure Piped (lines : List ProtocolLine) (text : List Char) (trace : List ProcessCall) :
    Prop where
  written : ∃ texts, List.Forall₂ Writes lines texts ∧ emitAll texts = some text
  pipe : stdinText trace <+: text
  whole : EndRead trace → unfinished (stdinText trace) = []

/-- What a process makes of the lines of a controller: the first of them are handled. -/
structure Serves (lines : List ProtocolLine) (trace : List ProcessCall)
    (done : List (List Char × Event)) : Prop where
  handles : Handles trace done
  obeyed : ∃ first, first <+: lines ∧ Obeyed first done ∧
    (done.map Prod.fst = completeLines (stdinText trace) →
      ∀ text, Piped lines text trace → stdinText trace = text → first = lines)

theorem Framing.serves (hframing : Framing made done) (hrange : ∀ line ∈ lines, line.InRange)
    (hpiped : Piped lines text made) : Serves lines made done := by
  obtain ⟨⟨texts, hwritten, hemit⟩, hpipe, hwhole⟩ := hpiped
  have htext (text : List Char) (texts : List (List Char))
      (hwritten : List.Forall₂ Writes lines texts) (hemit : emitAll texts = some text) :
      completeLines text = texts := by
    rw [emitAll_writes hwritten] at hemit
    rw [← Option.some.inj hemit, completeLines_written hwritten]
  have hcomplete : completeLines (stdinText made) <+: texts := by
    rw [← htext text texts hwritten hemit]
    exact (cut_beginning hpipe).map _
  have hfirst : done.map Prod.fst <+: completeLines (stdinText made) := by
    by_cases hend : EndRead made
    · simpa [linesOf, hwhole hend] using hframing.lines
    · exact hframing.complete hend
  have htexts : done.map Prod.fst = texts.take done.length := by
    simpa using List.prefix_iff_eq_take.mp (hfirst.trans hcomplete)
  refine ⟨hframing.handles, lines.take done.length, List.take_prefix _ _, ?_, ?_⟩
  · exact obeyed_of_writes (List.forall₂_take _ hwritten)
      (fun line hline => hrange line (List.mem_of_mem_take hline)) hframing.handles.called htexts
  · rintro hall text' ⟨⟨texts', hwritten', hemit'⟩, -, -⟩ hread
    have hlength : done.length = lines.length := by
      rw [← List.length_map (f := Prod.fst), hall, hread, htext text' texts' hwritten' hemit',
        hwritten'.length_eq]
    rw [hlength, List.take_length]

/-- At the head of the loop, all complete lines are handled, and there are no others. -/
theorem Framed.complete (h : Framed d made done) (hstage : d.stage = .head)
    (hpiped : Piped lines text made) : done.map Prod.fst = completeLines (stdinText made) := by
  rw [h.due hstage, dueLines]
  split
  · case isTrue hend => simp [linesOf, hpiped.whole hend]
  · rfl

theorem inRange_emitted {teleop : ValidatedConfig} {calls : List Call} :
    ∀ line ∈ emitted teleop calls, line.InRange := fun line hline =>
  inRange_of_run (TeleopController.run_trace teleop calls) line (List.mem_reverse.mp hline)

/-- From the keyboard to the session.  What a controller emits goes through the writer and a pipe,
which hands it on in whatever pieces.  Then the lines that the process has handled are the first
ones of the controller, and each of them has led to its own call, in the same order.  When the
process is at the head of its loop or has ended regularly, no line that has come is left out. -/
theorem pipeline {teleop : ValidatedConfig} {calls : List Call} (run : (process config).Run h next)
    (hpiped : Piped (emitted teleop calls) text (called h)) :
    ∃ first done, first <+: emitted teleop calls ∧ Handles (called h) done ∧ Obeyed first done ∧
      (Settled next → done.map Prod.fst = completeLines (stdinText (called h)) ∧
        (stdinText (called h) = text → first = emitted teleop calls)) := by
  obtain ⟨d, done, hframed, hhead⟩ := framed_of_run run
  obtain ⟨hhandles, first, hfirst, hobeyed, hall⟩ := hframed.toFraming.serves inRange_emitted hpiped
  refine ⟨first, done, hfirst, hhandles, hobeyed, fun hsettled => ?_⟩
  have hcomplete := hframed.complete (hhead hsettled) hpiped
  exact ⟨hcomplete, hall hcomplete text hpiped⟩

/-! The sample process reads the lines of the sample controller. -/

def driveText : List Char :=
  joined '\n' (driveLines.map fun line => line.text (false, false)) []

theorem drive_piped {trace : List ProcessCall} (hread : stdinText trace = driveText) :
    Piped driveLines driveText trace where
  written := by
    have hwrites : List.Forall₂ Writes driveLines
        (driveLines.map fun line => line.text (false, false)) :=
      List.forall₂_map_right_iff.mpr (List.forall₂_same.mpr fun line _ => ⟨_, rfl⟩)
    exact ⟨_, hwrites, emitAll_writes hwrites⟩
  pipe := hread ▸ List.prefix_rfl
  whole _ := by
    rw [hread]
    decide +kernel

/-- The calls of the sample controller, as `main` makes them. -/
def driveCalls : List Call :=
  .forceStop :: ((TeleopController.construct driveTeleop).forceStop.sessionCalls driveRounds ++
    [.finish])

theorem drive_emitted : emitted driveTeleop driveCalls = driveLines := by decide +kernel

theorem drive_read : stdinText (called drive.reverse) = driveText := by decide +kernel

theorem drive_pipeline : ∃ done, Handles (called drive.reverse) done ∧
    Obeyed (emitted driveTeleop driveCalls) done := by
  have hpiped : Piped (emitted driveTeleop driveCalls) driveText (called drive.reverse) :=
    drive_emitted ▸ drive_piped drive_read
  obtain ⟨first, done, -, hhandles, hobeyed, hall⟩ := pipeline drive_run hpiped
  obtain rfl := (hall (.inr (.inl rfl))).2 drive_read
  exact ⟨done, hhandles, hobeyed⟩

/-! ### From the keyboard to the wire -/

theorem mem_of_mem_submissionsSince {recent : List Event} {submission : Submission}
    (h : submission ∈ submissionsSince recent) :
    ∃ e ∈ recent, e.submission = some submission := by
  induction recent with
  | nil => cases h
  | cons e recent ih =>
    rw [submissionsSince] at h
    split at h
    · cases h
    · rw [List.mem_append] at h
      rcases h with h | h
      · exact ⟨e, List.mem_cons_self, by simpa using h⟩
      · obtain ⟨x, hx, hsubmission⟩ := ih h
        exact ⟨x, List.mem_cons_of_mem e hx, hsubmission⟩

theorem op_of_submission {e : Event} {submission : Submission}
    (h : e.submission = some submission) :
    e.op = .submit submission.command submission.receiptNs := by
  obtain ⟨command, hcommand, rfl⟩ := Option.map_eq_some_iff.mp h
  obtain ⟨now, -, hop, -⟩ := Op.admittedCommand_eq_some hcommand
  rw [hop]
  rfl

/-- Behind a motion frame of a session are a grant and, after it, the submission that it carries. -/
theorem calls_of_motion {limits : SafetyConfig} {later earlier : List Event} {w} {e : Event}
    {write : Write}
    (run : (sessionMachine Link.Evolves limits).Run (later ++ e :: earlier) w)
    (hwrite : write ∈ e.writes) (hkind : write.kind = .motion) :
    ∃ grant submit time, ∃ latest : Submission, [grant, submit].Sublist earlier.reverse ∧
      grant.Authorizes write.generation time ∧
        submit.op = .submit latest.command latest.receiptNs ∧
          Carries limits e.op.now write latest := by
  obtain ⟨_, _, hearlier, hstep, -⟩ := run.step_of_mem
  obtain ⟨recent, grant, older, time, fresh, latest, rfl, hgrant, -, -, hfresh, -, -, -, hlatest,
    hcarries⟩ := (motionJustified_of_step hearlier hstep hwrite hkind).permitted
  obtain ⟨submit, hsubmit, hsubmission⟩ := mem_of_mem_submissionsSince
    (hfresh.subset (List.mem_of_mem_head? hlatest))
  refine ⟨grant, submit, time, latest, ?_, hgrant, op_of_submission hsubmission, hcarries⟩
  have hafter : [submit].Sublist recent.reverse :=
    List.singleton_sublist.mpr (List.mem_reverse.mpr hsubmit)
  rw [List.reverse_append, List.reverse_cons, List.append_assoc, List.singleton_append]
  exact (hafter.cons_cons grant).trans (List.sublist_append_right _ _)

theorem exists_sublist_of_forall₂ {R : α → β → Prop} {as : List α} {bs sub : List β}
    (h : List.Forall₂ R as bs) (hsub : sub.Sublist bs) :
    ∃ part, part.Sublist as ∧ List.Forall₂ R part sub := by
  induction h generalizing sub with
  | nil =>
    obtain rfl := List.sublist_nil.mp hsub
    exact ⟨[], .slnil, .nil⟩
  | cons hab _ ih =>
    cases hsub with
    | cons _ hsub =>
      obtain ⟨part, hpart, hforall⟩ := ih hsub
      exact ⟨part, hpart.cons _, hforall⟩
    | cons_cons _ hsub =>
      obtain ⟨part, hpart, hforall⟩ := ih hsub
      exact ⟨_ :: part, hpart.cons_cons _, .cons hab hforall⟩

/-- The lines that a trace has handled, each of them with its own call. -/
def Heeded (lines : List ProtocolLine) (trace : List ProcessCall) : Prop :=
  ∃ done, Handles trace done ∧ Obeyed lines done

/-- Commands that the session has been given are ones that the lines have, in the same order. -/
theorem Heeded.commands {trace : List ProcessCall} (h : Heeded lines trace) {events : List Event}
    (hevents : events.Sublist (trace.filterMap ProcessCall.sessionEvent))
    (hcommands : ∀ e ∈ events, commands e.op = true) :
    ∃ part, part.Sublist lines ∧ List.Forall₂ Obeys part events := by
  obtain ⟨done, hhandles, hobeyed⟩ := h
  have hsub : events.Sublist (done.map Prod.snd) := by
    have hfiltered := hevents.filter (Cli.commands ·.op)
    rw [List.filter_eq_self.mpr hcommands, hhandles.commands_eq] at hfiltered
    exact hfiltered.trans List.filter_sublist
  obtain ⟨sub, hkept, rfl⟩ := List.sublist_map_iff.mp hsub
  obtain ⟨part, hpart, hforall⟩ := exists_sublist_of_forall₂ hobeyed hkept
  exact ⟨part, hpart, List.forall₂_map_right_iff.mpr (hforall.imp fun _ _ h => h.2)⟩

/-- The speeds of a line, as the process reads them: the decimals are taken exactly, and so is the
product with 1000 that `encodeCommand` makes of them. -/
def readSpeeds (linear yaw : ℚ) : MotionCommand :=
  { linearSpeedMps := .finite (Decimal.roundTo 9 linear)
    lateralSpeedMps := .finite 0
    yawRateRadps := .finite (Decimal.roundTo 9 yaw) }

/-- A tick at `now` has made a call of the port, after the calls `before`. -/
def Ticked (trace before : List ProcessCall) (now : Int) (e : PortEvent) : Prop :=
  ∃ x answers after motionOutcome zeroOutcome, trace = before ++ .session x answers :: after ∧
    e ∈ answers ∧ x.op = .tick now motionOutcome zeroOutcome

/-- A command that holds at `now`, with the frame for its speeds. -/
inductive Holds (config : RuntimeConfig) (now : Int) (frame : List UInt8) : ProtocolLine → Prop
  | command {sequence created deadline : ℤ} {linear yaw : ℚ} :
      frame = (encodeCommand (readSpeeds linear yaw) config.maxLinearSpeedMps).frame.toList →
      created ≤ now → now ≤ deadline →
      now - created ≤ millisecondsToNanoseconds config.commandTimeoutMs →
      Holds config now frame (.command sequence created deadline linear yaw)

/-- A motion frame that a line of a controller has asked for: before the tick that sends it, while
the line holds, the process has handled the line and, before the line, a grant. -/
structure Driven (config : RuntimeConfig) (lines : List ProtocolLine) (trace : List ProcessCall)
    (e : PortEvent) (frame : List UInt8) (line : ProtocolLine) : Prop where
  sent : ∃ before now first, Ticked trace before now e ∧ Holds config now frame line ∧
    first <+: lines ∧ Heeded first before ∧ ∃ token, [.auth token, line].Sublist first

/-- A line that has led to a grant and one that has led to a submission. -/
theorem lines_of_motion {grant submit : Event} {generation : Nat} {time : Int}
    {latest : Submission} {part : List ProtocolLine} (hgrant : grant.Authorizes generation time)
    (hsubmit : submit.op = .submit latest.command latest.receiptNs)
    (h : List.Forall₂ Obeys part [grant, submit]) :
    ∃ token sequence created deadline linear yaw,
      part = [.auth token, .command sequence created deadline linear yaw] ∧
        latest.command.createdMonotonicNs = created ∧
        latest.command.deadlineMonotonicNs = deadline ∧
        latest.command.motion = readSpeeds linear yaw := by
  obtain ⟨granting, rest, ⟨ns, hgranting⟩, hrest, rfl⟩ := List.forall₂_cons_right_iff.mp h
  obtain ⟨submitting, none, ⟨ns', hsubmitting⟩, hnone, rfl⟩ :=
    List.forall₂_cons_right_iff.mp hrest
  obtain rfl := List.forall₂_nil_right_iff.mp hnone
  obtain ⟨token, htoken, -⟩ := hgrant
  obtain ⟨command, receiptNs⟩ := latest
  rw [htoken] at hgranting
  rw [hsubmit] at hsubmitting
  obtain ⟨-, hgranting⟩ := hgranting.resolve_right nofun
  obtain ⟨-, hsubmitting⟩ := hsubmitting.resolve_right nofun
  cases hgranting
  cases hsubmitting
  exact ⟨_, _, _, _, _, _, rfl, rfl, rfl, rfl⟩

theorem ne_tick (text : List Char) (ns now : Int) (motionOutcome zeroOutcome : WriteOutcome) :
    .tick now motionOutcome zeroOutcome ≠ (processLine text ns).1 := by
  have hcall := processLine_call text ns
  generalize processLine text ns = called at hcall
  cases hcall <;> nofun

theorem sessionHistory_split {trace before after : List ProcessCall} {x : Event}
    {answers : List PortEvent} (h : trace = before ++ .session x answers :: after) :
    sessionHistory trace =
      sessionHistory after ++ x :: (before.filterMap ProcessCall.sessionEvent).reverse := by
  have hevent : ProcessCall.sessionEvent (.session x answers) = some x := rfl
  rw [h, sessionHistory, List.filterMap_append, List.filterMap_cons_some hevent]
  simp [sessionHistory]

/-- The lines that were handled before a tick. -/
theorem Serves.before {trace before after : List ProcessCall} {x : Event}
    {answers : List PortEvent} (h : Serves lines trace done)
    (htrace : trace = before ++ .session x answers :: after) {now : Int}
    {motionOutcome zeroOutcome : WriteOutcome} (hop : x.op = .tick now motionOutcome zeroOutcome) :
    ∃ first, first <+: lines ∧ Heeded first before := by
  obtain ⟨first, hfirst, hobeyed, -⟩ := h.obeyed
  obtain ⟨part, hpart, hhandles⟩ := Handles.before (htrace ▸ h.handles)
    fun text ns => hop ▸ ne_tick text ns now motionOutcome zeroOutcome
  have hbeginning := List.forall₂_take part.length hobeyed
  rw [← List.prefix_iff_eq_take.mp hpart] at hbeginning
  exact ⟨first.take part.length, (List.take_prefix _ _).trans hfirst, part, hhandles, hbeginning⟩

/-- A motion frame of a session that the process has fed with lines. -/
theorem Serves.driven {trace before after : List ProcessCall} {x : Event}
    {answers : List PortEvent} (h : Serves lines trace done)
    (htrace : trace = before ++ .session x answers :: after) {w : WheeltecVcuSerial.World}
    (hrun : (sessionMachine Link.Evolves (makeSafetyConfig config)).Run (sessionHistory trace) w)
    {write : Write} (hwrite : write ∈ x.writes) (hkind : write.kind = .motion) {e : PortEvent}
    (he : e ∈ answers) : ∃ line, Driven config lines trace e write.buffer line := by
  rw [sessionHistory_split htrace] at hrun
  have htransition := transition_of_mem hrun (List.mem_append_right _ List.mem_cons_self)
  obtain ⟨now, motionOutcome, zeroOutcome, hop, -⟩ := htransition.motion hwrite hkind
  obtain ⟨grant, submit, time, latest, hsub, hgrant, hsubmit, hcarries⟩ :=
    calls_of_motion hrun hwrite hkind
  rw [List.reverse_reverse] at hsub
  rw [show x.op.now = now by rw [hop, Op.now]] at hcarries
  obtain ⟨first, hfirst, hheeded⟩ := h.before htrace hop
  have hcommands : ∀ e ∈ [grant, submit], commands e.op = true := by
    obtain ⟨token, hgranted, -⟩ := id hgrant
    simp [hgranted, hsubmit, commands]
  obtain ⟨two, htwo, hforall⟩ := hheeded.commands hsub hcommands
  obtain ⟨token, sequence, created, deadline, linear, yaw, rfl, hcreated, hdeadline, hmotion⟩ :=
    lines_of_motion hgrant hsubmit hforall
  have hholds : Holds config now write.buffer (.command sequence created deadline linear yaw) :=
    .command (hmotion ▸ hcarries.frame) (hcreated ▸ hcarries.created)
      (hdeadline ▸ hcarries.deadline) (hcreated ▸ hcarries.age)
  exact ⟨_, before, now, first, ⟨x, answers, after, _, _, htrace, he, hop⟩, hholds, hfirst,
    hheeded, token, htwo⟩

theorem driven_of_wire (run : (process config).Run h next)
    (hrange : ∀ line ∈ lines, line.InRange) (hpiped : Piped lines text (called h)) :
    ∀ e ∈ portTrace (called h), ∀ data deadlineNs, e.record.call = .writeAll data deadlineNs →
      data = .bytes makeZeroCommandFrame.toList ∨
        ∃ frame line, data = .bytes frame ∧ Driven config lines (called h) e frame line := by
  intro e he data deadlineNs hcall
  obtain ⟨d, hacts, -⟩ := acts_of_run run
  obtain ⟨_, done, hframed, -⟩ := framed_of_run run
  have hserves := hframed.toFraming.serves hrange hpiped
  obtain ⟨call, hmem, he⟩ := List.mem_flatMap.mp he
  cases call with
  | port e' =>
    obtain rfl := List.mem_singleton.mp he
    exact .inl (hacts.direct hmem hcall)
  | session x answers =>
    obtain ⟨w, hrun, -⟩ := hacts.session
    obtain ⟨write, hwrite, hasked, -⟩ := exists_of_forall₂ (hacts.answered hmem) e he
    obtain ⟨rfl, -⟩ := PortCall.writeAll.inj (hasked.symm.trans hcall)
    have hevent : x ∈ sessionHistory (called h) :=
      List.mem_reverse.mpr (List.mem_filterMap.mpr ⟨_, hmem, rfl⟩)
    have htransition := transition_of_mem hrun hevent
    refine (htransition.zero_or_motion hwrite).2.imp (congrArg _) fun hkind => ?_
    obtain ⟨before, after, htrace⟩ := List.append_of_mem hmem
    obtain ⟨line, hdriven⟩ := hserves.driven htrace hrun hwrite hkind he
    exact ⟨_, line, rfl, hdriven⟩
  | _ => cases he

/-- From the keyboard to the wire.  Every frame that the process hands to its port is the exact zero
frame, or it carries the speeds of a command of the controller that still holds. -/
theorem wire_driven {teleop : ValidatedConfig} {calls : List Call}
    (run : (process config).Run h next)
    (hpiped : Piped (emitted teleop calls) text (called h)) :
    ∀ e ∈ portTrace (called h), ∀ data deadlineNs, e.record.call = .writeAll data deadlineNs →
      data = .bytes makeZeroCommandFrame.toList ∨ ∃ frame line, data = .bytes frame ∧
        Driven config (emitted teleop calls) (called h) e frame line :=
  driven_of_wire run inRange_emitted hpiped

/-- The frame that moves the vehicle carries the speeds of a command. -/
theorem drive_driven : ∃ e ∈ portTrace (called drive.reverse), ∃ frame line,
    Driven driveConfig (emitted driveTeleop driveCalls) (called drive.reverse) e frame line := by
  have hpiped : Piped (emitted driveTeleop driveCalls) driveText (called drive.reverse) :=
    drive_emitted ▸ drive_piped drive_read
  obtain ⟨e, he, hmoves⟩ := drive_moves
  obtain ⟨data, deadlineNs, hcall, hdata⟩ := PortCall.write_of_not_harmless hmoves
  obtain ⟨frame, line, -, hdriven⟩ :=
    (wire_driven drive_run hpiped e he data deadlineNs hcall).resolve_left hdata
  exact ⟨e, he, frame, line, hdriven⟩

end WheeltecVcuSerial.Cli
