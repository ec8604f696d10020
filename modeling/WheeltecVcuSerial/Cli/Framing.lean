import WheeltecVcuSerial.Cli.ExitCode

namespace WheeltecVcuSerial.Cli

open Text Trace Program

variable {config : RuntimeConfig} {limits : SafetyConfig} {d d' : Service} {s : CliState}
  {made more : List ProcessCall} {done : List (List Char × Event)} {h : List (List ProcessCall)}
  {next : Phase ⊕ Nat}

/-! ### What the input says -/

/-- The lines of a text that are over. -/
def completeLines (text : List Char) : List (List Char) :=
  (cut '\n' text).1.map dropCarriageReturn

/-- What stands after the last newline. -/
def unfinished (text : List Char) : List Char := (cut '\n' text).2

/-- The lines of a text that ends here. -/
def linesOf (text : List Char) : List (List Char) :=
  completeLines text ++ if unfinished text = [] then [] else [unfinished text]

theorem completeLines_append (text more : List Char) :
    completeLines (text ++ more) =
      completeLines text ++ completeLines (unfinished text ++ more) := by
  rw [completeLines, cut_append, List.map_append]
  rfl

theorem unfinished_append (text more : List Char) :
    unfinished (text ++ more) = unfinished (unfinished text ++ more) := by
  rw [unfinished, cut_append]
  rfl

theorem completeLines_of_not_mem {text : List Char} (h : '\n' ∉ text) :
    completeLines text = [] := by
  rw [completeLines, cut_of_not_mem h]
  rfl

theorem unfinished_of_not_mem {text : List Char} (h : '\n' ∉ text) : unfinished text = text := by
  rw [unfinished, cut_of_not_mem h]

theorem newline_not_mem_unfinished (text : List Char) : '\n' ∉ unfinished text :=
  (joined_cut '\n' text).2.2

/-! ### What the process has of it -/

def delivered : ProcessCall → List Char
  | .readStdin (.delivered data) => data
  | _ => []

/-- All that has been read, whatever the pieces that it came in. -/
def stdinText (trace : List ProcessCall) : List Char := trace.flatMap delivered

theorem stdinText_append (trace more : List ProcessCall) :
    stdinText (trace ++ more) = stdinText trace ++ stdinText more := List.flatMap_append

/-- The end of the input has been read. -/
def EndRead (trace : List ProcessCall) : Prop := .readStdin (.delivered []) ∈ trace

instance : Decidable (EndRead trace) := inferInstanceAs (Decidable (_ ∈ _))

/-- The lines that are due: a last one without a newline is, once the input has ended. -/
def dueLines (trace : List ProcessCall) : List (List Char) :=
  if EndRead trace then linesOf (stdinText trace) else completeLines (stdinText trace)

/-- The calls of the session that nothing but a line makes. -/
def commands : Op → Bool
  | .authorize _ _ | .submit _ _ | .requestStop _ | .resetEmergencyStop _ _ => true
  | _ => false

/-- A line of the input, a piece of it, or a call that only a line makes. -/
def fromInput : ProcessCall → Bool
  | .processLine _ | .readStdin (.delivered _) => true
  | .session e _ => commands e.op
  | _ => false

/-- The lines that a trace handles, each with the one call that it makes of the session. -/
inductive Handles : List ProcessCall → List (List Char × Event) → Prop
  | nil : Handles [] []
  | other {call : ProcessCall} {done : List (List Char × Event)} :
      Handles trace done → (∀ line, call ≠ .processLine line) →
      (∀ e answers, call = .session e answers → commands e.op = false) →
      Handles (trace ++ [call]) done
  | line {done : List (List Char × Event)} : Handles trace done → e.op = (processLine line ns).1 →
      Handles (trace ++ [.processLine line, .monotonicNow ns, .session e []]) (done ++ [(line, e)])

theorem Handles.others (h : Handles made done) (hmore : ∀ call ∈ more, fromInput call = false) :
    Handles (made ++ more) done := by
  induction more generalizing made with
  | nil => rwa [List.append_nil]
  | cons call more ih =>
    rw [List.forall_mem_cons] at hmore
    rw [List.append_cons]
    refine ih (h.other ?_ ?_) hmore.2
    · rintro line rfl
      cases hmore.1
    · rintro e answers rfl
      exact hmore.1

/-- The commands of a trace are those of its lines, in the same order. -/
theorem Handles.commands_eq (h : Handles made done) :
    (made.filterMap ProcessCall.sessionEvent).filter (commands ·.op) =
      (done.map Prod.snd).filter (commands ·.op) := by
  induction h with
  | nil => rfl
  | @other trace call done _ _ hother ih =>
    rw [List.filterMap_append, List.filter_append, ih]
    cases call with
    | session e answers => simp [ProcessCall.sessionEvent, hother e answers rfl]
    | _ => simp [ProcessCall.sessionEvent]
  | line _ _ ih =>
    rw [List.filterMap_append, List.filter_append, ih, List.map_append, List.filter_append]
    rfl

/-- Before a call of the session that no line makes, the first lines are handled. -/
theorem Handles.before {before after : List ProcessCall} {x : Event} {answers : List PortEvent}
    (h : Handles (before ++ .session x answers :: after) done)
    (hx : ∀ line ns, x.op ≠ (processLine line ns).1) :
    ∃ first, first <+: done ∧ Handles before first := by
  generalize hmade : before ++ .session x answers :: after = made at h
  induction h generalizing after with
  | nil => simp at hmade
  | @other trace call done hhandles _ _ ih =>
    rcases List.eq_nil_or_concat after with rfl | ⟨after, last, rfl⟩
    · obtain ⟨rfl, -⟩ := List.append_inj' hmade rfl
      exact ⟨done, List.prefix_rfl, hhandles⟩
    · rw [List.concat_eq_append, ← List.cons_append, ← List.append_assoc] at hmade
      exact ih (List.append_inj' hmade rfl).1
  | line _ hop ih =>
    rcases List.append_eq_append_iff.mp hmade with ⟨gap, htrace, hlast⟩ | ⟨gap, -, hlast⟩
    · cases gap with
      | nil => cases hlast
      | cons first gap =>
        obtain ⟨rfl, -⟩ := List.cons.inj hlast
        obtain ⟨first, hfirst, hbefore⟩ := ih htrace.symm
        exact ⟨first, hfirst.trans (List.prefix_append _ _), hbefore⟩
    · have hmem : .session x answers ∈ gap ++ .session x answers :: after := by simp
      rw [← hlast] at hmem
      simp only [List.mem_cons, reduceCtorEq, ProcessCall.session.injEq, List.not_mem_nil,
        or_false, false_or] at hmem
      exact absurd (hmem.1 ▸ hop) (hx _ _)

theorem stdinText_of_inputless (h : ∀ call ∈ more, fromInput call = false) :
    stdinText more = [] := by
  refine List.flatMap_eq_nil_iff.mpr fun call hcall => ?_
  have hinput := h call hcall
  cases call with
  | readStdin answer => cases answer <;> first | rfl | cases hinput
  | _ => rfl

theorem endRead_append_iff (hmore : ∀ call ∈ more, fromInput call = false) :
    EndRead (made ++ more) ↔ EndRead made := by
  rw [EndRead, List.mem_append]
  exact or_iff_left fun hmem => Bool.noConfusion (hmore _ hmem)

theorem stdinText_append_inputless (hmore : ∀ call ∈ more, fromInput call = false) :
    stdinText (made ++ more) = stdinText made := by
  rw [stdinText_append, stdinText_of_inputless hmore, List.append_nil]

theorem not_fromInput_of_aside {call : ProcessCall} (h : call.aside = true) :
    fromInput call = false := by
  cases call <;> first | rfl | cases h

theorem not_fromInput_of_direct {call : ProcessCall} (h : direct call = true) :
    fromInput call = false := by
  cases call <;> first | rfl | cases h

theorem not_fromInput_of_ordinary {call : ProcessCall} (h : ordinary limits call = true) :
    fromInput call = false := by
  cases call with
  | session e answers =>
    obtain ⟨_, _, op⟩ := e
    cases op <;> first | rfl | cases h
  | _ => first | rfl | cases h

theorem not_fromInput_of_tick {e : Event} {answers : List PortEvent} {now : Int}
    (h : e.op.isTick now = true) : fromInput (.session e answers) = false := by
  obtain ⟨_, _, op⟩ := e
  cases op <;> first | rfl | cases h

theorem not_fromInput_of_disarm {e : Event} {answers : List PortEvent} {now : Int}
    (hop : e.op = .disarm now) : fromInput (.session e answers) = false := by
  rw [fromInput, hop]
  rfl

/-! ### The lines in the loop -/

/-- The lines that are handled, those that wait and those that are still to be cut are the lines of
the text. -/
structure Cutting (d : Service) (trace : List ProcessCall) (lines : List (List Char)) : Prop where
  complete : lines ++ (d.lines ++ completeLines d.pending) = completeLines (stdinText trace)
  unfinished : unfinished d.pending = Cli.unfinished (stdinText trace)
  short : ∀ line ∈ lines, line.length ≤ lineLimit

/-- The input is over, and so are its lines. -/
structure Exhausted (d : Service) (trace : List ProcessCall) (lines : List (List Char)) : Prop where
  idle : d.quit = true ∧ d.lines = [] ∧ d.pending = []
  rest : Cli.unfinished (stdinText trace) ≠ []
  lines : lines = completeLines (stdinText trace) ++ [Cli.unfinished (stdinText trace)]
  ended : EndRead trace
  short : ∀ line ∈ completeLines (stdinText trace), line.length ≤ lineLimit

structure Framed (d : Service) (trace : List ProcessCall) (done : List (List Char × Event)) :
    Prop where
  handles : Handles trace done
  lines : Cutting d trace (done.map Prod.fst) ∨ Exhausted d trace (done.map Prod.fst)
  eof : EndRead trace → d.eof = true
  head : d.stage = .head →
    d.lines = [] ∧ '\n' ∉ d.pending ∧ (d.eof = true → d.quit = true ∧ d.pending = [])

/-- Calls that the input has nothing to do with. -/
theorem Framed.other (h : Framed d made done) (hmore : ∀ call ∈ more, fromInput call = false)
    (hlines : d'.lines = d.lines) (hpending : d'.pending = d.pending) (heof : d'.eof = d.eof)
    (hquit : d.quit = true → d'.quit = true)
    (hhead : d'.stage = .head →
      d'.lines = [] ∧ '\n' ∉ d'.pending ∧ (d'.eof = true → d'.quit = true ∧ d'.pending = [])) :
    Framed d' (made ++ more) done := by
  have htext : stdinText (made ++ more) = stdinText made := stdinText_append_inputless hmore
  have hended : EndRead (made ++ more) ↔ EndRead made := endRead_append_iff hmore
  refine ⟨h.handles.others hmore, ?_, ?_, hhead⟩
  · refine h.lines.imp (fun hcut => ?_) fun hall => ?_
    · exact ⟨by rw [hlines, hpending, htext]; exact hcut.complete,
        by rw [hpending, htext]; exact hcut.unfinished, hcut.short⟩
    · obtain ⟨hidle, hrest, hdone, hend, hshort⟩ := hall
      refine ⟨?_, ?_, ?_, hended.mpr hend, ?_⟩
      · rw [hlines, hpending]
        exact ⟨hquit hidle.1, hidle.2⟩
      all_goals rwa [htext]
  · rw [hended, heof]
    exact h.eof

theorem completeLines_unfinished (text : List Char) : completeLines (unfinished text) = [] :=
  completeLines_of_not_mem (newline_not_mem_unfinished text)

theorem unfinished_unfinished (text : List Char) : unfinished (unfinished text) = unfinished text :=
  unfinished_of_not_mem (newline_not_mem_unfinished text)

/-- More of the text, with no lines waiting. -/
theorem Cutting.read {lines : List (List Char)} {data : List Char} (h : Cutting d made lines)
    (hlines : d.lines = []) :
    Cutting { d with pending := d.pending ++ data } (made ++ [.readStdin (.delivered data)])
      lines := by
  have htext : stdinText (made ++ [.readStdin (.delivered data)]) = stdinText made ++ data := by
    simp [stdinText, delivered]
  obtain ⟨hcomplete, hrest, hshort⟩ := h
  rw [hlines, List.nil_append] at hcomplete
  refine ⟨?_, ?_, hshort⟩
  · rw [htext, completeLines_append (stdinText made), ← hcomplete, ← hrest]
    change lines ++ (d.lines ++ completeLines (d.pending ++ data)) = _
    rw [hlines, List.nil_append, completeLines_append, List.append_assoc]
  · rw [htext, unfinished_append (stdinText made), ← hrest]
    exact unfinished_append d.pending data

theorem Cutting.take {lines : List (List Char)} (h : Cutting d made lines) (hlines : d.lines = []) :
    Cutting { d with
      lines := (takeCompleteLines d.pending).1
      pending := (takeCompleteLines d.pending).2 } made lines := by
  obtain ⟨hcomplete, hrest, hshort⟩ := h
  rw [hlines, List.nil_append] at hcomplete
  rw [takeCompleteLines_eq]
  refine ⟨?_, ?_, hshort⟩
  · rw [← hcomplete]
    change lines ++ (completeLines d.pending ++ completeLines (Cli.unfinished d.pending)) = _
    rw [completeLines_unfinished, List.append_nil]
  · exact (unfinished_unfinished d.pending).trans hrest

/-- One more line. -/
theorem Cutting.line {lines waiting : List (List Char)} {line : List Char}
    (h : Cutting d made lines) (hlines : d.lines = line :: waiting)
    (hshort : line.length ≤ lineLimit)
    (hwaiting : d'.lines = waiting) (hpending : d'.pending = d.pending)
    (hmore : stdinText more = []) : Cutting d' (made ++ more) (lines ++ [line]) := by
  have htext : stdinText (made ++ more) = stdinText made := by
    rw [stdinText_append, hmore, List.append_nil]
  obtain ⟨hcomplete, hrest, hall⟩ := h
  refine ⟨?_, by rw [hpending, htext]; exact hrest, ?_⟩
  · rw [htext, ← hcomplete, hlines, hwaiting, hpending, List.append_assoc]
    rfl
  · exact List.forall_mem_append.mpr ⟨hall, by simpa using hshort⟩

/-- The piece that the input ends with. -/
theorem Cutting.trailing {lines : List (List Char)} (h : Cutting d made lines)
    (hlines : d.lines = [])
    (hpending : d.pending ≠ []) (hnewline : '\n' ∉ d.pending) (hended : EndRead made)
    (hidle : d'.quit = true ∧ d'.lines = [] ∧ d'.pending = []) (hmore : stdinText more = []) :
    Exhausted d' (made ++ more) (lines ++ [d.pending]) := by
  have htext : stdinText (made ++ more) = stdinText made := by
    rw [stdinText_append, hmore, List.append_nil]
  obtain ⟨hcomplete, hrest, hshort⟩ := h
  rw [hlines, completeLines_of_not_mem hnewline, List.nil_append, List.append_nil] at hcomplete
  rw [unfinished_of_not_mem hnewline] at hrest
  refine ⟨hidle, ?_, ?_, List.mem_append_left _ hended, ?_⟩
  · rw [htext, ← hrest]
    exact hpending
  · rw [htext, hcomplete, hrest]
  · rw [htext, ← hcomplete]
    exact hshort

theorem Framed.cutting (h : Framed d made done) (hquit : d.quit = false) :
    Cutting d made (done.map Prod.fst) := by
  refine h.lines.resolve_right fun hall => ?_
  rw [hall.idle.1] at hquit
  cases hquit

theorem Handles.read (h : Handles made done) (data : List Char) :
    Handles (made ++ [.readStdin (.delivered data)]) done :=
  h.other (by simp) (by simp)

theorem Framed.read {data : List Char} (h : Framed d made done) (hstage : d.stage = .inRound)
    (hlines : d.lines = []) (hquit : d.quit = false) (hdata : data ≠ []) :
    Framed { d with pending := d.pending ++ data } (made ++ [.readStdin (.delivered data)])
      done := by
  refine ⟨h.handles.read data, .inl ((h.cutting hquit).read hlines), fun hend => h.eof ?_,
    by simp [hstage]⟩
  simpa [EndRead, hdata.symm] using hend

theorem Framed.ended (h : Framed d made done) (hstage : d.stage = .inRound)
    (hlines : d.lines = []) (hquit : d.quit = false) :
    Framed { d with eof := true } (made ++ [.readStdin (.delivered [])]) done := by
  obtain ⟨hcomplete, hrest, hshort⟩ : Cutting { d with pending := d.pending ++ [] }
      (made ++ [.readStdin (.delivered [])]) (done.map Prod.fst) := (h.cutting hquit).read hlines
  rw [List.append_nil] at hcomplete hrest
  exact ⟨h.handles.read [], .inl ⟨hcomplete, hrest, hshort⟩, fun _ => rfl, by simp [hstage]⟩

theorem Framed.take (h : Framed d made done) (hstage : d.stage = .inRound) (hlines : d.lines = [])
    (hquit : d.quit = false) :
    Framed { d with
      lines := (takeCompleteLines d.pending).1
      pending := (takeCompleteLines d.pending).2 } made done :=
  ⟨h.handles, .inl ((h.cutting hquit).take hlines), h.eof, by simp [hstage]⟩

theorem Framed.line {line : List Char} {waiting : List (List Char)} {ns : Int} {e : Event}
    (h : Framed d made done) (hlines : d.lines = line :: waiting)
    (hshort : line.length ≤ lineLimit) (hop : e.op = (processLine line ns).1)
    (hround : d'.stage = .inRound) (hwaiting : d'.lines = waiting)
    (hpending : d'.pending = d.pending)
    (heof : d'.eof = d.eof) :
    Framed d' (made ++ [.processLine line, .monotonicNow ns, .session e []])
      (done ++ [(line, e)]) := by
  refine ⟨h.handles.line hop, .inl ?_, fun hend => heof ▸ h.eof ?_, by simp [hround]⟩
  · have hcut : Cutting d made (done.map Prod.fst) :=
      h.lines.resolve_right fun hall => by simp [hall.idle.2.1] at hlines
    rw [List.map_append]
    exact hcut.line hlines hshort hwaiting hpending (by simp [stdinText, delivered])
  · simpa [EndRead] using hend

theorem Framed.trailing {ns : Int} {e : Event} (h : Framed d made done)
    (hended : d.eof = true → EndRead made) (hstage : d'.stage = .inRound) (heof : d.eof = true)
    (hlines : d.lines = []) (hpending : d.pending ≠ []) (hnewline : '\n' ∉ d.pending)
    (hop : e.op = (processLine d.pending ns).1) (heof' : d'.eof = true)
    (hidle : d'.quit = true ∧ d'.lines = [] ∧ d'.pending = []) :
    Framed d' (made ++ [.processLine d.pending, .monotonicNow ns, .session e []])
      (done ++ [(d.pending, e)]) := by
  refine ⟨h.handles.line hop, .inr ?_, fun _ => heof', by simp [hstage]⟩
  have hcut : Cutting d made (done.map Prod.fst) :=
    h.lines.resolve_right fun hall => hpending hall.idle.2.2
  rw [List.map_append]
  exact hcut.trailing hlines hpending hnewline (hended heof) hidle (by simp [stdinText, delivered])

theorem Framed.act (h : Framed d made done) (hended : d.eof = true → EndRead made)
    (hact : Act limits d more d') : ∃ more', Framed d' (made ++ more) (done ++ more') := by
  have hsame {d' : Service} {more : List ProcessCall} (h' : Framed d' (made ++ more) done) :
      ∃ more', Framed d' (made ++ more) (done ++ more') := ⟨[], by rwa [List.append_nil]⟩
  cases hact with
  | call hcall =>
    exact hsame (h.other (by simpa using not_fromInput_of_ordinary hcall) rfl rfl rfl id h.head)
  | enter | leave | unreadable | unpolled | pass =>
    exact hsame (h.other (by simp [fromInput]) rfl rfl rfl id nofun)
  | interrupted | zero => exact hsame (h.other (by simp [fromInput]) rfl rfl rfl id h.head)
  | disarm _ hop =>
    exact hsame (h.other (by simpa using not_fromInput_of_disarm hop) rfl rfl rfl id nofun)
  | stop _ hop htick =>
    refine hsame (h.other ?_ rfl rfl rfl id h.head)
    simpa using ⟨not_fromInput_of_disarm hop, not_fromInput_of_tick htick⟩
  | tick _ hlines hpending heof _ htick =>
    refine hsame (h.other ?_ rfl rfl rfl id fun _ => ⟨hlines, hpending, heof⟩)
    simpa using not_fromInput_of_tick htick
  | spent hstage => exact hsame (h.other (by simp) rfl rfl rfl (fun _ => rfl) (by simp [hstage]))
  | read hstage hlines hquit hdata => exact hsame (h.read hstage hlines hquit hdata)
  | ended hstage hlines hquit => exact hsame (h.ended hstage hlines hquit)
  | take hstage hlines hquit =>
    refine hsame ?_
    rw [List.append_nil]
    exact h.take hstage hlines hquit
  | line hstage hlines hshort hop =>
    exact ⟨_, h.line hlines hshort hop hstage rfl rfl rfl⟩
  | trailing hstage heof hlines hpending hnewline hop =>
    exact ⟨_, h.trailing hended hstage heof hlines hpending hnewline hop heof ⟨rfl, hlines, rfl⟩⟩

theorem Acts.framed (hacts : Acts limits { guard := opening config } made d) :
    ∃ done, Framed d made done := by
  refine hacts.invariant (I := fun d made => ∃ done, Framed d made done) ?_ ?_
  · refine ⟨[], .nil, .inl ⟨rfl, rfl, by simp⟩, by simp [EndRead], fun _ => ⟨rfl, by simp, nofun⟩⟩
  · rintro made d more d' hbefore ⟨done, h⟩ hact
    obtain ⟨more', h'⟩ := h.act hbefore.told.eof hact
    exact ⟨_, h'⟩

/-! ### The lines of a run -/

/-- What the lines that a process has handled are of the text that it has read. -/
structure Framing (trace : List ProcessCall) (done : List (List Char × Event)) : Prop where
  handles : Handles trace done
  lines : done.map Prod.fst <+: linesOf (stdinText trace)
  complete : ¬EndRead trace → done.map Prod.fst <+: completeLines (stdinText trace)
  short : ∀ line ∈ done.map Prod.fst,
    line.length ≤ lineLimit ∨ EndRead trace ∧ line = unfinished (stdinText trace)

theorem Framed.toFraming (h : Framed d made done) : Framing made done := by
  refine ⟨h.handles, ?_, fun hend => ?_, fun line hline => ?_⟩
  · rcases h.lines with hcut | hall
    · rw [linesOf, ← hcut.complete, List.append_assoc]
      exact List.prefix_append _ _
    · rw [hall.lines, linesOf, if_neg hall.rest]
  · rcases h.lines with hcut | hall
    · rw [← hcut.complete]
      exact List.prefix_append _ _
    · exact absurd hall.ended hend
  · rcases h.lines with hcut | hall
    · exact .inl (hcut.short line hline)
    · rw [hall.lines, List.mem_append, List.mem_singleton] at hline
      exact hline.imp (hall.short line) fun heq => ⟨hall.ended, heq⟩

/-- At the head of the loop, all lines are handled that are due. -/
theorem Framed.due (h : Framed d made done) (hstage : d.stage = .head) :
    done.map Prod.fst = dueLines made := by
  obtain ⟨hlines, hnewline, heof⟩ := h.head hstage
  rcases h.lines with hcut | hall
  · have hcomplete := hcut.complete
    rw [hlines, completeLines_of_not_mem hnewline, List.nil_append, List.append_nil] at hcomplete
    rw [dueLines]
    split
    · case isTrue hend =>
      have hrest := hcut.unfinished
      rw [(heof (h.eof hend)).2] at hrest
      have hnone : unfinished (stdinText made) = [] := hrest.symm
      rw [linesOf, if_pos hnone, List.append_nil]
      exact hcomplete
    · exact hcomplete
  · rw [dueLines, if_pos hall.ended, linesOf, if_neg hall.rest]
    exact hall.lines

/-- Nothing is read any more once the loop is over. -/
theorem Finished.inputless {code : Nat} (h : Finished config limits s code more) :
    ∀ call ∈ more, fromInput call = false := by
  have hports {p p' : SerialPort} {made : List ProcessCall} (hclosed : Closed limits p made p') :
      ∀ call ∈ made, fromInput call = false := by
    intro call hcall
    obtain ⟨e, rfl⟩ := hclosed.ports call hcall
    rfl
  cases h with
  | @mk ns stopped g success p attempted closing p' restored destroying p'' shutdown hstopped
      hattempts _ hclosing hrestored hdestroying =>
    have hsession : ∀ call ∈ stopped, fromInput call = false := by
      cases hstopped with
      | unclocked => simp
      | stopped _ hop htick =>
        simpa using ⟨not_fromInput_of_disarm hop, not_fromInput_of_tick htick⟩
    have hattempted : ∀ call ∈ attempted, fromInput call = false := fun call hcall =>
      (hattempts.direct call hcall).elim not_fromInput_of_aside not_fromInput_of_direct
    have hrestoring : ∀ call ∈ restored, fromInput call = false := fun call hcall =>
      not_fromInput_of_aside (hrestored.aside call hcall)
    simp only [List.forall_mem_cons, List.forall_mem_append]
    exact ⟨rfl, hsession, hattempted, hports hclosing, rfl, hrestoring, hports hdestroying⟩

/-- At the head of the loop, or past a regular end. -/
def Settled (next : Phase ⊕ Nat) : Prop :=
  (∃ s, next = .inl (.running s)) ∨ next = .inr 0 ∨ next = .inr 9

theorem framed_of_run (run : (process config).Run h next) :
    ∃ d done, Framed d (called h) done ∧ (Settled next → d.stage = .head) := by
  have hany (hnot : ¬Settled next) :
      ∃ d done, Framed d (called h) done ∧ (Settled next → d.stage = .head) := by
    obtain ⟨d, hacts, -⟩ := acts_of_run run
    obtain ⟨done, hframed⟩ := hacts.framed
    exact ⟨d, done, hframed, fun hsettled => absurd hsettled hnot⟩
  rcases next with phase | code
  · cases phase with
    | running s =>
      have hconducted : Conducted config _ (called h) (.running s) := conducted run
      obtain ⟨done, hframed⟩ := hconducted.1.framed
      exact ⟨_, done, hframed, fun _ => rfl⟩
    | starting | leaving => exact hany (by simp [Settled])
  · by_cases hcode : code ∈ [0, 9]
    · have hover : Over config (makeSafetyConfig config) code (called h) := conducted run
      generalize called h = trace at hover
      cases hover with
      | refused hrefused =>
        have hamong := hrefused.among
        simp only [List.mem_cons, List.not_mem_nil, or_false] at hcode hamong
        omega
      | finished hacts _ hleaves _ _ hfinished =>
        obtain ⟨done, hframed⟩ := hacts.framed
        have hhead := hfinished.head hleaves hcode
        refine ⟨_, done, ?_, fun _ => hhead⟩
        exact hframed.other hfinished.inputless rfl rfl rfl id fun _ => hframed.head hhead
    · exact hany (by simpa [Settled] using hcode)

/-- Whatever pieces its input comes in, a process handles the lines of the text in their order, each
once: the complete ones, and a last one without a newline when the input ends.  At the head of its
loop and at a regular end, it has handled all that are due. -/
theorem framing (run : (process config).Run h next) :
    ∃ done, Framing (called h) done ∧ (Settled next → done.map Prod.fst = dueLines (called h)) := by
  obtain ⟨d, done, hframed, hhead⟩ := framed_of_run run
  exact ⟨done, hframed.toFraming, fun hsettled => hframed.due (hhead hsettled)⟩

theorem drive_framing : ∃ done, Framing (called drive.reverse) done ∧
    done.map Prod.fst = dueLines (called drive.reverse) := by
  obtain ⟨done, hframing, hdue⟩ := framing drive_run
  exact ⟨done, hframing, hdue (.inr (.inl rfl))⟩

end WheeltecVcuSerial.Cli
