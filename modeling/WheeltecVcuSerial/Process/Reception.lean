import WheeltecVcuSerial.Process.Guard
import WheeltecVcuSerial.Transport.Observation

/-! What a process reads of its port, beside the rounds of the receiving loops. -/

namespace WheeltecVcuSerial

open Trace Program

/-- No more is read than was asked for. -/
def SystemCall.within : SystemCall → Bool
  | .readBytes _ capacity (.delivered data) => data.length ≤ capacity
  | _ => true

/-- No `::read` delivers more than it was asked for. -/
def ReadsWithin (trace : List SystemCall) : Prop := ∀ call ∈ trace, call.within = true

theorem ReadsWithin.left {trace more : List SystemCall} (h : ReadsWithin (trace ++ more)) :
    ReadsWithin trace :=
  fun call hcall => h call (List.mem_append_left more hcall)

theorem ReadsWithin.right {trace more : List SystemCall} (h : ReadsWithin (trace ++ more)) :
    ReadsWithin more :=
  fun call hcall => h call (List.mem_append_right trace hcall)

/-! ### A read of the port -/

namespace Syscalls

theorem ioctl_makes {fd : Int} {request : ExclusiveRequest} :
    Makes (ioctl fd request) fun _ made => made.filterMap SystemCall.toRead = [] := by
  refine .retry fun again call reply hagain hlast _ => ?_
  rw [List.filterMap_eq_nil_iff, List.forall_mem_append, List.forall_mem_singleton]
  refine ⟨fun call' hcall' => ?_, ?_⟩
  · obtain ⟨reply', hreply', -⟩ := hagain call' hcall'
    cases call' <;> first | rfl | cases hreply'
  · cases call <;> first | rfl | cases hlast

theorem close_makes {fd : Int} :
    Makes (close fd) fun _ made => made.filterMap SystemCall.toRead = [] := by
  refine .call fun call reply h => ?_
  cases call <;> first | rfl | cases h

theorem monotonicNow_makes :
    Makes monotonicNow fun ns made => made.filterMap SystemCall.toRead = [.monotonicNow ns] := by
  refine .call fun call ns h => ?_
  cases call with
  | monotonicNow ns' =>
    cases h
    rfl
  | _ => cases h

end Syscalls

/-- What a read is answered is what the system calls of it come back with. -/
theorem ReadRequest.answers_of_calls {r : ReadRequest} {calls : List (ReadPhase × Answer)}
    {made : List SystemCall}
    (h : List.Forall₂ (fun call e =>
      SystemCall.answering (r.calling call.1) SystemCall.toRead e = some call.2) calls made) :
    made.filterMap SystemCall.toRead = calls.map Prod.snd := by
  induction h with
  | nil => rfl
  | cons hcall _ ih =>
    obtain ⟨-, hread⟩ := Option.ite_none_right_eq_some.mp hcall
    rw [List.filterMap_cons_some hread, ih, List.map_cons]

theorem ReadRequest.fits_of_calls {r : ReadRequest} {calls : List (ReadPhase × Answer)}
    {made : List SystemCall}
    (h : List.Forall₂ (fun call e =>
      SystemCall.answering (r.calling call.1) SystemCall.toRead e = some call.2) calls made)
    (hreads : ReadsWithin made) : Fits r.capacity (made.filterMap SystemCall.toRead) := by
  intro data hdata
  obtain ⟨call, hmem, hread⟩ := List.mem_filterMap.mp hdata
  obtain ⟨asked, -, hasked⟩ := exists_of_forall₂ h call hmem
  obtain ⟨hcalling, -⟩ := Option.ite_none_right_eq_some.mp hasked
  cases call with
  | readBytes fd capacity answer =>
    cases hread
    rw [← ReadRequest.capacity_of_calling hcalling.symm]
    exact of_decide_eq_true (hreads _ hmem)
  | _ => cases hread

namespace SerialPort

variable {p p' : SerialPort}

theorem close_makes (hfd : 0 ≤ p.fd) :
    Makes p.close fun p' made => p' = p.closed ∧ made.filterMap SystemCall.toRead = [] := by
  rw [close, if_pos hfd]
  have hrelease : Makes (releaseExclusiveAndClose p.fd) fun _ made =>
      made.filterMap SystemCall.toRead = [] := by
    rw [releaseExclusiveAndClose, if_neg hfd.not_gt]
    refine .bind Syscalls.ioctl_makes fun _ made hmade => ?_
    refine .bind Syscalls.close_makes fun _ more hmore => .pure ?_
    rw [List.append_nil, List.filterMap_append, hmade, hmore, List.append_nil]
  refine .bind hrelease fun _ made hmade => .pure ⟨rfl, ?_⟩
  rwa [List.append_nil]

/-- After a read only the calls of a close may come, and they read nothing. -/
theorem leave_makes (hfd : 0 ≤ p.fd) (result : IoResult) (data : List UInt8) :
    Makes (if result.status = .disconnected then return (result, data, ← p.markDisconnected)
      else return (result, data, p) : Syscalls (IoResult × List UInt8 × SerialPort))
      fun outcome made => ∃ p' : SerialPort, outcome = (result, data, p') ∧
        made.filterMap SystemCall.toRead = [] ∧ p'.toPosixSerialTransport =
          if result.status = .disconnected then p.toPosixSerialTransport.close
          else p.toPosixSerialTransport := by
  refine .ite (fun hlost => ?_) fun hkept => .pure ⟨p, rfl, rfl, (if_neg hkept).symm⟩
  refine .bind (close_makes hfd) ?_
  rintro _ made ⟨rfl, hquiet⟩
  refine .pure ⟨_, rfl, ?_, (if_pos hlost).symm⟩
  rwa [List.append_nil]

/-- A read of the port is the read of its transport, with the answers of its system calls. -/
theorem readSome_refines (hoperations : p.operations = {}) {capacity : Nat} {deadlineNs : Int}
    {calls : List SystemCall} {result : IoResult} {data : List UInt8}
    (h : p.readSome false capacity deadlineNs calls = some ((result, data, p'), []))
    (hreads : ReadsWithin calls) :
    Fits capacity (calls.filterMap SystemCall.toRead) ∧
      p.toPosixSerialTransport.readSome capacity deadlineNs (calls.filterMap SystemCall.toRead) =
        some (result, data, p'.toPosixSerialTransport) := by
  unfold SerialPort.readSome at h
  unfold PosixSerialTransport.readSome
  split at h
  · case isTrue hclosed =>
    obtain ⟨⟨ns, rest⟩, hns, heq⟩ := Option.bind_eq_some_iff.mp h
    cases heq
    rw [disconnectedNs, hoperations, if_pos rfl] at hns
    rw [if_pos hclosed, Syscalls.monotonicNow_makes.made hns]
    exact ⟨by simp [Fits], rfl⟩
  · case isFalse hopen =>
    rw [if_neg hopen]
    have hfd : 0 ≤ p.fd := by simp at hopen; exact hopen.2
    obtain ⟨⟨phase, between⟩, hphase, hreturned⟩ := Option.bind_eq_some_iff.mp h
    obtain ⟨-, made, answers, rfl, hcalls, hrun⟩ := follow_run hphase
    cases phase with
    | returned outcome delivered =>
      obtain ⟨_, heq, hquiet, hafter⟩ := (leave_makes hfd outcome delivered).made hreturned
      cases heq
      have hanswers : (made ++ between).filterMap SystemCall.toRead = answers := by
        rw [List.filterMap_append, hquiet, List.append_nil, ReadRequest.answers_of_calls hcalls]
        exact Procedure.calls_answers hrun
      have hfits : Fits capacity (made.filterMap SystemCall.toRead) :=
        ReadRequest.fits_of_calls hcalls hreads.left
      have hrequest : p.readRequest false capacity deadlineNs =
          { fd := p.fd, capacity := capacity, absoluteDeadlineNs := deadlineNs } := by
        rw [readRequest, hoperations]
        rfl
      have hends : readSomeWithOperations (p.readRequest false capacity deadlineNs) answers =
          some (result, data) := by
        rw [readSomeWithOperations, show ReadRequest.run _ _ _ = _ from hrun]
      rw [hrequest] at hends
      refine ⟨?_, ?_⟩
      · rw [List.filterMap_append, hquiet, List.append_nil]
        exact hfits
      · rw [hanswers, hends, hafter]
        rfl
    | _ => cases hreturned

/-- Only a read has bytes for its caller. -/
theorem ne_read {call : PortCall} {calls rest : List SystemCall} {record : PortRecord}
    {result : IoResult} {data : List UInt8} (h : p.perform call calls = some (record, rest))
    (hcall : call.reads = false) : record.result ≠ .read result data := by
  cases call with
  | readSome => cases hcall
  | _ =>
    obtain ⟨_, -, heq⟩ := Option.bind_eq_some_iff.mp h
    cases heq
    nofun

theorem readSome_of_perform {capacity : Nat} {deadlineNs : Int} {calls : List SystemCall}
    {record : PortRecord}
    (h : p.perform (.readSome false capacity deadlineNs) calls = some (record, [])) :
    ∃ result data, record.result = .read result data ∧
      p.readSome false capacity deadlineNs calls = some ((result, data, record.after), []) := by
  obtain ⟨⟨⟨result, data, after⟩, rest⟩, hread, heq⟩ := Option.bind_eq_some_iff.mp h
  cases heq
  exact ⟨result, data, rfl, hread⟩

theorem opened_of_reopen (hp : p.Sound) {calls rest : List SystemCall} {record : PortRecord}
    (h : p.perform .reopen calls = some (record, rest)) :
    ∃ result, record.result = .opened result ∧ p.closed.Opened result record.after := by
  obtain ⟨⟨⟨closed, result, after⟩, _⟩, hreopen, heq⟩ := Option.bind_eq_some_iff.mp h
  cases heq
  have htriple : Triple (guarded p.access false) p.holding p.reopen
      fun outcome held => outcome.1 = p.closed ∧ p.closed.Opens outcome.2 held := reopen_triple hp
  obtain ⟨_, _, _, _, -, hopened, -⟩ := htriple _ _ _ hreopen
  exact ⟨result, rfl, hopened⟩

theorem opened_of_open (hp : p.Sound) (hclosed : p.connected = false)
    {calls rest : List SystemCall} {record : PortRecord}
    (h : p.perform .open calls = some (record, rest)) :
    ∃ result, record.result = .opened result ∧ p.Opened result record.after := by
  obtain ⟨⟨⟨result, after⟩, _⟩, hopen, heq⟩ := Option.bind_eq_some_iff.mp h
  cases heq
  rw [SerialPort.open, if_neg (Bool.eq_false_iff.mp hclosed)] at hopen
  have htriple : Triple (guarded p.access false) none p.openNewGeneration p.Opens :=
    openNewGeneration_triple hp.generation hclosed
  obtain ⟨_, _, _, _, hopened, -⟩ := htriple _ _ _ hopen
  exact ⟨result, rfl, hopened⟩

theorem Opened.ok_eq {result : SerialOpenResult} (h : p.Opened result p')
    (hclosed : p.connected = false) : result.ok = p'.connected := by
  cases h with
  | connected => rfl
  | refused hstatus =>
    rw [hclosed]
    exact decide_eq_false hstatus

/-- A port that has been opened starts its next connection. -/
theorem Opened.connected_of_ok {result : SerialOpenResult} (h : p.Opened result p') (hp : p.Sound)
    (hclosed : p.connected = false) (hok : result.ok = true) :
    ∃ fd : Nat, p'.toPosixSerialTransport =
      { fd := fd, connected := true, generation := p.generation + 1 } := by
  obtain ⟨fd, hfd⟩ := h.reopened hp hclosed
  have hconnected : result.ok = p'.toPosixSerialTransport.connected := h.ok_eq hclosed
  rw [hfd, hok] at hconnected
  cases fd with
  | none => cases hconnected
  | some fd => exact ⟨fd, hfd⟩

theorem left_of_writeAll (hp : p.Sound) {data : ByteSpan} {deadlineNs : Int}
    {calls rest : List SystemCall} {record : PortRecord}
    (h : p.perform (.writeAll data deadlineNs) calls = some (record, rest)) :
    record.after = p ∨ record.after = p.closed := by
  obtain ⟨⟨⟨result, after⟩, _⟩, hwrite, heq⟩ := Option.bind_eq_some_iff.mp h
  cases heq
  have htriple : Triple (guarded p.access false) p.holding (p.writeAll data deadlineNs)
      fun outcome held => p.Left outcome.1 outcome.2 ∧ held = outcome.2.holding :=
    writeAll_triple hp
  obtain ⟨_, _, _, _, hleft, -⟩ := htriple _ _ _ hwrite
  cases hleft with
  | kept => exact .inl rfl
  | lost => exact .inr rfl

theorem reads_of_answer {writes : List Write} {answers : List PortEvent}
    (h : p.answer writes answers = some p') : ∀ e ∈ answers, e.record.call.reads = false := by
  induction writes generalizing p answers with
  | nil => cases answers <;> simp_all [answer]
  | cons write writes ih =>
    cases answers with
    | nil => cases h
    | cons e answers =>
      obtain ⟨⟨hperform, -⟩, h⟩ := Option.ite_none_right_eq_some.mp h
      refine List.forall_mem_cons.mpr ⟨?_, ih h⟩
      rw [call_of_perform hperform]
      rfl

/-- The writes of the session leave a port open, or lose its connection. -/
theorem left_of_answer (hp : p.Sound) {writes : List Write} {answers : List PortEvent}
    (h : p.answer writes answers = some p') : p' = p ∨ p' = p.closed := by
  induction writes generalizing p answers with
  | nil =>
    cases answers with
    | nil =>
      cases h
      exact .inl rfl
    | cons => cases h
  | cons write writes ih =>
    cases answers with
    | nil => cases h
    | cons e answers =>
      obtain ⟨⟨hperform, -⟩, h⟩ := Option.ite_none_right_eq_some.mp h
      rcases left_of_writeAll hp hperform with hafter | hafter
      · rw [hafter] at h
        exact ih hp h
      · rw [hafter] at h
        exact .inr ((ih hp.closed h).elim id id)

/-- A port with all its operations, as the receiving loops take it. -/
structure Ready (p : SerialPort) : Prop where
  sound : p.Sound
  operations : p.operations = {}

theorem Ready.closed (h : p.Ready) : p.closed.Ready := ⟨h.sound.closed, h.operations⟩

theorem Ready.performed (h : p.Ready) {call : PortCall} {calls rest : List SystemCall}
    {record : PortRecord} (hperform : p.perform call calls = some (record, rest)) :
    record.after.Ready := by
  obtain ⟨_, _, _, _, -, hproper, hsettings, -⟩ :=
    perform_triple h.sound call (fun _ => rfl) _ _ _ hperform
  have hoperations : record.after.operations = p.operations := congrArg (·.2.2) hsettings
  exact ⟨hproper.sound _ (by simp [PortRecord.shown]), hoperations.trans h.operations⟩

end SerialPort

/-! ### The calls of a process -/

namespace PortEvent

variable {e : PortEvent} {p : SerialPort}

/-- What `IoOperations` came back with in a call, but for its writes. -/
def answers (e : PortEvent) : List Answer := e.calls.filterMap SystemCall.toRead

/-- The bytes that `read_bytes` delivered in a call. -/
def arrived (e : PortEvent) : List UInt8 := delivered e.answers

/-- The bytes of a read that is told to be good. -/
def kept (e : PortEvent) : List UInt8 :=
  match e.record.result with
  | .read result data => if result.status = .ok then data else []
  | _ => []

def generation (e : PortEvent) : Nat := e.record.before.generation

/-- No read that delivers bytes in a call completes after the deadline of the call. -/
def InTime (e : PortEvent) : Prop :=
  ∀ dataNull capacity deadlineNs, e.record.call = .readSome dataNull capacity deadlineNs →
    WheeltecVcuSerial.InTime deadlineNs e.answers

theorem inTime_of_unread (h : e.record.call.reads = false) : e.InTime := by
  intro dataNull capacity deadlineNs hcall
  rw [hcall] at h
  cases h

theorem kept_of_read {result : IoResult} {data : List UInt8}
    (h : e.record.result = .read result data) :
    e.kept = if result.status = .ok then data else [] := by
  rw [kept, h]

theorem kept_of_unread (hperform : p.perform e.record.call e.calls = some (e.record, []))
    (h : e.record.call.reads = false) : e.kept = [] := by
  unfold kept
  split
  · case h_1 result data hresult => exact absurd hresult (SerialPort.ne_read hperform h)
  · rfl

/-- Only a read asks for bytes. -/
theorem arrived_of_unread (hp : p.Sound)
    (hperform : p.perform e.record.call e.calls = some (e.record, []))
    (h : e.record.call.reads = false) : e.arrived = [] := by
  have hunread : e.record.call.reads = true → false = true := by simp [h]
  obtain ⟨made, held, hmade, hguarded, -⟩ :=
    SerialPort.perform_triple hp e.record.call hunread _ _ _ hperform
  rw [List.append_nil] at hmade
  have hnone := (SystemCall.ledger_of_guarded (hmade ▸ hguarded)).2.2 rfl
  refine List.flatMap_eq_nil_iff.mpr fun answer hanswer => ?_
  obtain ⟨call, hcall, hread⟩ := List.mem_filterMap.mp hanswer
  have hreads := hnone call hcall
  cases call with
  | readBytes => cases hreads
  | monotonicNow _ | pollOne _ _ _ _ =>
    cases hread
    rfl
  | _ => cases hread

end PortEvent

theorem PortRun.unread {p q : SerialPort} {events : List PortEvent} (h : PortRun p events q)
    (hp : p.Sound) : ∀ e ∈ events, e.record.call.reads = false → e.arrived = [] ∧ e.kept = [] := by
  induction h with
  | nil => simp
  | cons hperform _ ih =>
    obtain ⟨-, hproper, -⟩ := hp.performed hperform
    refine List.forall_mem_cons.mpr ⟨fun hreads => ?_,
      ih (hproper.sound _ (by simp [PortRecord.shown]))⟩
    exact ⟨PortEvent.arrived_of_unread hp hperform hreads, PortEvent.kept_of_unread hperform hreads⟩

/-- The frames that a call shows to the session. -/
def Event.frames (e : Event) : List (List UInt8) := (e.op.shown.map (·.toList)).toList

theorem frames_eq (events : List Event) :
    events.flatMap Event.frames = ((events.map Event.op).filterMap Op.shown).map (·.toList) := by
  induction events with
  | nil => rfl
  | cons e events ih =>
    rw [List.flatMap_cons, ih, List.map_cons, Event.frames]
    cases hshown : e.op.shown <;> simp [hshown]

/-- The calls of the port in a trace that read from it, those of some generations. -/
def portReads (within : Nat → Bool) (trace : List ProcessCall) : List PortEvent :=
  (portTrace trace).filter fun e => e.record.call.reads && within e.generation

/-- The calls of the session in a trace, those of some generations. -/
def sessionCalls (within : Nat → Bool) (trace : List ProcessCall) : List Event :=
  (trace.filterMap ProcessCall.sessionEvent).filter (within ·.link.generation)

/-- The rounds of a receiving loop account for what a process reads of its port. -/
structure Recounts (h : List Reception) (trace : List ProcessCall) : Prop where
  arrived (within : Nat → Bool) :
    (h.reverse.filter (within ·.generation)).flatMap (delivered ·.answers) =
      (portReads within trace).flatMap PortEvent.arrived
  kept (within : Nat → Bool) :
    (h.reverse.filter (within ·.generation)).flatMap (·.received.chunk) =
      (portReads within trace).flatMap PortEvent.kept
  shown (within : Nat → Bool) :
    (h.reverse.filter (within ·.generation)).flatMap Reception.frames =
      (sessionCalls within trace).flatMap Event.frames
  inTime (within : Nat → Bool) :
    (∀ e ∈ h, within e.generation = true → InTime e.deadlineNs e.answers) ↔
      ∀ e ∈ portReads within trace, e.InTime

/-- Calls in which nothing is read of the port, and nothing of it shown to the session. -/
structure Unheard (made : List ProcessCall) : Prop where
  port : ∀ e ∈ portTrace made, e.record.call.reads = false
  session : ∀ e ∈ made.filterMap ProcessCall.sessionEvent, e.op.shown = none

variable {h h' : List Reception} {made more trace : List ProcessCall}

theorem portReads_append (within : Nat → Bool) (made more : List ProcessCall) :
    portReads within (made ++ more) = portReads within made ++ portReads within more := by
  rw [portReads, portTrace_append, List.filter_append]
  rfl

theorem sessionCalls_append (within : Nat → Bool) (made more : List ProcessCall) :
    sessionCalls within (made ++ more) = sessionCalls within made ++ sessionCalls within more := by
  rw [sessionCalls, List.filterMap_append, List.filter_append]
  rfl

namespace Unheard

theorem nil : Unheard [] := ⟨by simp, by simp⟩

theorem append (first : Unheard made) (second : Unheard more) : Unheard (made ++ more) := by
  refine ⟨?_, ?_⟩
  · rw [portTrace_append, List.forall_mem_append]
    exact ⟨first.port, second.port⟩
  · rw [List.filterMap_append, List.forall_mem_append]
    exact ⟨first.session, second.session⟩

theorem outside {call : ProcessCall} (hport : call.portEvents = [])
    (hsession : call.sessionEvent = none) : Unheard [call] :=
  ⟨by simp [hport], by simp [hsession]⟩

theorem portReads (h : Unheard made) (within : Nat → Bool) :
    WheeltecVcuSerial.portReads within made = [] := by
  refine List.filter_eq_nil_iff.mpr fun e he => ?_
  simp [h.port e he]

theorem frames (h : Unheard made) (within : Nat → Bool) :
    (sessionCalls within made).flatMap Event.frames = [] := by
  refine List.flatMap_eq_nil_iff.mpr fun e he => ?_
  rw [Event.frames, h.session e (List.mem_of_mem_filter he)]
  rfl

end Unheard

namespace Recounts

theorem append (first : Recounts h made) (second : Recounts h' more) :
    Recounts (h' ++ h) (made ++ more) := by
  constructor
  · intro within
    simp only [List.reverse_append, List.filter_append, List.flatMap_append, portReads_append,
      first.arrived, second.arrived]
  · intro within
    simp only [List.reverse_append, List.filter_append, List.flatMap_append, portReads_append,
      first.kept, second.kept]
  · intro within
    simp only [List.reverse_append, List.filter_append, List.flatMap_append, sessionCalls_append,
      first.shown, second.shown]
  · intro within
    rw [List.forall_mem_append, portReads_append, List.forall_mem_append, first.inTime,
      second.inTime, and_comm]

theorem unheard (h : Unheard made) : Recounts [] made := by
  constructor
  · simp [h.portReads]
  · simp [h.portReads]
  · intro within
    rw [h.frames]
    rfl
  · simp [h.portReads]

/-- A round in which nothing comes. -/
theorem idle {e : Reception} (hanswers : e.answers = []) (hreceived : e.received = {}) :
    Recounts [e] [] := by
  have hframes : e.frames = [] := by
    rw [Reception.frames, hreceived]
    rfl
  constructor
  · intro within
    refine List.flatMap_eq_nil_iff.mpr fun e' he' => ?_
    obtain rfl := List.mem_singleton.mp (List.mem_of_mem_filter he')
    rw [hanswers]
    rfl
  · intro within
    refine List.flatMap_eq_nil_iff.mpr fun e' he' => ?_
    obtain rfl := List.mem_singleton.mp (List.mem_of_mem_filter he')
    rw [hreceived]
  · intro within
    refine List.flatMap_eq_nil_iff.mpr fun e' he' => ?_
    obtain rfl := List.mem_singleton.mp (List.mem_of_mem_filter he')
    exact hframes
  · intro within
    refine iff_of_true (List.forall_mem_singleton.mpr fun _ => ?_) (by simp [portReads])
    rw [hanswers]
    exact inTime_of_delivered_nil rfl

/-- A round with a read, and the calls that show the session what came of it. -/
theorem read {e : PortEvent} {deadlineNs : Int} {dataNull : Bool} {capacity : Nat}
    {received : Received} (hcall : e.record.call = .readSome dataNull capacity deadlineNs)
    (hkept : e.kept = received.chunk) (hport : portTrace more = [])
    (hgeneration : ∀ x ∈ more.filterMap ProcessCall.sessionEvent, x.link.generation = e.generation)
    (hcalls : (more.filterMap ProcessCall.sessionEvent).map Event.op = received.calls) :
    Recounts [⟨e.generation, deadlineNs, e.answers, received⟩] (.port e :: more) := by
  have hreads (within : Nat → Bool) :
      portReads within (.port e :: more) = if within e.generation then [e] else [] := by
    rw [portReads, portTrace_cons, hport, List.append_nil]
    simp [ProcessCall.portEvents, List.filter_cons, hcall, PortCall.reads]
  have hsession (within : Nat → Bool) : sessionCalls within (.port e :: more) =
      if within e.generation then more.filterMap ProcessCall.sessionEvent else [] := by
    rw [sessionCalls, List.filterMap_cons_none rfl]
    split
    · case isTrue hin => exact List.filter_eq_self.mpr fun x hx => by rw [hgeneration x hx, hin]
    · case isFalse hout =>
      exact List.filter_eq_nil_iff.mpr fun x hx => by rwa [hgeneration x hx]
  constructor
  · intro within
    rw [hreads]
    cases hin : within e.generation <;> simp [hin, PortEvent.arrived]
  · intro within
    rw [hreads]
    cases hin : within e.generation <;> simp [hin, hkept]
  · intro within
    rw [hsession]
    cases hin : within e.generation <;> simp [hin, Reception.frames, frames_eq, ← hcalls]
  · intro within
    have htimely : InTime deadlineNs e.answers ↔ e.InTime := by
      refine ⟨fun htime dataNull' capacity' deadlineNs' hcall' => ?_,
        fun htime => htime _ _ _ hcall⟩
      obtain ⟨-, -, rfl⟩ := PortCall.readSome.inj (hcall.symm.trans hcall')
      exact htime
    rw [hreads]
    cases hin : within e.generation <;> simp [hin, htimely]

end Recounts

/-- Where the calls of a process have led a receiving loop. -/
def Relayed (M : Machine σ Reception) (made : List ProcessCall) (l : σ) : Prop :=
  ∃ h, M.Run h l ∧ Recounts h made

theorem Relayed.silent {M : Machine σ Reception} {l : σ} (h : Relayed M made l)
    (hmore : Unheard more) : Relayed M (made ++ more) l := by
  obtain ⟨h, hrun, hrecounts⟩ := h
  exact ⟨h, hrun, hrecounts.append (.unheard hmore)⟩

theorem Relayed.round {M : Machine σ Reception} {l l' : σ} {e : Reception}
    (h : Relayed M made l) (hstep : M.step l e l') (hrecounts : Recounts [e] more) :
    Relayed M (made ++ more) l' := by
  obtain ⟨h, hrun, hrecounts'⟩ := h
  exact ⟨e :: h, hrun.next hstep, hrecounts'.append hrecounts⟩

/-! ### All calls of the port -/

/-- The calls of the port in a trace, those of some generations. -/
def portCalls (within : Nat → Bool) (trace : List ProcessCall) : List PortEvent :=
  (portTrace trace).filter (within ·.generation)

theorem flatMap_filter_and {l : List α} {keep within : α → Bool} {f : α → List β}
    (h : ∀ x ∈ l, keep x = false → f x = []) :
    (l.filter fun x => keep x && within x).flatMap f = (l.filter within).flatMap f := by
  induction l with
  | nil => rfl
  | cons x l ih =>
    rw [List.forall_mem_cons] at h
    rw [List.filter_cons, List.filter_cons]
    cases hkeep : keep x with
    | true => cases hwithin : within x <;> simp [ih h.2]
    | false => cases hwithin : within x <;> simp [ih h.2, h.1 hkeep]

/-- What is not a read makes no difference to what comes of the port. -/
theorem PortRun.arrived {p q : SerialPort} (run : PortRun p (portTrace trace) q) (hp : p.Sound)
    (within : Nat → Bool) :
    (portReads within trace).flatMap PortEvent.arrived =
      (portCalls within trace).flatMap PortEvent.arrived :=
  flatMap_filter_and fun e he hreads => (run.unread hp e he hreads).1

theorem PortRun.kept {p q : SerialPort} (run : PortRun p (portTrace trace) q) (hp : p.Sound)
    (within : Nat → Bool) :
    (portReads within trace).flatMap PortEvent.kept =
      (portCalls within trace).flatMap PortEvent.kept :=
  flatMap_filter_and fun e he hreads => (run.unread hp e he hreads).2

/-- The bytes of a connection that a process has been told to be good. -/
def keptBytes (generation : Nat) (trace : List ProcessCall) : List UInt8 :=
  (portCalls (· = generation) trace).flatMap PortEvent.kept

/-- The bytes of a connection that `read_bytes` delivered. -/
def arrivedBytes (generation : Nat) (trace : List ProcessCall) : List UInt8 :=
  (portCalls (· = generation) trace).flatMap PortEvent.arrived

/-- The frames of a connection that the session has been shown. -/
def shownFrames (generation : Nat) (trace : List ProcessCall) : List (List UInt8) :=
  (sessionCalls (· = generation) trace).flatMap Event.frames

theorem inTime_portReads (within : Nat → Bool) (trace : List ProcessCall) :
    (∀ e ∈ portReads within trace, e.InTime) ↔ ∀ e ∈ portCalls within trace, e.InTime := by
  simp only [portReads, portCalls, List.mem_filter, Bool.and_eq_true, and_imp]
  refine forall_congr' fun e => forall_congr' fun _ => ⟨fun h hwithin => ?_, fun h _ => h⟩
  cases hreads : e.record.call.reads with
  | true => exact h hreads hwithin
  | false => exact PortEvent.inTime_of_unread hreads

end WheeltecVcuSerial
