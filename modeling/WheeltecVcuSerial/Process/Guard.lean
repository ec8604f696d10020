import WheeltecVcuSerial.Process.Calls
import WheeltecVcuSerial.Session.ZeroFirst
import WheeltecVcuSerial.Transport.Terminal

namespace WheeltecVcuSerial

open SafetySession Trace Program

/-! ### One call -/

theorem ReadRequest.Ending.transferred_of_ok {r : ReadRequest} {answers : List Answer}
    {result : IoResult} {data : List UInt8} (h : r.Ending answers result data)
    (hok : result.status = .ok) : result.bytesTransferred = data.length := by
  cases h with
  | fruitless _ hresult =>
    cases hresult with
    | mk hstatus _ => exact absurd hok hstatus
  | read _ _ =>
    unfold completion at hok ⊢
    split at hok
    · cases hok
    · case isFalse hfits => rw [if_neg hfits]

namespace SerialPort

variable {p p' : SerialPort}

/-- A record tells which call it is of. -/
theorem call_of_perform {call : PortCall} {trace rest : List SystemCall} {record : PortRecord}
    (h : p.perform call trace = some (record, rest)) : record.call = call := by
  cases call with
  | «open» | close | writeAll | readSome =>
    obtain ⟨_, -, heq⟩ := Option.bind_eq_some_iff.mp h
    cases heq
    rfl
  | reopen =>
    obtain ⟨⟨⟨_, _, _⟩, _⟩, -, heq⟩ := Option.bind_eq_some_iff.mp h
    cases heq
    rfl

theorem connected_of_close {trace rest : List SystemCall} {record : PortRecord}
    (h : p.perform .close trace = some (record, rest)) : record.after.connected = false := by
  obtain ⟨⟨after, _⟩, hclose, heq⟩ := Option.bind_eq_some_iff.mp h
  cases heq
  rw [close] at hclose
  split at hclose
  · obtain ⟨_, -, heq⟩ := Option.bind_eq_some_iff.mp hclose
    cases heq
    rfl
  · cases hclose
    rfl

/-- A read that is told to be good has put all that it tells of at the front of the buffer. -/
theorem transferred_of_ok {dataNull : Bool} {capacity : Nat} {deadlineNs : Int}
    {trace rest : List SystemCall} {record : PortRecord} {result : IoResult} {data : List UInt8}
    (h : p.perform (.readSome dataNull capacity deadlineNs) trace = some (record, rest))
    (hread : record.result = .read result data) (hok : result.status = .ok) :
    result.bytesTransferred = data.length := by
  obtain ⟨⟨⟨result', data', p'⟩, _⟩, hcall, heq⟩ := Option.bind_eq_some_iff.mp h
  cases heq
  cases hread
  unfold SerialPort.readSome at hcall
  split at hcall
  · obtain ⟨⟨ns, _⟩, -, heq⟩ := Option.bind_eq_some_iff.mp hcall
    cases heq
    cases hok
  · obtain ⟨⟨phase, between⟩, hphase, hreturned⟩ := Option.bind_eq_some_iff.mp hcall
    obtain ⟨-, made, answers, -, -, hrun⟩ := follow_run hphase
    cases phase with
    | returned outcome delivered =>
      have hends : readSomeWithOperations (p.readRequest dataNull capacity deadlineNs) answers =
          some (outcome, delivered) := by
        rw [readSomeWithOperations, show ReadRequest.run _ _ _ = _ from hrun]
      have hsame : outcome = result ∧ delivered = data := by
        dsimp only at hreturned
        split at hreturned
        · obtain ⟨⟨p'', _⟩, -, heq⟩ := Option.bind_eq_some_iff.mp hreturned
          cases heq
          exact ⟨rfl, rfl⟩
        · cases hreturned
          exact ⟨rfl, rfl⟩
      obtain ⟨rfl, rfl⟩ := hsame
      exact (ReadRequest.ending hends).transferred_of_ok hok
    | _ => cases hreturned

/-- What is known of a call of a port that is over. -/
theorem Sound.performed (hp : p.Sound) {call : PortCall} {calls : List SystemCall}
    {record : PortRecord} (h : p.perform call calls = some (record, [])) :
    record.before = p ∧ record.Proper ∧ record.after.access = p.access ∧
      calls.foldlM (guarded p.access true) p.holding = some record.after.holding := by
  obtain ⟨made, held, rfl, hmade, hbefore, hproper, hsettings, rfl⟩ :=
    perform_triple hp call (fun _ => rfl) calls record [] h
  rw [List.append_nil]
  exact ⟨hbefore, hproper, congrArg (·.2.1) hsettings, hmade⟩

theorem Advances.evolves (h : p.Advances p') : p.link.Evolves p'.link := by
  rw [Advances] at h
  refine ⟨?_, fun hdown hup => ?_⟩
  · rw [link, link, h]
    exact Nat.le_add_right _ _
  · rw [if_pos ⟨hdown, hup⟩] at h
    exact (Nat.lt_succ_self _).trans_eq h.symm

/-- The link of a port evolves over a call. -/
theorem evolves_of_proper {record : PortRecord} (h : record.Proper) (hbefore : record.before = p) :
    p.link.Evolves record.after.link := by
  have hchain := h.advances
  rw [PortRecord.shown, hbefore] at hchain
  generalize record.between = between at hchain
  clear h hbefore
  induction between generalizing p with
  | nil => exact (List.isChain_pair.mp hchain).evolves
  | cons q between ih =>
    rw [List.cons_append, List.isChain_cons_cons] at hchain
    exact hchain.1.evolves.trans (ih hchain.2)

end SerialPort

/-- A write of the session, and the call of the port that it is. -/
structure PortEvent.Answers (e : PortEvent) (write : Write) : Prop where
  asked : e.record.call = .writeAll (.bytes write.buffer) write.deadlineNs
  told : write.outcome = ⟨e.record.result.ioResult, e.record.after.link⟩

theorem exists_of_forall₂ {R : α → β → Prop} {as : List α} {bs : List β}
    (h : List.Forall₂ R as bs) : ∀ b ∈ bs, ∃ a ∈ as, R a b := by
  induction h with
  | nil => simp
  | cons hab _ ih =>
    rw [List.forall_mem_cons]
    refine ⟨⟨_, List.mem_cons_self, hab⟩, fun b hb => ?_⟩
    obtain ⟨a, ha, hab⟩ := ih b hb
    exact ⟨a, List.mem_cons_of_mem _ ha, hab⟩

/-- What is left of a port by the answers to the writes of the session. -/
structure Answered (p : SerialPort) (writes : List Write) (answers : List PortEvent)
    (p' : SerialPort) : Prop where
  each : List.Forall₂ (fun write e => PortEvent.Answers e write) writes answers
  sound : p'.Sound
  access : p'.access = p.access
  links : (p.link :: writes.map fun write => write.outcome.link).IsChain Link.Evolves
  last : (writes.map fun write => write.outcome.link).getLastD p.link = p'.link
  calls : (answers.flatMap PortEvent.calls).foldlM (guarded p.access true) p.holding =
    some p'.holding

theorem SerialPort.Sound.answered {p p' : SerialPort} {writes : List Write}
    {answers : List PortEvent} (hp : p.Sound) (h : p.answer writes answers = some p') :
    Answered p writes answers p' := by
  induction writes generalizing p answers with
  | nil =>
    cases answers with
    | nil =>
      cases h
      exact ⟨.nil, hp, rfl, .singleton _, rfl, rfl⟩
    | cons => cases h
  | cons write writes ih =>
    cases answers with
    | nil => cases h
    | cons e answers =>
      obtain ⟨⟨hperform, htold⟩, h⟩ := Option.ite_none_right_eq_some.mp h
      obtain ⟨hbefore, hproper, haccess, hcalls⟩ := hp.performed hperform
      have hafter : e.record.after.Sound := hproper.sound _ (by simp [PortRecord.shown])
      have hlink : write.outcome.link = e.record.after.link := by rw [htold]
      have hrest := ih hafter h
      refine ⟨.cons ⟨call_of_perform hperform, htold⟩ hrest.each, hrest.sound,
        hrest.access.trans haccess, ?_, ?_, ?_⟩
      · rw [List.map_cons, hlink, List.isChain_cons_cons]
        exact ⟨evolves_of_proper hproper hbefore, hrest.links⟩
      · rw [List.map_cons, hlink, List.getLastD_cons]
        exact hrest.last
      · rw [List.flatMap_cons, List.foldlM_append, hcalls]
        exact haccess ▸ hrest.calls

theorem SafetySession.ZeroAttempt.last {s s' : SafetySession} {link link' : Link} {now : Int}
    {outcome : WriteOutcome} {writes : List Write}
    (h : ZeroAttempt s link now outcome s' link' writes) :
    (writes.map fun write => write.outcome.link).getLastD link = link' := by
  cases h <;> rfl

/-- The link that a call leaves behind is the one of its last write. -/
theorem Transition.last {s : SafetySession} {link : Link} {op : Op} {o : Outcome}
    (h : Transition s link op o) :
    (o.writes.map fun write => write.outcome.link).getLastD link = o.link := by
  cases h with
  | retry _ _ hattempt => exact hattempt.last
  | watchdog _ _ _ _ _ hattempt => exact hattempt.last
  | motionFailed _ _ _ _ _ _ hattempt =>
    rw [List.map_cons, List.getLastD_cons]
    exact hattempt.last
  | _ => rfl

/-! ### All calls -/

namespace ProcessCall

def sessionEvent : ProcessCall → Option Event
  | .session e _ => some e
  | _ => none

/-- The calls of the port, those of the session included. -/
def portEvents : ProcessCall → List PortEvent
  | .port e => [e]
  | .session _ answers => answers
  | _ => []

end ProcessCall

/-- The calls of the session in a trace, the latest one first as in every history. -/
def sessionHistory (trace : List ProcessCall) : List Event :=
  (trace.filterMap ProcessCall.sessionEvent).reverse

def portTrace (trace : List ProcessCall) : List PortEvent := trace.flatMap ProcessCall.portEvents

def systemTrace (trace : List ProcessCall) : List SystemCall :=
  (portTrace trace).flatMap PortEvent.calls

theorem sessionHistory_append (trace more : List ProcessCall) :
    sessionHistory (trace ++ more) = sessionHistory more ++ sessionHistory trace := by
  simp [sessionHistory]

@[simp] theorem portTrace_nil : portTrace [] = [] := rfl

@[simp] theorem portTrace_cons (call : ProcessCall) (trace : List ProcessCall) :
    portTrace (call :: trace) = call.portEvents ++ portTrace trace := rfl

theorem portTrace_append (trace more : List ProcessCall) :
    portTrace (trace ++ more) = portTrace trace ++ portTrace more := List.flatMap_append

theorem systemTrace_append (trace more : List ProcessCall) :
    systemTrace (trace ++ more) = systemTrace trace ++ systemTrace more := by
  rw [systemTrace, portTrace_append, List.flatMap_append]
  rfl

/-- A session of a process has got where a run of its machine has. -/
def Attended (config : SafetyConfig) (trace : List ProcessCall) (p : SerialPort)
    (s : SafetySession) : Prop :=
  ∃ w, (sessionMachine Link.Evolves config).Run (sessionHistory trace) w ∧ w.session = s ∧
    w.link.Evolves p.link

/-- What a trace that the guard goes along with says of the port and of the session. -/
structure Guarded (p : SerialPort) (trace : List ProcessCall) (g : Guard) : Prop where
  sound : g.port.Sound
  access : g.port.access = p.access
  descriptors : (systemTrace trace).foldlM (guarded p.access true) p.holding = some g.port.holding
  silent : g.session = none → sessionHistory trace = []
  attended : ∀ s, g.session = some s →
    ∃ config link, .construct config link ∈ trace ∧ Attended config trace g.port s

variable {p : SerialPort} {trace : List ProcessCall} {g g' : Guard}

theorem Attended.evolves {config : SafetyConfig} {q q' : SerialPort} {s : SafetySession}
    (h : Attended config trace q s) (hevolves : q.link.Evolves q'.link) :
    Attended config trace q' s := by
  obtain ⟨w, run, hsession, hlink⟩ := h
  exact ⟨w, run, hsession, hlink.trans hevolves⟩

/-- A call of the session is a step of its machine. -/
theorem Attended.call {config : SafetyConfig} {q q' : SerialPort} {e : Event}
    {answers : List PortEvent} (h : Attended config trace q e.before) (hlink : e.link = q.link)
    (hanswered : Answered q e.writes answers q') :
    Attended config (trace ++ [.session e answers]) q' e.after := by
  obtain ⟨w, run, hsession, hevolves⟩ := h
  have hlinks : (w.link :: e.links).IsChain Link.Evolves := by
    rw [Event.links, List.isChain_cons_cons, hlink]
    exact ⟨hevolves, hanswered.links⟩
  have hstep : (sessionMachine Link.Evolves config).step w e ⟨e.after, e.linkAfter⟩ :=
    ⟨hsession.symm, hlinks, rfl⟩
  have hhistory : sessionHistory (trace ++ [.session e answers]) = e :: sessionHistory trace := by
    simp [sessionHistory, ProcessCall.sessionEvent]
  refine ⟨⟨e.after, e.linkAfter⟩, hhistory ▸ run.next hstep, rfl, ?_⟩
  have hlast := (step_transition run hstep).last
  rw [hlink] at hlast
  have hafter : e.linkAfter = q'.link := hlast.symm.trans hanswered.last
  rw [hafter]
  exact .refl _

/-- A call that neither the port nor the session sees. -/
theorem Guarded.aside (h : Guarded p trace g) {call : ProcessCall}
    (hport : call.portEvents = []) (hsession : call.sessionEvent = none) :
    Guarded p (trace ++ [call]) g := by
  have hhistory : sessionHistory (trace ++ [call]) = sessionHistory trace := by
    simp [sessionHistory, hsession]
  have hsystem : systemTrace (trace ++ [call]) = systemTrace trace := by
    simp [systemTrace, portTrace, hport]
  refine ⟨h.sound, h.access, hsystem ▸ h.descriptors, fun hnone => ?_, fun s hs => ?_⟩
  · rw [hhistory]
    exact h.silent hnone
  · obtain ⟨config, link, hmem, hattended⟩ := h.attended s hs
    refine ⟨config, link, List.mem_append_left _ hmem, ?_⟩
    rw [Attended, hhistory]
    exact hattended

theorem Guarded.port (h : Guarded p trace g) {e : PortEvent}
    (hperform : g.port.perform e.record.call e.calls = some (e.record, [])) :
    Guarded p (trace ++ [.port e]) { g with port := e.record.after } := by
  obtain ⟨hbefore, hproper, haccess, hcalls⟩ := h.sound.performed hperform
  have hhistory : sessionHistory (trace ++ [.port e]) = sessionHistory trace := by
    simp [sessionHistory, ProcessCall.sessionEvent]
  refine ⟨hproper.sound _ (by simp [PortRecord.shown]), haccess.trans h.access, ?_,
    fun hnone => ?_, fun s hs => ?_⟩
  · rw [systemTrace_append, List.foldlM_append, h.descriptors]
    simpa [systemTrace, portTrace, ProcessCall.portEvents, ← h.access] using hcalls
  · rw [hhistory]
    exact h.silent hnone
  · obtain ⟨config, link, hmem, hattended⟩ := h.attended s hs
    refine ⟨config, link, List.mem_append_left _ hmem, ?_⟩
    rw [Attended, hhistory]
    exact hattended.evolves (SerialPort.evolves_of_proper hproper hbefore)

theorem Guarded.construct (h : Guarded p trace g) (hnone : g.session = none)
    (config : SafetyConfig) :
    Guarded p (trace ++ [.construct config g.port.link])
      { g with session := some (.construct config (some g.port.link)) } := by
  have hhistory : sessionHistory (trace ++ [.construct config g.port.link]) = [] := by
    rw [sessionHistory_append, h.silent hnone]
    rfl
  refine ⟨h.sound, h.access, ?_, nofun, fun s hs => ?_⟩
  · rw [systemTrace_append]
    exact (List.append_nil (systemTrace trace)).symm ▸ h.descriptors
  · cases hs
    refine ⟨config, g.port.link, by simp, ⟨_, g.port.link⟩, ?_, rfl, .refl _⟩
    rw [hhistory]
    exact .start (.inl rfl)

theorem Guarded.session (h : Guarded p trace g) {e : Event} {answers : List PortEvent}
    {q : SerialPort} (hbefore : some e.before = g.session) (hlink : e.link = g.port.link)
    (hanswer : g.port.answer e.writes answers = some q) :
    Guarded p (trace ++ [.session e answers]) { port := q, session := some e.after } := by
  have hanswered := h.sound.answered hanswer
  refine ⟨hanswered.sound, hanswered.access.trans h.access, ?_, nofun, fun s hs => ?_⟩
  · rw [systemTrace_append, List.foldlM_append, h.descriptors]
    simpa [systemTrace, portTrace, ProcessCall.portEvents, ← h.access] using hanswered.calls
  · cases hs
    obtain ⟨config, link, hmem, hattended⟩ := h.attended _ hbefore.symm
    exact ⟨config, link, List.mem_append_left _ hmem, hattended.call hlink hanswered⟩

theorem Guarded.step (h : Guarded p trace g) {call : ProcessCall}
    (hguard : guard g call = some g') :
    Guarded p (trace ++ [call]) g' := by
  cases call with
  | port e =>
    obtain ⟨⟨hperform, -⟩, heq⟩ := Option.ite_none_right_eq_some.mp hguard
    cases heq
    exact h.port hperform
  | construct config link =>
    obtain ⟨⟨hnone, rfl⟩, heq⟩ := Option.ite_none_right_eq_some.mp hguard
    cases heq
    exact h.construct hnone config
  | session e answers =>
    obtain ⟨⟨hbefore, hlink⟩, hmap⟩ := Option.ite_none_right_eq_some.mp hguard
    obtain ⟨q, hanswer, rfl⟩ := Option.map_eq_some_iff.mp hmap
    exact h.session hbefore hlink hanswer
  | _ =>
    cases hguard
    exact h.aside rfl rfl

theorem guarded_start (hp : p.Sound) : Guarded p [] { port := p } where
  sound := hp
  access := rfl
  descriptors := rfl
  silent _ := rfl
  attended _ hs := by cases hs

/-- The calls of a port one after the other, each of them made of the system calls beside it. -/
inductive PortRun : SerialPort → List PortEvent → SerialPort → Prop
  | nil {p : SerialPort} : PortRun p [] p
  | cons {p p' : SerialPort} : p.perform e.record.call e.calls = some (e.record, []) →
      PortRun e.record.after events p' → PortRun p (e :: events) p'

theorem PortRun.trans {p q r : SerialPort} {events more : List PortEvent}
    (first : PortRun p events q) (second : PortRun q more r) : PortRun p (events ++ more) r := by
  induction first with
  | nil => exact second
  | cons hperform _ ih => exact .cons hperform (ih second)

/-- The descriptor of a port at the end of its calls. -/
theorem PortRun.guarded {p q : SerialPort} {events : List PortEvent} (h : PortRun p events q)
    (hp : p.Sound) :
    (events.flatMap PortEvent.calls).foldlM (guarded p.access true) p.holding = some q.holding := by
  induction h with
  | nil => rfl
  | cons hperform _ ih =>
    obtain ⟨-, hproper, haccess, hcalls⟩ := hp.performed hperform
    rw [List.flatMap_cons, List.foldlM_append, hcalls, ← haccess]
    exact ih (hproper.sound _ (by simp [PortRecord.shown]))

/-- The terminal of a port at the end of its calls. -/
theorem PortRun.terminal {p q : SerialPort} {events : List PortEvent} (h : PortRun p events q)
    (hp : p.Sound) :
    (events.flatMap PortEvent.calls).foldlM (terminal p.devicePath p.access) p.terminal =
      some q.terminal := by
  induction h with
  | nil => rfl
  | @cons events e p _ hperform _ ih =>
    obtain ⟨-, hproper, haccess, -⟩ := hp.performed hperform
    obtain ⟨made, held, hmade, hterminal, rfl, hpath⟩ :=
      SerialPort.perform_terminal hp e.record.call e.calls e.record [] hperform
    rw [List.append_nil] at hmade
    rw [List.flatMap_cons, List.foldlM_append, hmade, hterminal, ← hpath, ← haccess]
    exact ih (hproper.sound _ (by simp [PortRecord.shown]))

theorem portRun_of_answer {p q : SerialPort} {writes : List Write} {answers : List PortEvent}
    (h : p.answer writes answers = some q) : PortRun p answers q := by
  induction writes generalizing p answers with
  | nil =>
    cases answers with
    | nil =>
      cases h
      exact .nil
    | cons => cases h
  | cons write writes ih =>
    cases answers with
    | nil => cases h
    | cons e answers =>
      obtain ⟨⟨hperform, -⟩, h⟩ := Option.ite_none_right_eq_some.mp h
      exact .cons (SerialPort.call_of_perform hperform ▸ hperform) (ih h)

theorem portRun_of_guard {call : ProcessCall} (h : guard g call = some g') :
    PortRun g.port call.portEvents g'.port := by
  cases call with
  | port e =>
    obtain ⟨⟨hperform, -⟩, ⟨⟩⟩ := Option.ite_none_right_eq_some.mp h
    exact .cons hperform .nil
  | construct config link =>
    obtain ⟨-, ⟨⟩⟩ := Option.ite_none_right_eq_some.mp h
    exact .nil
  | session e answers =>
    obtain ⟨-, hmap⟩ := Option.ite_none_right_eq_some.mp h
    obtain ⟨q, hanswer, rfl⟩ := Option.map_eq_some_iff.mp hmap
    exact portRun_of_answer hanswer
  | _ =>
    cases h
    exact .nil

theorem portRun_of_guarded (h : trace.foldlM guard g = some g') :
    PortRun g.port (portTrace trace) g'.port := by
  induction trace generalizing g with
  | nil =>
    cases h
    exact .nil
  | cons call trace ih =>
    obtain ⟨between, hcall, hrest⟩ := Option.bind_eq_some_iff.mp h
    exact (portRun_of_guard hcall).trans (ih hrest)

/-- What a guard says of a call that it meets on the way. -/
theorem Guarded.of_mem {p : SerialPort} (h : Guarded p trace g) {more : List ProcessCall}
    (hmore : more.foldlM guard g = some g') {call : ProcessCall} (hmem : call ∈ more) :
    ∃ q q' : Guard, q.port.Sound ∧ guard q call = some q' := by
  induction more generalizing trace g with
  | nil => cases hmem
  | cons first more ih =>
    obtain ⟨between, hfirst, hmore⟩ := Option.bind_eq_some_iff.mp hmore
    rcases List.mem_cons.mp hmem with rfl | hmem
    · exact ⟨g, between, h.sound, hfirst⟩
    · exact ih (h.step hfirst) hmore hmem

/-! ### What the main program calls -/

theorem guard_aside {call : ProcessCall} (h : call.aside = true) : guard g call = some g := by
  cases call <;> first | rfl | cases h

namespace Process

theorem monotonicNowNs_makes : Makes monotonicNowNs fun ns made => made = [.monotonicNow ns] := by
  refine .call fun c ns h => ?_
  cases c with
  | monotonicNow ns' =>
    cases h
    rfl
  | _ => cases h

theorem shutdownRequested_makes :
    Makes shutdownRequested fun value made => made = [.shutdownRequested value] := by
  refine .call fun c value h => ?_
  cases c with
  | shutdownRequested value' =>
    cases h
    rfl
  | _ => cases h

theorem nanosleep_makes (request : Timespec) :
    Makes (nanosleep request) fun r made => made = [.nanosleep request r.1 r.2] := by
  refine .call fun c r h => ?_
  cases c with
  | nanosleep request' reply remaining =>
    obtain ⟨rfl, ⟨⟩⟩ := Option.ite_none_right_eq_some.mp h
    rfl
  | _ => cases h

theorem construct_makes (port : SerialPort) (config : SafetyConfig) :
    Makes (construct port config) fun s made =>
      made = [.construct config port.link] ∧ s.port = port ∧
        s.session = .construct config (some port.link) := by
  refine .call fun c s h => ?_
  cases c with
  | construct config' link =>
    obtain ⟨⟨rfl, rfl⟩, ⟨⟩⟩ := Option.ite_none_right_eq_some.mp h
    exact ⟨rfl, rfl, rfl⟩
  | _ => cases h

end Process

theorem SerialPort.request_makes (p : SerialPort) (call : PortCall) :
    Makes (p.request call) fun record made =>
      ∃ e : PortEvent, made = [.port e] ∧ e.record = record ∧
        p.perform call e.calls = some (e.record, []) := by
  refine .call fun c record h => ?_
  cases c with
  | port e =>
    obtain ⟨hperform, ⟨⟩⟩ := Option.ite_none_right_eq_some.mp h
    exact ⟨e, rfl, rfl, hperform⟩
  | _ => cases h

theorem guard_port {e : PortEvent} {call : PortCall}
    (hperform : g.port.perform call e.calls = some (e.record, [])) (hcall : call.harmless = true) :
    guard g (.port e) = some { g with port := e.record.after } := by
  obtain rfl := SerialPort.call_of_perform hperform
  exact if_pos ⟨hperform, hcall⟩

namespace GuardedPort

theorem call_makes (s : GuardedPort) (asks : Op → Bool) :
    Makes (s.call asks) fun r made =>
      ∃ answers, made = [.session r.1 answers] ∧ asks r.1.op = true ∧
        WheeltecVcuSerial.guard s.guard (.session r.1 answers) = some r.2.guard := by
  refine .call fun c r h => ?_
  cases c with
  | session e answers =>
    obtain ⟨⟨hbefore, hlink, hasks⟩, hmap⟩ := Option.ite_none_right_eq_some.mp h
    obtain ⟨port, hanswer, rfl⟩ := Option.map_eq_some_iff.mp hmap
    refine ⟨answers, rfl, hasks, ?_⟩
    rw [WheeltecVcuSerial.guard, if_pos ⟨congrArg some hbefore, hlink⟩]
    exact congrArg (Option.map _) hanswer
  | _ => cases h

theorem tick_makes (s : GuardedPort) (now : Int) :
    Makes (s.tick now) fun s' made =>
      ∃ e answers, made = [.session e answers] ∧ e.op.isTick now = true ∧
        WheeltecVcuSerial.guard s.guard (.session e answers) = some s'.guard := by
  refine .bind (s.call_makes _) ?_
  rintro ⟨e, s'⟩ _ ⟨answers, rfl, htick, hguard⟩
  exact .pure ⟨e, answers, rfl, htick, hguard⟩

end GuardedPort

theorem Event.writes_of_perform {e : Event} (h : ∀ now, e.op.isTick now = false) :
    e.writes = [] := by
  rw [writes, outcome]
  cases hop : e.op with
  | tick now _ _ => simpa [hop, Op.isTick] using h now
  | _ => rfl

/-- Nothing of the port is asked for by a call that does not write. -/
theorem answers_of_silent {e : Event} {answers : List PortEvent} (hwrites : e.writes = [])
    (h : guard g (.session e answers) = some g') : answers = [] := by
  obtain ⟨-, hmap⟩ := Option.ite_none_right_eq_some.mp h
  obtain ⟨_, hanswer, -⟩ := Option.map_eq_some_iff.mp hmap
  rw [hwrites] at hanswer
  cases answers with
  | nil => rfl
  | cons => cases hanswer

theorem GuardedPort.perform_makes (s : GuardedPort) {op : Op} (hop : ∀ now, op.isTick now = false) :
    Makes (s.perform op) fun s' made =>
      ∃ e, made = [.session e []] ∧ e.op = op ∧
        WheeltecVcuSerial.guard s.guard (.session e []) = some s'.guard := by
  refine .bind (s.call_makes _) ?_
  rintro ⟨e, s'⟩ _ ⟨answers, rfl, hasks, hguard⟩
  obtain rfl : e.op = op := by simpa using hasks
  obtain rfl := answers_of_silent (e.writes_of_perform hop) hguard
  exact .pure ⟨e, rfl, rfl, hguard⟩

end WheeltecVcuSerial
