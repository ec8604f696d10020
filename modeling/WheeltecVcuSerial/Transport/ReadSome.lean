import WheeltecVcuSerial.Transport.Operations
import Mathlib.Data.List.Infix

namespace WheeltecVcuSerial

open Errno

/-- The arguments of `readSomeWithOperations`. -/
structure ReadRequest where
  fd : Int
  dataNull : Bool := false
  capacity : Nat
  absoluteDeadlineNs : Int
  operationsComplete : Bool := true
  deriving DecidableEq

/-- Where a call of `readSomeWithOperations` stands between two answers. -/
inductive ReadPhase
  | beforeRead
  | reading
  | completing (data : List UInt8)
  | waiting (wait : WaitPhase)
  | failing (errorNumber : Int)
  /-- `data` is what the call has put at the front of the buffer. -/
  | returned (result : IoResult) (data : List UInt8)
  deriving DecidableEq

namespace ReadRequest

def start (r : ReadRequest) : ReadPhase :=
  if r.fd < 0 || r.dataNull || r.capacity = 0 || !r.operationsComplete then
    .returned { status := .invalidArgument, osError := einval } []
  else .beforeRead

/-- The result of a read that delivered `data`, at the clock reading after it. -/
def completion (r : ReadRequest) (data : List UInt8) (completionNs : Int) : IoResult :=
  if data.length > r.capacity then
    { status := .ioError, osError := errorIo, completionMonotonicNs := completionNs }
  else
    { status := if completionNs > r.absoluteDeadlineNs then .deadlineExceeded else .ok
      bytesTransferred := data.length
      osError := if completionNs > r.absoluteDeadlineNs then etimedout else 0
      completionMonotonicNs := completionNs }

/-- A call that waits for input, or one whose wait is over. -/
def afterWait : WaitPhase → ReadPhase
  | .returned wait =>
    if wait.ready then .beforeRead
    else
      .returned { status := wait.status
                  osError := wait.osError
                  completionMonotonicNs := wait.completionMonotonicNs } []
  | wait => .waiting wait

/-- `readSomeWithOperations` goes on with an answer; there is no other answer that it waits for. -/
def resume (r : ReadRequest) : ReadPhase → Answer → Option ReadPhase
  | .beforeRead, .monotonicNow beforeReadNs =>
    if beforeReadNs ≥ r.absoluteDeadlineNs then
      some (.returned { status := .deadlineExceeded
                        osError := etimedout
                        completionMonotonicNs := beforeReadNs } [])
    else some .reading
  | .reading, .readBytes (.delivered data) =>
    some (if data.length > 0 then .completing data else .waiting .beforePoll)
  | .reading, .readBytes (.failed errorNumber) =>
    some (if errorNumber = eintr then .beforeRead
      else if errorNumber = eagain || errorNumber = ewouldblock then .waiting .beforePoll
      else .failing errorNumber)
  | .completing data, .monotonicNow completionNs =>
    some (.returned (r.completion data completionNs) data)
  | .waiting wait, answer => (wait.resume pollIn r.absoluteDeadlineNs answer).map afterWait
  | .failing errorNumber, .monotonicNow completionNs =>
    some (.returned
      { status := if isDisconnectError errorNumber then .disconnected else .ioError
        osError := errorNumber
        completionMonotonicNs := completionNs } [])
  | _, _ => none

def run (r : ReadRequest) (phase : ReadPhase) (answers : List Answer) : Option ReadPhase :=
  answers.foldlM r.resume phase

end ReadRequest

/-- The result of the call that gets exactly these answers, with the bytes that it has put at the
front of the buffer. -/
def readSomeWithOperations (r : ReadRequest) (answers : List Answer) :
    Option (IoResult × List UInt8) :=
  match r.run r.start answers with
  | some (.returned result data) => some (result, data)
  | _ => none

theorem run_of_readSome {r : ReadRequest} {answers : List Answer} {result : IoResult}
    {data : List UInt8} (h : readSomeWithOperations r answers = some (result, data)) :
    r.run r.start answers = some (.returned result data) := by
  unfold readSomeWithOperations at h
  split at h
  · cases h
    assumption
  · cases h

/-- The clock reading after a read that delivered bytes is never past the deadline. -/
def InTime (absoluteDeadlineNs : Int) (answers : List Answer) : Prop :=
  ∀ earlier data completionNs later,
    answers = earlier ++ .readBytes (.delivered data) :: .monotonicNow completionNs :: later →
      data ≠ [] → completionNs ≤ absoluteDeadlineNs

theorem inTime_of_delivered_nil {absoluteDeadlineNs : Int} {answers : List Answer}
    (h : delivered answers = []) : InTime absoluteDeadlineNs answers := by
  rintro earlier data completionNs later rfl hdata
  simp [delivered_append, Answer.bytes, hdata] at h

/-- No read delivers more than it was asked for. -/
def Fits (capacity : Nat) (answers : List Answer) : Prop :=
  ∀ data, Answer.readBytes (.delivered data) ∈ answers → data.length ≤ capacity

/-- The call goes on, and no bytes have come yet. -/
def ReadPhase.Seeking : ReadPhase → Prop
  | .completing _ | .returned _ _ => False
  | _ => True

/-- The call is over, and no bytes have come. -/
inductive ReadPhase.Fruitless : ReadPhase → Prop
  | mk : result.status ≠ .ok → result.bytesTransferred = 0 → Fruitless (.returned result [])

namespace ReadRequest

/-- How a call ends: no read delivers anything, or the last one does and the clock is read once
more. -/
inductive Ending (r : ReadRequest) : List Answer → IoResult → List UInt8 → Prop
  | fruitless : delivered answers = [] → ReadPhase.Fruitless (.returned result data) →
      Ending r answers result data
  | read : delivered earlier = [] → data ≠ [] →
      Ending r (earlier ++ [.readBytes (.delivered data), .monotonicNow completionNs])
        (r.completion data completionNs) data

variable {r : ReadRequest} {answers : List Answer} {result : IoResult} {data : List UInt8}

theorem Ending.cons {answer : Answer} (hanswer : answer.bytes = [])
    (h : r.Ending answers result data) : r.Ending (answer :: answers) result data := by
  cases h with
  | fruitless hanswers hresult => exact .fruitless (by simp [hanswer, hanswers]) hresult
  | read hearlier hdata =>
    rw [← List.cons_append]
    exact .read (by simp [hanswer, hearlier]) hdata

theorem afterWait_cases (wait : WaitPhase) :
    (afterWait wait).Seeking ∨ (afterWait wait).Fruitless := by
  cases wait with
  | returned wait =>
    cases hready : wait.ready with
    | true => simp [afterWait, hready, ReadPhase.Seeking]
    | false =>
      simp only [afterWait, hready]
      exact .inr (.mk (by simpa [WaitResult.ready] using hready) rfl)
  | beforePoll => exact .inl trivial
  | polling timeoutMs => exact .inl trivial
  | afterPoll poll => exact .inl trivial

/-- One answer to a call without bytes. -/
theorem resume_seeking {p q : ReadPhase} {answer : Answer} (hp : p.Seeking)
    (h : r.resume p answer = some q) :
    answer.bytes = [] ∧ (q.Seeking ∨ q.Fruitless) ∨
      ∃ data, data ≠ [] ∧ answer = .readBytes (.delivered data) ∧ q = .completing data := by
  cases p with
  | beforeRead =>
    cases answer with
    | monotonicNow beforeReadNs =>
      refine .inl ⟨rfl, ?_⟩
      simp only [resume] at h
      split at h <;> cases h
      · exact .inr (.mk (by simp) rfl)
      · exact .inl trivial
    | readBytes _ | pollOne _ => cases h
  | reading =>
    cases answer with
    | readBytes answer =>
      cases answer with
      | failed errorNumber =>
        refine .inl ⟨rfl, .inl ?_⟩
        simp only [resume, Option.some.injEq] at h
        subst h
        split_ifs <;> trivial
      | delivered data =>
        simp only [resume, Option.some.injEq] at h
        subst h
        cases data with
        | nil => exact .inl ⟨rfl, .inl trivial⟩
        | cons byte data => exact .inr ⟨byte :: data, by simp, rfl, rfl⟩
    | monotonicNow _ | pollOne _ => cases h
  | completing data => exact hp.elim
  | waiting wait =>
    obtain ⟨wait', hwait, rfl⟩ := Option.map_eq_some_iff.mp h
    exact .inl ⟨WaitPhase.bytes_of_resume hwait, afterWait_cases wait'⟩
  | failing errorNumber =>
    cases answer with
    | monotonicNow completionNs =>
      cases h
      exact .inl ⟨rfl, .inr (.mk (by dsimp only; split <;> simp) rfl)⟩
    | readBytes _ | pollOne _ => cases h
  | returned result data => exact hp.elim

/-- A call that is over gets no more answers. -/
theorem run_returned {q : ReadPhase} (h : r.run (.returned result data) answers = some q) :
    answers = [] ∧ q = .returned result data := by
  cases answers with
  | nil => exact ⟨rfl, (Option.some.inj h).symm⟩
  | cons answer answers => cases h

/-- A call with bytes reads the clock and is over. -/
theorem run_completing {data' : List UInt8}
    (h : r.run (.completing data') answers = some (.returned result data)) :
    data = data' ∧ ∃ completionNs,
      answers = [.monotonicNow completionNs] ∧ result = r.completion data' completionNs := by
  cases answers with
  | nil => cases h
  | cons answer answers =>
    cases answer with
    | monotonicNow completionNs =>
      obtain ⟨rfl, hq⟩ := run_returned h
      cases hq
      exact ⟨rfl, completionNs, rfl, rfl⟩
    | readBytes _ | pollOne _ => cases h

theorem run_seeking {p : ReadPhase} (hp : p.Seeking)
    (h : r.run p answers = some (.returned result data)) : r.Ending answers result data := by
  induction answers generalizing p with
  | nil =>
    cases h
    exact hp.elim
  | cons answer answers ih =>
    obtain ⟨q, hq, hrest⟩ := Option.bind_eq_some_iff.mp h
    rcases resume_seeking hp hq with ⟨hbytes, hseeking | hfruitless⟩ | ⟨data', hne, rfl, rfl⟩
    · exact (ih hseeking hrest).cons hbytes
    · cases hfruitless with
      | mk hstatus hcount =>
        obtain ⟨rfl, heq⟩ := run_returned hrest
        cases heq
        exact .fruitless (by simp [hbytes]) (.mk hstatus hcount)
    · obtain ⟨rfl, completionNs, rfl, rfl⟩ := run_completing hrest
      exact Ending.read delivered_nil hne

theorem ending (h : readSomeWithOperations r answers = some (result, data)) :
    r.Ending answers result data := by
  have hrun := run_of_readSome h
  rw [start] at hrun
  split at hrun
  · obtain ⟨rfl, heq⟩ := run_returned hrun
    cases heq
    exact .fruitless rfl (.mk (by simp) rfl)
  · exact run_seeking (p := .beforeRead) trivial hrun

theorem Ending.delivered_eq (h : r.Ending answers result data) : delivered answers = data := by
  cases h with
  | fruitless hanswers hresult =>
    cases hresult
    exact hanswers
  | read hearlier _ => simp [delivered_append, hearlier, Answer.bytes]

theorem Ending.length_le (h : r.Ending answers result data) (hfits : Fits r.capacity answers) :
    data.length ≤ r.capacity := by
  cases h with
  | fruitless hanswers hresult =>
    cases hresult
    exact r.capacity.zero_le
  | read hearlier hdata => exact hfits data (by simp)

theorem Ending.inTime_iff (h : r.Ending answers result data) (hfits : data.length ≤ r.capacity) :
    InTime r.absoluteDeadlineNs answers ↔ data = [] ∨ result.status = .ok := by
  cases h with
  | fruitless hanswers hresult =>
    cases hresult
    exact iff_of_true (inTime_of_delivered_nil hanswers) (.inl rfl)
  | @read earlier data completionNs hearlier hdata =>
    have hok : (r.completion data completionNs).status = .ok ↔
        completionNs ≤ r.absoluteDeadlineNs := by
      simp only [completion, if_neg hfits.not_gt]
      split <;> simp <;> omega
    rw [hok, or_iff_right hdata]
    constructor
    · intro hintime
      exact hintime earlier data completionNs [] rfl hdata
    · intro hle earlier' data' completionNs' later heq hdata'
      rcases List.append_eq_append_iff.mp heq with ⟨gap, rfl, htail⟩ | ⟨gap, rfl, htail⟩
      · cases gap with
        | nil =>
          cases htail
          exact hle
        | cons first gap => simp [List.cons_eq_append_iff] at htail
      · cases gap with
        | nil =>
          cases htail
          exact hle
        | cons first gap =>
          obtain ⟨rfl, -⟩ := List.cons.inj htail
          simp [delivered_append, Answer.bytes, hdata'] at hearlier

/-- A call reports all of its bytes, whatever its status. -/
theorem Ending.bytesTransferred_eq (h : r.Ending answers result data)
    (hfits : data.length ≤ r.capacity) :
    result.bytesTransferred = data.length := by
  cases h with
  | fruitless hanswers hresult =>
    cases hresult with
    | mk hstatus hcount => exact hcount
  | read hearlier hdata => simp [completion, hfits.not_gt]

end ReadRequest

/-- What the reads of a `PosixSerialTransport` need of it. -/
structure PosixSerialTransport where
  fd : Int := -1
  connected : Bool := false
  generation : Nat := 0
  deriving DecidableEq

namespace PosixSerialTransport

def close (t : PosixSerialTransport) : PosixSerialTransport :=
  { t with fd := -1, connected := false }

/-- What `reopen` leaves behind, given the descriptor that it comes by. -/
def reopened (t : PosixSerialTransport) : Option Nat → PosixSerialTransport
  | some fd => { fd := fd, connected := true, generation := t.generation + 1 }
  | none => t.close

/-- `readSome`, with the bytes that it has put at the front of the buffer. -/
def readSome (t : PosixSerialTransport) (capacity : Nat) (absoluteDeadlineNs : Int)
    (answers : List Answer) : Option (IoResult × List UInt8 × PosixSerialTransport) :=
  if !t.connected || t.fd < 0 then
    match answers with
    | [.monotonicNow ns] =>
      some ({ status := .disconnected, osError := enotconn, completionMonotonicNs := ns }, [], t)
    | _ => none
  else
    (readSomeWithOperations
      { fd := t.fd, capacity := capacity, absoluteDeadlineNs := absoluteDeadlineNs } answers).map
      fun (result, data) =>
        (result, data, if result.status = .disconnected then t.close else t)

/-- A completed read: what the system delivered is in the buffer and is counted, and the status is
`ok` exactly if it came in time. -/
structure Reads (absoluteDeadlineNs : Int) (answers : List Answer) (result : IoResult)
    (data : List UInt8) : Prop where
  delivered_eq : delivered answers = data
  inTime_iff : InTime absoluteDeadlineNs answers ↔ data = [] ∨ result.status = .ok
  bytesTransferred_eq : result.bytesTransferred = data.length

theorem reads {t t' : PosixSerialTransport} {capacity : Nat} {absoluteDeadlineNs : Int}
    {answers : List Answer} {result : IoResult} {data : List UInt8} (hfits : Fits capacity answers)
    (h : t.readSome capacity absoluteDeadlineNs answers = some (result, data, t')) :
    Reads absoluteDeadlineNs answers result data := by
  unfold readSome at h
  split at h
  · split at h
    · cases h
      exact ⟨rfl, iff_of_true (inTime_of_delivered_nil rfl) (.inl rfl), rfl⟩
    · cases h
  · obtain ⟨⟨result', data'⟩, hread, heq⟩ := Option.map_eq_some_iff.mp h
    cases heq
    have hending := ReadRequest.ending hread
    have hlength := hending.length_le hfits
    exact ⟨hending.delivered_eq, hending.inTime_iff hlength, hending.bytesTransferred_eq hlength⟩

end PosixSerialTransport

end WheeltecVcuSerial
