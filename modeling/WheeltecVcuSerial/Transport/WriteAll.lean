import WheeltecVcuSerial.Trace.Procedure
import WheeltecVcuSerial.Transport.Operations

namespace WheeltecVcuSerial

open Errno

/-- `-1` with its `errno`, or the number of bytes that were accepted. -/
inductive WriteAnswer
  | failed (errorNumber : Int)
  | accepted (count : Nat)
  deriving DecidableEq

/-- What the operations of `writeAllWithOperations` come back with. -/
inductive WriteReply
  | monotonicNow (ns : Int)
  | writeBytes (answer : WriteAnswer)
  | pollOne (answer : PollAnswer)
  deriving DecidableEq

def WriteReply.operation : WriteReply → Operation
  | .monotonicNow _ => .monotonicNow
  | .writeBytes _ => .writeBytes
  | .pollOne _ => .pollOne

/-- The arguments of `writeAllWithOperations`. -/
structure WriteRequest where
  fd : Int
  data : ByteSpan
  absoluteDeadlineNs : Int
  operationsComplete : Bool := true
  deriving DecidableEq

/-- Where a call of `writeAllWithOperations` stands between two answers. -/
inductive WritePhase
  /-- The reading of the clock for an empty buffer. -/
  | finishing
  | beforeWrite (transferred : Nat)
  | writing (transferred : Nat) (beforeWriteNs : Int)
  | completing (transferred : Nat)
  | waiting (transferred : Nat) (wait : WaitPhase)
  /-- The reading of the clock for a result that is settled but for its time. -/
  | concluding (status : TransportStatus) (transferred : Nat) (osError : Int)
      (outcomeUncertain : Bool)
  | returned (result : IoResult)
  deriving DecidableEq

namespace WriteRequest

/-- The bytes that the call is to write. -/
def bytes (r : WriteRequest) : List UInt8 :=
  match r.data with
  | .null _ => []
  | .bytes data => data

def dataNull (r : WriteRequest) : Bool :=
  match r.data with
  | .null _ => true
  | .bytes _ => false

def start (r : WriteRequest) : WritePhase :=
  if r.fd < 0 || (r.dataNull && r.data.size ≠ 0) || !r.operationsComplete then
    .returned { status := .invalidArgument, osError := einval }
  else if r.data.size = 0 then .finishing
  else .beforeWrite 0

/-- The test of the loop. -/
def loop (r : WriteRequest) (transferred : Nat) : WritePhase :=
  if transferred < r.data.size then .beforeWrite transferred
  else .concluding .ioError transferred errorIo true

/-- The result of a call that has written everything. -/
def completion (r : WriteRequest) (transferred : Nat) (completionNs : Int) : IoResult :=
  let late := completionNs > r.absoluteDeadlineNs
  { status := if late then .deadlineExceeded else .ok
    bytesTransferred := transferred
    osError := if late then etimedout else 0
    hostWriteComplete := true
    outcomeUncertain := late
    completionMonotonicNs := completionNs }

/-- The result of a call that gives up at a reading of the clock. -/
def expired (transferred : Nat) (ns : Int) : IoResult :=
  { status := .deadlineExceeded
    bytesTransferred := transferred
    osError := etimedout
    outcomeUncertain := transferred ≠ 0
    completionMonotonicNs := ns }

/-- A call that waits for room, or one whose wait is over. -/
def afterWait (r : WriteRequest) (transferred : Nat) : WaitPhase → WritePhase
  | .returned wait =>
    if wait.ready then r.loop transferred
    else
      .returned
        { status := wait.status
          bytesTransferred := transferred
          osError := wait.osError
          outcomeUncertain := transferred ≠ 0 || wait.status = .disconnected
          completionMonotonicNs := wait.completionMonotonicNs }
  | wait => .waiting transferred wait

/-- The dispatch on the result of `write_bytes`. -/
def dispatch (r : WriteRequest) (transferred : Nat) (beforeWriteNs : Int) :
    WriteAnswer → WritePhase
  | .accepted 0 => .concluding .disconnected transferred epipe true
  | .accepted progress =>
    if progress > r.data.size - transferred then
      .returned
        { status := .ioError
          bytesTransferred := transferred
          osError := errorIo
          outcomeUncertain := transferred ≠ 0
          completionMonotonicNs := beforeWriteNs }
    else .completing (transferred + progress)
  | .failed errorNumber =>
    if errorNumber = eintr then r.loop transferred
    else if errorNumber = eagain || errorNumber = ewouldblock then .waiting transferred .beforePoll
    else
      let status := if isDisconnectError errorNumber then TransportStatus.disconnected else .ioError
      .concluding status transferred errorNumber (transferred ≠ 0 || status = .disconnected)

/-- `writeAllWithOperations` goes on with a reply; there is no other reply that it waits for. -/
def resume (r : WriteRequest) : WritePhase → WriteReply → Option WritePhase
  | .finishing, .monotonicNow completionNs => some (.returned (r.completion 0 completionNs))
  | .beforeWrite transferred, .monotonicNow beforeWriteNs =>
    some (if beforeWriteNs ≥ r.absoluteDeadlineNs then .returned (expired transferred beforeWriteNs)
      else .writing transferred beforeWriteNs)
  | .writing transferred beforeWriteNs, .writeBytes answer =>
    some (r.dispatch transferred beforeWriteNs answer)
  | .completing transferred, .monotonicNow completionNs =>
    some (if transferred = r.data.size then .returned (r.completion transferred completionNs)
      else if completionNs ≥ r.absoluteDeadlineNs then
        .returned { expired transferred completionNs with outcomeUncertain := true }
      else r.loop transferred)
  | .waiting transferred wait, .monotonicNow ns =>
    (wait.resume pollOut r.absoluteDeadlineNs (.monotonicNow ns)).map (r.afterWait transferred)
  | .waiting transferred wait, .pollOne answer =>
    (wait.resume pollOut r.absoluteDeadlineNs (.pollOne answer)).map (r.afterWait transferred)
  | .concluding status transferred osError outcomeUncertain, .monotonicNow completionNs =>
    some (.returned
      { status := status
        bytesTransferred := transferred
        osError := osError
        outcomeUncertain := outcomeUncertain
        completionMonotonicNs := completionNs })
  | _, _ => none

/-- The operation that the call makes next. -/
def asks : WritePhase → Option Operation
  | .writing _ _ => some .writeBytes
  | .waiting _ wait => wait.asks
  | .returned _ => none
  | _ => some .monotonicNow

theorem resume_isSome {r : WriteRequest} {p : WritePhase} {reply : WriteReply} :
    (r.resume p reply).isSome = true ↔ asks p = some reply.operation := by
  cases p with
  | waiting transferred wait =>
    cases reply with
    | monotonicNow ns =>
      rw [resume, Option.isSome_map, WaitPhase.resume_isSome]
      rfl
    | pollOne answer =>
      rw [resume, Option.isSome_map, WaitPhase.resume_isSome]
      rfl
    | writeBytes answer => cases wait <;> simp [resume, asks, WaitPhase.asks, WriteReply.operation]
  | _ => cases reply <;> simp [resume, asks, WriteReply.operation]

/-- The same with the arguments: a write offers all that is left. -/
def calling (r : WriteRequest) : WritePhase → Option IoCall
  | .writing transferred _ => some (.writeBytes r.fd (r.bytes.drop transferred))
  | .waiting _ wait => wait.calling r.fd pollOut
  | .returned _ => none
  | _ => some .monotonicNow

theorem operation_of_calling (r : WriteRequest) (p : WritePhase) :
    (r.calling p).map IoCall.operation = asks p := by
  cases p with
  | waiting _ wait => exact wait.operation_of_calling
  | _ => rfl

theorem descriptor_of_calling {r : WriteRequest} {p : WritePhase} {call : IoCall}
    (h : r.calling p = some call) : call.descriptor = none ∨ call.descriptor = some r.fd := by
  cases p with
  | waiting _ wait => exact WaitPhase.descriptor_of_calling h
  | writing _ _ =>
    cases h
    exact .inr rfl
  | returned _ => cases h
  | finishing | beforeWrite _ | completing _ | concluding _ _ _ _ =>
    cases h
    exact .inl rfl

def procedure (r : WriteRequest) : Trace.Procedure WritePhase WriteReply Operation where
  asks p := (r.calling p).map IoCall.operation
  question := WriteReply.operation
  resume := r.resume
  resume_isSome := by
    intro p reply
    rw [operation_of_calling]
    exact resume_isSome

end WriteRequest

/-- The result of the call that gets exactly these replies. -/
def writeAllWithOperations (r : WriteRequest) (replies : List WriteReply) : Option IoResult :=
  match r.procedure.run r.start replies with
  | some (.returned result) => some result
  | _ => none

theorem run_of_writeAll {r : WriteRequest} {replies : List WriteReply} {result : IoResult}
    (h : writeAllWithOperations r replies = some result) :
    r.procedure.run r.start replies = some (.returned result) := by
  unfold writeAllWithOperations at h
  split at h
  · cases h
    assumption
  · cases h

/-! ### The bytes that are accepted -/

def WritePhase.transferred : WritePhase → Nat
  | .finishing => 0
  | .beforeWrite transferred => transferred
  | .writing transferred _ => transferred
  | .completing transferred => transferred
  | .waiting transferred _ => transferred
  | .concluding _ transferred _ _ => transferred
  | .returned result => result.bytesTransferred

namespace WriteRequest

structure Valid (r : WriteRequest) : Prop where
  fd : 0 ≤ r.fd
  data : r.dataNull = true → r.data.size = 0
  operations : r.operationsComplete = true

/-- What a call of an operation is offered. -/
def offered (r : WriteRequest) (p : WritePhase) : List UInt8 :=
  match r.calling p with
  | some (.writeBytes _ data) => data
  | _ => []

/-- What a call of an operation takes of that. -/
def accepted (r : WriteRequest) : WritePhase × WriteReply → List UInt8
  | (p, .writeBytes (.accepted count)) => (r.offered p).take count
  | _ => []

/-- No write accepts more than it was offered. -/
def Obliging (r : WriteRequest) : WritePhase × WriteReply → Prop
  | (p, .writeBytes (.accepted count)) => count ≤ (r.offered p).length
  | _ => True

/-- A result that says of the bytes what became of them. -/
structure Accounts (r : WriteRequest) (result : IoResult) : Prop where
  within : result.bytesTransferred ≤ r.data.size
  complete_iff : result.hostWriteComplete = true ↔ result.bytesTransferred = r.data.size
  ok_iff : result.status = .ok ↔
    result.bytesTransferred = r.data.size ∧ result.completionMonotonicNs ≤ r.absoluteDeadlineNs
  certain : result.outcomeUncertain = false → result.status = .ok ∨ result.bytesTransferred = 0

/-- What holds of a call with a buffer that is not empty, wherever it stands. -/
def Sound (r : WriteRequest) : WritePhase → Prop
  | .finishing => False
  | .beforeWrite transferred => transferred < r.data.size
  | .writing transferred _ => transferred < r.data.size
  | .completing transferred => 0 < transferred ∧ transferred ≤ r.data.size
  | .waiting transferred _ => transferred < r.data.size
  | .concluding status transferred _ outcomeUncertain =>
    transferred < r.data.size ∧ status ≠ .ok ∧ (outcomeUncertain = false → transferred = 0)
  | .returned result => r.Accounts result

variable {r : WriteRequest} {p q : WritePhase} {reply : WriteReply} {transferred : Nat}

theorem Valid.length_bytes (h : r.Valid) : r.bytes.length = r.data.size := by
  have hdata := h.data
  unfold dataNull at hdata
  unfold bytes
  cases hspan : r.data with
  | null size =>
    rw [hspan] at hdata
    exact (hdata rfl).symm
  | bytes data => rfl

theorem loop_eq (h : transferred < r.data.size) : r.loop transferred = .beforeWrite transferred :=
  if_pos h

/-- A result for a part of the buffer. -/
theorem accounts_short {result : IoResult} (h : result.bytesTransferred < r.data.size)
    (hstatus : result.status ≠ .ok) (hcomplete : result.hostWriteComplete = false)
    (hcertain : result.outcomeUncertain = false → result.bytesTransferred = 0) :
    r.Accounts result where
  within := h.le
  complete_iff := by simp [hcomplete, h.ne]
  ok_iff := iff_of_false hstatus fun hall => h.ne hall.1
  certain huncertain := .inr (hcertain huncertain)

theorem accounts_completion (completionNs : Int) :
    r.Accounts (r.completion r.data.size completionNs) where
  within := le_rfl
  complete_iff := iff_of_true rfl rfl
  ok_iff := by
    simp only [completion, true_and]
    split <;> simp <;> omega
  certain huncertain := by
    simp only [completion, decide_eq_false_iff_not] at huncertain
    exact .inl (if_neg huncertain)

theorem sound_afterWait {wait : WaitPhase} (h : transferred < r.data.size) :
    r.Sound (r.afterWait transferred wait) ∧
      (r.afterWait transferred wait).transferred = transferred := by
  cases wait with
  | returned wait =>
    cases hready : wait.ready with
    | true =>
      simp only [afterWait, hready, if_true, loop_eq h]
      exact ⟨h, rfl⟩
    | false =>
      simp only [afterWait, hready, Bool.false_eq_true, if_false]
      refine ⟨accounts_short h ?_ rfl ?_, rfl⟩
      · simpa [WaitResult.ready] using hready
      · intro hcertain
        simpa using (Bool.or_eq_false_iff.mp hcertain).1
  | _ => exact ⟨h, rfl⟩

theorem sound_dispatch {beforeWriteNs : Int} {answer : WriteAnswer} (hvalid : r.Valid)
    (h : transferred < r.data.size)
    (hobliging : r.Obliging (.writing transferred beforeWriteNs, .writeBytes answer)) :
    r.Sound (r.dispatch transferred beforeWriteNs answer) ∧
      r.bytes.take (r.dispatch transferred beforeWriteNs answer).transferred =
        r.bytes.take transferred ++
          r.accepted (.writing transferred beforeWriteNs, .writeBytes answer) := by
  cases answer with
  | accepted count =>
    cases count with
    | zero => exact ⟨⟨h, by simp, by simp⟩, by simp [dispatch, WritePhase.transferred, accepted]⟩
    | succ count =>
      have hle : count + 1 ≤ r.data.size - transferred := by
        rw [← hvalid.length_bytes, ← List.length_drop]
        exact hobliging
      rw [dispatch, if_neg (not_lt.mpr hle)]
      · exact ⟨⟨by omega, by omega⟩, List.take_add⟩
      · simp
  | failed errorNumber =>
    simp only [dispatch, accepted, List.append_nil]
    split
    · rw [loop_eq h]
      exact ⟨h, rfl⟩
    · split
      · exact ⟨h, rfl⟩
      · refine ⟨⟨h, ?_, ?_⟩, rfl⟩
        · split <;> simp
        · intro hcertain
          simpa using (Bool.or_eq_false_iff.mp hcertain).1

theorem sound_resume (hvalid : r.Valid) (hp : r.Sound p) (hobliging : r.Obliging (p, reply))
    (h : r.resume p reply = some q) :
    r.Sound q ∧
      r.bytes.take q.transferred = r.bytes.take p.transferred ++ r.accepted (p, reply) := by
  cases p with
  | finishing => exact hp.elim
  | beforeWrite transferred =>
    cases reply with
    | monotonicNow ns =>
      simp only [resume, Option.some.injEq] at h
      subst h
      simp only [accepted, List.append_nil]
      split
      · refine ⟨accounts_short hp (by simp [expired]) rfl ?_, rfl⟩
        intro hcertain
        simpa [expired] using hcertain
      · exact ⟨hp, rfl⟩
    | writeBytes _ | pollOne _ => cases h
  | writing transferred beforeWriteNs =>
    cases reply with
    | writeBytes answer =>
      obtain rfl := Option.some.inj h
      exact sound_dispatch hvalid hp hobliging
    | monotonicNow _ | pollOne _ => cases h
  | completing transferred =>
    cases reply with
    | monotonicNow ns =>
      simp only [resume, Option.some.injEq] at h
      subst h
      simp only [accepted, List.append_nil]
      split
      · case isTrue hall =>
        subst hall
        exact ⟨accounts_completion ns, rfl⟩
      · case isFalse hpart =>
        have hshort : transferred < r.data.size := lt_of_le_of_ne hp.2 hpart
        split
        · exact ⟨accounts_short hshort (by simp [expired]) rfl (by simp), rfl⟩
        · rw [loop_eq hshort]
          exact ⟨hshort, rfl⟩
    | writeBytes _ | pollOne _ => cases h
  | waiting transferred wait =>
    cases reply with
    | monotonicNow _ | pollOne _ =>
      obtain ⟨wait', -, rfl⟩ := Option.map_eq_some_iff.mp h
      rw [(sound_afterWait hp).2]
      exact ⟨(sound_afterWait hp).1, by simp [accepted, WritePhase.transferred]⟩
    | writeBytes _ => cases h
  | concluding status transferred osError outcomeUncertain =>
    cases reply with
    | monotonicNow ns =>
      obtain rfl := Option.some.inj h
      exact ⟨accounts_short hp.1 hp.2.1 rfl hp.2.2, by simp [accepted, WritePhase.transferred]⟩
    | writeBytes _ | pollOne _ => cases h
  | returned result => cases reply <;> cases h

theorem start_eq (hvalid : r.Valid) (hsize : 0 < r.data.size) : r.start = .beforeWrite 0 := by
  have hdata : r.dataNull = false := by
    rw [Bool.eq_false_iff]
    exact fun hnull => hsize.ne' (hvalid.data hnull)
  rw [start, if_neg (by simp [hdata, hvalid.operations, hvalid.fd]), if_neg hsize.ne']

end WriteRequest

/-- A call with a buffer that is not empty moves out of it what its result says, from the first byte
on. -/
theorem writeAll_accounts {r : WriteRequest} {replies : List WriteReply} {result : IoResult}
    (hvalid : r.Valid) (hsize : 0 < r.data.size)
    (hobliging : ∀ call ∈ r.procedure.calls r.start replies, r.Obliging call)
    (h : writeAllWithOperations r replies = some result) :
    (r.procedure.calls r.start replies).flatMap r.accepted =
        r.bytes.take result.bytesTransferred ∧ r.Accounts result := by
  have hstart := WriteRequest.start_eq hvalid hsize
  have hinvariant := Trace.Procedure.calls_invariant (M := r.procedure)
    (I := fun calls p => r.Sound p ∧ calls.flatMap r.accepted = r.bytes.take p.transferred)
    (h := []) ?_ ?_ hobliging (run_of_writeAll h)
  · exact ⟨hinvariant.2, hinvariant.1⟩
  · rintro calls p reply q ⟨hp, hcalls⟩ hfine hq
    obtain ⟨hsound, htake⟩ := WriteRequest.sound_resume hvalid hp hfine hq
    refine ⟨hsound, ?_⟩
    rw [List.flatMap_append, hcalls, htake, List.flatMap_singleton]
  · rw [hstart]
    exact ⟨hsize, rfl⟩

/-! A short write, an interrupted one, and the rest. -/

def sampleRequest : WriteRequest :=
  { fd := 3, data := .bytes [1, 2, 3], absoluteDeadlineNs := 100 }

def sampleReplies : List WriteReply :=
  [.monotonicNow 10, .writeBytes (.accepted 1), .monotonicNow 11, .monotonicNow 12,
    .writeBytes (.failed eintr), .monotonicNow 13, .writeBytes (.accepted 2), .monotonicNow 14]

def sampleResult : IoResult :=
  { status := .ok, bytesTransferred := 3, hostWriteComplete := true, completionMonotonicNs := 14 }

theorem sample_valid : sampleRequest.Valid := ⟨by decide, by decide, rfl⟩

theorem sample_accounts :
    (sampleRequest.procedure.calls sampleRequest.start sampleReplies).flatMap
        sampleRequest.accepted = [1, 2, 3] ∧ sampleRequest.Accounts sampleResult :=
  writeAll_accounts sample_valid (by decide)
    (by
      change ∀ call ∈ [(WritePhase.beforeWrite 0, _), (.writing 0 10, _), (.completing 1, _),
        (.beforeWrite 1, _), (.writing 1 12, _), (.beforeWrite 1, _), (.writing 1 13, _),
        (.completing 3, _)], sampleRequest.Obliging call
      simp [WriteRequest.Obliging, WriteRequest.offered, WriteRequest.calling, WriteRequest.bytes,
        sampleRequest])
    (show writeAllWithOperations sampleRequest sampleReplies = some sampleResult by decide)

end WheeltecVcuSerial
