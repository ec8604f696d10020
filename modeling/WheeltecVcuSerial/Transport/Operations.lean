import WheeltecVcuSerial.Session.State

namespace WheeltecVcuSerial

/-! The `errno` values of the host that the transport tells apart. -/

namespace Errno

def enoent : Int := 2
def eintr : Int := 4
def enxio : Int := 6
def ebadf : Int := 9
def eagain : Int := 11
def ewouldblock : Int := 11
def eacces : Int := 13
def ebusy : Int := 16
def enodev : Int := 19
def einval : Int := 22
def enotty : Int := 25
def epipe : Int := 32
def eoverflow : Int := 75
def enotconn : Int := 107
def etimedout : Int := 110

end Errno

open Errno

def isDisconnectError (errorNumber : Int) : Bool :=
  errorNumber = ebadf || errorNumber = epipe || errorNumber = enodev || errorNumber = enxio ||
    errorNumber = errorIo || errorNumber = enotconn

/-! The event bits of `poll(2)`. -/

def pollIn : UInt16 := 0x01
def pollOut : UInt16 := 0x04
def pollErr : UInt16 := 0x08
def pollHup : UInt16 := 0x10
def pollNval : UInt16 := 0x20

/-- `-1` with its `errno`, or the bytes that arrived: a result of zero is no bytes. -/
inductive ReadAnswer
  | failed (errorNumber : Int)
  | delivered (data : List UInt8)
  deriving DecidableEq

/-- `-1` with its `errno`, `0`, or a positive count with the returned events. -/
inductive PollAnswer
  | failed (errorNumber : Int)
  | timedOut
  | ready (returnedEvents : UInt16)
  deriving DecidableEq

/-- The members of `IoOperations`. -/
inductive Operation
  | monotonicNow
  | writeBytes
  | readBytes
  | pollOne
  deriving DecidableEq

/-- A call of one of the `IoOperations`, with its arguments. -/
inductive IoCall
  | monotonicNow
  /-- The bytes from the pointer on, as many as the length says. -/
  | writeBytes (fd : Int) (data : List UInt8)
  | readBytes (fd : Int) (capacity : Nat)
  | pollOne (fd : Int) (requestedEvents : UInt16) (timeoutMs : Int)
  deriving DecidableEq

def IoCall.operation : IoCall → Operation
  | .monotonicNow => .monotonicNow
  | .writeBytes _ _ => .writeBytes
  | .readBytes _ _ => .readBytes
  | .pollOne _ _ _ => .pollOne

def IoCall.descriptor : IoCall → Option Int
  | .monotonicNow => none
  | .writeBytes fd _ | .readBytes fd _ | .pollOne fd _ _ => some fd

/-- What a call of one of the `IoOperations` comes back with. -/
inductive Answer
  | monotonicNow (ns : Int)
  | readBytes (answer : ReadAnswer)
  | pollOne (answer : PollAnswer)
  deriving DecidableEq

def Answer.operation : Answer → Operation
  | .monotonicNow _ => .monotonicNow
  | .readBytes _ => .readBytes
  | .pollOne _ => .pollOne

def Answer.bytes : Answer → List UInt8
  | .readBytes (.delivered data) => data
  | _ => []

/-- The bytes that `read_bytes` delivered, in order. -/
def delivered (answers : List Answer) : List UInt8 := answers.flatMap Answer.bytes

@[simp] theorem delivered_nil : delivered [] = [] := rfl

@[simp] theorem delivered_cons (answer : Answer) (answers : List Answer) :
    delivered (answer :: answers) = answer.bytes ++ delivered answers := rfl

theorem delivered_append (earlier later : List Answer) :
    delivered (earlier ++ later) = delivered earlier ++ delivered later := List.flatMap_append

def intMax : Int := 2 ^ 31 - 1

def timeoutMilliseconds (remainingNs : Int) : Int :=
  if remainingNs ≤ 0 then 0
  else
    let milliseconds := remainingNs / 1000000 + if remainingNs % 1000000 ≠ 0 then 1 else 0
    if milliseconds > intMax then intMax else milliseconds

structure WaitResult where
  status : TransportStatus := .ioError
  osError : Int := 0
  completionMonotonicNs : Int := 0
  deriving DecidableEq

def WaitResult.ready (wait : WaitResult) : Bool := wait.status = .ok

/-- Where a call of `waitForEvent` stands between two answers. -/
inductive WaitPhase
  | beforePoll
  | polling (timeoutMs : Int)
  | afterPoll (poll : PollAnswer)
  | returned (result : WaitResult)
  deriving DecidableEq

/-- The end of a round of `waitForEvent`, from the clock reading after the poll on. -/
def PollAnswer.dispatch (requestedEvents : UInt16) (absoluteDeadlineNs afterPollNs : Int) :
    PollAnswer → WaitPhase
  | .ready returnedEvents =>
    if returnedEvents &&& (pollErr ||| pollHup ||| pollNval) ≠ 0 then
      .returned ⟨.disconnected, if returnedEvents &&& pollNval ≠ 0 then ebadf else epipe,
        afterPollNs⟩
    else if returnedEvents &&& requestedEvents ≠ 0 then
      if afterPollNs > absoluteDeadlineNs then
        .returned ⟨.deadlineExceeded, etimedout, afterPollNs⟩
      else .returned ⟨.ok, 0, afterPollNs⟩
    else .beforePoll
  | .timedOut => .returned ⟨.deadlineExceeded, etimedout, afterPollNs⟩
  | .failed errorNumber =>
    if errorNumber = eintr then .beforePoll
    else
      .returned ⟨if isDisconnectError errorNumber then .disconnected else .ioError, errorNumber,
        afterPollNs⟩

/-- `waitForEvent` goes on with an answer; there is no other answer that it waits for. -/
def WaitPhase.resume (requestedEvents : UInt16) (absoluteDeadlineNs : Int) :
    WaitPhase → Answer → Option WaitPhase
  | .beforePoll, .monotonicNow beforePollNs =>
    if beforePollNs ≥ absoluteDeadlineNs then
      some (.returned ⟨.deadlineExceeded, etimedout, beforePollNs⟩)
    else some (.polling (timeoutMilliseconds (absoluteDeadlineNs - beforePollNs)))
  | .polling _, .pollOne poll => some (.afterPoll poll)
  | .afterPoll poll, .monotonicNow afterPollNs =>
    some (poll.dispatch requestedEvents absoluteDeadlineNs afterPollNs)
  | _, _ => none

/-- The operation that the call makes next. -/
def WaitPhase.asks : WaitPhase → Option Operation
  | .beforePoll => some .monotonicNow
  | .polling _ => some .pollOne
  | .afterPoll _ => some .monotonicNow
  | .returned _ => none

/-- The same with the arguments. -/
def WaitPhase.calling (fd : Int) (requestedEvents : UInt16) : WaitPhase → Option IoCall
  | .beforePoll => some .monotonicNow
  | .polling timeoutMs => some (.pollOne fd requestedEvents timeoutMs)
  | .afterPoll _ => some .monotonicNow
  | .returned _ => none

theorem WaitPhase.operation_of_calling {fd : Int} {requestedEvents : UInt16} (p : WaitPhase) :
    (p.calling fd requestedEvents).map IoCall.operation = p.asks := by
  cases p <;> rfl

/-- A wait works on the descriptor that it is given. -/
theorem WaitPhase.descriptor_of_calling {fd : Int} {requestedEvents : UInt16} {p : WaitPhase}
    {call : IoCall} (h : p.calling fd requestedEvents = some call) :
    call.descriptor = none ∨ call.descriptor = some fd := by
  cases p with
  | beforePoll | afterPoll _ =>
    cases h
    exact .inl rfl
  | polling _ =>
    cases h
    exact .inr rfl
  | returned _ => cases h

theorem WaitPhase.resume_isSome {requestedEvents : UInt16} {absoluteDeadlineNs : Int}
    {p : WaitPhase} {answer : Answer} :
    (p.resume requestedEvents absoluteDeadlineNs answer).isSome = true ↔
      p.asks = some answer.operation := by
  cases p <;> cases answer <;> simp [resume, asks, Answer.operation, apply_ite Option.isSome]

theorem WaitPhase.bytes_of_resume {requestedEvents : UInt16} {absoluteDeadlineNs : Int}
    {p q : WaitPhase} {answer : Answer}
    (h : p.resume requestedEvents absoluteDeadlineNs answer = some q) : answer.bytes = [] := by
  cases answer with
  | readBytes _ => cases p <;> cases h
  | monotonicNow _ | pollOne _ => rfl

end WheeltecVcuSerial
