import WheeltecVcuSerial.Config.RuntimeConfig
import WheeltecVcuSerial.Framing.Records
import WheeltecVcuSerial.Teleop.Controller
import WheeltecVcuSerial.Transport.Operations

namespace WheeltecVcuSerial.Teleop

open Errno Framing

/-- What the exceptions of an event source are raised for. -/
inductive InputBackendError
  | notOpen
  | selectFailed (errorNumber : Int)
  | readFailed (errorNumber : Int)
  | closed
  | invalidValue (value code : Nat)
  deriving DecidableEq

/-- How `select` and then `os.read` end. -/
inductive InputAnswer
  | selectFailed (errorNumber : Int)
  | unreadable
  | readFailed (errorNumber : Int)
  | read (data : List UInt8)
  deriving DecidableEq

namespace InputAnswer

/-- The part of `poll` that both sources have: the bytes that are to be decoded, if there are
any. -/
def receive : InputAnswer → Except InputBackendError (Option (List UInt8))
  | .selectFailed errorNumber =>
    if errorNumber = eintr then .ok none else .error (.selectFailed errorNumber)
  | .unreadable => .ok none
  | .readFailed errorNumber =>
    if errorNumber ∈ [eintr, eagain, ewouldblock] then .ok none
    else .error (.readFailed errorNumber)
  | .read [] => .error .closed
  | .read data => .ok (some data)

def data : InputAnswer → List UInt8
  | .read data => data
  | _ => []

end InputAnswer

/-! ### Terminals -/

def ttyEvent (byte : UInt8) : Option KeyEvent :=
  if byte = 0x1B then some { key := "esc", pressed := true }
  else if byte = 0x20 then some { key := "space", pressed := true }
  else if byte < 0x80 then
    let character := (Char.ofNat byte.toNat).toLower
    if character ∈ "wsadqerx".toList then
      some { key := String.singleton character, pressed := true }
    else none
  else none

/-- `TtyEventSource.poll`. -/
def pollTty (answer : InputAnswer) : Except InputBackendError (List KeyEvent) := do
  match ← answer.receive with
  | none => return []
  | some data => return data.filterMap ttyEvent

/-! ### Linux input events -/

/-- What `@llHHI` leaves to the machine: the size of a `long`, and the order of the bytes. -/
structure NativeLayout where
  longSize : Nat
  littleEndian : Bool
  aligned : 4 ∣ longSize

namespace NativeLayout

variable (native : NativeLayout)

/-- `_INPUT_EVENT.size`; the fields leave no gaps. -/
def inputEventSize : Nat := 2 * native.longSize + 8

theorem inputEventSize_pos : 0 < native.inputEventSize := Nat.succ_pos _

/-- An unsigned field of a record. -/
def field (record : List UInt8) (offset size : Nat) : Nat :=
  let bytes := (record.drop offset).take size
  bytesValue (if native.littleEndian then bytes else bytes.reverse)

end NativeLayout

/-- The fields of a record that are used. -/
structure InputEvent where
  eventType : Nat
  code : Nat
  value : Nat
  deriving DecidableEq

/-- `_INPUT_EVENT.unpack_from` -/
def NativeLayout.unpack (native : NativeLayout) (record : List UInt8) : InputEvent where
  eventType := native.field record (2 * native.longSize) 2
  code := native.field record (2 * native.longSize + 2) 2
  value := native.field record (2 * native.longSize + 4) 4

def evKey : Nat := 1

/-- `_LINUX_KEY_NAMES` -/
def linuxKeyName : Nat → Option String
  | 1 => some "esc"
  | 16 => some "q"
  | 17 => some "w"
  | 18 => some "e"
  | 19 => some "r"
  | 30 => some "a"
  | 31 => some "s"
  | 32 => some "d"
  | 45 => some "x"
  | 57 => some "space"
  | _ => none

/-- One round of the loop of `decode_linux_input_events`. -/
def InputEvent.keyEvent (event : InputEvent) : Except InputBackendError (Option KeyEvent) :=
  match linuxKeyName event.code with
  | none => .ok none
  | some name =>
    if event.eventType ≠ evKey then .ok none
    else if event.value ∉ [0, 1, 2] then .error (.invalidValue event.value event.code)
    else .ok (some { key := name, pressed := event.value ≠ 0, repeated := event.value = 2 })

def decodeLinuxInputEvents (native : NativeLayout) (data : List UInt8) :
    Except InputBackendError (List KeyEvent × List UInt8) :=
  if data.length < native.inputEventSize then .ok ([], data)
  else do
    let event ← (native.unpack (data.take native.inputEventSize)).keyEvent
    let (events, rest) ← decodeLinuxInputEvents native (data.drop native.inputEventSize)
    return (event.toList ++ events, rest)
termination_by data.length
decreasing_by
  have hpos := native.inputEventSize_pos
  rw [List.length_drop]
  omega

structure LinuxInputEventSource where
  native : NativeLayout
  opened : Bool
  buffer : List UInt8 := []

/-- The source keeps what it has where `poll` raises. -/
def LinuxInputEventSource.poll (source : LinuxInputEventSource) (answer : InputAnswer) :
    Except InputBackendError (List KeyEvent × LinuxInputEventSource) := do
  if !source.opened then throw .notOpen
  match ← answer.receive with
  | none => return ([], source)
  | some chunk =>
    let (events, rest) ← decodeLinuxInputEvents source.native (source.buffer ++ chunk)
    return (events, { source with buffer := rest })

/-- The event source of `main`, once it is entered. -/
inductive EventSource
  | tty
  | inputEvent (source : LinuxInputEventSource)

namespace EventSource

def poll (answer : InputAnswer) :
    EventSource → Except InputBackendError (List KeyEvent × EventSource)
  | tty => return (← pollTty answer, tty)
  | inputEvent source => do
    let (events, source) ← source.poll answer
    return (events, inputEvent source)

/-- All that a source hands over, poll after poll. -/
def pollAll (source : EventSource) :
    List InputAnswer → Except InputBackendError (List KeyEvent × EventSource)
  | [] => return ([], source)
  | answer :: answers => do
    let (events, source) ← source.poll answer
    let (more, source) ← source.pollAll answers
    return (events ++ more, source)

end EventSource

/-! ### What is decoded -/

variable {native : NativeLayout} {source source' : LinuxInputEventSource} {answer : InputAnswer}
  {answers : List InputAnswer} {data : List UInt8} {events : List KeyEvent}

/-- The records of a stream of bytes. -/
def NativeLayout.records (native : NativeLayout) : FrameFormat UInt8 :=
  .records native.inputEventSize native.inputEventSize_pos

/-- The key events of records, if none of them is refused. -/
def NativeLayout.keyEvents (native : NativeLayout) :
    List (List UInt8) → Except InputBackendError (List KeyEvent)
  | [] => .ok []
  | record :: records => do
    let event ← (native.unpack record).keyEvent
    let events ← native.keyEvents records
    return event.toList ++ events

theorem decodeLinuxInputEvents_eq (native : NativeLayout) (data : List UInt8) :
    decodeLinuxInputEvents native data =
      (native.keyEvents (native.records.scan data).1).map fun events =>
        (events, (native.records.scan data).2) := by
  fun_induction decodeLinuxInputEvents native data with
  | case1 data hshort =>
    rw [FrameFormat.scan_of_short (by exact hshort)]
    rfl
  | case2 data hlong ih =>
    have hscan : native.records.scan data =
        (data.take native.inputEventSize ::
            (native.records.scan (data.drop native.inputEventSize)).1,
          (native.records.scan (data.drop native.inputEventSize)).2) := by
      have haccepts : native.records.accepts (data.take native.records.size) = true := rfl
      rw [FrameFormat.scan, if_neg (by exact hlong), if_pos haccepts]
      rfl
    rw [hscan, ih]
    simp only [NativeLayout.keyEvents]
    cases (native.unpack (data.take native.inputEventSize)).keyEvent with
    | error e => rfl
    | ok event =>
      cases native.keyEvents (native.records.scan (data.drop native.inputEventSize)).1 with
      | error e => rfl
      | ok events => rfl

theorem keyEvents_append (native : NativeLayout) (first second : List (List UInt8)) :
    native.keyEvents (first ++ second) = (do
      let events ← native.keyEvents first
      let more ← native.keyEvents second
      return events ++ more) := by
  induction first with
  | nil =>
    rw [List.nil_append, NativeLayout.keyEvents]
    cases native.keyEvents second <;> rfl
  | cons record first ih =>
    rw [List.cons_append, NativeLayout.keyEvents, NativeLayout.keyEvents, ih]
    cases (native.unpack record).keyEvent with
    | error e => rfl
    | ok event =>
      cases native.keyEvents first with
      | error e => rfl
      | ok events =>
        cases native.keyEvents second with
        | error e => rfl
        | ok more => exact congrArg Except.ok (List.append_assoc _ _ _).symm

theorem NativeLayout.scan_append (native : NativeLayout) (first second : List UInt8) :
    native.records.scan (first ++ second) =
      ((native.records.scan first).1 ++
          (native.records.scan ((native.records.scan first).2 ++ second)).1,
        (native.records.scan ((native.records.scan first).2 ++ second)).2) :=
  FrameFormat.records_append first second

/-- Bytes that come in two pieces are decoded as they come. -/
theorem decodeLinuxInputEvents_append (native : NativeLayout) (first second : List UInt8) :
    decodeLinuxInputEvents native (first ++ second) = (do
      let (events, rest) ← decodeLinuxInputEvents native first
      let (more, rest) ← decodeLinuxInputEvents native (rest ++ second)
      return (events ++ more, rest)) := by
  simp only [decodeLinuxInputEvents_eq, native.scan_append first second, keyEvents_append]
  cases native.keyEvents (native.records.scan first).1 with
  | error e => rfl
  | ok events =>
    simp only [Except.map, bind, Except.bind]
    generalize native.records.scan ((native.records.scan first).2 ++ second) = scanned
    cases native.keyEvents scanned.1 <;> rfl

/-! ### A whole session of a source -/

/-- Neither `select` nor `os.read` has failed for good. -/
def InputAnswer.Usable (answer : InputAnswer) : Prop := ∃ data, answer.receive = .ok data

theorem InputAnswer.receive_eq (h : answer.Usable) :
    answer.receive = .ok (if answer.data = [] then none else some answer.data) := by
  obtain ⟨data, hdata⟩ := h
  cases answer with
  | unreadable => rfl
  | read data =>
    cases data with
    | nil => cases hdata
    | cons byte data => rfl
  | selectFailed errorNumber | readFailed errorNumber =>
    simp only [receive] at hdata ⊢
    split at hdata
    · case isTrue hagain => exact if_pos hagain
    · cases hdata

theorem decodeLinuxInputEvents_short (h : data.length < native.inputEventSize) :
    decodeLinuxInputEvents native data = .ok ([], data) := by
  rw [decodeLinuxInputEvents, if_pos h]

theorem decodeLinuxInputEvents_eq_ok_iff {rest : List UInt8} :
    decodeLinuxInputEvents native data = .ok (events, rest) ↔
      native.keyEvents (native.records.scan data).1 = .ok events ∧
        rest = (native.records.scan data).2 := by
  rw [decodeLinuxInputEvents_eq]
  cases native.keyEvents (native.records.scan data).1 with
  | error e => simp [Except.map]
  | ok decoded => simp [Except.map, eq_comm]

theorem short_of_decode (h : decodeLinuxInputEvents native data = .ok (events, rest)) :
    rest.length < native.inputEventSize := by
  obtain ⟨-, rfl⟩ := decodeLinuxInputEvents_eq_ok_iff.mp h
  exact FrameFormat.short_scan data

namespace LinuxInputEventSource

/-- A source in the state that `poll` needs and keeps. -/
structure Ready (source : LinuxInputEventSource) : Prop where
  opened : source.opened = true
  short : source.buffer.length < source.native.inputEventSize

/-- What `__enter__` leaves of a new source, if it does not raise. -/
def entered (native : NativeLayout) : LinuxInputEventSource := { native := native, opened := true }

theorem ready_entered (native : NativeLayout) : (entered native).Ready :=
  ⟨rfl, native.inputEventSize_pos⟩

theorem poll_of_usable (hready : source.Ready) (h : answer.Usable) :
    source.poll answer =
      (decodeLinuxInputEvents source.native (source.buffer ++ answer.data)).map
        fun (events, rest) => (events, { source with buffer := rest }) := by
  obtain ⟨native, opened, buffer⟩ := source
  obtain ⟨rfl, hshort⟩ := hready
  rw [poll, answer.receive_eq h]
  by_cases hdata : answer.data = []
  · rw [if_pos hdata, hdata, List.append_nil, decodeLinuxInputEvents_short hshort]
    rfl
  · rw [if_neg hdata]
    dsimp only
    change (do let (events, rest) ← decodeLinuxInputEvents native (buffer ++ answer.data)
               return (events, _)) = _
    cases decodeLinuxInputEvents native (buffer ++ answer.data) <;> rfl

theorem usable_of_poll (h : source.poll answer = .ok (events, source')) : answer.Usable := by
  rw [poll] at h
  cases hreceive : answer.receive with
  | ok data => exact ⟨data, hreceive⟩
  | error e =>
    rw [hreceive] at h
    cases hopened : source.opened <;> rw [hopened] at h <;> cases h

theorem poll_eq_ok_iff (hready : source.Ready) :
    source.poll answer = .ok (events, source') ↔
      answer.Usable ∧ ∃ rest, source' = { source with buffer := rest } ∧
        decodeLinuxInputEvents source.native (source.buffer ++ answer.data) =
          .ok (events, rest) := by
  constructor
  · intro h
    have husable := usable_of_poll h
    refine ⟨husable, ?_⟩
    rw [poll_of_usable hready husable] at h
    cases hdecode : decodeLinuxInputEvents source.native (source.buffer ++ answer.data) with
    | error e =>
      rw [hdecode] at h
      cases h
    | ok decoded =>
      rw [hdecode] at h
      cases h
      exact ⟨_, rfl, rfl⟩
  · rintro ⟨husable, rest, rfl, hdecode⟩
    rw [poll_of_usable hready husable, hdecode]
    rfl

end LinuxInputEventSource

namespace EventSource

/-- The key events of a device are those of all the bytes that it has read, whatever the pieces. -/
theorem pollAll_inputEvent_iff {after : EventSource} (hready : source.Ready) :
    (inputEvent source).pollAll answers = .ok (events, after) ↔
      (∀ answer ∈ answers, answer.Usable) ∧
        ∃ rest, after = .inputEvent { source with buffer := rest } ∧
          decodeLinuxInputEvents source.native
            (source.buffer ++ answers.flatMap InputAnswer.data) = .ok (events, rest) := by
  induction answers generalizing source events with
  | nil =>
    rw [List.flatMap_nil, List.append_nil, decodeLinuxInputEvents_short hready.short, pollAll]
    constructor
    · rintro ⟨⟩
      exact ⟨by simp, _, rfl, rfl⟩
    · rintro ⟨-, rest, rfl, ⟨⟩⟩
      rfl
  | cons answer answers ih =>
    rw [List.flatMap_cons, ← List.append_assoc, decodeLinuxInputEvents_append, pollAll,
      List.forall_mem_cons, poll]
    simp only [bind_eq_ok]
    constructor
    · rintro ⟨_, ⟨⟨first, between⟩, hpoll, ⟨⟩⟩, ⟨more, last⟩, hmore, ⟨⟩⟩
      obtain ⟨husable, rest, rfl, hdecode⟩ := (LinuxInputEventSource.poll_eq_ok_iff hready).mp hpoll
      have hbetween : LinuxInputEventSource.Ready { source with buffer := rest } :=
        ⟨hready.opened, short_of_decode hdecode⟩
      obtain ⟨hrest, final, rfl, hdecodes⟩ := (ih hbetween).mp hmore
      exact ⟨⟨husable, hrest⟩, final, rfl, _, hdecode, _, hdecodes, rfl⟩
    · rintro ⟨⟨husable, hrest⟩, final, rfl, ⟨first, rest⟩, hdecode, ⟨more, last⟩, hdecodes, ⟨⟩⟩
      have hpoll :=
        (LinuxInputEventSource.poll_eq_ok_iff hready).mpr ⟨husable, rest, rfl, hdecode⟩
      have hbetween : LinuxInputEventSource.Ready { source with buffer := rest } :=
        ⟨hready.opened, short_of_decode hdecode⟩
      have hmore := (ih hbetween).mpr ⟨hrest, last, rfl, hdecodes⟩
      exact ⟨_, ⟨_, hpoll, rfl⟩, _, hmore, rfl⟩

end EventSource

end WheeltecVcuSerial.Teleop
