import WheeltecVcuSerial.Teleop.InputEvents

namespace WheeltecVcuSerial.Teleop

open Framing EventSource LinuxInputEventSource

variable {native : NativeLayout} {answers : List InputAnswer} {events : List KeyEvent}
  {records : List (List UInt8)}

/-! ### What a record says -/

namespace InputEvent

/-- A key that is known is released, pressed or repeated. -/
def Valid (event : InputEvent) : Prop :=
  event.eventType = evKey → (linuxKeyName event.code).isSome → event.value ≤ 2

instance (event : InputEvent) : Decidable event.Valid :=
  inferInstanceAs (Decidable (_ → _ → _))

/-- The key event of a valid record, if it is one of a known key. -/
def key (event : InputEvent) : Option KeyEvent :=
  if event.eventType = evKey then
    (linuxKeyName event.code).map fun name =>
      { key := name, pressed := event.value ≠ 0, repeated := event.value = 2 }
  else none

theorem keyEvent_eq (event : InputEvent) :
    event.keyEvent =
      if event.Valid then .ok event.key else .error (.invalidValue event.value event.code) := by
  have hvalues : event.value ∈ [0, 1, 2] ↔ event.value ≤ 2 := by
    simp only [List.mem_cons, List.not_mem_nil, or_false]
    omega
  rw [keyEvent, key]
  cases hname : linuxKeyName event.code with
  | none =>
    have hvalid : event.Valid := fun _ hknown => by simp [hname] at hknown
    simp [hvalid]
  | some name =>
    by_cases htype : event.eventType = evKey
    · by_cases hvalue : event.value ≤ 2
      · have hvalid : event.Valid := fun _ _ => hvalue
        simp [hvalid, htype, hvalues.mpr hvalue]
      · have hinvalid : ¬event.Valid := fun hvalid => hvalue (hvalid htype (by simp [hname]))
        simp only [hinvalid, htype, hvalues, hvalue, not_false_eq_true, if_true, if_false, ne_eq,
          not_true_eq_false]
    · have hvalid : event.Valid := fun hkey => absurd hkey htype
      simp [hvalid, htype]

end InputEvent

theorem keyEvents_eq_ok_iff :
    native.keyEvents records = .ok events ↔
      (∀ record ∈ records, (native.unpack record).Valid) ∧
        events = records.filterMap fun record => (native.unpack record).key := by
  induction records generalizing events with
  | nil =>
    simp only [NativeLayout.keyEvents, List.filterMap_nil, Except.ok.injEq, eq_comm]
    simp
  | cons record records ih =>
    rw [NativeLayout.keyEvents, List.forall_mem_cons, (native.unpack record).keyEvent_eq]
    simp only [bind_eq_ok, ih]
    constructor
    · rintro ⟨key, hkey, more, ⟨hvalid, rfl⟩, ⟨⟩⟩
      split at hkey
      · case isTrue hfirst =>
        cases hkey
        refine ⟨⟨hfirst, hvalid⟩, ?_⟩
        cases hfirst : (native.unpack record).key <;> simp [hfirst]
      · cases hkey
    · rintro ⟨⟨hfirst, hvalid⟩, rfl⟩
      refine ⟨_, if_pos hfirst, _, ⟨hvalid, rfl⟩, ?_⟩
      cases hkey : (native.unpack record).key <;> simp [hkey, pure, Except.pure]

/-! ### Records as a device writes them -/

namespace NativeLayout

/-- An unsigned field, as it is written. -/
def number (native : NativeLayout) (size value : Nat) : List UInt8 :=
  if native.littleEndian then valueBytes size value else (valueBytes size value).reverse

theorem length_number (native : NativeLayout) (size value : Nat) :
    (native.number size value).length = size := by
  rw [number]
  split <;> simp

theorem field_number (native : NativeLayout) {size value : Nat} (before after : List UInt8)
    (h : value < 256 ^ size) :
    native.field (before ++ (native.number size value ++ after)) before.length size = value := by
  have htake : (native.number size value ++ after).take size = native.number size value :=
    List.take_left' (native.length_number size value)
  rw [field, List.drop_left, htake, number]
  split <;> simp [bytesValue_valueBytes h]

end NativeLayout

structure InputRecord (native : NativeLayout) where
  /-- The two `long` fields. -/
  time : List UInt8
  length_time : time.length = 2 * native.longSize
  eventType : UInt16
  code : UInt16
  value : UInt32

namespace InputRecord

def event (record : InputRecord native) : InputEvent where
  eventType := record.eventType.toNat
  code := record.code.toNat
  value := record.value.toNat

/-- A record as `@llHHI` packs it. -/
def pack (record : InputRecord native) : List UInt8 :=
  record.time ++ (native.number 2 record.eventType.toNat ++
    (native.number 2 record.code.toNat ++ (native.number 4 record.value.toNat ++ [])))

theorem length_pack (record : InputRecord native) : record.pack.length = native.inputEventSize := by
  simp [pack, NativeLayout.length_number, record.length_time, NativeLayout.inputEventSize]

theorem unpack_pack (record : InputRecord native) : native.unpack record.pack = record.event := by
  have htype := native.field_number record.time (native.number 2 record.code.toNat ++
    (native.number 4 record.value.toNat ++ []))
    (show record.eventType.toNat < 256 ^ 2 from record.eventType.toNat_lt)
  have hcode := native.field_number (record.time ++ (native.number 2 record.eventType.toNat))
    (native.number 4 record.value.toNat ++ [])
    (show record.code.toNat < 256 ^ 2 from record.code.toNat_lt)
  have hvalue := native.field_number (record.time ++ (native.number 2 record.eventType.toNat) ++
    (native.number 2 record.code.toNat)) []
    (show record.value.toNat < 256 ^ 4 from record.value.toNat_lt)
  simp only [List.length_append, NativeLayout.length_number, record.length_time, List.append_assoc]
    at htype hcode hvalue
  rw [NativeLayout.unpack, event, pack, htype, hcode, hvalue]

end InputRecord

/-- What a device writes is what the source hands over, whatever the pieces that it is read in:
the events of the known keys, in their order.  With a value among them that no key has, a poll
raises. -/
theorem input_round_trip {written : List (InputRecord native)} {tail : List UInt8}
    (hbytes : answers.flatMap InputAnswer.data = written.flatMap InputRecord.pack ++ tail)
    (htail : tail.length < native.inputEventSize) (husable : ∀ answer ∈ answers, answer.Usable) :
    (∃ after, (inputEvent (entered native)).pollAll answers = .ok (events, after)) ↔
      (∀ record ∈ written, record.event.Valid) ∧
        events = written.filterMap fun record => record.event.key := by
  have hscan : native.records.scan (written.flatMap InputRecord.pack ++ tail) =
      (written.map InputRecord.pack, tail) :=
    FrameFormat.records_flatMap (fun record _ => record.length_pack) htail
  have hkeys : native.keyEvents (written.map InputRecord.pack) = .ok events ↔
      (∀ record ∈ written, record.event.Valid) ∧
        events = written.filterMap fun record => record.event.key := by
    simp [keyEvents_eq_ok_iff, InputRecord.unpack_pack, List.filterMap_map]
  have hdecode (rest : List UInt8) :
      decodeLinuxInputEvents native (answers.flatMap InputAnswer.data) = .ok (events, rest) ↔
        native.keyEvents (written.map InputRecord.pack) = .ok events ∧ rest = tail := by
    rw [hbytes, decodeLinuxInputEvents_eq_ok_iff, hscan]
  rw [← hkeys]
  constructor
  · rintro ⟨after, h⟩
    obtain ⟨-, rest, -, hdecoded⟩ := (pollAll_inputEvent_iff (ready_entered native)).mp h
    exact ((hdecode rest).mp hdecoded).1
  · intro hevents
    exact ⟨_, (pollAll_inputEvent_iff (ready_entered native)).mpr
      ⟨husable, tail, rfl, (hdecode tail).mpr ⟨hevents, rfl⟩⟩⟩

/-! The key `r` is pressed and the key `w` repeated, with a scan code between them, and the
beginning of a record more. -/

def sampleLayout : NativeLayout := ⟨8, true, by decide⟩

def sampleRecord (eventType code : UInt16) (value : UInt32) : InputRecord sampleLayout where
  time := List.replicate 16 0
  length_time := rfl
  eventType := eventType
  code := code
  value := value

def sampleWritten : List (InputRecord sampleLayout) :=
  [sampleRecord 1 19 1, sampleRecord 4 4 19, sampleRecord 1 17 2]

def sampleStream : List UInt8 := sampleWritten.flatMap InputRecord.pack ++ [0, 0, 0, 0, 0]

theorem sample_round_trip : ∃ after, (inputEvent (entered sampleLayout)).pollAll
    [.read (sampleStream.take 30), .unreadable, .read (sampleStream.drop 30)] =
      .ok ([⟨"r", true, false⟩, ⟨"w", true, true⟩], after) := by
  have hbytes : [InputAnswer.read (sampleStream.take 30), .unreadable,
      .read (sampleStream.drop 30)].flatMap InputAnswer.data =
        sampleWritten.flatMap InputRecord.pack ++ [0, 0, 0, 0, 0] := by decide +kernel
  have husable : ∀ answer ∈ [InputAnswer.read (sampleStream.take 30), .unreadable,
      .read (sampleStream.drop 30)], answer.Usable := by
    simp only [List.forall_mem_cons, List.not_mem_nil, false_imp_iff, implies_true, and_true]
    exact ⟨⟨_, rfl⟩, ⟨_, rfl⟩, ⟨_, rfl⟩⟩
  refine (input_round_trip hbytes (by decide) husable).mpr ⟨?_, ?_⟩
  · decide +kernel
  · decide +kernel

end WheeltecVcuSerial.Teleop
