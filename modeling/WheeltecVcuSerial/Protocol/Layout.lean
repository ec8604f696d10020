import WheeltecVcuSerial.Protocol.Encoding
import Mathlib.Tactic.IntervalCases

namespace WheeltecVcuSerial

/-! ### Two bytes -/

def storeUnsignedBigEndian (value : UInt16) : UInt8 × UInt8 :=
  ((value >>> 8).toUInt8, (value &&& 0xFF).toUInt8)

theorem storeSignedBigEndian_eq (value : ℤ) :
    storeSignedBigEndian value = storeUnsignedBigEndian (.ofInt value) := rfl

theorem loadUnsignedBigEndian_store (value : UInt16) :
    loadUnsignedBigEndian (storeUnsignedBigEndian value).1 (storeUnsignedBigEndian value).2 =
      value := joinBytes value

theorem toNat_loadUnsignedBigEndian (high low : UInt8) :
    (loadUnsignedBigEndian high low).toNat = high.toNat * 256 + low.toNat := by
  have hhigh := high.toNat_lt
  have hlow := low.toNat_lt
  simp only [loadUnsignedBigEndian, UInt16.toNat_or, UInt16.toNat_shiftLeft,
    UInt8.toNat_toUInt16, UInt16.reduceToNat]
  rw [show 8 % 16 = 8 from rfl, Nat.mod_eq_of_lt (by rw [Nat.shiftLeft_eq]; omega),
    ← Nat.shiftLeft_add_eq_or_of_lt (by omega), Nat.shiftLeft_eq]

theorem storeUnsignedBigEndian_load (high low : UInt8) :
    storeUnsignedBigEndian (loadUnsignedBigEndian high low) = (high, low) := by
  have hhigh := high.toNat_lt
  have hlow := low.toNat_lt
  have hbits := toNat_loadUnsignedBigEndian high low
  apply Prod.ext
  · rw [← UInt8.toNat_inj]
    simp only [storeUnsignedBigEndian, UInt16.toNat_toUInt8, UInt16.toNat_shiftRight, hbits,
      UInt16.reduceToNat, show 8 % 16 = 8 from rfl, Nat.shiftRight_eq_div_pow]
    omega
  · rw [← UInt8.toNat_inj]
    simp only [storeUnsignedBigEndian, UInt16.toNat_toUInt8, UInt16.toNat_and, hbits,
      UInt16.reduceToNat, Nat.and_two_pow_sub_one_eq_mod _ 8]
    omega

/-- The sign only says how the sixteen bits are read. -/
theorem loadSignedBigEndian_eq (high low : UInt8) :
    loadSignedBigEndian high low =
      if 32768 ≤ (loadUnsignedBigEndian high low).toNat then
        ((loadUnsignedBigEndian high low).toNat : ℤ) - 65536
      else (loadUnsignedBigEndian high low).toNat := by
  simp only [loadSignedBigEndian, loadUnsignedBigEndian, bne_iff_ne, signBit_ne_zero_iff]
  rfl

theorem loadSignedBigEndian_range (high low : UInt8) :
    -2 ^ 15 ≤ loadSignedBigEndian high low ∧ loadSignedBigEndian high low < 2 ^ 15 := by
  have hbits := (loadUnsignedBigEndian high low).toNat_lt
  rw [loadSignedBigEndian_eq]
  split <;> omega

theorem ofInt_loadSignedBigEndian (high low : UInt8) :
    UInt16.ofInt (loadSignedBigEndian high low) = loadUnsignedBigEndian high low := by
  have hbits := (loadUnsignedBigEndian high low).toNat_lt
  have hint := toNat_ofInt (loadSignedBigEndian high low)
  rw [← UInt16.toNat_inj]
  rw [loadSignedBigEndian_eq] at hint ⊢
  split at hint
  · case isTrue hsign =>
    rw [if_pos hsign]
    omega
  · case isFalse hsign =>
    rw [if_neg hsign]
    omega

theorem storeSignedBigEndian_load (high low : UInt8) :
    storeSignedBigEndian (loadSignedBigEndian high low) = (high, low) := by
  rw [storeSignedBigEndian_eq, ofInt_loadSignedBigEndian, storeUnsignedBigEndian_load]

/-! ### The feedback frame -/

/-- The values of the fields in a feedback frame. -/
@[ext] structure FeedbackValues where
  flag : UInt8
  linearSpeed : Int16
  lateralSpeed : Int16
  yawRate : Int16
  acceleration : Vector Int16 3
  gyroscope : Vector Int16 3
  supplyVoltage : UInt16
  flag_le : flag ≤ 1
  deriving DecidableEq

namespace FeedbackValues

/-- Bytes 0 to 21 in the documented layout. -/
def fields (values : FeedbackValues) : FeedbackFrame :=
  let signed (value : Int16) := storeSignedBigEndian value.toInt
  let voltage := storeUnsignedBigEndian values.supplyVoltage
  #v[frameHeader, values.flag,
    (signed values.linearSpeed).1, (signed values.linearSpeed).2,
    (signed values.lateralSpeed).1, (signed values.lateralSpeed).2,
    (signed values.yawRate).1, (signed values.yawRate).2,
    (signed values.acceleration[0]).1, (signed values.acceleration[0]).2,
    (signed values.acceleration[1]).1, (signed values.acceleration[1]).2,
    (signed values.acceleration[2]).1, (signed values.acceleration[2]).2,
    (signed values.gyroscope[0]).1, (signed values.gyroscope[0]).2,
    (signed values.gyroscope[1]).1, (signed values.gyroscope[1]).2,
    (signed values.gyroscope[2]).1, (signed values.gyroscope[2]).2,
    voltage.1, voltage.2, 0, 0]

def frame (values : FeedbackValues) : FeedbackFrame :=
  (values.fields.set 22 (xorRange values.fields.toList 22)).set 23 frameTail

/-- The values in the documented units. -/
def feedback (values : FeedbackValues) : FeedbackData where
  compositeStopFlagRaw := values.flag
  controlAllowed := values.flag == 0
  controlInhibited := values.flag == 1
  linearSpeedMps := values.linearSpeed.toInt / 1000
  lateralSpeedMps := values.lateralSpeed.toInt / 1000
  yawRateRadps := values.yawRate.toInt / 1000
  linearAccelerationMps2 := values.acceleration.map fun channel => channel.toInt / 1671.84
  angularVelocityRadps := values.gyroscope.map fun channel => channel.toInt * 0.00026644
  supplyVoltageV := values.supplyVoltage.toNat / 1000
  vcuAckAvailable := false
  sourceTimeAvailable := false

end FeedbackValues

/-- The wire values that feedback comes from, the units taken off again. -/
def FeedbackData.values (feedback : FeedbackData) : FeedbackValues where
  flag := if feedback.compositeStopFlagRaw ≤ 1 then feedback.compositeStopFlagRaw else 1
  linearSpeed := .ofInt ⌊feedback.linearSpeedMps * 1000⌋
  lateralSpeed := .ofInt ⌊feedback.lateralSpeedMps * 1000⌋
  yawRate := .ofInt ⌊feedback.yawRateRadps * 1000⌋
  acceleration := feedback.linearAccelerationMps2.map fun channel => .ofInt ⌊channel * 1671.84⌋
  gyroscope := feedback.angularVelocityRadps.map fun channel => .ofInt ⌊channel / 0.00026644⌋
  supplyVoltage := .ofNat ⌊feedback.supplyVoltageV * 1000⌋.toNat
  flag_le := by
    split
    · assumption
    · exact UInt8.le_refl 1

namespace FeedbackValues

theorem wellFormed_frame (values : FeedbackValues) : WellFormedFeedback values.frame.toList where
  size := rfl
  header := rfl
  tail := rfl
  checksum := rfl
  flag := values.flag_le

theorem load_store (value : Int16) :
    loadSignedBigEndian (storeSignedBigEndian value.toInt).1 (storeSignedBigEndian value.toInt).2 =
      value.toInt :=
  loadSignedBigEndian_store value.le_toInt (Int.le_of_lt_add_one value.toInt_lt)

theorem signedField_acceleration (values : FeedbackValues) (axis : Nat) (h : axis < 3) :
    signedField values.frame.toList (8 + axis * 2) = values.acceleration[axis].toInt := by
  interval_cases axis <;> exact load_store _

theorem signedField_gyroscope (values : FeedbackValues) (axis : Nat) (h : axis < 3) :
    signedField values.frame.toList (14 + axis * 2) = values.gyroscope[axis].toInt := by
  interval_cases axis <;> exact load_store _

/-- Every field is read from its own bytes. -/
theorem feedbackFields_frame (values : FeedbackValues) :
    feedbackFields values.frame.toList = values.feedback := by
  have hlinear : signedField values.frame.toList 2 = values.linearSpeed.toInt := load_store _
  have hlateral : signedField values.frame.toList 4 = values.lateralSpeed.toInt := load_store _
  have hyaw : signedField values.frame.toList 6 = values.yawRate.toInt := load_store _
  have hvoltage : loadUnsignedBigEndian (values.frame.toList.getD 20 0)
      (values.frame.toList.getD 21 0) = values.supplyVoltage := loadUnsignedBigEndian_store _
  rw [feedbackFields, feedback, FeedbackData.mk.injEq, hvoltage]
  refine ⟨rfl, rfl, rfl, ?_, ?_, ?_, ?_, ?_, rfl, rfl, rfl⟩
  · exact congrArg (fun wire : ℤ => (wire : ℚ) / 1000) hlinear
  · exact congrArg (fun wire : ℤ => (wire : ℚ) / 1000) hlateral
  · exact congrArg (fun wire : ℤ => (wire : ℚ) / 1000) hyaw
  · apply Vector.ext
    intro axis h
    rw [Vector.getElem_ofFn, Vector.getElem_map, ← values.signedField_acceleration axis h]
    rfl
  · apply Vector.ext
    intro axis h
    rw [Vector.getElem_ofFn, Vector.getElem_map, ← values.signedField_gyroscope axis h]
    rfl

theorem decodeFeedbackFrame_frame (values : FeedbackValues) :
    decodeFeedbackFrame values.frame = { feedback := values.feedback, error := .none } := by
  rw [← feedbackFields_frame]
  exact decodeFeedbackSpan_of_wellFormed values.wellFormed_frame

theorem ofInt_floor_div_mul (value : Int16) {factor : ℚ} (h : factor ≠ 0) :
    Int16.ofInt ⌊(value.toInt : ℚ) / factor * factor⌋ = value := by
  rw [div_mul_cancel₀ _ h, Int.floor_intCast, Int16.ofInt_toInt]

theorem ofInt_floor_mul_div (value : Int16) {factor : ℚ} (h : factor ≠ 0) :
    Int16.ofInt ⌊(value.toInt : ℚ) * factor / factor⌋ = value := by
  rw [mul_div_cancel_right₀ _ h, Int.floor_intCast, Int16.ofInt_toInt]

/-- The units lose nothing. -/
theorem values_feedback (values : FeedbackValues) : values.feedback.values = values := by
  have hunits : (1000 : ℚ) ≠ 0 := by norm_num
  rw [feedback, FeedbackData.values, FeedbackValues.mk.injEq]
  refine ⟨if_pos values.flag_le, ofInt_floor_div_mul _ hunits, ofInt_floor_div_mul _ hunits,
    ofInt_floor_div_mul _ hunits, ?_, ?_, ?_⟩
  · apply Vector.ext
    intro axis h
    rw [Vector.getElem_map, Vector.getElem_map]
    exact ofInt_floor_div_mul _ (by norm_num)
  · apply Vector.ext
    intro axis h
    rw [Vector.getElem_map, Vector.getElem_map]
    exact ofInt_floor_mul_div _ (by norm_num)
  · rw [div_mul_cancel₀ _ hunits, Int.floor_natCast, Int.toNat_natCast, UInt16.ofNat_toNat]

/-! ### Frames as layouts -/

theorem toInt_ofInt_signedField (data : List UInt8) (offset : Nat) :
    (Int16.ofInt (signedField data offset)).toInt = signedField data offset :=
  Int16.toInt_ofInt_of_le (loadSignedBigEndian_range _ _).1 (loadSignedBigEndian_range _ _).2

theorem store_signedField (data : List UInt8) (offset : Nat) :
    storeSignedBigEndian (Int16.ofInt (signedField data offset)).toInt =
      (data.getD offset 0, data.getD (offset + 1) 0) := by
  rw [toInt_ofInt_signedField]
  exact storeSignedBigEndian_load _ _

/-- The values in the bytes of an accepted frame. -/
def ofBytes (data : List UInt8) (h : WellFormedFeedback data) : FeedbackValues where
  flag := data.getD 1 0
  linearSpeed := .ofInt (signedField data 2)
  lateralSpeed := .ofInt (signedField data 4)
  yawRate := .ofInt (signedField data 6)
  acceleration := .ofFn fun axis => .ofInt (signedField data (8 + axis * 2))
  gyroscope := .ofFn fun axis => .ofInt (signedField data (14 + axis * 2))
  supplyVoltage := loadUnsignedBigEndian (data.getD 20 0) (data.getD 21 0)
  flag_le := h.flag

theorem feedback_ofBytes {data : List UInt8} (h : WellFormedFeedback data) :
    (ofBytes data h).feedback = feedbackFields data := by
  rw [feedback, feedbackFields, FeedbackData.mk.injEq]
  refine ⟨rfl, rfl, rfl, ?_, ?_, ?_, ?_, ?_, rfl, rfl, rfl⟩
  · exact congrArg (fun wire : ℤ => (wire : ℚ) / 1000) (toInt_ofInt_signedField data 2)
  · exact congrArg (fun wire : ℤ => (wire : ℚ) / 1000) (toInt_ofInt_signedField data 4)
  · exact congrArg (fun wire : ℤ => (wire : ℚ) / 1000) (toInt_ofInt_signedField data 6)
  · apply Vector.ext
    intro axis haxis
    simp only [ofBytes, Vector.getElem_map, Vector.getElem_ofFn, toInt_ofInt_signedField]
    rfl
  · apply Vector.ext
    intro axis haxis
    simp only [ofBytes, Vector.getElem_map, Vector.getElem_ofFn, toInt_ofInt_signedField]
    rfl

theorem bytes_eq {data : List UInt8} (h : data.length = feedbackFrameSize) :
    data = (List.range feedbackFrameSize).map fun index => data.getD index 0 := by
  apply List.ext_getElem
  · rw [h, List.length_map, List.length_range]
  · intro index hindex _
    rw [List.getElem_map, List.getElem_range, List.getD_eq_getElem _ _ hindex]

/-- The fields have a place for every byte in front of the checksum. -/
theorem fields_ofBytes {data : List UInt8} (h : WellFormedFeedback data) :
    (ofBytes data h).fields.toList = (List.range 22).map (data.getD · 0) ++ [0, 0] := by
  simp only [fields, ofBytes, store_signedField, storeUnsignedBigEndian_load, Vector.getElem_ofFn,
    ← h.header]
  rfl

theorem frame_ofBytes {data : List UInt8} (h : WellFormedFeedback data) :
    (ofBytes data h).frame.toList = data := by
  have hchecksum : xorRange ((List.range 22).map (data.getD · 0) ++ [0, 0]) 22 =
      data.getD 22 0 := by
    rw [← h.checksum]
    conv_rhs => rw [bytes_eq h.size]
    rfl
  rw [frame, Vector.toList_set, Vector.toList_set, fields_ofBytes, hchecksum, ← h.tail]
  conv_rhs => rw [bytes_eq h.size]
  rfl

/-- A frame that decodes is the layout of the values in its feedback. -/
theorem frame_values {frame : FeedbackFrame} (hok : (decodeFeedbackFrame frame).ok = true) :
    (decodeFeedbackFrame frame).feedback.values.frame = frame := by
  have h : WellFormedFeedback frame.toList := decodeFeedbackSpan_ok_iff.mp hok
  have hfeedback : (decodeFeedbackFrame frame).feedback = (ofBytes frame.toList h).feedback := by
    rw [feedback_ofBytes, decodeFeedbackFrame, decodeFeedbackSpan_of_wellFormed h]
  rw [hfeedback, values_feedback]
  exact Vector.toList_inj.mp (frame_ofBytes h)

theorem controlInhibited_eq (values : FeedbackValues) :
    values.feedback.controlInhibited = !values.feedback.controlAllowed := by
  have h := controlInhibited_of_ok (decodeFeedbackSpan_ok_iff.mpr values.wellFormed_frame)
  rwa [decodeFeedbackSpan_of_wellFormed values.wellFormed_frame, feedbackFields_frame] at h

end FeedbackValues

/-- Decoding and the documented layout are inverse to each other. -/
structure LayoutExact : Prop where
  decodes : ∀ values : FeedbackValues,
    decodeFeedbackFrame values.frame = { feedback := values.feedback, error := .none }
  complementary : ∀ values : FeedbackValues,
    values.feedback.controlInhibited = !values.feedback.controlAllowed
  covers : ∀ frame, (decodeFeedbackFrame frame).ok = true →
    (decodeFeedbackFrame frame).feedback.values.frame = frame
  injective : ∀ frame frame', (decodeFeedbackFrame frame).ok = true →
    (decodeFeedbackFrame frame').ok = true →
    (decodeFeedbackFrame frame).feedback = (decodeFeedbackFrame frame').feedback → frame = frame'

theorem layout_exact : LayoutExact where
  decodes := FeedbackValues.decodeFeedbackFrame_frame
  complementary := FeedbackValues.controlInhibited_eq
  covers _ := FeedbackValues.frame_values
  injective frame frame' hok hok' h := by
    rw [← FeedbackValues.frame_values hok, ← FeedbackValues.frame_values hok', h]

end WheeltecVcuSerial
