import WheeltecVcuSerial.Protocol.Codec
import Mathlib.Data.Nat.Bitwise

namespace WheeltecVcuSerial

/-! ### Feedback frames -/

theorem FeedbackDecodeResult.ok_iff {result : FeedbackDecodeResult} :
    result.ok = true ↔ result.error = .none := by
  simp [ok]

/-- The checks of `decodeFeedbackFrame`. -/
structure WellFormedFeedback (data : List UInt8) : Prop where
  size : data.length = feedbackFrameSize
  header : data.getD 0 0 = frameHeader
  tail : data.getD 23 0 = frameTail
  checksum : xorRange data 22 = data.getD 22 0
  flag : data.getD 1 0 ≤ 1

theorem decodeFeedbackSpan_of_wellFormed {data : List UInt8} (h : WellFormedFeedback data) :
    decodeFeedbackSpan (.bytes data) = { feedback := feedbackFields data, error := .none } := by
  simp only [decodeFeedbackSpan]
  rw [if_neg (not_not.mpr h.size), if_neg (not_not.mpr h.header), if_neg (not_not.mpr h.tail),
    if_neg (not_not.mpr h.checksum), if_neg (UInt8.not_lt.mpr h.flag)]

theorem decodeFeedbackSpan_ok_iff {data : List UInt8} :
    (decodeFeedbackSpan (.bytes data)).ok = true ↔ WellFormedFeedback data := by
  rw [FeedbackDecodeResult.ok_iff]
  constructor
  · intro hok
    simp only [decodeFeedbackSpan] at hok
    split_ifs at hok with hsize hheader htail hchecksum hflag
    exact ⟨not_not.mp hsize, not_not.mp hheader, not_not.mp htail, not_not.mp hchecksum,
      UInt8.not_lt.mp hflag⟩
  · intro h
    rw [decodeFeedbackSpan_of_wellFormed h]

theorem controlInhibited_of_ok {data : List UInt8}
    (hok : (decodeFeedbackSpan (.bytes data)).ok = true) :
    (decodeFeedbackSpan (.bytes data)).feedback.controlInhibited =
      !(decodeFeedbackSpan (.bytes data)).feedback.controlAllowed := by
  have h := decodeFeedbackSpan_ok_iff.mp hok
  rw [decodeFeedbackSpan_of_wellFormed h]
  have hflag := h.flag
  simp only [feedbackFields]
  generalize data.getD 1 0 = flag at hflag
  have : flag = 0 ∨ flag = 1 := by grind
  rcases this with rfl | rfl <;> rfl

/-! ### Command frames -/

theorem quantizeWireValue_eq_some {value : Double} {wire : ℤ}
    (h : quantizeWireValue value = some wire) :
    ∃ q : ℚ, value = .finite q ∧ wire = truncate (q * motionUnitsPerWireUnit) ∧
      -32768 ≤ wire ∧ wire ≤ 32767 := by
  unfold quantizeWireValue at h
  cases value with
  | finite q =>
    simp only [Double.scale_finite, Double.trunc_finite, Double.isFinite_finite, Bool.not_true,
      Double.lt_finite, Bool.false_or, Bool.or_eq_true, decide_eq_true_eq] at h
    split at h
    · simp at h
    · case isFalse hrange =>
      rw [not_or, not_lt, not_lt] at hrange
      simp only [Double.toInt, truncate_intCast, Option.some.injEq] at h
      subst h
      exact ⟨q, rfl, rfl, by exact_mod_cast hrange.1, by exact_mod_cast hrange.2⟩
  | infinite negative => simp [Double.scale, Double.trunc, Double.isFinite] at h
  | nan => simp [Double.scale, Double.trunc, Double.isFinite] at h

/-- `encodeCommand` fails with the frame of a fresh `EncodeResult`, or has passed every check. -/
theorem encodeCommand_cases (command : MotionCommand) (maxLinear : Double) :
    ((encodeCommand command maxLinear).ok = false ∧
      (encodeCommand command maxLinear).frame = Vector.replicate _ 0) ∨
    ∃ linear lateral yaw, isValidMaxLinearSpeed maxLinear = true ∧
      quantizeWireValue command.linearSpeedMps = some linear ∧
      quantizeWireValue command.lateralSpeedMps = some lateral ∧
      quantizeWireValue command.yawRateRadps = some yaw ∧
      maxLinear.lt command.linearSpeedMps.abs = false ∧
      encodeCommand command maxLinear =
        { frame := commandFrame linear lateral yaw, error := .none } := by
  unfold encodeCommand
  split
  · exact .inl ⟨rfl, rfl⟩
  split
  · exact .inl ⟨rfl, rfl⟩
  split
  · exact .inl ⟨rfl, rfl⟩
  split
  · exact .inl ⟨rfl, rfl⟩
  split
  · exact .inl ⟨rfl, rfl⟩
  split
  · exact .inl ⟨rfl, rfl⟩
  split
  · exact .inl ⟨rfl, rfl⟩
  split
  · exact .inl ⟨rfl, rfl⟩
  · case _ hmax _ _ _ _ linear hl _ lateral ht _ yaw hy hlimit =>
    exact .inr ⟨linear, lateral, yaw, by simpa using hmax, hl, ht, hy, by simpa using hlimit, rfl⟩

/-- What a successful `encodeCommand` says about its command and its frame. -/
theorem encodeCommand_ok {command : MotionCommand} {maxLinear : Double}
    (hok : (encodeCommand command maxLinear).ok = true) :
    ∃ linear lateral yaw, quantizeWireValue command.linearSpeedMps = some linear ∧
      quantizeWireValue command.lateralSpeedMps = some lateral ∧
      quantizeWireValue command.yawRateRadps = some yaw ∧
      maxLinear.lt command.linearSpeedMps.abs = false ∧
      (encodeCommand command maxLinear).frame = commandFrame linear lateral yaw := by
  rcases encodeCommand_cases command maxLinear with
    ⟨hfail, -⟩ | ⟨linear, lateral, yaw, -, hl, ht, hy, hlimit, hresult⟩
  · rw [hok] at hfail
    cases hfail
  · exact ⟨linear, lateral, yaw, hl, ht, hy, hlimit, congrArg EncodeResult.frame hresult⟩

theorem isValidMaxLinearSpeed_of_ok {command : MotionCommand} {maxLinear : Double}
    (hok : (encodeCommand command maxLinear).ok = true) :
    isValidMaxLinearSpeed maxLinear = true := by
  rcases encodeCommand_cases command maxLinear with ⟨hfail, -⟩ | ⟨_, _, _, hvalid, -⟩
  · rw [hok] at hfail
    cases hfail
  · exact hvalid

/-- Every failure returns the frame of a fresh `EncodeResult`. -/
theorem encodeCommand_failed {command : MotionCommand} {maxLinear : Double}
    (hfail : (encodeCommand command maxLinear).ok = false) :
    (encodeCommand command maxLinear).frame = Vector.replicate _ 0 := by
  rcases encodeCommand_cases command maxLinear with ⟨-, hframe⟩ | ⟨_, _, _, -, -, -, -, -, hresult⟩
  · exact hframe
  · rw [hresult] at hfail
    cases hfail

theorem joinBytes (bits : UInt16) :
    ((bits >>> 8).toUInt8.toUInt16 <<< 8) ||| (bits &&& 0xFF).toUInt8.toUInt16 = bits := by
  have hbits := bits.toNat_lt
  have hlow : bits.toNat &&& 255 = bits.toNat % 2 ^ 8 := Nat.and_two_pow_sub_one_eq_mod _ 8
  have hhigh : bits.toNat >>> 8 = bits.toNat / 2 ^ 8 := Nat.shiftRight_eq_div_pow _ _
  rw [← UInt16.toNat_inj]
  simp only [UInt16.toNat_or, UInt16.toNat_shiftLeft, UInt8.toNat_toUInt16, UInt16.toNat_toUInt8,
    UInt16.toNat_shiftRight, UInt16.toNat_and, UInt16.reduceToNat]
  rw [hlow, show 8 % 16 = 8 from rfl, hhigh, Nat.shiftLeft_eq,
    Nat.mod_eq_of_lt (by omega : bits.toNat / 2 ^ 8 < 2 ^ 8), Nat.mod_eq_of_lt (by omega),
    Nat.mod_mod, ← Nat.shiftLeft_eq, ← Nat.shiftLeft_add_eq_or_of_lt (by omega), Nat.shiftLeft_eq]
  omega

theorem signBit_ne_zero_iff (bits : UInt16) : bits &&& 0x8000 ≠ 0 ↔ 32768 ≤ bits.toNat := by
  have hbits := bits.toNat_lt
  have hbit : bits.toNat.testBit 15 = decide (32768 ≤ bits.toNat) := by
    rw [Nat.testBit_eq_decide_div_mod_eq]
    exact decide_eq_decide.mpr (by omega)
  rw [ne_eq, ← UInt16.toNat_inj, UInt16.toNat_and,
    show (0x8000 : UInt16).toNat = 2 ^ 15 from by decide, Nat.and_two_pow, hbit]
  by_cases h : 32768 ≤ bits.toNat <;> simp [h]

theorem toNat_ofInt (value : ℤ) : ((UInt16.ofInt value).toNat : ℤ) = value % 65536 := by
  have hnonneg := Int.emod_nonneg value (show (65536 : ℤ) ≠ 0 by decide)
  have hlt := Int.emod_lt_of_pos value (show (65536 : ℤ) > 0 by decide)
  simp only [UInt16.ofInt, UInt16.toNat_ofNat']
  omega

theorem loadSignedBigEndian_store {value : ℤ} (hlow : -32768 ≤ value) (hhigh : value ≤ 32767) :
    loadSignedBigEndian (storeSignedBigEndian value).1 (storeSignedBigEndian value).2 = value := by
  have hbits := toNat_ofInt value
  simp only [loadSignedBigEndian, storeSignedBigEndian, joinBytes, bne_iff_ne]
  split
  · case isTrue hsign =>
    have := (signBit_ne_zero_iff _).mp hsign
    omega
  · case isFalse hsign =>
    have := mt (signBit_ne_zero_iff _).mpr hsign
    omega

/-- Bytes 3 to 8 of a command frame, read back as wire values. -/
def signedField (frame : List UInt8) (offset : Nat) : ℤ :=
  loadSignedBigEndian (frame.getD offset 0) (frame.getD (offset + 1) 0)

/-- The frame layout that the VCU expects. -/
structure WellFormedCommand (frame : List UInt8) : Prop where
  size : frame.length = commandFrameSize
  header : frame.getD 0 0 = frameHeader
  reserved : frame.getD 1 0 = 0 ∧ frame.getD 2 0 = 0
  checksum : frame.getD 9 0 = xorRange frame 9
  tail : frame.getD 10 0 = frameTail

theorem wellFormed_commandFrame (linear lateral yaw : ℤ) :
    WellFormedCommand (commandFrame linear lateral yaw).toList :=
  ⟨rfl, rfl, ⟨rfl, rfl⟩, rfl, rfl⟩

theorem signedField_commandFrame {linear lateral yaw : ℤ}
    (hlinear : -32768 ≤ linear ∧ linear ≤ 32767)
    (hlateral : -32768 ≤ lateral ∧ lateral ≤ 32767) (hyaw : -32768 ≤ yaw ∧ yaw ≤ 32767) :
    signedField (commandFrame linear lateral yaw).toList 3 = linear ∧
      signedField (commandFrame linear lateral yaw).toList 5 = lateral ∧
      signedField (commandFrame linear lateral yaw).toList 7 = yaw :=
  ⟨loadSignedBigEndian_store hlinear.1 hlinear.2, loadSignedBigEndian_store hlateral.1 hlateral.2,
    loadSignedBigEndian_store hyaw.1 hyaw.2⟩

theorem wellFormed_makeZeroCommandFrame : WellFormedCommand makeZeroCommandFrame.toList :=
  ⟨rfl, rfl, ⟨rfl, rfl⟩, rfl, rfl⟩

/-- The largest wire value that a limit in SI units leaves room for. -/
def wireLimit (limit : Double) : ℤ := (limit.scale motionUnitsPerWireUnit).toInt

theorem abs_wire_le {value limit : Double} {wire : ℤ} (hwire : quantizeWireValue value = some wire)
    (hlimit : limit.lt value.abs = false) (hfinite : limit.isFinite = true) :
    |wire| ≤ wireLimit limit := by
  obtain ⟨q, rfl, rfl, _⟩ := quantizeWireValue_eq_some hwire
  obtain ⟨bound, rfl⟩ := Double.isFinite_iff.mp hfinite
  simp only [Double.abs_finite, Double.lt_finite, decide_eq_false_iff_not, not_lt] at hlimit
  have hunits : (0 : ℚ) < motionUnitsPerWireUnit := by norm_num [motionUnitsPerWireUnit]
  have hscaled : |q * motionUnitsPerWireUnit| ≤ bound * motionUnitsPerWireUnit := by
    rw [abs_mul, abs_of_pos hunits]
    exact mul_le_mul_of_nonneg_right hlimit hunits.le
  calc |truncate (q * motionUnitsPerWireUnit)| ≤ ⌊bound * motionUnitsPerWireUnit⌋ :=
        abs_truncate_le_floor hscaled
    _ = wireLimit (.finite bound) :=
        (truncate_of_nonneg ((abs_nonneg _).trans hscaled)).symm

theorem wireLimit_lt {limit : Double} (hvalid : isValidMaxLinearSpeed limit = true) :
    wireLimit limit < 6000 := by
  simp only [isValidMaxLinearSpeed, Bool.and_eq_true] at hvalid
  obtain ⟨⟨hfinite, hpos⟩, hlt⟩ := hvalid
  obtain ⟨bound, rfl⟩ := Double.isFinite_iff.mp hfinite
  simp only [Double.lt_finite, decide_eq_true_eq] at hpos hlt
  have hscaled : 0 ≤ bound * motionUnitsPerWireUnit := by
    unfold motionUnitsPerWireUnit; linarith
  rw [wireLimit, Double.scale_finite, Double.toInt, truncate_of_nonneg hscaled, Int.floor_lt]
  unfold motionUnitsPerWireUnit
  push_cast
  linarith

theorem wireLimit_le {limit : Double} (hfinite : limit.isFinite = true)
    (hpos : (Double.finite 0).lt limit = true) (hle : limit.le (.rounded 32.767) = true) :
    wireLimit limit ≤ 32767 := by
  obtain ⟨bound, rfl⟩ := Double.isFinite_iff.mp hfinite
  have hless := Double.lt_of_le_rounded_yaw hle
  simp only [Double.lt_finite, decide_eq_true_eq] at hpos
  have hscaled : 0 ≤ bound * motionUnitsPerWireUnit := by
    unfold motionUnitsPerWireUnit; linarith
  rw [wireLimit, Double.scale_finite, Double.toInt, truncate_of_nonneg hscaled]
  have hbelow : bound * motionUnitsPerWireUnit < (32768 : ℤ) := by
    unfold motionUnitsPerWireUnit
    push_cast
    linarith
  exact Int.lt_add_one_iff.mp (Int.floor_lt.mpr hbelow)

/-- A frame whose fields keep the limits of the configuration. -/
structure WithinLimits (maxLinear maxYaw : Double) (frame : List UInt8) : Prop
    extends WellFormedCommand frame where
  linear : |signedField frame 3| ≤ wireLimit maxLinear
  lateral : signedField frame 5 = 0
  yaw : |signedField frame 7| ≤ wireLimit maxYaw

theorem encodeCommand_withinLimits {command : MotionCommand} {maxLinear maxYaw : Double}
    (hok : (encodeCommand command maxLinear).ok = true) (hmax : maxLinear.isFinite = true)
    (hlateral : command.lateralSpeedMps.eq (.finite 0) = true) (hfinite : maxYaw.isFinite = true)
    (hyaw : maxYaw.lt command.yawRateRadps.abs = false) :
    WithinLimits maxLinear maxYaw (encodeCommand command maxLinear).frame.toList := by
  obtain ⟨linear, lateral, yaw, hl, ht, hy, hlimit, hframe⟩ := encodeCommand_ok hok
  have hzero : lateral = 0 := by
    rw [Double.eq_zero_iff.mp hlateral] at ht
    obtain ⟨q, hq, rfl, _⟩ := quantizeWireValue_eq_some ht
    obtain rfl := Double.finite.inj hq
    simp [truncate]
  obtain ⟨_, _, _, hlinearRange⟩ := quantizeWireValue_eq_some hl
  obtain ⟨_, _, _, hlateralRange⟩ := quantizeWireValue_eq_some ht
  obtain ⟨_, _, _, hyawRange⟩ := quantizeWireValue_eq_some hy
  obtain ⟨hfield3, hfield5, hfield7⟩ :=
    signedField_commandFrame hlinearRange hlateralRange hyawRange
  rw [hframe]
  exact
    { wellFormed_commandFrame linear lateral yaw with
      linear := by rw [hfield3]; exact abs_wire_le hl hlimit hmax
      lateral := by rw [hfield5, hzero]
      yaw := by rw [hfield7]; exact abs_wire_le hy hyaw hfinite }

end WheeltecVcuSerial
