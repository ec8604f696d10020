import WheeltecVcuSerial.Protocol.Wire

namespace WheeltecVcuSerial

/-! ### Truncation -/

theorem truncate_neg (q : ℚ) : truncate (-q) = -truncate q := by
  unfold truncate
  rcases lt_trichotomy q 0 with hneg | rfl | hpos
  · rw [if_pos (by linarith), if_neg (by linarith), Int.floor_neg]
  · simp
  · rw [if_neg (by linarith), if_pos hpos.le, Int.ceil_neg]

/-- An integer that comes from a rational number by rounding toward zero. -/
structure TowardZero (q : ℚ) (n : ℤ) : Prop where
  nonneg : 0 ≤ q → 0 ≤ n
  nonpos : q ≤ 0 → n ≤ 0
  magnitude : |(n : ℚ)| ≤ |q|
  error : |q - n| < 1

theorem TowardZero.neg {q : ℚ} {n : ℤ} (h : TowardZero q n) : TowardZero (-q) (-n) where
  nonneg hq := by have := h.nonpos (by linarith); omega
  nonpos hq := by have := h.nonneg (by linarith); omega
  magnitude := by
    rw [Int.cast_neg, abs_neg, abs_neg]
    exact h.magnitude
  error := by
    rw [Int.cast_neg, ← neg_add', abs_neg, ← sub_eq_add_neg]
    exact h.error

theorem towardZero_floor {q : ℚ} (hq : 0 ≤ q) : TowardZero q ⌊q⌋ where
  nonneg _ := Int.floor_nonneg.mpr hq
  nonpos hle := by rw [le_antisymm hle hq, Int.floor_zero]
  magnitude := by
    rw [abs_of_nonneg (by exact_mod_cast Int.floor_nonneg.mpr hq), abs_of_nonneg hq]
    exact Int.floor_le q
  error := by
    rw [abs_of_nonneg (sub_nonneg.mpr (Int.floor_le q))]
    linarith [Int.lt_floor_add_one q]

theorem towardZero_truncate (q : ℚ) : TowardZero q (truncate q) := by
  rcases le_total 0 q with hq | hq
  · rw [truncate_of_nonneg hq]
    exact towardZero_floor hq
  · have h := towardZero_floor (neg_nonneg.mpr hq)
    rw [← truncate_of_nonneg (neg_nonneg.mpr hq), truncate_neg] at h
    simpa using h.neg

theorem truncate_eq_zero_iff (q : ℚ) : truncate q = 0 ↔ |q| < 1 := by
  have h := towardZero_truncate q
  constructor
  · intro hzero
    have herror := h.error
    rw [hzero] at herror
    simpa using herror
  · intro hq
    have hlt : |truncate q| < 1 := by exact_mod_cast h.magnitude.trans_lt hq
    exact Int.abs_lt_one_iff.mp hlt

/-! ### Commands with finite fields -/

def finiteCommand (linear lateral yaw : ℚ) : MotionCommand :=
  ⟨.finite linear, .finite lateral, .finite yaw⟩

/-- A speed in wire units. -/
def wireValue (q : ℚ) : ℤ := truncate (q * motionUnitsPerWireUnit)

example : wireValue (-0.0019) = -1 := by decide +kernel

def InWireRange (wire : ℤ) : Prop := -32768 ≤ wire ∧ wire ≤ 32767

theorem inWireRange_of_abs_lt {q : ℚ} (h : |q| < 32.768) : InWireRange (wireValue q) := by
  have hscaled : |q * motionUnitsPerWireUnit| < ((32768 : ℤ) : ℚ) := by
    rw [abs_mul]
    norm_num [motionUnitsPerWireUnit] at h ⊢
    linarith
  have hwire : |wireValue q| < 32768 :=
    (abs_truncate_le_floor le_rfl).trans_lt (Int.floor_lt.mpr hscaled)
  rw [abs_lt] at hwire
  constructor <;> omega

theorem quantizeWireValue_finite {q : ℚ} (h : InWireRange (wireValue q)) :
    quantizeWireValue (.finite q) = some (wireValue q) := by
  have hlow : ((-32768 : ℤ) : ℚ) ≤ wireValue q := by exact_mod_cast h.1
  have hhigh : (wireValue q : ℚ) ≤ ((32767 : ℤ) : ℚ) := by exact_mod_cast h.2
  push_cast at hlow hhigh
  simp only [wireValue] at hlow hhigh
  simp only [quantizeWireValue, Double.scale_finite, Double.trunc_finite, Double.isFinite_finite,
    Double.lt_finite, Double.toInt, truncate_intCast]
  rw [if_neg]
  · rfl
  · simp only [Bool.not_true, Bool.false_or, Bool.or_eq_true, decide_eq_true_eq, not_or, not_lt]
    exact ⟨hlow, hhigh⟩

theorem inWireRange_of_quantize {q : ℚ} {wire : ℤ} (h : quantizeWireValue (.finite q) = some wire) :
    wire = wireValue q ∧ InWireRange (wireValue q) := by
  obtain ⟨q', hq, rfl, hlow, hhigh⟩ := quantizeWireValue_eq_some h
  obtain rfl := Double.finite.inj hq
  exact ⟨rfl, hlow, hhigh⟩

/-- What `encodeCommand` asks of finite fields. -/
structure FitsWire (linear lateral yaw limit : ℚ) : Prop where
  limitPositive : 0 < limit
  limitBelow : limit < 6
  linearRange : InWireRange (wireValue linear)
  lateralRange : InWireRange (wireValue lateral)
  yawRange : InWireRange (wireValue yaw)
  speed : |linear| ≤ limit

theorem encodeCommand_of_fits {linear lateral yaw limit : ℚ}
    (h : FitsWire linear lateral yaw limit) :
    encodeCommand (finiteCommand linear lateral yaw) (.finite limit) =
      { frame := commandFrame (wireValue linear) (wireValue lateral) (wireValue yaw)
        error := .none } := by
  have hlimit : isValidMaxLinearSpeed (.finite limit) = true := by
    simp [isValidMaxLinearSpeed, h.limitPositive, h.limitBelow]
  have hspeed : (Double.finite limit).lt (Double.finite linear).abs = false := by
    simpa using h.speed
  simp only [encodeCommand, finiteCommand, hlimit, Double.isFinite_finite, Bool.not_true,
    Bool.false_eq_true, if_false, quantizeWireValue_finite h.linearRange,
    quantizeWireValue_finite h.lateralRange, quantizeWireValue_finite h.yawRange, hspeed]

theorem encodeCommand_finite_ok_iff {linear lateral yaw limit : ℚ} :
    (encodeCommand (finiteCommand linear lateral yaw) (.finite limit)).ok = true ↔
      FitsWire linear lateral yaw limit := by
  constructor
  · intro hok
    obtain ⟨_, _, _, hlinear, hlateral, hyaw, hspeed, -⟩ := encodeCommand_ok hok
    have hvalid := isValidMaxLinearSpeed_of_ok hok
    simp only [isValidMaxLinearSpeed, Double.isFinite_finite, Double.lt_finite, Bool.true_and,
      Bool.and_eq_true, decide_eq_true_eq] at hvalid
    exact
      { limitPositive := hvalid.1
        limitBelow := hvalid.2
        linearRange := (inWireRange_of_quantize hlinear).2
        lateralRange := (inWireRange_of_quantize hlateral).2
        yawRange := (inWireRange_of_quantize hyaw).2
        speed := by simpa [finiteCommand] using hspeed }
  · intro h
    rw [encodeCommand_of_fits h]
    rfl

/-! ### Frames -/

theorem xorRange_succ {data : List UInt8} {size : Nat} (h : size < data.length) :
    xorRange data (size + 1) = xorRange data size ^^^ data.getD size 0 := by
  rw [xorRange, xorRange, List.take_succ_eq_append_getElem h, List.foldl_append,
    List.getD_eq_getElem _ _ h]
  rfl

theorem WellFormedCommand.xor_eq_zero {frame : List UInt8} (h : WellFormedCommand frame) :
    xorRange frame 10 = 0 := by
  rw [xorRange_succ (by rw [h.size]; decide), ← h.checksum, UInt8.xor_self]

/-- Frames say which wire values they carry. -/
theorem commandFrame_inj {linear lateral yaw linear' lateral' yaw' : ℤ}
    (hlinear : InWireRange linear) (hlateral : InWireRange lateral) (hyaw : InWireRange yaw)
    (hlinear' : InWireRange linear') (hlateral' : InWireRange lateral')
    (hyaw' : InWireRange yaw') :
    commandFrame linear lateral yaw = commandFrame linear' lateral' yaw' ↔
      linear = linear' ∧ lateral = lateral' ∧ yaw = yaw' := by
  constructor
  · intro heq
    obtain ⟨h3, h5, h7⟩ := signedField_commandFrame hlinear hlateral hyaw
    obtain ⟨h3', h5', h7'⟩ := signedField_commandFrame hlinear' hlateral' hyaw'
    rw [heq] at h3 h5 h7
    exact ⟨h3.symm.trans h3', h5.symm.trans h5', h7.symm.trans h7'⟩
  · rintro ⟨rfl, rfl, rfl⟩
    rfl

theorem makeZeroCommandFrame_eq : makeZeroCommandFrame = commandFrame 0 0 0 := by decide

theorem inWireRange_zero : InWireRange 0 := ⟨by decide, by decide⟩

theorem wireValue_eq_zero_iff (q : ℚ) : wireValue q = 0 ↔ |q| < 0.001 := by
  rw [wireValue, truncate_eq_zero_iff, abs_mul, motionUnitsPerWireUnit,
    abs_of_pos (by norm_num : (0 : ℚ) < 1000)]
  constructor <;> intro h <;> linarith

/-- What a frame says about the speeds it was built from. -/
structure CarriesSpeeds (linear lateral yaw : ℚ) (frame : CommandFrame) : Prop
    extends WellFormedCommand frame.toList where
  linearField : signedField frame.toList 3 = wireValue linear
  lateralField : signedField frame.toList 5 = wireValue lateral
  yawField : signedField frame.toList 7 = wireValue yaw
  xor : xorRange frame.toList 10 = 0

theorem FitsWire.carries {linear lateral yaw limit : ℚ} (h : FitsWire linear lateral yaw limit) :
    CarriesSpeeds linear lateral yaw
      (commandFrame (wireValue linear) (wireValue lateral) (wireValue yaw)) := by
  obtain ⟨h3, h5, h7⟩ := signedField_commandFrame h.linearRange h.lateralRange h.yawRange
  have hframe := wellFormed_commandFrame (wireValue linear) (wireValue lateral) (wireValue yaw)
  exact { hframe with
    linearField := h3
    lateralField := h5
    yawField := h7
    xor := hframe.xor_eq_zero }

/-- `encodeCommand` on finite fields: when it succeeds, what its frame carries, and which other
commands share the frame. -/
structure EncodesExactly (linear lateral yaw limit : ℚ) (result : EncodeResult) : Prop where
  ok_iff : result.ok = true ↔ FitsWire linear lateral yaw limit
  carries : result.ok = true → CarriesSpeeds linear lateral yaw result.frame
  shared : result.ok = true → ∀ linear' lateral' yaw' limit',
    let result' := encodeCommand (finiteCommand linear' lateral' yaw') (.finite limit')
    result'.ok = true → (result.frame = result'.frame ↔
      wireValue linear = wireValue linear' ∧ wireValue lateral = wireValue lateral' ∧
        wireValue yaw = wireValue yaw')
  zero : result.ok = true → (result.frame = makeZeroCommandFrame ↔
    |linear| < 0.001 ∧ |lateral| < 0.001 ∧ |yaw| < 0.001)
  failed : result.ok = false → result.frame = Vector.replicate _ 0

theorem encodeCommand_exact (linear lateral yaw limit : ℚ) :
    EncodesExactly linear lateral yaw limit
        (encodeCommand (finiteCommand linear lateral yaw) (.finite limit)) ∧
      ∀ q, TowardZero (q * motionUnitsPerWireUnit) (wireValue q) := by
  refine ⟨?_, fun q => towardZero_truncate _⟩
  constructor
  · exact encodeCommand_finite_ok_iff
  · intro hok
    have h := encodeCommand_finite_ok_iff.mp hok
    rw [encodeCommand_of_fits h]
    exact h.carries
  · intro hok linear' lateral' yaw' limit' result' hok'
    have h := encodeCommand_finite_ok_iff.mp hok
    have h' := encodeCommand_finite_ok_iff.mp hok'
    simp only [result', encodeCommand_of_fits h, encodeCommand_of_fits h']
    exact commandFrame_inj h.linearRange h.lateralRange h.yawRange h'.linearRange h'.lateralRange
      h'.yawRange
  · intro hok
    have h := encodeCommand_finite_ok_iff.mp hok
    rw [encodeCommand_of_fits h, makeZeroCommandFrame_eq, ← wireValue_eq_zero_iff,
      ← wireValue_eq_zero_iff, ← wireValue_eq_zero_iff]
    exact commandFrame_inj h.linearRange h.lateralRange h.yawRange inWireRange_zero
      inWireRange_zero inWireRange_zero
  · exact encodeCommand_failed

end WheeltecVcuSerial
