import WheeltecVcuSerial.Protocol.Double

namespace WheeltecVcuSerial

def frameHeader : UInt8 := 0x7B
def frameTail : UInt8 := 0x7D
abbrev commandFrameSize : Nat := 11
abbrev feedbackFrameSize : Nat := 24

abbrev CommandFrame := Vector UInt8 commandFrameSize
abbrev FeedbackFrame := Vector UInt8 feedbackFrameSize

/-- A `const std::uint8_t*` with a size: the pointer is null or heads that many bytes. -/
inductive ByteSpan
  | null (size : Nat)
  | bytes (data : List UInt8)
  deriving DecidableEq

def ByteSpan.size : ByteSpan → Nat
  | .null size => size
  | .bytes data => data.length

structure MotionCommand where
  linearSpeedMps : Double := .finite 0
  lateralSpeedMps : Double := .finite 0
  yawRateRadps : Double := .finite 0
  deriving DecidableEq

inductive EncodeError
  | none
  | invalidMaxLinearSpeed
  | nonFiniteLinearSpeed
  | nonFiniteLateralSpeed
  | nonFiniteYawRate
  | linearWireRange
  | lateralWireRange
  | yawRateWireRange
  | linearSpeedLimitExceeded
  deriving DecidableEq

structure EncodeResult where
  frame : CommandFrame := Vector.replicate _ 0
  error : EncodeError := .invalidMaxLinearSpeed
  deriving DecidableEq

def EncodeResult.ok (result : EncodeResult) : Bool := result.error = .none

def motionUnitsPerWireUnit : ℚ := 1000
def accelerometerDivisor : ℚ := 1671.84
def gyroscopeMultiplier : ℚ := 0.00026644

def xorRange (data : List UInt8) (size : Nat) : UInt8 :=
  (data.take size).foldl (fun value byte => value ^^^ byte) 0

def quantizeWireValue (value : Double) : Option ℤ :=
  let scaled := (value.scale motionUnitsPerWireUnit).trunc
  if !scaled.isFinite || scaled.lt (.finite (-32768)) || (Double.finite 32767).lt scaled then
    none
  else
    some scaled.toInt

/-- The two bytes of an `int16_t`, most significant first. -/
def storeSignedBigEndian (value : ℤ) : UInt8 × UInt8 :=
  let bits := UInt16.ofInt value
  ((bits >>> 8).toUInt8, (bits &&& 0xFF).toUInt8)

def loadUnsignedBigEndian (high low : UInt8) : UInt16 :=
  (high.toUInt16 <<< 8) ||| low.toUInt16

def loadSignedBigEndian (high low : UInt8) : ℤ :=
  let bits := (high.toUInt16 <<< 8) ||| low.toUInt16
  let widened : ℤ := bits.toNat
  if bits &&& 0x8000 != 0 then widened - 0x10000 else widened

def encodeFailure (error : EncodeError) : EncodeResult := { error := error }

def isValidMaxLinearSpeed (valueMps : Double) : Bool :=
  valueMps.isFinite && (Double.finite 0).lt valueMps && valueMps.lt (.finite 6)

/-- The frame of three wire values: bytes 9 and 10 are filled in after the fields. -/
def commandFrame (linearWire lateralWire yawWire : ℤ) : CommandFrame :=
  let linear := storeSignedBigEndian linearWire
  let lateral := storeSignedBigEndian lateralWire
  let yaw := storeSignedBigEndian yawWire
  let fields : CommandFrame :=
    #v[frameHeader, 0, 0, linear.1, linear.2, lateral.1, lateral.2, yaw.1, yaw.2, 0, 0]
  (fields.set 9 (xorRange fields.toList 9)).set 10 frameTail

def encodeCommand (command : MotionCommand) (explicitMaxLinearSpeedMps : Double) : EncodeResult :=
  if !isValidMaxLinearSpeed explicitMaxLinearSpeedMps then
    encodeFailure .invalidMaxLinearSpeed
  else if !command.linearSpeedMps.isFinite then
    encodeFailure .nonFiniteLinearSpeed
  else if !command.lateralSpeedMps.isFinite then
    encodeFailure .nonFiniteLateralSpeed
  else if !command.yawRateRadps.isFinite then
    encodeFailure .nonFiniteYawRate
  else
    match quantizeWireValue command.linearSpeedMps with
    | none => encodeFailure .linearWireRange
    | some linearWire =>
      match quantizeWireValue command.lateralSpeedMps with
      | none => encodeFailure .lateralWireRange
      | some lateralWire =>
        match quantizeWireValue command.yawRateRadps with
        | none => encodeFailure .yawRateWireRange
        | some yawWire =>
          if explicitMaxLinearSpeedMps.lt command.linearSpeedMps.abs then
            encodeFailure .linearSpeedLimitExceeded
          else
            { frame := commandFrame linearWire lateralWire yawWire, error := .none }

def makeZeroCommandFrame : CommandFrame :=
  #v[frameHeader, 0, 0, 0, 0, 0, 0, 0, 0, frameHeader, frameTail]

structure FeedbackData where
  compositeStopFlagRaw : UInt8 := 1
  controlAllowed : Bool := false
  controlInhibited : Bool := true
  linearSpeedMps : ℚ := 0
  lateralSpeedMps : ℚ := 0
  yawRateRadps : ℚ := 0
  linearAccelerationMps2 : Vector ℚ 3 := Vector.replicate _ 0
  angularVelocityRadps : Vector ℚ 3 := Vector.replicate _ 0
  supplyVoltageV : ℚ := 0
  vcuAckAvailable : Bool := false
  sourceTimeAvailable : Bool := false
  deriving DecidableEq

inductive FeedbackDecodeError
  | none
  | invalidFrameSize
  | invalidHeader
  | invalidTail
  | checksumMismatch
  | invalidCompositeStopFlag
  deriving DecidableEq

structure FeedbackDecodeResult where
  feedback : FeedbackData := {}
  error : FeedbackDecodeError := .invalidFrameSize
  deriving DecidableEq

def FeedbackDecodeResult.ok (result : FeedbackDecodeResult) : Bool := result.error = .none

/-- The fields of a frame whose header, tail, checksum and flag have been checked. -/
def feedbackFields (data : List UInt8) : FeedbackData :=
  let signedAt (offset : Nat) : ℚ :=
    loadSignedBigEndian (data.getD offset 0) (data.getD (offset + 1) 0)
  { compositeStopFlagRaw := data.getD 1 0
    controlAllowed := data.getD 1 0 == 0
    controlInhibited := data.getD 1 0 == 1
    linearSpeedMps := signedAt 2 / motionUnitsPerWireUnit
    lateralSpeedMps := signedAt 4 / motionUnitsPerWireUnit
    yawRateRadps := signedAt 6 / motionUnitsPerWireUnit
    linearAccelerationMps2 := Vector.ofFn fun axis => signedAt (8 + axis * 2) / accelerometerDivisor
    angularVelocityRadps := Vector.ofFn fun axis => signedAt (14 + axis * 2) * gyroscopeMultiplier
    supplyVoltageV :=
      (loadUnsignedBigEndian (data.getD 20 0) (data.getD 21 0)).toNat / motionUnitsPerWireUnit
    vcuAckAvailable := false
    sourceTimeAvailable := false }

/-- `decodeFeedbackFrame` on a pointer and a size. -/
def decodeFeedbackSpan : ByteSpan → FeedbackDecodeResult
  | .null _ => { error := .invalidFrameSize }
  | .bytes data =>
    if data.length ≠ feedbackFrameSize then { error := .invalidFrameSize }
    else if data.getD 0 0 ≠ frameHeader then { error := .invalidHeader }
    else if data.getD 23 0 ≠ frameTail then { error := .invalidTail }
    else if xorRange data 22 ≠ data.getD 22 0 then { error := .checksumMismatch }
    else if data.getD 1 0 > 1 then { error := .invalidCompositeStopFlag }
    else { feedback := feedbackFields data, error := .none }

def decodeFeedbackFrame (frame : FeedbackFrame) : FeedbackDecodeResult :=
  decodeFeedbackSpan (.bytes frame.toList)

end WheeltecVcuSerial
