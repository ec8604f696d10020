import WheeltecVcuSerial.Protocol.Codec

namespace WheeltecVcuSerial

inductive TransportStatus
  | ok
  | deadlineExceeded
  | disconnected
  | writeDisabled
  | invalidArgument
  | configurationError
  | ioError
  deriving DecidableEq

structure IoResult where
  status : TransportStatus := .ioError
  bytesTransferred : Nat := 0
  osError : Int := 0
  hostWriteComplete : Bool := false
  outcomeUncertain : Bool := false
  completionMonotonicNs : Int := 0
  deriving DecidableEq

structure SafetyConfig where
  maxLinearSpeedMps : Double := .nan
  maxAbsYawRateRadps : Double := .nan
  maxCommandAgeNs : Int := 100000000
  feedbackTimeoutNs : Int := 150000000
  transmitPeriodNs : Int := 20000000
  writeTimeoutNs : Int := 10000000
  zeroRetryIntervalNs : Int := 20000000
  maximumZeroAttempts : Nat := 3
  freshCommandsRequired : Nat := 3
  deriving DecidableEq

structure TimedMotionCommand where
  sequenceId : Nat := 0
  createdMonotonicNs : Int := 0
  deadlineMonotonicNs : Int := 0
  motion : MotionCommand := {}
  deriving DecidableEq

inductive SessionState
  | configurationInvalid
  | disconnected
  | connectedInhibited
  | recovering
  | active
  | stopPending
  | emergencyStopLatched
  | faulted
  deriving DecidableEq

inductive AuthorizationStatus
  | authorized
  | configurationInvalid
  | disconnected
  | initialZeroPending
  | feedbackUnavailable
  | emergencyStopLatched
  | faulted
  | tokenInvalid
  | timestampInvalid
  deriving DecidableEq

inductive SubmissionStatus
  | accepted
  | recoveryPending
  | stopAccepted
  | configurationInvalid
  | disconnected
  | notAuthorized
  | sequenceInvalid
  | timestampInvalid
  | stale
  | predatesAuthorization
  | feedbackUnavailable
  | encodingRejected
  | emergencyStopLatched
  | faulted
  deriving DecidableEq

inductive FeedbackObservationStatus
  | acceptedControlAllowed
  | acceptedControlInhibited
  | frameInvalid
  | timestampInvalid
  | disconnected
  | configurationInvalid
  deriving DecidableEq

structure FeedbackObservationResult where
  status : FeedbackObservationStatus := .configurationInvalid
  validFrame : Bool := false
  controlAllowed : Bool := false
  deriving DecidableEq

inductive CycleAction
  | noAction
  | transmitRateLimited
  | motionHostWriteComplete
  | zeroHostWriteComplete
  | zeroHostWriteFailed
  | zeroRetryPending
  | zeroRetriesExhausted
  | disconnected
  | configurationInvalid
  | clockInvalid
  deriving DecidableEq

structure CycleResult where
  action : CycleAction := .noAction
  state : SessionState := .configurationInvalid
  transportStatus : TransportStatus := .ok
  motionWriteAttempted : Bool := false
  motionHostWriteComplete : Bool := false
  zeroWriteAttempted : Bool := false
  zeroHostWriteComplete : Bool := false
  outcomeUncertain : Bool := false
  zeroAttempts : Nat := 0
  deriving DecidableEq

inductive ConnectionSync
  | unchanged
  | newGeneration
  | disconnected
  deriving DecidableEq

/-- What `connected()` and `generation()` of the transport report. -/
structure Link where
  connected : Bool
  generation : Nat
  deriving DecidableEq

/-- One answer of `writeAll`: its result, or nothing when it threw, and the link it left behind. -/
structure WriteOutcome where
  returned : Option IoResult
  link : Link
  deriving DecidableEq

/-- The fields of `SafetySession`; `transport` says whether its pointer is not null. -/
structure SafetySession where
  config : SafetyConfig
  transport : Bool
  configurationValid : Bool := false
  state : SessionState := .configurationInvalid
  connectionKnown : Bool := false
  connectionGeneration : Nat := 0
  lastObservedMonotonicNs : Int := 0
  authorizationActive : Bool := false
  highestAuthorizationToken : Nat := 0
  authorizedGeneration : Nat := 0
  authorizationMonotonicNs : Int := 0
  highestSequence : Nat := 0
  consecutiveFreshCommands : Nat := 0
  latestCommandValid : Bool := false
  latestCommand : TimedMotionCommand := {}
  latestFrame : CommandFrame := Vector.replicate _ 0
  latestCommandReceiptNs : Int := 0
  lastMotionHostWriteCompletionNs : Int := 0
  feedbackAllowedSeen : Bool := false
  latestAllowedFeedbackReceiptNs : Int := 0
  zeroEpisodeActive : Bool := false
  stateAfterZero : SessionState := .connectedInhibited
  zeroAttempts : Nat := 0
  nextZeroAttemptNs : Int := 0
  emergencyStopLatched : Bool := false
  emergencyStopLatchGeneration : Nat := 0
  highestEstopResetToken : Nat := 0
  deriving DecidableEq

def commandIsExactZero (command : MotionCommand) : Bool :=
  command.linearSpeedMps.eq (.finite 0) && command.lateralSpeedMps.eq (.finite 0) &&
    command.yawRateRadps.eq (.finite 0)

def int64Max : Int := 2 ^ 63 - 1
def uint64Max : Nat := 2 ^ 64 - 1

def saturatingAdd (value positiveDelta : Int) : Int :=
  if positiveDelta ≤ 0 then value
  else if value > int64Max - positiveDelta then int64Max
  else value + positiveDelta

/-- `EIO` of the host. -/
def errorIo : Int := 5

def exceptionIoResult (nowMonotonicNs : Int) : IoResult :=
  { status := .ioError
    osError := errorIo
    outcomeUncertain := true
    completionMonotonicNs := nowMonotonicNs }

/-- The result the session works with: an exception of `writeAll` is caught on the spot. -/
def WriteOutcome.ioResult (outcome : WriteOutcome) (nowMonotonicNs : Int) : IoResult :=
  outcome.returned.getD (exceptionIoResult nowMonotonicNs)

def maximumDurationNs : Int := 60000000000

def safetyConfigIsValid (config : SafetyConfig) : Bool :=
  isValidMaxLinearSpeed config.maxLinearSpeedMps &&
    config.maxAbsYawRateRadps.isFinite &&
    (Double.finite 0).lt config.maxAbsYawRateRadps &&
    config.maxAbsYawRateRadps.le (.rounded 32.767) &&
    config.maxCommandAgeNs > 0 &&
    config.maxCommandAgeNs ≤ maximumDurationNs &&
    config.feedbackTimeoutNs > 0 &&
    config.feedbackTimeoutNs ≤ maximumDurationNs &&
    config.transmitPeriodNs > 0 && config.writeTimeoutNs > 0 &&
    config.transmitPeriodNs ≤ maximumDurationNs &&
    config.writeTimeoutNs ≤ maximumDurationNs &&
    config.zeroRetryIntervalNs > 0 &&
    config.zeroRetryIntervalNs ≤ maximumDurationNs &&
    config.writeTimeoutNs ≤ config.transmitPeriodNs &&
    config.transmitPeriodNs < config.maxCommandAgeNs &&
    config.transmitPeriodNs < config.feedbackTimeoutNs &&
    config.maximumZeroAttempts > 0 &&
    config.maximumZeroAttempts ≤ 20 &&
    config.freshCommandsRequired > 0 &&
    config.freshCommandsRequired ≤ 100

/-- What `safetyConfigIsValid` asks. -/
structure SafetyConfig.Valid (config : SafetyConfig) : Prop where
  linear : isValidMaxLinearSpeed config.maxLinearSpeedMps = true
  yawFinite : config.maxAbsYawRateRadps.isFinite = true
  yawPositive : (Double.finite 0).lt config.maxAbsYawRateRadps = true
  yawLimit : config.maxAbsYawRateRadps.le (.rounded 32.767) = true
  agePositive : 0 < config.maxCommandAgeNs
  age : config.maxCommandAgeNs ≤ maximumDurationNs
  feedbackPositive : 0 < config.feedbackTimeoutNs
  feedback : config.feedbackTimeoutNs ≤ maximumDurationNs
  periodPositive : 0 < config.transmitPeriodNs
  period : config.transmitPeriodNs ≤ maximumDurationNs
  writePositive : 0 < config.writeTimeoutNs
  write : config.writeTimeoutNs ≤ maximumDurationNs
  retryPositive : 0 < config.zeroRetryIntervalNs
  retry : config.zeroRetryIntervalNs ≤ maximumDurationNs
  writePeriod : config.writeTimeoutNs ≤ config.transmitPeriodNs
  periodAge : config.transmitPeriodNs < config.maxCommandAgeNs
  periodFeedback : config.transmitPeriodNs < config.feedbackTimeoutNs
  attemptsPositive : 0 < config.maximumZeroAttempts
  attempts : config.maximumZeroAttempts ≤ 20
  requiredPositive : 0 < config.freshCommandsRequired
  required : config.freshCommandsRequired ≤ 100

theorem safetyConfigIsValid_iff {config : SafetyConfig} :
    safetyConfigIsValid config = true ↔ config.Valid := by
  simp only [safetyConfigIsValid, Bool.and_eq_true, decide_eq_true_eq]
  constructor
  · intro h
    constructor <;> tauto
  · rintro ⟨⟩
    tauto

end WheeltecVcuSerial
