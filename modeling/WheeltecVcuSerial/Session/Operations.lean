import WheeltecVcuSerial.Session.State
import Mathlib.Tactic.Simps.Basic

namespace WheeltecVcuSerial

inductive WriteKind
  | motion
  | zero
  deriving DecidableEq

/-- One call of `writeAll`: its arguments, the time the attempt started at, the generation of the
link that it found, and its answer. -/
structure Write where
  kind : WriteKind
  buffer : List UInt8
  deadlineNs : Int
  startNs : Int
  generation : Nat
  outcome : WriteOutcome
  deriving DecidableEq

/-- The test by which the session takes a write of `size` bytes for complete. -/
def IoResult.completes (result : IoResult) (size : Nat) : Bool :=
  result.status = .ok && result.hostWriteComplete && result.bytesTransferred = size

structure Cycle where
  session : SafetySession
  link : Link
  result : CycleResult
  writes : List Write := []
  deriving DecidableEq

namespace SafetySession

def authorized (s : SafetySession) : Bool :=
  s.configurationValid && s.connectionKnown && s.authorizationActive && !s.emergencyStopLatched &&
    s.authorizedGeneration = s.connectionGeneration && s.authorizationMonotonicNs > 0 &&
    s.state ≠ .faulted

def feedbackIsFresh (s : SafetySession) (nowMonotonicNs : Int) : Bool :=
  s.feedbackAllowedSeen && s.latestAllowedFeedbackReceiptNs > 0 &&
    s.latestAllowedFeedbackReceiptNs ≤ nowMonotonicNs &&
    nowMonotonicNs - s.latestAllowedFeedbackReceiptNs ≤ s.config.feedbackTimeoutNs

def commandIsFresh (s : SafetySession) (nowMonotonicNs : Int) : Bool :=
  s.latestCommandValid && s.latestCommandReceiptNs > 0 &&
    s.latestCommand.createdMonotonicNs ≤ nowMonotonicNs &&
    s.latestCommandReceiptNs ≤ nowMonotonicNs &&
    nowMonotonicNs ≤ s.latestCommand.deadlineMonotonicNs &&
    nowMonotonicNs - s.latestCommand.createdMonotonicNs ≤ s.config.maxCommandAgeNs &&
    nowMonotonicNs - s.latestCommandReceiptNs ≤ s.config.maxCommandAgeNs

def boundedWriteDeadline (s : SafetySession) (nowMonotonicNs commandDeadlineNs : Int) : Int :=
  min (saturatingAdd nowMonotonicNs s.config.writeTimeoutNs) commandDeadlineNs

@[simps] def revokeAuthorization (s : SafetySession) : SafetySession :=
  { s with
    authorizationActive := false
    authorizedGeneration := 0
    authorizationMonotonicNs := 0 }

@[simps] def clearMotionIntent (s : SafetySession) : SafetySession :=
  { s with
    latestCommandValid := false
    latestCommand := {}
    latestFrame := Vector.replicate _ 0
    latestCommandReceiptNs := 0
    consecutiveFreshCommands := 0 }

/-- The two assignments that drop the last allowed feedback wherever the source does so. -/
@[simps] def forgetFeedback (s : SafetySession) : SafetySession :=
  { s with feedbackAllowedSeen := false, latestAllowedFeedbackReceiptNs := 0 }

/-- The assignment `state_ = state`. -/
@[simps] def enterState (s : SafetySession) (state : SessionState) : SafetySession :=
  { s with state := state }

/-- The state after zero of every stop that keeps no authorization. -/
def inhibitedState (s : SafetySession) : SessionState :=
  if s.emergencyStopLatched then .emergencyStopLatched else .connectedInhibited

def beginZeroEpisode (s : SafetySession) (link : Link) (stateAfterZero : SessionState)
    (earliestAttemptNs : Int) : SafetySession :=
  if !s.connectionKnown || !s.transport || !link.connected then
    s.enterState .disconnected
  else if s.state = .faulted then s
  else if s.zeroEpisodeActive then
    if stateAfterZero = .emergencyStopLatched ||
        (stateAfterZero = .connectedInhibited && s.stateAfterZero = .recovering) then
      { s with stateAfterZero := stateAfterZero }
    else s
  else
    { s with
      zeroEpisodeActive := true
      stateAfterZero := stateAfterZero
      zeroAttempts := 0
      nextZeroAttemptNs := max 0 earliestAttemptNs
      state := .stopPending }

/-- The fields that a lost and a new connection reset alike. -/
@[simps] def resetConnection (s : SafetySession) : SafetySession :=
  { s.revokeAuthorization.clearMotionIntent.forgetFeedback with
    zeroEpisodeActive := false
    zeroAttempts := 0
    nextZeroAttemptNs := 0
    lastMotionHostWriteCompletionNs := 0 }

@[simps] def setConnection (s : SafetySession) (known : Bool) (generation : Nat) : SafetySession :=
  { s with connectionKnown := known, connectionGeneration := generation }

def handleDisconnect (s : SafetySession) : SafetySession :=
  let s := (s.setConnection false s.connectionGeneration).resetConnection
  if s.configurationValid then s.enterState .disconnected else s

def handleNewConnection (s : SafetySession) (link : Link) : SafetySession :=
  let s := (s.setConnection true link.generation).resetConnection.enterState .connectedInhibited
  s.beginZeroEpisode link s.inhibitedState 0

def handleClockFailure (s : SafetySession) (link : Link) : SafetySession :=
  let s := s.revokeAuthorization.clearMotionIntent.forgetFeedback
  if s.connectionKnown && s.transport && link.connected then
    s.beginZeroEpisode link s.inhibitedState s.lastObservedMonotonicNs
  else s

@[simps] def observed (s : SafetySession) (nowMonotonicNs : Int) : SafetySession :=
  { s with lastObservedMonotonicNs := nowMonotonicNs }

/-- The session after an accepted clock value, or nothing when the value is rejected. -/
def observeMonotonicTime (s : SafetySession) (nowMonotonicNs : Int) : Option SafetySession :=
  if nowMonotonicNs ≤ 0 ||
      (s.lastObservedMonotonicNs > 0 && nowMonotonicNs < s.lastObservedMonotonicNs) then
    none
  else if nowMonotonicNs > s.lastObservedMonotonicNs then some (s.observed nowMonotonicNs)
  else some s

def synchronizeConnection (s : SafetySession) (link : Link) : SafetySession × ConnectionSync :=
  if !s.transport || !link.connected || link.generation = 0 then
    (s.handleDisconnect, .disconnected)
  else if !s.connectionKnown || link.generation ≠ s.connectionGeneration then
    (s.handleNewConnection link, .newGeneration)
  else (s, .unchanged)

/-- Where the opening that the operations share leaves the session: the clock check, then the
connection. -/
inductive Entry
  | clockInvalid (session : SafetySession)
  | disconnected (session : SafetySession)
  | ready (session : SafetySession) (connection : ConnectionSync)

def enter (s : SafetySession) (link : Link) (nowMonotonicNs : Int) : Entry :=
  match s.observeMonotonicTime nowMonotonicNs with
  | none => .clockInvalid (s.handleClockFailure link)
  | some s =>
    match s.synchronizeConnection link with
    | (s, .disconnected) => .disconnected s
    | (s, connection) => .ready s connection

def construct (config : SafetyConfig) (transport : Option Link) : SafetySession :=
  let s : SafetySession :=
    { config := config
      transport := transport.isSome
      configurationValid := transport.isSome && safetyConfigIsValid config }
  match transport with
  | some link =>
    if !s.configurationValid then s.enterState .configurationInvalid
    else (s.synchronizeConnection link).1
  | none => s.enterState .configurationInvalid

@[simps] def grantAuthorization (s : SafetySession) (token : Nat) (now : Int) : SafetySession :=
  { s.clearMotionIntent with
    highestAuthorizationToken := token
    authorizationActive := true
    authorizedGeneration := s.connectionGeneration
    authorizationMonotonicNs := now
    state := .recovering }

def authorize (s : SafetySession) (link : Link) (authorizationToken : Nat)
    (authorizationMonotonicNs : Int) : SafetySession × AuthorizationStatus :=
  if !s.configurationValid then (s, .configurationInvalid)
  else
    match s.enter link authorizationMonotonicNs with
    | .clockInvalid s => (s, .timestampInvalid)
    | .disconnected s => (s, .disconnected)
    | .ready s connection =>
      if s.emergencyStopLatched then (s, .emergencyStopLatched)
      else if s.state = .faulted then (s, .faulted)
      else if s.zeroEpisodeActive || connection = .newGeneration then (s, .initialZeroPending)
      else if authorizationToken = 0 || authorizationToken ≤ s.highestAuthorizationToken then
        (s, .tokenInvalid)
      else if !s.feedbackIsFresh authorizationMonotonicNs then (s, .feedbackUnavailable)
      else (s.grantAuthorization authorizationToken authorizationMonotonicNs, .authorized)

def disarm (s : SafetySession) (link : Link) (nowMonotonicNs : Int) : SafetySession × Bool :=
  if !s.configurationValid then (s, false)
  else
    match s.enter link nowMonotonicNs with
    | .clockInvalid s => (s, false)
    | .disconnected s => (s, true)
    | .ready s _ =>
      if s.state = .faulted then (s, false)
      else
        let s := s.revokeAuthorization.clearMotionIntent
        (s.beginZeroEpisode link s.inhibitedState nowMonotonicNs, true)

def requestStop (s : SafetySession) (link : Link) (nowMonotonicNs : Int) : SafetySession × Bool :=
  if !s.configurationValid then (s, false)
  else
    match s.enter link nowMonotonicNs with
    | .clockInvalid s => (s, false)
    | .disconnected s => (s, true)
    | .ready s _ =>
      if s.state = .faulted then (s, false)
      else
        let s := s.clearMotionIntent
        let afterZero :=
          if s.emergencyStopLatched then SessionState.emergencyStopLatched
          else if s.authorized then .recovering else .connectedInhibited
        (s.beginZeroEpisode link afterZero nowMonotonicNs, true)

/-- `previous_is_stale` of `submit`. -/
def previousIsStale (s : SafetySession) (receiptMonotonicNs : Int) : Bool :=
  receiptMonotonicNs > s.latestCommand.deadlineMonotonicNs ||
    receiptMonotonicNs - s.latestCommandReceiptNs > s.config.maxCommandAgeNs

/-- The answer of `submit` to a defective command: the permission is gone. -/
def rejectRevoking (s : SafetySession) (link : Link) (now : Int) (status : SubmissionStatus) :
    SafetySession × SubmissionStatus :=
  (s.revokeAuthorization.clearMotionIntent.beginZeroEpisode link .connectedInhibited now, status)

/-- The answer of `submit` to a command that stops the motion and keeps the permission. -/
def rejectStopping (s : SafetySession) (link : Link) (now : Int) (stateAfterZero : SessionState)
    (status : SubmissionStatus) : SafetySession × SubmissionStatus :=
  (s.clearMotionIntent.beginZeroEpisode link stateAfterZero now, status)

@[simps] def consumeSequence (s : SafetySession) (sequenceId : Nat) : SafetySession :=
  { s with highestSequence := sequenceId }

@[simps] def holdCommand (s : SafetySession) (command : TimedMotionCommand) (frame : CommandFrame)
    (receiptMonotonicNs : Int) : SafetySession :=
  { s with
    latestCommand := command
    latestFrame := frame
    latestCommandValid := true
    latestCommandReceiptNs := receiptMonotonicNs
    consecutiveFreshCommands :=
      if s.consecutiveFreshCommands < s.config.freshCommandsRequired then
        s.consecutiveFreshCommands + 1
      else s.consecutiveFreshCommands }

/-- The end of `submit`: the command becomes the latest one. -/
def acceptCommand (s : SafetySession) (command : TimedMotionCommand) (frame : CommandFrame)
    (receiptMonotonicNs : Int) : SafetySession × SubmissionStatus :=
  let s := s.holdCommand command frame receiptMonotonicNs
  if s.consecutiveFreshCommands ≥ s.config.freshCommandsRequired then
    (s.enterState .active, .accepted)
  else (s.enterState .recovering, .recoveryPending)

/-- The checks of `submit` from the consumption of the sequence id on. -/
def submitSequenced (s : SafetySession) (link : Link) (connection : ConnectionSync)
    (command : TimedMotionCommand) (receiptMonotonicNs : Int) : SafetySession × SubmissionStatus :=
  let s := s.consumeSequence command.sequenceId
  if command.createdMonotonicNs ≤ 0 || command.createdMonotonicNs > receiptMonotonicNs ||
      command.deadlineMonotonicNs ≤ command.createdMonotonicNs then
    s.rejectRevoking link receiptMonotonicNs .timestampInvalid
  else if receiptMonotonicNs > command.deadlineMonotonicNs ||
      receiptMonotonicNs - command.createdMonotonicNs > s.config.maxCommandAgeNs then
    s.rejectStopping link receiptMonotonicNs
      (if s.clearMotionIntent.authorized then .recovering else .connectedInhibited) .stale
  else if !s.authorized || s.zeroEpisodeActive || connection = .newGeneration then
    (s.clearMotionIntent, .notAuthorized)
  else if command.createdMonotonicNs ≤ s.authorizationMonotonicNs then
    s.rejectStopping link receiptMonotonicNs .recovering .predatesAuthorization
  else if !command.motion.yawRateRadps.isFinite ||
      s.config.maxAbsYawRateRadps.lt command.motion.yawRateRadps.abs ||
      !command.motion.lateralSpeedMps.eq (.finite 0) then
    s.rejectRevoking link receiptMonotonicNs .encodingRejected
  else
    let encoded := encodeCommand command.motion s.config.maxLinearSpeedMps
    if !encoded.ok then s.rejectRevoking link receiptMonotonicNs .encodingRejected
    else if commandIsExactZero command.motion then
      s.rejectStopping link receiptMonotonicNs .recovering .stopAccepted
    else if !s.feedbackIsFresh receiptMonotonicNs then
      s.rejectStopping link receiptMonotonicNs .recovering .feedbackUnavailable
    else if s.latestCommandValid && s.previousIsStale receiptMonotonicNs then
      s.clearMotionIntent.acceptCommand command encoded.frame receiptMonotonicNs
    else if s.latestCommandValid &&
        command.createdMonotonicNs ≤ s.latestCommand.createdMonotonicNs then
      s.rejectRevoking link receiptMonotonicNs .timestampInvalid
    else s.acceptCommand command encoded.frame receiptMonotonicNs

def submit (s : SafetySession) (link : Link) (command : TimedMotionCommand)
    (receiptMonotonicNs : Int) : SafetySession × SubmissionStatus :=
  if !s.configurationValid then (s, .configurationInvalid)
  else
    match s.enter link receiptMonotonicNs with
    | .clockInvalid s => (s, .timestampInvalid)
    | .disconnected s => (s, .disconnected)
    | .ready s connection =>
      if s.emergencyStopLatched then (s, .emergencyStopLatched)
      else if s.state = .faulted then (s, .faulted)
      else if command.sequenceId = 0 || command.sequenceId ≤ s.highestSequence then
        s.rejectRevoking link receiptMonotonicNs .sequenceInvalid
      else s.submitSequenced link connection command receiptMonotonicNs

@[simps] def noteAllowedFeedback (s : SafetySession) (receiptMonotonicNs : Int) : SafetySession :=
  { s with feedbackAllowedSeen := true, latestAllowedFeedbackReceiptNs := receiptMonotonicNs }

def observeFeedback (s : SafetySession) (link : Link) (frame : FeedbackFrame)
    (receiptMonotonicNs : Int) : SafetySession × FeedbackObservationResult :=
  if !s.configurationValid then (s, ⟨.configurationInvalid, false, false⟩)
  else
    match s.enter link receiptMonotonicNs with
    | .clockInvalid s => (s, ⟨.timestampInvalid, false, false⟩)
    | .disconnected s => (s, ⟨.disconnected, false, false⟩)
    | .ready s _ =>
      let decoded := decodeFeedbackFrame frame
      if !decoded.ok then (s, ⟨.frameInvalid, false, false⟩)
      else if decoded.feedback.controlAllowed then
        (s.noteAllowedFeedback receiptMonotonicNs, ⟨.acceptedControlAllowed, true, true⟩)
      else
        let s := s.forgetFeedback.revokeAuthorization.clearMotionIntent
        (s.beginZeroEpisode link s.inhibitedState receiptMonotonicNs,
          ⟨.acceptedControlInhibited, true, false⟩)

/-- The part of `latchEmergencyStop` that needs neither a clock nor a connection. -/
@[simps] def assertEmergencyStop (s : SafetySession) : SafetySession :=
  { s.revokeAuthorization.clearMotionIntent.forgetFeedback with
    emergencyStopLatched := true
    emergencyStopLatchGeneration :=
      if s.emergencyStopLatchGeneration ≠ uint64Max then s.emergencyStopLatchGeneration + 1
      else s.emergencyStopLatchGeneration }

def latchEmergencyStop (s : SafetySession) (link : Link) (nowMonotonicNs : Int) : SafetySession :=
  let s := s.assertEmergencyStop
  if !s.configurationValid then s.enterState .configurationInvalid
  else
    let observed := s.observeMonotonicTime nowMonotonicNs
    match (observed.getD s).synchronizeConnection link with
    | (s, .disconnected) => s
    | (s, _) =>
      if s.state = .faulted then s
      else
        s.beginZeroEpisode link .emergencyStopLatched
          (if observed.isSome then nowMonotonicNs else s.lastObservedMonotonicNs)

@[simps] def releaseEmergencyStop (s : SafetySession) (resetToken : Nat) : SafetySession :=
  { s.revokeAuthorization.clearMotionIntent with
    highestEstopResetToken := resetToken
    emergencyStopLatched := false
    state := .connectedInhibited }

def resetEmergencyStop (s : SafetySession) (link : Link) (resetToken : Nat)
    (nowMonotonicNs : Int) : SafetySession × Bool :=
  if !s.configurationValid || !s.emergencyStopLatched then (s, false)
  else
    match s.enter link nowMonotonicNs with
    | .clockInvalid s => (s, false)
    | .disconnected s => (s, false)
    | .ready s connection =>
      if connection ≠ .unchanged || s.zeroEpisodeActive || s.state = .faulted ||
          resetToken = 0 || resetToken ≤ s.highestEstopResetToken ||
          !s.feedbackIsFresh nowMonotonicNs then
        (s, false)
      else (s.releaseEmergencyStop resetToken, true)

@[simps] def countZeroAttempt (s : SafetySession) : SafetySession :=
  { s with zeroAttempts := s.zeroAttempts + 1 }

@[simps] def completeZero (s : SafetySession) : SafetySession :=
  { s with
    zeroEpisodeActive := false
    zeroAttempts := 0
    nextZeroAttemptNs := 0
    state := if s.emergencyStopLatched then .emergencyStopLatched else s.stateAfterZero }

@[simps] def exhaustZero (s : SafetySession) : SafetySession :=
  { s with zeroEpisodeActive := false, state := .faulted }

@[simps] def scheduleRetry (s : SafetySession) (nextAttemptNs : Int) : SafetySession :=
  { s with nextZeroAttemptNs := nextAttemptNs }

/-- The part of `attemptZero` that follows the return of `writeAll`. -/
def concludeZero (s : SafetySession) (link : Link) (nowMonotonicNs : Int) (result : CycleResult)
    (zeroResult : IoResult) : SafetySession × CycleResult :=
  let result :=
    { result with
      zeroWriteAttempted := true
      zeroAttempts := s.zeroAttempts
      zeroHostWriteComplete := zeroResult.hostWriteComplete
      outcomeUncertain := result.outcomeUncertain || zeroResult.outcomeUncertain
      transportStatus := zeroResult.status }
  let s :=
    if zeroResult.completionMonotonicNs > s.lastObservedMonotonicNs then
      s.observed zeroResult.completionMonotonicNs
    else s
  if zeroResult.status = .disconnected || !link.connected then
    let s := s.handleDisconnect
    (s, { result with
      action := .disconnected
      state := s.state
      transportStatus := .disconnected
      outcomeUncertain := true })
  else if zeroResult.completes commandFrameSize then
    let s := s.completeZero
    (s, { result with action := .zeroHostWriteComplete, state := s.state })
  else if s.zeroAttempts ≥ s.config.maximumZeroAttempts then
    let s := s.exhaustZero
    (s, { result with
      action := .zeroRetriesExhausted
      state := s.state
      outcomeUncertain := true })
  else
    let retryBase := max nowMonotonicNs zeroResult.completionMonotonicNs
    let s := s.scheduleRetry (saturatingAdd retryBase s.config.zeroRetryIntervalNs)
    (s, { result with action := .zeroHostWriteFailed, state := s.state })

/-- The `writeAll` call of `attemptZero` at `now`. -/
def zeroWrite (s : SafetySession) (link : Link) (nowMonotonicNs : Int) (outcome : WriteOutcome) :
    Write :=
  { kind := .zero
    buffer := makeZeroCommandFrame.toList
    deadlineNs := s.boundedWriteDeadline nowMonotonicNs int64Max
    startNs := nowMonotonicNs
    generation := link.generation
    outcome := outcome }

def attemptZero (s : SafetySession) (link : Link) (nowMonotonicNs : Int) (result : CycleResult)
    (zeroOutcome : WriteOutcome) : Cycle :=
  let result := { result with state := s.state }
  if !s.zeroEpisodeActive then { session := s, link := link, result := result }
  else if nowMonotonicNs < s.nextZeroAttemptNs then
    { session := s
      link := link
      result := { result with action := .zeroRetryPending, zeroAttempts := s.zeroAttempts } }
  else
    let concluded :=
      s.countZeroAttempt.concludeZero zeroOutcome.link nowMonotonicNs result
        (zeroOutcome.ioResult nowMonotonicNs)
    { session := concluded.1
      link := zeroOutcome.link
      result := concluded.2
      writes := [s.zeroWrite link nowMonotonicNs zeroOutcome] }

/-- The `writeAll` call of the motion branch of `tick` at `now`. -/
def motionWrite (s : SafetySession) (link : Link) (nowMonotonicNs : Int) (outcome : WriteOutcome) :
    Write :=
  { kind := .motion
    buffer := s.latestFrame.toList
    deadlineNs := s.boundedWriteDeadline nowMonotonicNs s.latestCommand.deadlineMonotonicNs
    startNs := nowMonotonicNs
    generation := link.generation
    outcome := outcome }

@[simps] def noteMotionComplete (s : SafetySession) (completionNs : Int) : SafetySession :=
  { s with
    lastMotionHostWriteCompletionNs := completionNs
    lastObservedMonotonicNs := max s.lastObservedMonotonicNs completionNs }

/-- The end of `tick`, from the motion write on. -/
def writeMotion (s : SafetySession) (link : Link) (nowMonotonicNs : Int) (result : CycleResult)
    (motionOutcome zeroOutcome : WriteOutcome) : Cycle :=
  let write := s.motionWrite link nowMonotonicNs motionOutcome
  let writeResult := motionOutcome.ioResult nowMonotonicNs
  let link := motionOutcome.link
  let result :=
    { result with
      motionWriteAttempted := true
      transportStatus := writeResult.status
      motionHostWriteComplete := writeResult.hostWriteComplete
      outcomeUncertain := writeResult.outcomeUncertain }
  if writeResult.completes commandFrameSize then
    let completion :=
      if writeResult.completionMonotonicNs > 0 then writeResult.completionMonotonicNs
      else nowMonotonicNs
    let s := s.noteMotionComplete completion
    { session := s
      link := link
      result := { result with action := .motionHostWriteComplete, state := s.state }
      writes := [write] }
  else
    let s := s.revokeAuthorization.clearMotionIntent
    if writeResult.status = .disconnected || !link.connected then
      let s := s.handleDisconnect
      { session := s
        link := link
        result :=
          { result with
            action := .disconnected
            state := s.state
            transportStatus := .disconnected
            outcomeUncertain := true }
        writes := [write] }
    else
      let zeroStartNs := max nowMonotonicNs writeResult.completionMonotonicNs
      let cycle :=
        (s.beginZeroEpisode link .connectedInhibited zeroStartNs).attemptZero link zeroStartNs
          result zeroOutcome
      { cycle with writes := write :: cycle.writes }

/-- `tick`, given the answers of the motion write and of the zero write that it may make. -/
def tick (s : SafetySession) (link : Link) (nowMonotonicNs : Int)
    (motionOutcome zeroOutcome : WriteOutcome) : Cycle :=
  let result : CycleResult := { state := s.state }
  if !s.configurationValid then
    { session := s
      link := link
      result :=
        { result with
          action := .configurationInvalid
          state := .configurationInvalid
          transportStatus := .invalidArgument } }
  else
    match s.enter link nowMonotonicNs with
    | .clockInvalid s =>
      { session := s
        link := link
        result :=
          { result with
            action := .clockInvalid
            state := s.state
            transportStatus := .invalidArgument
            outcomeUncertain := true } }
    | .disconnected s =>
      { session := s
        link := link
        result :=
          { result with
            action := .disconnected
            state := s.state
            transportStatus := .disconnected
            outcomeUncertain := true } }
    | .ready s _ =>
      if s.zeroEpisodeActive then s.attemptZero link nowMonotonicNs result zeroOutcome
      else if s.state = .faulted then
        { session := s, link := link, result := { result with state := s.state } }
      else if s.emergencyStopLatched then
        let s := s.enterState .emergencyStopLatched
        { session := s, link := link, result := { result with state := s.state } }
      else if s.state ≠ .active then
        { session := s, link := link, result := { result with state := s.state } }
      else if !s.authorized then
        (s.clearMotionIntent.beginZeroEpisode link .connectedInhibited nowMonotonicNs).attemptZero
          link nowMonotonicNs result zeroOutcome
      else if !s.feedbackIsFresh nowMonotonicNs || !s.commandIsFresh nowMonotonicNs then
        (s.clearMotionIntent.beginZeroEpisode link .recovering nowMonotonicNs).attemptZero
          link nowMonotonicNs result zeroOutcome
      else if s.lastMotionHostWriteCompletionNs > 0 &&
          nowMonotonicNs - s.lastMotionHostWriteCompletionNs < s.config.transmitPeriodNs then
        { session := s
          link := link
          result := { result with action := .transmitRateLimited, state := s.state } }
      else s.writeMotion link nowMonotonicNs result motionOutcome zeroOutcome

end SafetySession

end WheeltecVcuSerial
