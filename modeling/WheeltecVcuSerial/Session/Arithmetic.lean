import WheeltecVcuSerial.Arithmetic.Checked
import WheeltecVcuSerial.Session.Machine

/-! The operations of the session once more, with checked arithmetic: a call has no result if a sum
or a difference leaves `int64_t`, an elapsed time is negative or a counter wraps. -/

namespace WheeltecVcuSerial.Checked

open Arithmetic

def saturatingAdd (value positiveDelta : Int) : Option Int :=
  if positiveDelta ≤ 0 then some value
  else do
    let room ← sub 64 int64Max positiveDelta
    if value > room then some int64Max else add 64 value positiveDelta

section
variable (s : SafetySession) (link : Link)

def feedbackIsFresh (nowMonotonicNs : Int) : Option Bool :=
  both (s.feedbackAllowedSeen && s.latestAllowedFeedbackReceiptNs > 0 &&
      s.latestAllowedFeedbackReceiptNs ≤ nowMonotonicNs) do
    let age ← elapsed 64 nowMonotonicNs s.latestAllowedFeedbackReceiptNs
    return age ≤ s.config.feedbackTimeoutNs

def commandIsFresh (nowMonotonicNs : Int) : Option Bool :=
  both (s.latestCommandValid && s.latestCommandReceiptNs > 0 &&
      s.latestCommand.createdMonotonicNs ≤ nowMonotonicNs &&
      s.latestCommandReceiptNs ≤ nowMonotonicNs &&
      nowMonotonicNs ≤ s.latestCommand.deadlineMonotonicNs) do
    let age ← elapsed 64 nowMonotonicNs s.latestCommand.createdMonotonicNs
    both (age ≤ s.config.maxCommandAgeNs) do
      let receiptAge ← elapsed 64 nowMonotonicNs s.latestCommandReceiptNs
      return receiptAge ≤ s.config.maxCommandAgeNs

def boundedWriteDeadline (nowMonotonicNs commandDeadlineNs : Int) : Option Int := do
  let deadline ← saturatingAdd nowMonotonicNs s.config.writeTimeoutNs
  return min deadline commandDeadlineNs

def authorize (authorizationToken : Nat) (authorizationMonotonicNs : Int) :
    Option (SafetySession × AuthorizationStatus) :=
  if !s.configurationValid then some (s, .configurationInvalid)
  else
    match s.enter link authorizationMonotonicNs with
    | .clockInvalid s => some (s, .timestampInvalid)
    | .disconnected s => some (s, .disconnected)
    | .ready s connection =>
      if s.emergencyStopLatched then some (s, .emergencyStopLatched)
      else if s.state = .faulted then some (s, .faulted)
      else if s.zeroEpisodeActive || connection = .newGeneration then some (s, .initialZeroPending)
      else if authorizationToken = 0 || authorizationToken ≤ s.highestAuthorizationToken then
        some (s, .tokenInvalid)
      else do
        let fresh ← feedbackIsFresh s authorizationMonotonicNs
        if !fresh then some (s, .feedbackUnavailable)
        else some (s.grantAuthorization authorizationToken authorizationMonotonicNs, .authorized)

def previousIsStale (receiptMonotonicNs : Int) : Option Bool :=
  either (receiptMonotonicNs > s.latestCommand.deadlineMonotonicNs) do
    let age ← elapsed 64 receiptMonotonicNs s.latestCommandReceiptNs
    return age > s.config.maxCommandAgeNs

/-- The count of the fresh run after one more command. -/
def nextCount : Option Nat :=
  if s.consecutiveFreshCommands < s.config.freshCommandsRequired then
    increment 32 s.consecutiveFreshCommands
  else some s.consecutiveFreshCommands

def holdCommand (command : TimedMotionCommand) (frame : CommandFrame) (receiptMonotonicNs : Int) :
    Option SafetySession := do
  let count ← nextCount s
  return { s with
    latestCommand := command
    latestFrame := frame
    latestCommandValid := true
    latestCommandReceiptNs := receiptMonotonicNs
    consecutiveFreshCommands := count }

def acceptCommand (command : TimedMotionCommand) (frame : CommandFrame)
    (receiptMonotonicNs : Int) : Option (SafetySession × SubmissionStatus) := do
  let s ← holdCommand s command frame receiptMonotonicNs
  if s.consecutiveFreshCommands ≥ s.config.freshCommandsRequired then
    some (s.enterState .active, .accepted)
  else some (s.enterState .recovering, .recoveryPending)

def submitSequenced (connection : ConnectionSync) (command : TimedMotionCommand)
    (receiptMonotonicNs : Int) : Option (SafetySession × SubmissionStatus) :=
  let s := s.consumeSequence command.sequenceId
  if command.createdMonotonicNs ≤ 0 || command.createdMonotonicNs > receiptMonotonicNs ||
      command.deadlineMonotonicNs ≤ command.createdMonotonicNs then
    some (s.rejectRevoking link receiptMonotonicNs .timestampInvalid)
  else do
    let stale ← either (receiptMonotonicNs > command.deadlineMonotonicNs) do
      let age ← elapsed 64 receiptMonotonicNs command.createdMonotonicNs
      return age > s.config.maxCommandAgeNs
    if stale then
      some (s.rejectStopping link receiptMonotonicNs
        (if s.clearMotionIntent.authorized then .recovering else .connectedInhibited) .stale)
    else if !s.authorized || s.zeroEpisodeActive || connection = .newGeneration then
      some (s.clearMotionIntent, .notAuthorized)
    else if command.createdMonotonicNs ≤ s.authorizationMonotonicNs then
      some (s.rejectStopping link receiptMonotonicNs .recovering .predatesAuthorization)
    else if !command.motion.yawRateRadps.isFinite ||
        s.config.maxAbsYawRateRadps.lt command.motion.yawRateRadps.abs ||
        !command.motion.lateralSpeedMps.eq (.finite 0) then
      some (s.rejectRevoking link receiptMonotonicNs .encodingRejected)
    else
      let encoded := encodeCommand command.motion s.config.maxLinearSpeedMps
      if !encoded.ok then some (s.rejectRevoking link receiptMonotonicNs .encodingRejected)
      else if commandIsExactZero command.motion then
        some (s.rejectStopping link receiptMonotonicNs .recovering .stopAccepted)
      else do
        let fresh ← feedbackIsFresh s receiptMonotonicNs
        if !fresh then
          some (s.rejectStopping link receiptMonotonicNs .recovering .feedbackUnavailable)
        else do
          let previousStale ← both s.latestCommandValid (previousIsStale s receiptMonotonicNs)
          if previousStale then
            acceptCommand s.clearMotionIntent command encoded.frame receiptMonotonicNs
          else if s.latestCommandValid &&
              command.createdMonotonicNs ≤ s.latestCommand.createdMonotonicNs then
            some (s.rejectRevoking link receiptMonotonicNs .timestampInvalid)
          else acceptCommand s command encoded.frame receiptMonotonicNs

def submit (command : TimedMotionCommand) (receiptMonotonicNs : Int) :
    Option (SafetySession × SubmissionStatus) :=
  if !s.configurationValid then some (s, .configurationInvalid)
  else
    match s.enter link receiptMonotonicNs with
    | .clockInvalid s => some (s, .timestampInvalid)
    | .disconnected s => some (s, .disconnected)
    | .ready s connection =>
      if s.emergencyStopLatched then some (s, .emergencyStopLatched)
      else if s.state = .faulted then some (s, .faulted)
      else if command.sequenceId = 0 || command.sequenceId ≤ s.highestSequence then
        some (s.rejectRevoking link receiptMonotonicNs .sequenceInvalid)
      else submitSequenced s link connection command receiptMonotonicNs

/-- The latch generation after one more emergency stop. -/
def nextLatchGeneration : Option Nat :=
  if s.emergencyStopLatchGeneration ≠ uint64Max then increment 64 s.emergencyStopLatchGeneration
  else some s.emergencyStopLatchGeneration

def assertEmergencyStop : Option SafetySession := do
  let generation ← nextLatchGeneration s
  return { s.revokeAuthorization.clearMotionIntent.forgetFeedback with
    emergencyStopLatched := true
    emergencyStopLatchGeneration := generation }

def latchEmergencyStop (nowMonotonicNs : Int) : Option SafetySession := do
  let s ← assertEmergencyStop s
  if !s.configurationValid then some (s.enterState .configurationInvalid)
  else
    let observed := s.observeMonotonicTime nowMonotonicNs
    match (observed.getD s).synchronizeConnection link with
    | (s, .disconnected) => some s
    | (s, _) =>
      if s.state = .faulted then some s
      else
        some (s.beginZeroEpisode link .emergencyStopLatched
          (if observed.isSome then nowMonotonicNs else s.lastObservedMonotonicNs))

def resetEmergencyStop (resetToken : Nat) (nowMonotonicNs : Int) : Option (SafetySession × Bool) :=
  if !s.configurationValid || !s.emergencyStopLatched then some (s, false)
  else
    match s.enter link nowMonotonicNs with
    | .clockInvalid s => some (s, false)
    | .disconnected s => some (s, false)
    | .ready s connection => do
      let refused ← either (connection ≠ .unchanged || s.zeroEpisodeActive || s.state = .faulted ||
          resetToken = 0 || resetToken ≤ s.highestEstopResetToken) do
        let fresh ← feedbackIsFresh s nowMonotonicNs
        return !fresh
      if refused then some (s, false) else some (s.releaseEmergencyStop resetToken, true)

def concludeZero (nowMonotonicNs : Int) (result : CycleResult) (zeroResult : IoResult) :
    Option (SafetySession × CycleResult) :=
  let result :=
    { result with
      zeroWriteAttempted := true
      zeroAttempts := s.zeroAttempts
      zeroHostWriteComplete := zeroResult.hostWriteComplete
      outcomeUncertain := result.outcomeUncertain || zeroResult.outcomeUncertain
      transportStatus := zeroResult.status }
  let s :=
    if zeroResult.completionMonotonicNs > s.lastObservedMonotonicNs then
      s.observed zeroResult.completionMonotonicNs
    else s
  if zeroResult.status = .disconnected || !link.connected then
    let s := s.handleDisconnect
    some (s, { result with
      action := .disconnected
      state := s.state
      transportStatus := .disconnected
      outcomeUncertain := true })
  else if zeroResult.completes commandFrameSize then
    let s := s.completeZero
    some (s, { result with action := .zeroHostWriteComplete, state := s.state })
  else if s.zeroAttempts ≥ s.config.maximumZeroAttempts then
    let s := s.exhaustZero
    some (s, { result with
      action := .zeroRetriesExhausted
      state := s.state
      outcomeUncertain := true })
  else do
    let retryBase := max nowMonotonicNs zeroResult.completionMonotonicNs
    let next ← saturatingAdd retryBase s.config.zeroRetryIntervalNs
    let s := s.scheduleRetry next
    return (s, { result with action := .zeroHostWriteFailed, state := s.state })

def attemptZero (nowMonotonicNs : Int) (result : CycleResult) (zeroOutcome : WriteOutcome) :
    Option Cycle :=
  let result := { result with state := s.state }
  if !s.zeroEpisodeActive then some { session := s, link := link, result := result }
  else if nowMonotonicNs < s.nextZeroAttemptNs then
    some
      { session := s
        link := link
        result := { result with action := .zeroRetryPending, zeroAttempts := s.zeroAttempts } }
  else do
    let attempts ← increment 32 s.zeroAttempts
    let counted := { s with zeroAttempts := attempts }
    let deadline ← boundedWriteDeadline counted nowMonotonicNs int64Max
    let concluded ← concludeZero counted zeroOutcome.link nowMonotonicNs result
      (zeroOutcome.ioResult nowMonotonicNs)
    some
      { session := concluded.1
        link := zeroOutcome.link
        result := concluded.2
        writes :=
          [{ kind := .zero
             buffer := makeZeroCommandFrame.toList
             deadlineNs := deadline
             startNs := nowMonotonicNs
             generation := link.generation
             outcome := zeroOutcome }] }

def writeMotion (nowMonotonicNs : Int) (result : CycleResult)
    (motionOutcome zeroOutcome : WriteOutcome) : Option Cycle := do
  let deadline ← boundedWriteDeadline s nowMonotonicNs s.latestCommand.deadlineMonotonicNs
  let write : Write :=
    { kind := .motion
      buffer := s.latestFrame.toList
      deadlineNs := deadline
      startNs := nowMonotonicNs
      generation := link.generation
      outcome := motionOutcome }
  let writeResult := motionOutcome.ioResult nowMonotonicNs
  let link := motionOutcome.link
  let result :=
    { result with
      motionWriteAttempted := true
      transportStatus := writeResult.status
      motionHostWriteComplete := writeResult.hostWriteComplete
      outcomeUncertain := writeResult.outcomeUncertain }
  if writeResult.completes commandFrameSize then
    let completion :=
      if writeResult.completionMonotonicNs > 0 then writeResult.completionMonotonicNs
      else nowMonotonicNs
    let s := s.noteMotionComplete completion
    some
      { session := s
        link := link
        result := { result with action := .motionHostWriteComplete, state := s.state }
        writes := [write] }
  else
    let s := s.revokeAuthorization.clearMotionIntent
    if writeResult.status = .disconnected || !link.connected then
      let s := s.handleDisconnect
      some
        { session := s
          link := link
          result :=
            { result with
              action := .disconnected
              state := s.state
              transportStatus := .disconnected
              outcomeUncertain := true }
          writes := [write] }
    else do
      let zeroStartNs := max nowMonotonicNs writeResult.completionMonotonicNs
      let cycle ← attemptZero (s.beginZeroEpisode link .connectedInhibited zeroStartNs) link
        zeroStartNs result zeroOutcome
      return { cycle with writes := write :: cycle.writes }

def tick (nowMonotonicNs : Int) (motionOutcome zeroOutcome : WriteOutcome) : Option Cycle :=
  let result : CycleResult := { state := s.state }
  if !s.configurationValid then
    some
      { session := s
        link := link
        result :=
          { result with
            action := .configurationInvalid
            state := .configurationInvalid
            transportStatus := .invalidArgument } }
  else
    match s.enter link nowMonotonicNs with
    | .clockInvalid s =>
      some
        { session := s
          link := link
          result :=
            { result with
              action := .clockInvalid
              state := s.state
              transportStatus := .invalidArgument
              outcomeUncertain := true } }
    | .disconnected s =>
      some
        { session := s
          link := link
          result :=
            { result with
              action := .disconnected
              state := s.state
              transportStatus := .disconnected
              outcomeUncertain := true } }
    | .ready s _ =>
      if s.zeroEpisodeActive then attemptZero s link nowMonotonicNs result zeroOutcome
      else if s.state = .faulted then
        some { session := s, link := link, result := { result with state := s.state } }
      else if s.emergencyStopLatched then
        let s := s.enterState .emergencyStopLatched
        some { session := s, link := link, result := { result with state := s.state } }
      else if s.state ≠ .active then
        some { session := s, link := link, result := { result with state := s.state } }
      else if !s.authorized then
        attemptZero
          (s.clearMotionIntent.beginZeroEpisode link .connectedInhibited nowMonotonicNs) link
          nowMonotonicNs result zeroOutcome
      else do
        let feedbackFresh ← feedbackIsFresh s nowMonotonicNs
        let stale ← either (!feedbackFresh) do
          let commandFresh ← commandIsFresh s nowMonotonicNs
          return !commandFresh
        if stale then
          attemptZero (s.clearMotionIntent.beginZeroEpisode link .recovering nowMonotonicNs) link
            nowMonotonicNs result zeroOutcome
        else do
          let limited ← both (s.lastMotionHostWriteCompletionNs > 0) do
            let since ← elapsed 64 nowMonotonicNs s.lastMotionHostWriteCompletionNs
            return since < s.config.transmitPeriodNs
          if limited then
            some
              { session := s
                link := link
                result := { result with action := .transmitRateLimited, state := s.state } }
          else writeMotion s link nowMonotonicNs result motionOutcome zeroOutcome

/-- One call; those without arithmetic are taken as they are. -/
def perform : Op → Option Outcome
  | .authorize token now => do
    let r ← authorize s link token now
    return { session := r.1, link := link, response := .authorization r.2 }
  | .submit command now => do
    let r ← submit s link command now
    return { session := r.1, link := link, response := .submission r.2 }
  | .latchEmergencyStop now => do
    let r ← latchEmergencyStop s link now
    return { session := r, link := link, response := .nothing }
  | .resetEmergencyStop token now => do
    let r ← resetEmergencyStop s link token now
    return { session := r.1, link := link, response := .flag r.2 }
  | .tick now motionOutcome zeroOutcome => do
    let cycle ← tick s link now motionOutcome zeroOutcome
    some
      { session := cycle.session
        link := cycle.link
        response := .cycle cycle.result
        writes := cycle.writes }
  | op => some (s.perform link op)

end

end WheeltecVcuSerial.Checked
