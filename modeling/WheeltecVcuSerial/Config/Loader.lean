import WheeltecVcuSerial.Config.Numbers
import WheeltecVcuSerial.Config.RuntimeConfig
import WheeltecVcuSerial.Text.Strings
import Mathlib.Data.Char
import Mathlib.Data.List.Lex
import Mathlib.Data.List.Sort

namespace WheeltecVcuSerial

open Text

def whitespace : List Char := [' ', '\t', '\r', '\n']

/-- The function `trim`; there is a last such character if there is a first one. -/
def trim (input : List Char) : List Char :=
  match findFirstNotOf whitespace input, findLastNotOf whitespace input with
  | some first, some last => substr input first (last - first + 1)
  | _, _ => []

/-- What a stream delivers of a file, up to the end of it or up to a failure of the stream. -/
structure File where
  bytes : List Char
  complete : Bool

/-- The lines that `std::getline` delivers.  There is none after the last newline, and a failure
loses the line that it falls into. -/
def File.lines (file : File) : List (List Char) :=
  let pieces := file.bytes.splitOn '\n'
  if file.complete && pieces.getLast? ≠ some [] then pieces else pieces.dropLast

def knownKeys : List (List Char) :=
  ["serial.device".toList,
    "serial.reconnect_interval_ms".toList,
    "limits.max_linear_speed_mps".toList,
    "limits.max_abs_yaw_rate_radps".toList,
    "watchdog.command_timeout_ms".toList,
    "watchdog.feedback_timeout_ms".toList,
    "watchdog.transmit_period_ms".toList,
    "watchdog.fresh_commands_required".toList,
    "watchdog.write_timeout_ms".toList,
    "watchdog.zero_retry_interval_ms".toList,
    "watchdog.zero_retry_attempts".toList,
    "teleop.min_selected_speed_mps".toList,
    "teleop.initial_selected_speed_mps".toList,
    "teleop.max_selected_speed_mps".toList,
    "teleop.speed_step_mps".toList,
    "teleop.curvature_inv_m".toList,
    "teleop.release_timeout_ms".toList,
    "teleop.command_rate_hz".toList]

def knownSections : List (List Char) :=
  ["serial".toList, "limits".toList, "watchdog".toList, "teleop".toList]

/-- The variables of the loop. -/
structure Loading where
  values : Values := ∅
  seenSections : Finset (List Char) := ∅
  sectionName : List Char := []
  lineNumber : ℕ := 0

def readHeader (state : Loading) (name : List Char) : Except ConfigFailure Loading :=
  if name = [] then
    .error ⟨.syntaxError, "empty section at line " ++ toString state.lineNumber⟩
  else if name ∉ knownSections then
    .error ⟨.unknownKey, "unknown configuration section: " ++ String.ofList name⟩
  else if name ∈ state.seenSections then
    .error ⟨.duplicateKey, "duplicate configuration section: " ++ String.ofList name⟩
  else
    .ok { state with sectionName := name, seenSections := insert name state.seenSections }

def readEntry (state : Loading) (key value : List Char) : Except ConfigFailure Loading :=
  if key ∉ knownKeys then
    .error ⟨.unknownKey, "unknown configuration key: " ++ String.ofList key⟩
  else if key ∈ state.values then
    .error ⟨.duplicateKey, "duplicate configuration key: " ++ String.ofList key⟩
  else .ok { state with values := state.values.insert key value }

/-- One round of the loop. -/
def readLine (state : Loading) (line : List Char) : Except ConfigFailure Loading :=
  let state := { state with lineNumber := state.lineNumber + 1 }
  let cleaned := trim line
  if cleaned = [] || cleaned.head? = some '#' || cleaned.head? = some ';' then .ok state
  else if cleaned.head? = some '[' && cleaned.getLast? = some ']' then
    readHeader state (trim (substr cleaned 1 (cleaned.length - 2)))
  else
    match find '=' 0 cleaned with
    | none =>
      .error ⟨.syntaxError, "expected sectioned key=value at line " ++ toString state.lineNumber⟩
    | some equals =>
      if state.sectionName = [] then
        .error ⟨.syntaxError, "expected sectioned key=value at line " ++ toString state.lineNumber⟩
      else
        readEntry state (state.sectionName ++ '.' :: trim (substr cleaned 0 equals))
          (trim (cleaned.drop (equals + 1)))

/-- The order in which a `std::set` goes through the keys. -/
def orderedKeys : List (List Char) := knownKeys.insertionSort (· ≤ ·)

/-- The loop over the missing keys. -/
def requireKeys (values : Values) : Except ConfigFailure Unit :=
  (orderedKeys.find? (· ∉ values)).elim (.ok ()) fun key =>
    .error ⟨.missingKey, "missing required configuration key: " ++ String.ofList key⟩

/-- The first phase: the text of each key. -/
def collectValues (path : String) (file : File) : Except ConfigFailure Values := do
  let state ← file.lines.foldlM readLine {}
  if file.complete then
    requireKeys state.values
    return state.values
  else .error ⟨.fileOpen, "failed while reading configuration: " ++ path⟩

/-- The second phase: the numbers. -/
def parseValues (strtod : List Char → Strtod) (values : Values) : Option RuntimeConfig := do
  let text (key : String) : List Char := (values.lookup key.toList).getD []
  let maxLinearSpeedMps ← parseDoubleStrict strtod (text "limits.max_linear_speed_mps")
  let maxAbsYawRateRadps ← parseDoubleStrict strtod (text "limits.max_abs_yaw_rate_radps")
  let reconnectIntervalMs ← parseInt64Strict (text "serial.reconnect_interval_ms")
  let commandTimeoutMs ← parseInt64Strict (text "watchdog.command_timeout_ms")
  let feedbackTimeoutMs ← parseInt64Strict (text "watchdog.feedback_timeout_ms")
  let transmitPeriodMs ← parseInt64Strict (text "watchdog.transmit_period_ms")
  let freshCommandsRequired ← assignUint32 values "watchdog.fresh_commands_required".toList
  let writeTimeoutMs ← parseInt64Strict (text "watchdog.write_timeout_ms")
  let zeroRetryIntervalMs ← parseInt64Strict (text "watchdog.zero_retry_interval_ms")
  let zeroRetryAttempts ← assignUint32 values "watchdog.zero_retry_attempts".toList
  let minSelectedSpeedMps ← parseDoubleStrict strtod (text "teleop.min_selected_speed_mps")
  let initialSelectedSpeedMps ← parseDoubleStrict strtod (text "teleop.initial_selected_speed_mps")
  let maxSelectedSpeedMps ← parseDoubleStrict strtod (text "teleop.max_selected_speed_mps")
  let speedStepMps ← parseDoubleStrict strtod (text "teleop.speed_step_mps")
  let curvatureInvM ← parseDoubleStrict strtod (text "teleop.curvature_inv_m")
  let releaseTimeoutMs ← parseInt64Strict (text "teleop.release_timeout_ms")
  let commandRateHz ← parseDoubleStrict strtod (text "teleop.command_rate_hz")
  some {
    devicePath := text "serial.device"
    maxLinearSpeedMps
    maxAbsYawRateRadps
    reconnectIntervalMs
    commandTimeoutMs
    feedbackTimeoutMs
    transmitPeriodMs
    freshCommandsRequired
    writeTimeoutMs
    zeroRetryIntervalMs
    zeroRetryAttempts
    minSelectedSpeedMps
    initialSelectedSpeedMps
    maxSelectedSpeedMps
    speedStepMps
    curvatureInvM
    releaseTimeoutMs
    commandRateHz }

/-- The function `loadRuntimeConfig`; there is no file if none can be opened at the path. -/
def loadRuntimeConfig (strtod : List Char → Strtod) (path : String) (file : Option File)
    (requireDevicePath : Bool) : Except ConfigFailure RuntimeConfig := do
  match file with
  | none => .error ⟨.fileOpen, "cannot open configuration: " ++ path⟩
  | some file =>
    let values ← collectValues path file
    match parseValues strtod values with
    | none => .error ⟨.invalidValue, "one or more numeric configuration values are malformed"⟩
    | some config => validateRuntimeConfig config requireDevicePath

end WheeltecVcuSerial
