import WheeltecVcuSerial.Cli.Ends
import WheeltecVcuSerial.Config.FileFormat
import WheeltecVcuSerial.Text.Arguments

namespace WheeltecVcuSerial.Cli

open Decimal Text Trace Program

def actuationConfirmation : String := "I_UNDERSTAND_HOST_WRITE_IS_NOT_A_VCU_ACK"

structure Options where
  configPath : String := ""
  validateOnly : Bool := false
  run : Bool := false
  acknowledgeUnverifiedProtocol : Bool := false
  enableActuation : Bool := false
  operatorConfirmation : String := ""
  deriving DecidableEq

/-- One round of the loop of `parseOptions`. -/
def readOption (options : Options) (argument : String) : Text.Argument Options String :=
  if argument = "--help" || argument = "-h" then .help
  else if argument = "--validate-config" then .flag { options with validateOnly := true }
  else if argument = "--run" then .flag { options with run := true }
  else if argument = "--acknowledge-unverified-protocol" then
    .flag { options with acknowledgeUnverifiedProtocol := true }
  else if argument = "--enable-actuation" then .flag { options with enableActuation := true }
  else if argument = "--config" then
    .setting fun value => some { options with configPath := value }
  else if argument = "--operator-confirmation" then
    .setting fun value => some { options with operatorConfirmation := value }
  else .unknown

/-- What `parseOptions` checks once it has read all words. -/
def Options.admitted (options : Options) : Bool :=
  if options.configPath = "" || options.validateOnly = options.run then false
  else if options.validateOnly then
    !options.acknowledgeUnverifiedProtocol && !options.enableActuation &&
      options.operatorConfirmation = ""
  else
    options.acknowledgeUnverifiedProtocol && options.enableActuation &&
      options.operatorConfirmation = actuationConfirmation

/-- The function `parseOptions`; asked for help it ends the process. -/
def parseOptions (arguments : List String) : Text.Parsed Options :=
  match Text.parse readOption {} arguments with
  | .accepted options => if options.admitted then .accepted options else .refused
  | parsed => parsed

/-- What `main` comes to: an exit code of its own, or `run`. -/
inductive Launch
  | exits (code : Nat)
  | runs (config : RuntimeConfig)

/-- The function `main`, where `file` is what the system has at a path. -/
def main (strtod : List Char → Strtod) (file : String → Option File) (arguments : List String) :
    Launch :=
  match parseOptions arguments with
  | .help => .exits 0
  | .refused => .exits 2
  | .accepted options =>
    match loadRuntimeConfig strtod options.configPath (file options.configPath) options.run with
    | .error _ => .exits 3
    | .ok config => if options.validateOnly then .exits 0 else .runs config

/-- The runs of a process from its `main` on. -/
inductive Launched (strtod : List Char → Strtod) (file : String → Option File)
    (arguments : List String) : List (List ProcessCall) → Phase ⊕ Nat → Prop
  | exits : main strtod file arguments = .exits code →
      Launched strtod file arguments [] (.inr code)
  | runs : main strtod file arguments = .runs config → (process config).Run h next →
      Launched strtod file arguments h next

/-! ### What the words have to be -/

variable {strtod : List Char → Strtod} {file : String → Option File} {arguments : List String}
  {options before after : Options} {brought : List String} {config : RuntimeConfig}

/-- The words of each option, and the field that they set. -/
inductive Sets (options : Options) : List String → Options → Prop
  | validateConfig : Sets options ["--validate-config"] { options with validateOnly := true }
  | run : Sets options ["--run"] { options with run := true }
  | acknowledge : Sets options ["--acknowledge-unverified-protocol"]
      { options with acknowledgeUnverifiedProtocol := true }
  | enable : Sets options ["--enable-actuation"] { options with enableActuation := true }
  | config : Sets options ["--config", value] { options with configPath := value }
  | confirmation : Sets options ["--operator-confirmation", value]
      { options with operatorConfirmation := value }

theorem sets_of_brings (h : Text.Brings readOption before brought after) :
    Sets before brought after := by
  cases h with
  | flag hflag =>
    unfold readOption at hflag
    split_ifs at hflag with hhelp hvalidate hrun hacknowledge henable hconfig hconfirmation
    · cases hflag
      exact hvalidate ▸ .validateConfig
    · cases hflag
      exact hrun ▸ .run
    · cases hflag
      exact hacknowledge ▸ .acknowledge
    · cases hflag
      exact henable ▸ .enable
  | setting hsetting htake =>
    unfold readOption at hsetting
    split_ifs at hsetting with hhelp hvalidate hrun hacknowledge henable hconfig hconfirmation
    · cases hsetting
      cases htake
      exact hconfig ▸ .config
    · cases hsetting
      cases htake
      exact hconfirmation ▸ .confirmation

/-- What the operator has to say for a process to run. -/
structure Confirmed (arguments : List String) (path : String) : Prop where
  config : ["--config", path] <:+: arguments
  run : ["--run"] <:+: arguments
  acknowledged : ["--acknowledge-unverified-protocol"] <:+: arguments
  enabled : ["--enable-actuation"] <:+: arguments
  confirmation : ["--operator-confirmation", actuationConfirmation] <:+: arguments

/-- No field has a value that it may run with unless the words give it. -/
theorem confirmed_of_reads (h : Text.Reads readOption {} arguments options)
    (hadmitted : options.admitted = true) (hruns : options.validateOnly = false) :
    Confirmed arguments options.configPath ∧ options.run = true := by
  unfold Options.admitted at hadmitted
  split_ifs at hadmitted with hrefused hvalidates
  · exact absurd hvalidates (by simp [hruns])
  rw [hruns] at hrefused
  simp only [Bool.or_eq_true, Bool.and_eq_true, decide_eq_true_eq, not_or] at hrefused hadmitted
  obtain ⟨hpath, hrun⟩ := hrefused
  obtain ⟨⟨hacknowledged, henabled⟩, hconfirmation⟩ := hadmitted
  have hrun : options.run = true := by simpa using Ne.symm hrun
  refine ⟨⟨?_, ?_, ?_, ?_, ?_⟩, hrun⟩
  · refine h.brought (P := fun o => o.configPath = options.configPath) (Ne.symm hpath) rfl ?_
    intro _ _ _ hbrings hbefore hafter
    cases sets_of_brings hbrings <;> simp_all
  · refine h.brought (P := fun o => o.run = true) (by simp) hrun ?_
    intro _ _ _ hbrings hbefore hafter
    cases sets_of_brings hbrings <;> simp_all
  · refine h.brought (P := fun o => o.acknowledgeUnverifiedProtocol = true) (by simp)
      hacknowledged ?_
    intro _ _ _ hbrings hbefore hafter
    cases sets_of_brings hbrings <;> simp_all
  · refine h.brought (P := fun o => o.enableActuation = true) (by simp) henabled ?_
    intro _ _ _ hbrings hbefore hafter
    cases sets_of_brings hbrings <;> simp_all
  · refine h.brought (P := fun o => o.operatorConfirmation = actuationConfirmation) (by decide)
      hconfirmation ?_
    intro _ _ _ hbrings hbefore hafter
    cases sets_of_brings hbrings <;> simp_all

theorem reads_of_parseOptions (h : parseOptions arguments = .accepted options) :
    Text.Reads readOption {} arguments options ∧ options.admitted = true := by
  unfold parseOptions at h
  split at h
  · case h_1 read hparse =>
    split_ifs at h with hadmitted
    cases h
    exact ⟨parse_eq_accepted_iff.mp hparse, hadmitted⟩
  · case h_2 hnone => exact absurd h (hnone options)

/-- What the file at the path that the words name has to say. -/
structure Configured (strtod : List Char → Strtod) (file : String → Option File) (path : String)
    (config : RuntimeConfig) : Prop where
  loads : loadRuntimeConfig strtod path (file path) true = .ok config
  validates : validateRuntimeConfig config true = .ok config

theorem validates_of_load {path : String} {loaded : Option File} {requireDevicePath : Bool}
    (h : loadRuntimeConfig strtod path loaded requireDevicePath = .ok config) :
    validateRuntimeConfig config requireDevicePath = .ok config := by
  unfold loadRuntimeConfig at h
  split at h
  · cases h
  · obtain ⟨values, -, h⟩ := bind_eq_ok.mp h
    split at h
    · cases h
    · obtain rfl := RuntimeConfig.eq_of_validate h
      exact h

/-- A process runs only if it is told to, with a configuration that is fit for it. -/
theorem confirmed_of_main (h : main strtod file arguments = .runs config) :
    ∃ path, Confirmed arguments path ∧ Configured strtod file path config := by
  unfold main at h
  split at h
  · cases h
  · cases h
  · case h_3 options hparse =>
    split at h
    · cases h
    · case h_2 loaded hload =>
      split_ifs at h with hvalidates
      cases h
      obtain ⟨hreads, hadmitted⟩ := reads_of_parseOptions hparse
      obtain ⟨hconfirmed, hrun⟩ :=
        confirmed_of_reads hreads hadmitted (Bool.eq_false_iff.mpr hvalidates)
      rw [hrun] at hload
      exact ⟨options.configPath, hconfirmed, hload, validates_of_load hload⟩

/-- A configuration that the loader lets through suits the session of the process. -/
theorem constructs_of_validate (h : validateRuntimeConfig config true = .ok config) (link : Link) :
    (SafetySession.construct (makeSafetyConfig config) (some link)).configurationValid = true := by
  obtain ⟨_, _, _, _, _, hbounded⟩ := RuntimeConfig.bounded_of_validate h
  have htimed := RuntimeConfig.timed_of_validate h
  exact RuntimeConfig.construct_configurationValid
    (RuntimeConfig.safetyConfigIsValid_makeSafetyConfig htimed hbounded) link

theorem exitCode_ne_five : ∀ success shutdown failed, exitCode success shutdown failed ≠ 5 := by
  decide

theorem Over.not_invalid (h : Over config (makeSafetyConfig config) code made)
    (hvalidates : validateRuntimeConfig config true = .ok config) : code ≠ 5 := by
  cases h with
  | refused hrefused =>
    intro hcode
    obtain ⟨link, hinvalid⟩ := hrefused.invalid hcode
    rw [constructs_of_validate hvalidates] at hinvalid
    cases hinvalid
  | finished _ _ _ _ _ hfinished =>
    cases hfinished
    exact exitCode_ne_five _ _ _

/-- Nothing is called for in a process that the operator has not confirmed or whose configuration
has not been validated, and no process learns in its middle that its limits are bad. -/
theorem launch_gate {h : List (List ProcessCall)} {next : Phase ⊕ Nat}
    (run : Launched strtod file arguments h next) :
    next ≠ .inr 5 ∧
      (called h ≠ [] → ∃ path config, Confirmed arguments path ∧
        Configured strtod file path config ∧ (process config).Run h next) := by
  cases run with
  | exits hexits =>
    refine ⟨?_, fun hcalled => absurd rfl hcalled⟩
    unfold main at hexits
    split at hexits
    · cases hexits
      simp
    · cases hexits
      simp
    · split at hexits
      · cases hexits
        simp
      · split_ifs at hexits
        cases hexits
        simp
  | @runs config _ _ hruns run =>
    obtain ⟨path, hconfirmed, hconfigured⟩ := confirmed_of_main hruns
    refine ⟨?_, fun _ => ⟨path, config, hconfirmed, hconfigured, run⟩⟩
    rintro rfl
    exact (conducted run).not_invalid hconfigured.validates rfl

/-! The start of the sample process: its words, and the file that they name. -/

def driveArguments : List String :=
  ["--config", "/etc/vcu.ini", "--run", "--acknowledge-unverified-protocol", "--enable-actuation",
    "--operator-confirmation", actuationConfirmation]

def driveFile : List (List Char) :=
  ["[serial]".toList,
    "device = /dev/x".toList,
    "reconnect_interval_ms = 1000".toList,
    "[limits]".toList,
    "max_linear_speed_mps = 0.5".toList,
    "max_abs_yaw_rate_radps = 1.00".toList,
    "[watchdog]".toList,
    "command_timeout_ms = 250".toList,
    "feedback_timeout_ms = 200".toList,
    "transmit_period_ms = 20".toList,
    "fresh_commands_required = 3".toList,
    "write_timeout_ms = 10".toList,
    "zero_retry_interval_ms = 20".toList,
    "zero_retry_attempts = 3".toList,
    "[teleop]".toList,
    "min_selected_speed_mps = 0.0625".toList,
    "initial_selected_speed_mps = 0.125".toList,
    "max_selected_speed_mps = 0.25".toList,
    "speed_step_mps = 0.0625".toList,
    "curvature_inv_m = 0.75".toList,
    "release_timeout_ms = 180".toList,
    "command_rate_hz = 20".toList]

def driveFiles (path : String) : Option File :=
  if path = "/etc/vcu.ini" then some ⟨driveFile.flatMap (· ++ ['\n']), true⟩ else none

/-- The function `strtod` on decimals that a `double` holds exactly. -/
def exactStrtod (text : List Char) : Strtod :=
  match readDecimal (skipSpace text) with
  | none => { parsed := .finite 0, stop := 0, erange := false }
  | some (value, rest) =>
    { parsed := .finite value, stop := text.length - rest.length, erange := false }

theorem drive_loads :
    loadRuntimeConfig exactStrtod "/etc/vcu.ini" (driveFiles "/etc/vcu.ini") true =
      .ok driveConfig := by
  have hread : (∀ line ∈ driveFile, '\n' ∉ line) ∧
      ∃ state ∈ (driveFile.foldlM readLine {}).toOption,
        (∀ key ∈ knownKeys, key ∈ state.values) ∧
          parseValues exactStrtod state.values = some driveConfig := by
    decide +kernel
  obtain ⟨hnewline, state, hstate, hkeys, hparsed⟩ := hread
  have hvalid : validateRuntimeConfig driveConfig true = .ok driveConfig := by decide +kernel
  have hloop : driveFile.foldlM readLine {} = .ok state := by
    cases heq : driveFile.foldlM readLine {} with
    | error failure =>
      rw [heq] at hstate
      cases hstate
    | ok state' =>
      rw [heq] at hstate
      cases hstate
      rfl
  have hcollected : collectValues "/etc/vcu.ini" ⟨driveFile.flatMap (· ++ ['\n']), true⟩ =
      .ok state.values :=
    collectValues_eq_ok_iff.mpr ⟨state, by rw [lines_flatMap hnewline, hloop], hkeys, rfl⟩
  rw [driveFiles, if_pos rfl, loadRuntimeConfig]
  simp only [hcollected, bind, Except.bind, hparsed, hvalid]

theorem drive_launched : ∃ path config,
    Confirmed driveArguments path ∧ Configured exactStrtod driveFiles path config ∧
      (process config).Run drive.reverse (.inr 0) := by
  have hparse : parseOptions driveArguments = .accepted
      { configPath := "/etc/vcu.ini"
        run := true
        acknowledgeUnverifiedProtocol := true
        enableActuation := true
        operatorConfirmation := actuationConfirmation } := by decide +kernel
  have hmain : main exactStrtod driveFiles driveArguments = .runs driveConfig := by
    simp [main, hparse, drive_loads]
  have hcalled : called drive.reverse ≠ [] := by decide +kernel
  exact (launch_gate (.runs hmain drive_run)).2 hcalled

end WheeltecVcuSerial.Cli
