import WheeltecVcuSerial.Cli.Pipeline
import WheeltecVcuSerial.Teleop.Keys

namespace WheeltecVcuSerial.Cli

open Teleop Trace Program

variable {config : RuntimeConfig} {h : List (List ProcessCall)} {next : Phase ⊕ Nat}
  {text : List Char}

end WheeltecVcuSerial.Cli
