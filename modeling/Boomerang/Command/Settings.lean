import Boomerang.Command.Line
import Boomerang.Config.File
import Boomerang.Topology.CpuList

/-!
The settings in effect. An option overrides the file, and the file overrides the defaults; devices
are replaced all together, and switches can only be turned on. Only the outcome has to be valid.
-/

set_option autoImplicit false

namespace Boomerang

inductive SettingsError where
  | file (path : String) (error : ConfigError)
  | cpus (error : CpuError)
  | config (error : ConfigError)
  deriving DecidableEq, Repr

/-- The cause behind what came up. A file that cannot be used is reported with the reason by itself
once more at the end. -/
def SettingsError.message : SettingsError → String
  | .file path error =>
    "failed to load config " ++ path ++ ": " ++ error.message ++
      match error with
      | .unreadable _ failure => ": " ++ failure.message
      | .malformed _ reason => ": " ++ reason
      | _ => ""
  | .cpus error => "invalid --cpus: " ++ error.message
  | .config error => error.message

abbrev Files := String → Except ReadFailure Octets

namespace Command.Flags

def base (read : Config.Reader) (f : Flags) (files : Files) : Except SettingsError Config :=
  match f.file with
  | none => .ok Config.default
  | some path =>
    match Config.ofFile read path (files path) with
    | .ok config => .ok config
    | .error e => .error (.file path e)

def chosenCpus (f : Flags) (base : Config) : Except SettingsError (Option (List Nat)) :=
  match f.cpus with
  | none => .ok base.cpus
  | some text =>
    match CpuList.ofText text with
    | .ok cpus => .ok (some cpus)
    | .error e => .error (.cpus e)

def chosenMac (f : Flags) (base : Config) : Except SettingsError Mac :=
  match f.mac with
  | none => .ok base.mac
  | some text =>
    match Mac.read text with
    | .ok mac => .ok mac
    | .error e => .error (.config e)

/-- The file's settings under the options. -/
def merge (f : Flags) (base : Config) : Except SettingsError Config := do
  let cpus ← f.chosenCpus base
  let mac ← f.chosenMac base
  return {
    burstSize := f.burstSize.getD base.burstSize
    mac
    dryRun := base.dryRun || f.dryRun
    tracePackets := base.tracePackets || f.tracePackets
    vxlanPort := f.vxlanPort.getD base.vxlanPort
    outboxSize := f.outboxSize.getD base.outboxSize
    statsInterval := f.statsInterval.getD base.statsInterval
    poolBuffers := f.poolBuffers.getD base.poolBuffers
    devices := if f.devices.isEmpty then base.devices else f.devices
    cpus }

def settings (read : Config.Reader) (f : Flags) (files : Files) : Except SettingsError Config := do
  let config ← f.merge (← base read f files)
  match config.validate with
  | .ok () => return config
  | .error e => throw (.config e)

end Command.Flags

end Boomerang
