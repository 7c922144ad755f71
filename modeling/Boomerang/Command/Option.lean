import Boomerang.Config.Basic
import Boomerang.Text.Number

/-!
The options of the command line: their names, and what the values given to them mean. An option that
takes a value may be given once, except that each device is an option of its own.
-/

set_option autoImplicit false

namespace Boomerang.Command

inductive Setting where
  | config
  | device
  | cpus
  | burstSize
  | mac
  | vxlanPort
  | outboxSize
  | statsInterval
  | poolBuffers
  deriving DecidableEq, Repr

inductive Switch where
  | dryRun
  | tracePackets
  deriving DecidableEq, Repr

inductive Notice where
  | help
  | version
  deriving DecidableEq, Repr

inductive Choice where
  | setting (setting : Setting)
  | switch (switch : Switch)
  | notice (notice : Notice)
  deriving DecidableEq, Repr

def longNames : List (String × Choice) :=
  [("config", .setting .config), ("device", .setting .device), ("cpus", .setting .cpus),
    ("burst-size", .setting .burstSize), ("responder-mac", .setting .mac),
    ("dry-run", .switch .dryRun), ("trace-packets", .switch .tracePackets),
    ("vxlan-port", .setting .vxlanPort), ("tx-buffer-size", .setting .outboxSize),
    ("stats-interval", .setting .statsInterval), ("pool-buffers", .setting .poolBuffers),
    ("help", .notice .help), ("version", .notice .version)]

def shortNames : List (Char × Choice) :=
  [('c', .setting .config), ('d', .setting .device), ('h', .notice .help), ('V', .notice .version)]

/-- The options of a command line with their values; text that other rules judge stays text. -/
structure Flags where
  file : Option String
  devices : List DeviceSpec
  cpus : Option String
  burstSize : Option Nat
  mac : Option String
  dryRun : Bool
  tracePackets : Bool
  vxlanPort : Option UInt16
  outboxSize : Option Nat
  statsInterval : Option Nat
  poolBuffers : Option Nat
  deriving DecidableEq, Repr

namespace Flags

def empty : Flags where
  file := none
  devices := []
  cpus := none
  burstSize := none
  mac := none
  dryRun := false
  tracePackets := false
  vxlanPort := none
  outboxSize := none
  statsInterval := none
  poolBuffers := none

def isSet (f : Flags) : Setting → Bool
  | .config => f.file.isSome
  | .device => false
  | .cpus => f.cpus.isSome
  | .burstSize => f.burstSize.isSome
  | .mac => f.mac.isSome
  | .vxlanPort => f.vxlanPort.isSome
  | .outboxSize => f.outboxSize.isSome
  | .statsInterval => f.statsInterval.isSome
  | .poolBuffers => f.poolBuffers.isSome

def isOn (f : Flags) : Switch → Bool
  | .dryRun => f.dryRun
  | .tracePackets => f.tracePackets

def turnOn (f : Flags) : Switch → Flags
  | .dryRun => { f with dryRun := true }
  | .tracePackets => { f with tracePackets := true }

end Flags

inductive UsageError where
  | unknownArgument
  | missingValue
  | invalidValue
  | repeated
  | needlessValue
  deriving DecidableEq, Repr

namespace Flags

def count? (value : String) : Option Nat := Text.natural? 10 Text.limit64 value.toList

/-- Ports are read as signed numbers, so that a minus may stand before a zero. -/
def port? (value : String) : Option UInt16 :=
  ((Text.integer? 64 value.toList).filter fun n => decide (0 ≤ n ∧ n < 65536)).map fun n =>
    UInt16.ofNat n.toNat

def valid {α : Type} : Option α → Except UsageError α
  | some a => .ok a
  | none => .error .invalidValue

def set (f : Flags) (setting : Setting) (value : String) : Except UsageError Flags :=
  if f.isSet setting then .error .repeated
  else
    match setting with
    | .config => if value = "" then .error .missingValue else .ok { f with file := some value }
    | .device =>
      (valid (DeviceSpec.read value).toOption).map fun d =>
        { f with devices := f.devices ++ [d] }
    | .cpus => .ok { f with cpus := some value }
    | .burstSize => (valid (count? value)).map fun n => { f with burstSize := some n }
    | .mac => .ok { f with mac := some value }
    | .vxlanPort => (valid (port? value)).map fun n => { f with vxlanPort := some n }
    | .outboxSize => (valid (count? value)).map fun n => { f with outboxSize := some n }
    | .statsInterval => (valid (count? value)).map fun n => { f with statsInterval := some n }
    | .poolBuffers => (valid (count? value)).map fun n => { f with poolBuffers := some n }

end Flags

end Boomerang.Command
