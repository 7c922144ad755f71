import Boomerang.Address.Grouped
import Boomerang.Config.Basic
import Boomerang.Document.Reader
import Boomerang.Text.Utf8

/-!
Settings from a file. The file holds a record; fields that it leaves out keep their defaults, except
that every device has a name.
-/

set_option autoImplicit false

namespace Boomerang

def DeviceSpec.fields : List String := ["name", "queues", "numa_node"]

def DeviceSpec.ofDocument? (d : Document) : Option DeviceSpec := do
  let given ← d.record? fields
  let name ← Document.field? given "name" Document.text? none
  let queues ← Document.field? given "queues" (fun d => (d.natural? 65536).map UInt16.ofNat)
    (some defaultQueues)
  let node ← Document.field? given "numa_node" (Document.optional? Document.int32?) (some none)
  return ⟨name, queues, node⟩

namespace Config

def fields : List String :=
  ["burst_size", "responder_mac", "dry_run", "trace_packets", "vxlan_port", "tx_buffer_size",
    "stats_interval_secs", "pool_buffers", "devices", "cpus"]

/-- What a file says of each setting; it may leave out any of them. -/
structure Written where
  burstSize : Option Nat
  mac : Option Mac
  dryRun : Option Bool
  tracePackets : Option Bool
  vxlanPort : Option UInt16
  outboxSize : Option Nat
  statsInterval : Option Nat
  poolBuffers : Option Nat
  devices : Option (List DeviceSpec)
  cpus : Option (Option (List Nat))

namespace Written

def completed (w : Written) : Config where
  burstSize := w.burstSize.getD default.burstSize
  mac := w.mac.getD default.mac
  dryRun := w.dryRun.getD default.dryRun
  tracePackets := w.tracePackets.getD default.tracePackets
  vxlanPort := w.vxlanPort.getD default.vxlanPort
  outboxSize := w.outboxSize.getD default.outboxSize
  statsInterval := w.statsInterval.getD default.statsInterval
  poolBuffers := w.poolBuffers.getD default.poolBuffers
  devices := w.devices.getD default.devices
  cpus := w.cpus.getD default.cpus

def ofDocument? (d : Document) : Option Written := do
  let given ← d.record? fields
  let count := fun (name : String) => Document.given? given name (Document.natural? Text.limit64)
  let flag := fun (name : String) => Document.given? given name Document.bool?
  let burstSize ← count "burst_size"
  let mac ← Document.given? given "responder_mac" fun d => d.text?.bind Mac.ofText?
  let dryRun ← flag "dry_run"
  let tracePackets ← flag "trace_packets"
  let vxlanPort ← Document.given? given "vxlan_port" fun d => (d.natural? 65536).map UInt16.ofNat
  let outboxSize ← count "tx_buffer_size"
  let statsInterval ← count "stats_interval_secs"
  let poolBuffers ← count "pool_buffers"
  let devices ← Document.given? given "devices" (Document.list? DeviceSpec.ofDocument?)
  let cpus ← Document.given? given "cpus"
    (Document.optional? (Document.list? (Document.natural? Text.limit64)))
  return ⟨burstSize, mac, dryRun, tracePackets, vxlanPort, outboxSize, statsInterval, poolBuffers,
    devices, cpus⟩

end Written

/-- What the text of a file says, or why it says nothing. -/
abbrev Reader := String → Except String Written

/-- A reader of documents. Its reasons are its own, and do not say where a text fails. -/
def documents : Reader := fun s =>
  match Document.ofText? s with
  | none => .error "not a document"
  | some d =>
    match Written.ofDocument? d with
    | none => .error "not a record of settings"
    | some w => .ok w

def ofFile (read : Reader) (path : String) (contents : Except ReadFailure Octets) :
    Except ConfigError Config :=
  match contents with
  | .error failure => .error (.unreadable path failure)
  | .ok data =>
    match Text.decode? data with
    | none => .error (.unreadable path .notText)
    | some s =>
      match read s with
      | .error reason => .error (.malformed path reason)
      | .ok w => .ok w.completed

end Config

end Boomerang
