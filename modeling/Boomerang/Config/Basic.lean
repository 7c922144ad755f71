import Boomerang.Address.Grouped
import Boomerang.Config.Device
import Boomerang.Text.Quoted

/-!
The settings of a reflector, and the rules that they have to meet before it can start. The rules
are checked in one fixed order, and the first that is broken is reported.
-/

set_option autoImplicit false

namespace Boomerang

inductive ReadFailure where
  | missing
  | notText
  | refused (reason : String)
  deriving DecidableEq, Repr

def ReadFailure.message : ReadFailure → String
  | .missing => "No such file or directory (os error 2)"
  | .notText => "stream did not contain valid UTF-8"
  | .refused reason => reason

inductive ConfigError where
  | unreadable (path : String) (failure : ReadFailure)
  | malformed (path reason : String)
  | invalidMac (text : String)
  | invalidDevice (text : String)
  | burstSize (size : Nat)
  | outboxSize
  | poolSize
  | noQueues (device : String)
  | duplicateDevice (device : String)
  | noDevices
  deriving DecidableEq, Repr

def ConfigError.message : ConfigError → String
  | .unreadable path failure => "failed to read config file " ++ path ++ ": " ++ failure.message
  | .malformed path reason => "invalid config file " ++ path ++ ": " ++ reason
  | .invalidMac text => "invalid MAC address " ++ Text.quoted text
  | .invalidDevice text =>
    "invalid device spec " ++ Text.quoted text ++ ", expected NAME[:QUEUES[:NUMA_NODE]]"
  | .burstSize size => "burst size must be between 1 and 4096, got " ++ toString size
  | .outboxSize => "tx buffer size must be at least 1"
  | .poolSize => "buffer pool needs at least one buffer per device"
  | .noQueues device => "device " ++ device ++ " has no queues"
  | .duplicateDevice device => "device " ++ device ++ " is configured twice"
  | .noDevices => "no devices configured"

/-- A hardware address from a text; a text that is none is kept in the error. -/
def Mac.read (s : String) : Except ConfigError Mac :=
  match Mac.ofText? s with
  | some mac => .ok mac
  | none => .error (.invalidMac s)

def DeviceSpec.read (s : String) : Except ConfigError DeviceSpec :=
  match DeviceSpec.ofText? s with
  | some device => .ok device
  | none => .error (.invalidDevice s)

structure Config where
  burstSize : Nat
  mac : Mac
  dryRun : Bool
  tracePackets : Bool
  vxlanPort : UInt16
  outboxSize : Nat
  /-- Seconds between two reports; zero for none. -/
  statsInterval : Nat
  poolBuffers : Nat
  devices : List DeviceSpec
  /-- The CPUs of the workers; none leaves the choice to the host. -/
  cpus : Option (List Nat)
  deriving DecidableEq, Repr

namespace Config

def default : Config where
  burstSize := 256
  mac := Address.mac 2 0 0 0 0 1
  dryRun := false
  tracePackets := false
  vxlanPort := 4789
  outboxSize := 128
  statsInterval := 5
  poolBuffers := 8192
  devices := []
  cpus := none

def maxBurstSize : Nat := 4096

/-- Checks devices in order, after those with the names `earlier`. -/
def checkDevices (earlier : List String) : List DeviceSpec → Except ConfigError Unit
  | [] => .ok ()
  | d :: rest =>
    if d.queues = 0 then .error (.noQueues d.name)
    else if d.name ∈ earlier then .error (.duplicateDevice d.name)
    else checkDevices (d.name :: earlier) rest

def validate (c : Config) : Except ConfigError Unit :=
  if c.burstSize = 0 ∨ maxBurstSize < c.burstSize then .error (.burstSize c.burstSize)
  else if c.outboxSize = 0 then .error .outboxSize
  else if c.poolBuffers = 0 then .error .poolSize
  else if c.devices = [] then .error .noDevices
  else checkDevices [] c.devices

theorem checkDevices_eq_ok_iff (earlier : List String) (devices : List DeviceSpec) :
    checkDevices earlier devices = .ok () ↔
      (∀ d ∈ devices, d.queues ≠ 0 ∧ d.name ∉ earlier) ∧ (devices.map DeviceSpec.name).Nodup := by
  induction devices generalizing earlier with
  | nil => simp [checkDevices]
  | cons d rest ih =>
    rw [checkDevices]
    split
    · next h => simp [h]
    · next h =>
      split
      · next h' => simp [h']
      · next h' =>
        rw [ih]
        simp only [List.mem_cons, not_or, List.map_cons, List.nodup_cons, List.mem_map]
        constructor
        · rintro ⟨h1, h2⟩
          refine ⟨?_, ?_, h2⟩
          · rintro e (rfl | he)
            · exact ⟨h, h'⟩
            · exact ⟨(h1 e he).1, (h1 e he).2.2⟩
          · rintro ⟨e, he, hn⟩
            exact (h1 e he).2.1 hn
        · rintro ⟨h1, h2, h3⟩
          exact ⟨fun e he => ⟨(h1 e (.inr he)).1, fun hn => h2 ⟨e, he, hn⟩, (h1 e (.inr he)).2⟩, h3⟩

end Config

end Boomerang
