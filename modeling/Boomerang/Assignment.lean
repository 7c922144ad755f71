import Boomerang.Counters
import Boomerang.Log
import Boomerang.NatMap

/-!
Which worker serves which receive queue. Each queue gets a worker of its own on its device's NUMA
node. Devices are served in order, and each takes the next workers of its node; either all queues
are served or the first device that cannot be is reported.
-/

set_option autoImplicit false

namespace Boomerang

/-- A receive queue, with the NUMA node of its device; a negative number is an unknown node. -/
structure QueueDescriptor where
  id : QueueId
  numaNode : Int
  deriving DecidableEq, Repr

structure DeviceQueues where
  device : Nat
  numaNode : Int
  queues : Nat
  deriving DecidableEq, Repr

def DeviceQueues.descriptors (d : DeviceQueues) : List QueueDescriptor :=
  (List.range d.queues).map fun queue => ⟨⟨d.device, queue⟩, d.numaNode⟩

structure Lcore where
  cpu : Nat
  numaNode : Nat
  deriving DecidableEq, Repr

/-- What a worker serves. Frames leave by the transmit queue with the number `txQueue`. -/
structure Binding where
  queue : QueueDescriptor
  txQueue : Nat
  deriving DecidableEq, Repr

inductive AssignError where
  | unknownNode (device : Nat) (node : Int)
  | noQueues (device : Nat)
  | noLocalWorkers (device node required available : Nat)
  deriving DecidableEq, Repr

def AssignError.message : AssignError → String
  | .unknownNode device node => deviceText device ++ " is on unknown NUMA node " ++ toString node
  | .noQueues device => deviceText device ++ " has no receive queues"
  | .noLocalWorkers device node required available =>
    deviceText device ++ " needs " ++ toString required ++ " workers on NUMA node " ++
      toString node ++ ", only " ++ toString available ++ " available"

structure Acquisition where
  device : Nat
  numaNode : Nat
  cpus : List Nat
  deriving DecidableEq, Repr

def Acquisition.event (a : Acquisition) : Log.Event :=
  ⟨.info, "Receive queues assigned",
    [("device", deviceText a.device), ("numa_node", toString a.numaNode),
      ("lcores", "[" ++ ", ".intercalate (a.cpus.map toString) ++ "]")]⟩

/-- The free CPUs of each node, in the order in which they are handed out. -/
abbrev Pools := NatMap (List Nat)

namespace Pools

def free (pools : Pools) (node : Nat) : List Nat := (pools.lookup node).getD []

theorem free_insert_self (pools : Pools) (node : Nat) (cpus : List Nat) :
    free (pools.insert node cpus) node = cpus := by
  rw [free, NatMap.lookup_insert_self, Option.getD_some]

theorem free_insert_of_ne {node other : Nat} (apart : other ≠ node) (pools : Pools)
    (cpus : List Nat) : free (pools.insert node cpus) other = pools.free other := by
  rw [free, NatMap.lookup_insert_of_ne apart, free]

end Pools

/-- The pools while the CPUs are sorted into them, and the CPUs seen so far. -/
structure Intake where
  seen : List Nat
  pools : Pools
  deriving DecidableEq, Repr

namespace Intake

-- A CPU that is listed again stays where it was listed first.
def add (s : Intake) (core : Lcore) : Intake :=
  if core.cpu ∈ s.seen then s
  else
    ⟨core.cpu :: s.seen,
      s.pools.insert core.numaNode (s.pools.free core.numaNode ++ [core.cpu])⟩

def all (cores : List Lcore) : Intake := cores.foldl add ⟨[], []⟩

end Intake

structure Assignment where
  bindings : NatMap Binding
  acquired : List Acquisition
  deriving DecidableEq, Repr

namespace Assignment

/-- An assignment in the making, with the CPUs that are left. -/
structure Progress extends Assignment where
  pools : Pools
  deriving DecidableEq, Repr

namespace Progress

def start (cores : List Lcore) : Progress := ⟨⟨[], []⟩, (Intake.all cores).pools⟩

def bind (bindings : NatMap Binding) (pair : QueueDescriptor × Nat) : NatMap Binding :=
  bindings.insert pair.2 ⟨pair.1, pair.1.id.queue⟩

def take (s : Progress) (d : DeviceQueues) : Progress :=
  let node := d.numaNode.toNat
  let pool := s.pools.free node
  let taken := d.descriptors.zip (pool.take d.queues)
  { bindings := taken.foldl bind s.bindings
    acquired := s.acquired ++ [⟨d.device, node, taken.map Prod.snd⟩]
    pools := s.pools.insert node (pool.drop d.queues) }

/-- Serves one device. A node without CPUs is reported before a device without queues. -/
def serve (s : Progress) (d : DeviceQueues) : Except AssignError Progress :=
  if d.numaNode < 0 then .error (.unknownNode d.device d.numaNode)
  else
    let node := d.numaNode.toNat
    let available := (s.pools.free node).length
    let short := AssignError.noLocalWorkers d.device node d.queues available
    if available = 0 then .error short
    else if d.queues = 0 then .error (.noQueues d.device)
    else if available < d.queues then .error short
    else .ok (s.take d)

end Progress

def of (devices : List DeviceQueues) (cores : List Lcore) : Except AssignError Assignment :=
  (devices.foldlM Progress.serve (Progress.start cores)).map Progress.toAssignment

def get? (a : Assignment) (cpu : Nat) : Option Binding := a.bindings.lookup cpu

def size (a : Assignment) : Nat := a.bindings.length

def log (a : Assignment) : List Log.Event := a.acquired.map Acquisition.event

end Assignment

end Boomerang
