import Boomerang.Assignment
import Mathlib.Data.List.Basic
import Mathlib.Data.List.Induction

/-!
The CPUs and the queues of a node. The pools start with each CPU once, on the node where it is first
listed. Devices can be served if each has a node and queues, and if no node has more queues than
CPUs.
-/

set_option autoImplicit false

namespace Boomerang.Assignment

/-- The node of a CPU is the one it is first listed on. -/
def nodeOf? (cores : List Lcore) (cpu : Nat) : Option Nat :=
  (cores.find? fun c => c.cpu = cpu).map Lcore.numaNode

/-- The CPUs of a node, each once, in the order in which they are listed. -/
def staff (cores : List Lcore) (node : Int) : List Nat :=
  (cores.map Lcore.cpu).eraseDups.filter fun cpu => (nodeOf? cores cpu).map Int.ofNat = some node

def queuesOn (devices : List DeviceQueues) (node : Int) : List QueueDescriptor :=
  (devices.filter fun d => d.numaNode = node).flatMap DeviceQueues.descriptors

def queueCount (devices : List DeviceQueues) : Nat :=
  devices.foldr (fun d count => d.queues + count) 0

/-- How many queues there are on a node. -/
def demand (devices : List DeviceQueues) (node : Int) : Nat :=
  queueCount (devices.filter fun d => d.numaNode = node)

/-- Every device has a node and queues, and every node has a CPU for each queue on it. -/
structure Servable (devices : List DeviceQueues) (cores : List Lcore) : Prop where
  known : ∀ d ∈ devices, 0 ≤ d.numaNode
  queues : ∀ d ∈ devices, 1 ≤ d.queues
  staffed : ∀ node, demand devices node ≤ (staff cores node).length

/-- Why a device is refused when `available` CPUs are left on its node. -/
inductive Refused (available : Nat) (d : DeviceQueues) : AssignError → Prop where
  | unknownNode (unknown : d.numaNode < 0) : Refused available d (.unknownNode d.device d.numaNode)
  | noLocalWorkers {node : Nat} (known : d.numaNode = node)
      (short : available = 0 ∨ available < d.queues) :
      Refused available d (.noLocalWorkers d.device node d.queues available)
  | noQueues (known : 0 ≤ d.numaNode) (left : 0 < available) (none : d.queues = 0) :
      Refused available d (.noQueues d.device)

/-! ## CPUs of a node -/

variable {cores : List Lcore} {devices served : List DeviceQueues} {d : DeviceQueues} {node : Int}

theorem nodeOf?_snoc_of_mem {cpu : Nat} (listed : cpu ∈ cores.map Lcore.cpu) (c : Lcore) :
    nodeOf? (cores ++ [c]) cpu = nodeOf? cores cpu := by
  obtain ⟨e, member, rfl⟩ := List.mem_map.1 listed
  obtain ⟨first, found⟩ : ∃ first, cores.find? (fun c => c.cpu = e.cpu) = some first :=
    Option.isSome_iff_exists.1 (List.find?_isSome.2 ⟨e, member, by simp⟩)
  rw [nodeOf?, nodeOf?, List.find?_append, found, Option.some_or]

theorem nodeOf?_snoc_of_not_mem {c : Lcore} (unlisted : c.cpu ∉ cores.map Lcore.cpu) :
    nodeOf? (cores ++ [c]) c.cpu = some c.numaNode := by
  have nothing : cores.find? (fun e => e.cpu = c.cpu) = none := by
    rw [List.find?_eq_none]
    exact fun e member same => unlisted (List.mem_map.2 ⟨e, member, of_decide_eq_true same⟩)
  rw [nodeOf?, List.find?_append, nothing, Option.none_or, List.find?_singleton, if_pos (by simp),
    Option.map_some]

theorem mem_of_mem_staff {cpu : Nat} (member : cpu ∈ staff cores node) :
    cpu ∈ cores.map Lcore.cpu :=
  List.mem_eraseDups.1 (List.mem_filter.1 member).1

theorem node_of_mem_staff {cpu : Nat} (member : cpu ∈ staff cores node) :
    (nodeOf? cores cpu).map Int.ofNat = some node := by
  simpa using (List.mem_filter.1 member).2

theorem staff_snoc (cores : List Lcore) (c : Lcore) (node : Int) :
    staff (cores ++ [c]) node =
      staff cores node ++
        if c.cpu ∉ cores.map Lcore.cpu ∧ c.numaNode = node then [c.cpu] else [] := by
  have old : (cores.map Lcore.cpu).eraseDups.filter
      (fun cpu => (nodeOf? (cores ++ [c]) cpu).map Int.ofNat = some node) = staff cores node := by
    refine List.filter_congr fun cpu member => ?_
    rw [nodeOf?_snoc_of_mem (List.mem_eraseDups.1 member)]
  rw [staff, List.map_append, List.map_singleton, List.eraseDups_append, List.filter_append, old]
  congr 1
  by_cases listed : c.cpu ∈ cores.map Lcore.cpu
  · have again : [c.cpu].removeAll (cores.map Lcore.cpu) = [] := by
      simpa [List.removeAll] using listed
    rw [again, if_neg (fun new => new.1 listed)]
    rfl
  · have fresh : [c.cpu].removeAll (cores.map Lcore.cpu) = [c.cpu] := by
      simpa [List.removeAll] using listed
    rw [fresh, List.eraseDups_cons, List.filter_nil, List.eraseDups_nil, List.filter_singleton,
      nodeOf?_snoc_of_not_mem listed]
    simp [listed]

theorem nodup_staff (cores : List Lcore) (node : Int) : (staff cores node).Nodup := by
  induction cores using List.reverseRecOn with
  | nil => exact List.nodup_nil
  | append_singleton cores c ih =>
    rw [staff_snoc]
    split
    case isTrue new =>
      refine List.nodup_append.2 ⟨ih, by simp, ?_⟩
      rintro cpu member _ here rfl
      rw [List.mem_singleton.1 here] at member
      exact new.1 (mem_of_mem_staff member)
    case isFalse => rwa [List.append_nil]

/-- The CPUs seen are the ones listed so far, and the pool of each node has its staff. -/
structure Pooled (cores : List Lcore) (s : Intake) : Prop where
  seen : ∀ cpu, cpu ∈ s.seen ↔ cpu ∈ cores.map Lcore.cpu
  pools : ∀ node : Nat, s.pools.free node = staff cores node

theorem Pooled.add {s : Intake} (pooled : Pooled cores s) (c : Lcore) :
    Pooled (cores ++ [c]) (s.add c) := by
  have listed_iff := pooled.seen c.cpu
  rw [Intake.add]
  split
  case isTrue again =>
    have listed := listed_iff.1 again
    refine ⟨fun cpu => ?_, fun node => ?_⟩
    · rw [pooled.seen, List.map_append, List.mem_append]
      refine ⟨.inl, fun member => member.elim id fun same => ?_⟩
      rwa [List.mem_singleton.1 same]
    · rw [pooled.pools, staff_snoc, if_neg (fun new => new.1 listed), List.append_nil]
  case isFalse fresh =>
    have unlisted := mt listed_iff.2 fresh
    refine ⟨fun cpu => ?_, fun node => ?_⟩
    · rw [List.mem_cons, pooled.seen, List.map_append, List.mem_append, List.map_singleton,
        List.mem_singleton, or_comm]
    · rw [staff_snoc]
      by_cases here : node = c.numaNode
      · rw [here, Pools.free_insert_self, pooled.pools, if_pos ⟨unlisted, rfl⟩]
      · rw [Pools.free_insert_of_ne here, pooled.pools, if_neg (by omega), List.append_nil]

theorem pooled_all (cores : List Lcore) : Pooled cores (Intake.all cores) := by
  induction cores using List.reverseRecOn with
  | nil => exact ⟨fun _ => Iff.rfl, fun _ => rfl⟩
  | append_singleton cores c ih =>
    rw [Intake.all, List.foldl_concat]
    exact ih.add c

/-! ## Queues of a node -/

@[simp] theorem length_descriptors (d : DeviceQueues) : d.descriptors.length = d.queues := by
  simp [DeviceQueues.descriptors]

theorem length_flatMap_descriptors (devices : List DeviceQueues) :
    (devices.flatMap DeviceQueues.descriptors).length = queueCount devices := by
  induction devices with
  | nil => rfl
  | cons d rest ih =>
    rw [List.flatMap_cons, List.length_append, length_descriptors, ih]
    rfl

theorem length_queuesOn (devices : List DeviceQueues) (node : Int) :
    (queuesOn devices node).length = demand devices node :=
  length_flatMap_descriptors _

theorem node_of_mem_queuesOn {queue : QueueDescriptor} (member : queue ∈ queuesOn devices node) :
    queue.numaNode = node := by
  simp only [queuesOn, List.mem_flatMap, List.mem_filter, decide_eq_true_eq,
    DeviceQueues.descriptors, List.mem_map] at member
  obtain ⟨d, ⟨_, here⟩, k, _, rfl⟩ := member
  exact here

theorem queuesOn_snoc (served : List DeviceQueues) (d : DeviceQueues) (node : Int) :
    queuesOn (served ++ [d]) node =
      queuesOn served node ++ if d.numaNode = node then d.descriptors else [] := by
  rw [queuesOn, List.filter_append, List.flatMap_append, ← queuesOn, List.filter_singleton]
  congr 1
  by_cases here : d.numaNode = node <;> simp [here]

theorem demand_append (served devices : List DeviceQueues) (node : Int) :
    demand (served ++ devices) node = demand served node + demand devices node := by
  rw [← length_queuesOn, queuesOn, List.filter_append, List.flatMap_append, List.length_append,
    ← queuesOn, ← queuesOn, length_queuesOn, length_queuesOn]

theorem demand_snoc (served : List DeviceQueues) (d : DeviceQueues) (node : Int) :
    demand (served ++ [d]) node =
      demand served node + if d.numaNode = node then d.queues else 0 := by
  rw [← length_queuesOn, queuesOn_snoc, List.length_append, length_queuesOn]
  split
  · rw [length_descriptors]
  · rfl

/-! ## Whether devices can be served -/

theorem servable_nil (cores : List Lcore) : Servable [] cores :=
  ⟨nofun, nofun, fun _ => Nat.zero_le _⟩

theorem Servable.of_append (servable : Servable (served ++ devices) cores) :
    Servable served cores where
  known d member := servable.known d (List.mem_append_left _ member)
  queues d member := servable.queues d (List.mem_append_left _ member)
  staffed node := by
    have all := servable.staffed node
    rw [demand_append] at all
    omega

/-- One more device can be served if its node has CPUs left for all of its queues. -/
theorem servable_snoc_iff :
    Servable (served ++ [d]) cores ↔
      Servable served cores ∧ 0 ≤ d.numaNode ∧ 1 ≤ d.queues ∧
        demand served d.numaNode + d.queues ≤ (staff cores d.numaNode).length := by
  constructor
  · intro servable
    have here := servable.staffed d.numaNode
    rw [demand_snoc, if_pos rfl] at here
    exact ⟨servable.of_append, servable.known d (by simp), servable.queues d (by simp), here⟩
  · rintro ⟨servable, known, queues, staffed⟩
    refine ⟨?_, ?_, fun node => ?_⟩
    · exact List.forall_mem_append.2 ⟨servable.known, by simpa using known⟩
    · exact List.forall_mem_append.2 ⟨servable.queues, by simpa using queues⟩
    · rw [demand_snoc]
      split
      case isTrue here => rwa [← here]
      case isFalse => exact servable.staffed node

end Boomerang.Assignment
