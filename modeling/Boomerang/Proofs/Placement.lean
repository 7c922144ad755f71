import Boomerang.Proofs.Staffing
import Mathlib.Data.List.Forall2

/-!
Serving devices in order is exact. After each device the pool of a node is what the queues on it
have left of its CPUs, and the k-th queue of a node is bound to its k-th CPU. So all queues get a
CPU if and only if no node has more queues than CPUs, and otherwise the first device that cannot be
served is reported, with what the devices before it have left on its node.
-/

set_option autoImplicit false

namespace Boomerang.Assignment

/-- What is reported of a device that was served: the CPUs of its queues, in their order. -/
structure Listed (bindings : NatMap Binding) (d : DeviceQueues) (x : Acquisition) : Prop where
  device : x.device = d.device
  node : (x.numaNode : Int) = d.numaNode
  cpus : x.cpus.length = d.queues
  bound : ∀ pair ∈ d.descriptors.zip x.cpus, (pair.2, ⟨pair.1, pair.1.id.queue⟩) ∈ bindings

/-- The `k`-th queue of each node is bound to the `k`-th CPU of the node, and nothing else is. -/
structure Exact (devices : List DeviceQueues) (cores : List Lcore) (a : Assignment) : Prop where
  bound : ∀ cpu binding, a.get? cpu = some binding ↔
    ∃ (node : Int) (k : Nat), (staff cores node)[k]? = some cpu ∧
      (queuesOn devices node)[k]? = some binding.queue ∧ binding.txQueue = binding.queue.id.queue
  listed : ∀ cpu binding, (cpu, binding) ∈ a.bindings ↔ a.get? cpu = some binding
  ascending : (a.bindings.map Prod.fst).Pairwise (· < ·)
  queues : (a.bindings.map fun b => b.2.queue).Perm (devices.flatMap DeviceQueues.descriptors)
  size : a.size = queueCount devices
  once : (devices.map DeviceQueues.device).Nodup →
    (a.bindings.map fun b => b.2.queue.id).Nodup
  near : ∀ b ∈ a.bindings, (nodeOf? cores b.1).map Int.ofNat = some b.2.queue.numaNode
  acquired : List.Forall₂ (Listed a.bindings) devices a.acquired

open Progress

variable {cores : List Lcore} {devices served : List DeviceQueues} {d : DeviceQueues} {node : Int}
  {s s' : Progress} {e : AssignError}

/-! ## Bindings -/

def entry (pair : QueueDescriptor × Nat) : Nat × Binding := (pair.2, ⟨pair.1, pair.1.id.queue⟩)

theorem ascending_foldl_bind {bindings : NatMap Binding} (ascending : bindings.Ascending)
    (pairs : List (QueueDescriptor × Nat)) : NatMap.Ascending (pairs.foldl bind bindings) := by
  induction pairs generalizing bindings with
  | nil => exact ascending
  | cons pair rest ih => exact ih (ascending.insert _ _)

theorem perm_foldl_bind {pairs : List (QueueDescriptor × Nat)} {bindings : NatMap Binding}
    (once : (pairs.map Prod.snd).Nodup)
    (free : ∀ cpu ∈ pairs.map Prod.snd, cpu ∉ bindings.keys) :
    (pairs.foldl bind bindings).Perm (bindings ++ pairs.map entry) := by
  induction pairs generalizing bindings with
  | nil => simp
  | cons pair rest ih =>
    obtain ⟨apart, rest_once⟩ := List.nodup_cons.1 once
    have here := NatMap.perm_insert (free pair.2 (by simp)) ⟨pair.1, pair.1.id.queue⟩
    have still : ∀ cpu ∈ rest.map Prod.snd, cpu ∉ (bind bindings pair).keys := by
      intro cpu member bound
      rcases NatMap.mem_keys_insert.1 bound with rfl | earlier
      · exact apart member
      · exact free cpu (List.mem_cons_of_mem _ member) earlier
    rw [List.foldl_cons, List.map_cons]
    exact (ih rest_once still).trans ((here.append_right _).trans List.perm_middle.symm)

theorem getElem?_queuesOn_snoc {k : Nat} {queue : QueueDescriptor} :
    (queuesOn (served ++ [d]) node)[k]? = some queue ↔
      (queuesOn served node)[k]? = some queue ∨
        d.numaNode = node ∧ ∃ j, demand served node + j = k ∧ d.descriptors[j]? = some queue := by
  rw [queuesOn_snoc, List.getElem?_append, length_queuesOn]
  split
  case isTrue early =>
    refine ⟨.inl, fun found => found.resolve_right ?_⟩
    rintro ⟨_, j, rfl, _⟩
    omega
  case isFalse late =>
    have absent : (queuesOn served node)[k]? = none := by
      rw [List.getElem?_eq_none_iff, length_queuesOn]
      omega
    rw [absent]
    split
    case isTrue here =>
      refine ⟨fun found => .inr ⟨here, _, by omega, found⟩, ?_⟩
      rintro (never | ⟨_, j, rfl, found⟩)
      · cases never
      · rwa [Nat.add_sub_cancel_left]
    case isFalse elsewhere =>
      constructor
      · nofun
      · rintro (never | ⟨here, _⟩)
        · cases never
        · exact absurd here elsewhere

/-! ## One device -/

theorem serve_eq_error_iff :
    serve s d = .error e ↔ Refused (s.pools.free d.numaNode.toNat).length d e := by
  unfold serve
  dsimp only
  constructor
  · intro refused
    split at refused
    case isTrue unknown =>
      cases refused
      exact .unknownNode unknown
    case isFalse known =>
      have node : d.numaNode = d.numaNode.toNat := by omega
      split at refused
      case isTrue empty =>
        cases refused
        exact .noLocalWorkers node (.inl empty)
      case isFalse left =>
        split at refused
        case isTrue none =>
          cases refused
          exact .noQueues (by omega) (by omega) none
        case isFalse =>
          split at refused
          case isTrue short =>
            cases refused
            exact .noLocalWorkers node (.inr short)
          case isFalse => cases refused
  · intro refused
    cases refused with
    | unknownNode unknown => rw [if_pos unknown]
    | @noLocalWorkers node known short =>
      have same : d.numaNode.toNat = node := by omega
      rw [same] at short ⊢
      rw [if_neg (by omega)]
      by_cases empty : (s.pools.free node).length = 0
      · rw [if_pos empty]
      · have few := short.resolve_left empty
        rw [if_neg empty, if_neg (by omega), if_pos few]
    | noQueues known left none => rw [if_neg (by omega), if_neg (by omega), if_pos none]

theorem serve_of_enough (known : 0 ≤ d.numaNode) (queues : 1 ≤ d.queues)
    (enough : d.queues ≤ (s.pools.free d.numaNode.toNat).length) : serve s d = .ok (s.take d) := by
  unfold serve
  dsimp only
  rw [if_neg (by omega), if_neg (by omega), if_neg (by omega), if_neg (by omega)]

theorem enough_of_serve (ok : serve s d = .ok s') :
    (0 ≤ d.numaNode ∧ 1 ≤ d.queues ∧ d.queues ≤ (s.pools.free d.numaNode.toNat).length) ∧
      s.take d = s' := by
  unfold serve at ok
  dsimp only at ok
  -- The refusals in their order; what is left is the case in which the device is served.
  split at ok
  · cases ok
  · split at ok
    · cases ok
    · split at ok
      · cases ok
      · split at ok
        · cases ok
        · exact ⟨by omega, Except.ok.inj ok⟩

/-- How far an assignment has come with the devices `served`. -/
structure Served (cores : List Lcore) (served : List DeviceQueues) (s : Progress) : Prop where
  servable : Servable served cores
  /-- The pool of a node is what its queues have left of its CPUs. -/
  pools : ∀ node : Nat, s.pools.free node = (staff cores node).drop (demand served node)
  ascending : s.bindings.Ascending
  bound : ∀ b, b ∈ s.bindings ↔ ∃ (node : Int) (k : Nat), (staff cores node)[k]? = some b.1 ∧
    (queuesOn served node)[k]? = some b.2.queue ∧ b.2.txQueue = b.2.queue.id.queue
  queues : (s.bindings.map fun b => b.2.queue).Perm (served.flatMap DeviceQueues.descriptors)
  acquired : List.Forall₂ (Listed s.bindings) served s.acquired

theorem served_start (cores : List Lcore) : Served cores [] (start cores) where
  servable := servable_nil cores
  pools node := (pooled_all cores).pools node
  ascending := List.Pairwise.nil
  bound b := by
    refine ⟨nofun, ?_⟩
    rintro ⟨_, _, _, never, _⟩
    cases never
  queues := .refl _
  acquired := .nil

/-- The CPUs that a device gets behind the devices `served`. -/
def share (cores : List Lcore) (served : List DeviceQueues) (d : DeviceQueues) : List Nat :=
  ((staff cores d.numaNode).drop (demand served d.numaNode)).take d.queues

def grants (cores : List Lcore) (served : List DeviceQueues) (d : DeviceQueues) :
    List (QueueDescriptor × Nat) :=
  d.descriptors.zip (share cores served d)

theorem getElem?_share {k cpu : Nat} :
    (share cores served d)[k]? = some cpu ↔
      k < d.queues ∧ (staff cores d.numaNode)[demand served d.numaNode + k]? = some cpu := by
  rw [share, List.getElem?_take, List.getElem?_drop]
  split
  case isTrue inside => exact (and_iff_right inside).symm
  case isFalse outside => exact ⟨nofun, fun both => absurd both.1 outside⟩

theorem nodup_share (cores : List Lcore) (served : List DeviceQueues) (d : DeviceQueues) :
    (share cores served d).Nodup :=
  (nodup_staff cores d.numaNode).sublist ((List.take_sublist _ _).trans (List.drop_sublist _ _))

theorem length_share
    (staffed : demand served d.numaNode + d.queues ≤ (staff cores d.numaNode).length) :
    (share cores served d).length = d.descriptors.length := by
  rw [share, List.length_take, List.length_drop, length_descriptors]
  omega

theorem cpus_grants
    (staffed : demand served d.numaNode + d.queues ≤ (staff cores d.numaNode).length) :
    (grants cores served d).map Prod.snd = share cores served d :=
  List.map_snd_zip (Nat.le_of_eq (length_share staffed))

theorem mem_grants {b : Nat × Binding} :
    b ∈ (grants cores served d).map entry ↔
      ∃ k : Nat, (staff cores d.numaNode)[demand served d.numaNode + k]? = some b.1 ∧
        d.descriptors[k]? = some b.2.queue ∧ b.2.txQueue = b.2.queue.id.queue := by
  rw [List.mem_map]
  constructor
  · rintro ⟨pair, member, rfl⟩
    obtain ⟨k, place⟩ := List.mem_iff_getElem?.1 member
    obtain ⟨queue, cpu⟩ := List.getElem?_zip_eq_some.1 place
    exact ⟨k, (getElem?_share.1 cpu).2, queue, rfl⟩
  · rintro ⟨k, cpu, queue, tx⟩
    have inside : k < d.queues := by
      rw [← length_descriptors]
      exact (List.getElem?_eq_some_iff.1 queue).1
    refine ⟨(b.2.queue, b.1), List.mem_iff_getElem?.2 ⟨k, ?_⟩, ?_⟩
    · exact List.getElem?_zip_eq_some.2 ⟨queue, getElem?_share.2 ⟨inside, cpu⟩⟩
    · rw [entry, ← tx]

namespace Served

theorem free_eq (after : Served cores served s) (known : 0 ≤ d.numaNode) :
    s.pools.free d.numaNode.toNat = (staff cores d.numaNode).drop (demand served d.numaNode) := by
  rw [after.pools, Int.toNat_of_nonneg known]

theorem length_free (after : Served cores served s) (known : 0 ≤ d.numaNode) :
    (s.pools.free d.numaNode.toNat).length + demand served d.numaNode =
      (staff cores d.numaNode).length := by
  have staffed := after.servable.staffed d.numaNode
  rw [after.free_eq known, List.length_drop]
  omega

/-- No CPU that a device gets was bound before: its place on the node comes behind the queues of
the node. -/
theorem not_bound_of_mem_share (after : Served cores served s) {cpu : Nat}
    (member : cpu ∈ share cores served d) : cpu ∉ s.bindings.keys := by
  intro bound
  obtain ⟨k, here⟩ := List.mem_iff_getElem?.1 member
  obtain ⟨⟨_, binding⟩, entry, rfl⟩ := List.mem_map.1 bound
  obtain ⟨node, j, there, queue, _⟩ := (after.bound _).1 entry
  have place := (getElem?_share.1 here).2
  have same : d.numaNode = node := by
    have one := node_of_mem_staff (List.mem_of_getElem? place)
    exact Option.some.inj (one.symm.trans (node_of_mem_staff (List.mem_of_getElem? there)))
  subst same
  have early : j < demand served d.numaNode := by
    rw [← length_queuesOn]
    exact (List.getElem?_eq_some_iff.1 queue).1
  have unique := (List.getElem?_inj (List.getElem?_eq_some_iff.1 there).1 (nodup_staff cores _)).1
    (there.trans place.symm)
  omega

theorem granted (after : Served cores served s) (known : 0 ≤ d.numaNode) :
    d.descriptors.zip ((s.pools.free d.numaNode.toNat).take d.queues) = grants cores served d := by
  rw [after.free_eq known, grants, share]

theorem perm_take (after : Served cores served s) (servable : Servable (served ++ [d]) cores) :
    (s.take d).bindings.Perm (s.bindings ++ (grants cores served d).map entry) := by
  obtain ⟨_, known, _, staffed⟩ := servable_snoc_iff.1 servable
  have cpus := cpus_grants staffed
  rw [Progress.take, after.granted known]
  refine perm_foldl_bind ?_ ?_
  · rw [cpus]
    exact nodup_share cores served d
  · rw [cpus]
    exact fun cpu => after.not_bound_of_mem_share

theorem pools_take (after : Served cores served s) (known : 0 ≤ d.numaNode) (node : Nat) :
    (s.take d).pools.free node = (staff cores node).drop (demand (served ++ [d]) node) := by
  rw [Progress.take, demand_snoc]
  by_cases here : node = d.numaNode.toNat
  case pos =>
    have same : d.numaNode = node := by omega
    rw [if_pos same, here, Pools.free_insert_self, ← here, after.pools, List.drop_drop]
  case neg =>
    rw [if_neg (by omega), Pools.free_insert_of_ne here, after.pools, Nat.add_zero]

theorem bound_take (after : Served cores served s) (servable : Servable (served ++ [d]) cores)
    (b : Nat × Binding) : b ∈ (s.take d).bindings ↔
      ∃ (node : Int) (k : Nat), (staff cores node)[k]? = some b.1 ∧
        (queuesOn (served ++ [d]) node)[k]? = some b.2.queue ∧
        b.2.txQueue = b.2.queue.id.queue := by
  rw [(after.perm_take servable).mem_iff, List.mem_append, after.bound, mem_grants]
  simp only [getElem?_queuesOn_snoc, or_and_right, and_or_left, exists_or]
  refine or_congr Iff.rfl ⟨?_, ?_⟩
  · rintro ⟨k, cpu, queue, tx⟩
    exact ⟨d.numaNode, _, cpu, ⟨rfl, k, rfl, queue⟩, tx⟩
  · rintro ⟨_, _, cpu, ⟨rfl, k, rfl, queue⟩, tx⟩
    exact ⟨k, cpu, queue, tx⟩

theorem queues_take (after : Served cores served s) (servable : Servable (served ++ [d]) cores) :
    ((s.take d).bindings.map fun b => b.2.queue).Perm
      ((served ++ [d]).flatMap DeviceQueues.descriptors) := by
  obtain ⟨_, _, _, staffed⟩ := servable_snoc_iff.1 servable
  have queues := (after.perm_take servable).map fun b => b.2.queue
  have own : ((grants cores served d).map entry).map (fun b => b.2.queue) = d.descriptors := by
    rw [List.map_map]
    exact List.map_fst_zip (Nat.le_of_eq (length_share staffed).symm)
  rw [List.map_append, own] at queues
  rw [List.flatMap_append, List.flatMap_singleton]
  exact queues.trans (after.queues.append_right _)

theorem acquired_take (after : Served cores served s)
    (servable : Servable (served ++ [d]) cores) :
    List.Forall₂ (Listed (s.take d).bindings) (served ++ [d]) (s.take d).acquired := by
  obtain ⟨_, known, _, staffed⟩ := servable_snoc_iff.1 servable
  have bindings := after.perm_take servable
  refine List.rel_append (after.acquired.imp fun d' x listed => ?_) (.cons ?_ .nil)
  · refine { listed with bound := fun pair member => bindings.mem_iff.2 ?_ }
    exact List.mem_append_left _ (listed.bound pair member)
  · rw [after.granted known, cpus_grants staffed]
    refine ⟨rfl, Int.toNat_of_nonneg known, ?_, fun pair member => ?_⟩
    · exact (length_share staffed).trans (length_descriptors d)
    · exact bindings.mem_iff.2 (List.mem_append_right _ (List.mem_map_of_mem member))

/-- Serving one more device, whose node has CPUs left for its queues, takes them from its pool. -/
theorem take (after : Served cores served s) (servable : Servable (served ++ [d]) cores) :
    Served cores (served ++ [d]) (s.take d) where
  servable := servable
  pools := after.pools_take (servable_snoc_iff.1 servable).2.1
  ascending := ascending_foldl_bind after.ascending _
  bound := after.bound_take servable
  queues := after.queues_take servable
  acquired := after.acquired_take servable

theorem serve_iff (after : Served cores served s) :
    serve s d = .ok s' ↔ Servable (served ++ [d]) cores ∧ s.take d = s' := by
  constructor
  · intro ok
    obtain ⟨⟨known, queues, enough⟩, next⟩ := enough_of_serve ok
    have left := after.length_free known
    exact ⟨servable_snoc_iff.2 ⟨after.servable, known, queues, by omega⟩, next⟩
  · rintro ⟨servable, rfl⟩
    obtain ⟨_, known, queues, staffed⟩ := servable_snoc_iff.1 servable
    have left := after.length_free known
    exact serve_of_enough known queues (by omega)

theorem refused_iff (after : Served cores served s) :
    serve s d = .error e ↔
      ∃ available, available + demand served d.numaNode = (staff cores d.numaNode).length ∧
        Refused available d e := by
  rw [serve_eq_error_iff]
  by_cases known : 0 ≤ d.numaNode
  · have left := after.length_free known
    constructor
    · exact fun refused => ⟨_, left, refused⟩
    · rintro ⟨available, rest, refused⟩
      obtain rfl : available = (s.pools.free d.numaNode.toNat).length := by omega
      exact refused
  · have any (available other : Nat) (refused : Refused available d e) : Refused other d e := by
      cases refused with
      | unknownNode unknown => exact .unknownNode unknown
      | noLocalWorkers same => omega
      | noQueues nonneg => omega
    have staffed := after.servable.staffed d.numaNode
    constructor
    · exact fun refused => ⟨_, Nat.sub_add_cancel staffed, any _ _ refused⟩
    · rintro ⟨available, _, refused⟩
      exact any _ _ refused

/-! ## All devices -/

theorem run (after : Served cores served s) (ok : devices.foldlM serve s = .ok s') :
    Served cores (served ++ devices) s' := by
  induction devices generalizing served s with
  | nil =>
    cases ok
    rwa [List.append_nil]
  | cons d rest ih =>
    rw [List.foldlM_cons] at ok
    cases first : serve s d with
    | error e => rw [first] at ok; cases ok
    | ok next =>
      rw [first] at ok
      obtain ⟨servable, rfl⟩ := after.serve_iff.1 first
      rw [List.append_cons]
      exact ih (after.take servable) ok

theorem run_iff (after : Served cores served s) :
    (∃ s', devices.foldlM serve s = .ok s') ↔ Servable (served ++ devices) cores := by
  refine ⟨fun ⟨s', ok⟩ => (after.run ok).servable, fun servable => ?_⟩
  induction devices generalizing served s with
  | nil => exact ⟨s, rfl⟩
  | cons d rest ih =>
    rw [List.append_cons] at servable
    have here := servable.of_append
    obtain ⟨s', ok⟩ := ih (after.take here) servable
    refine ⟨s', ?_⟩
    rw [List.foldlM_cons, after.serve_iff.2 ⟨here, rfl⟩]
    exact ok

/-- Serving stops at the first device that is refused. -/
theorem stop_iff (after : Served cores served s) :
    devices.foldlM serve s = .error e ↔
      ∃ before d rest available, devices = before ++ d :: rest ∧
        Servable (served ++ before) cores ∧
        available + demand (served ++ before) d.numaNode = (staff cores d.numaNode).length ∧
        Refused available d e := by
  constructor
  · intro stopped
    induction devices generalizing served s with
    | nil => cases stopped
    | cons d rest ih =>
      rw [List.foldlM_cons] at stopped
      cases first : serve s d with
      | error refused =>
        rw [first] at stopped
        cases stopped
        obtain ⟨available, left, why⟩ := after.refused_iff.1 first
        refine ⟨[], d, rest, available, rfl, ?_, ?_, why⟩
        · rw [List.append_nil]
          exact after.servable
        · rwa [List.append_nil]
      | ok next =>
        rw [first] at stopped
        obtain ⟨servable, rfl⟩ := after.serve_iff.1 first
        obtain ⟨before, d', rest', available, rfl, ready, left, why⟩ :=
          ih (after.take servable) stopped
        rw [← List.append_cons] at ready left
        exact ⟨d :: before, d', rest', available, rfl, ready, left, why⟩
  · rintro ⟨before, d, rest, available, rfl, servable, left, why⟩
    obtain ⟨next, ok⟩ := after.run_iff.2 servable
    rw [List.foldlM_append, ok]
    change (d :: rest).foldlM serve next = _
    rw [List.foldlM_cons, (after.run ok).refused_iff.2 ⟨available, left, why⟩]
    rfl

end Served

/-! ## Assignments -/

theorem nodup_ids_descriptors (d : DeviceQueues) :
    (d.descriptors.map QueueDescriptor.id).Nodup := by
  rw [DeviceQueues.descriptors, List.map_map, List.nodup_iff_pairwise_ne, List.pairwise_map]
  exact List.nodup_range.imp fun different same => different (congrArg QueueId.queue same)

theorem nodup_ids_queues (once : (devices.map DeviceQueues.device).Nodup) :
    ((devices.flatMap DeviceQueues.descriptors).map QueueDescriptor.id).Nodup := by
  have number : ∀ (d : DeviceQueues), ∀ id ∈ d.descriptors.map QueueDescriptor.id,
      id.device = d.device := by
    intro d id member
    simp only [DeviceQueues.descriptors, List.map_map, List.mem_map] at member
    obtain ⟨k, _, rfl⟩ := member
    rfl
  induction devices with
  | nil => exact List.nodup_nil
  | cons d rest ih =>
    obtain ⟨fresh, others⟩ := List.nodup_cons.1 once
    rw [List.flatMap_cons, List.map_append, List.nodup_append]
    refine ⟨nodup_ids_descriptors d, ih others, ?_⟩
    rintro id here _ later rfl
    rw [List.map_flatMap] at later
    obtain ⟨e, listed, member⟩ := List.mem_flatMap.1 later
    refine fresh (List.mem_map.2 ⟨e, listed, ?_⟩)
    rw [← number e id member, number d id here]

theorem Served.exact (after : Served cores devices s) : Exact devices cores s.toAssignment := by
  have found (cpu : Nat) (binding : Binding) :
      s.bindings.lookup cpu = some binding ↔ (cpu, binding) ∈ s.bindings :=
    NatMap.lookup_eq_some_iff_mem after.ascending
  refine ⟨fun cpu binding => (found cpu binding).trans (after.bound _),
    fun cpu binding => (found cpu binding).symm, after.ascending, after.queues, ?_, ?_, ?_,
    after.acquired⟩
  · have length := after.queues.length_eq
    rwa [List.length_map, length_flatMap_descriptors] at length
  · intro different
    have ids := (after.queues.map QueueDescriptor.id).nodup_iff.2 (nodup_ids_queues different)
    rwa [List.map_map] at ids
  · intro b member
    obtain ⟨node, k, cpu, queue, _⟩ := (after.bound b).1 member
    rw [node_of_mem_staff (List.mem_of_getElem? cpu),
      node_of_mem_queuesOn (List.mem_of_getElem? queue)]

theorem of_eq_ok_iff {a : Assignment} :
    of devices cores = .ok a ↔
      ∃ s, devices.foldlM serve (start cores) = .ok s ∧ s.toAssignment = a := by
  rw [of]
  cases devices.foldlM serve (start cores) with
  | error e => exact ⟨nofun, fun ⟨_, never, _⟩ => by cases never⟩
  | ok s =>
    constructor
    · intro same
      exact ⟨s, rfl, Except.ok.inj same⟩
    · rintro ⟨_, same, rfl⟩
      cases same
      rfl

theorem of_eq_error_iff :
    of devices cores = .error e ↔ devices.foldlM serve (start cores) = .error e := by
  rw [of]
  cases devices.foldlM serve (start cores) with
  | error e' => exact ⟨fun same => by cases same; rfl, fun same => by cases same; rfl⟩
  | ok s => constructor <;> nofun

/-- Devices are all served exactly if they can be, each node's queues then having the CPUs of the
node in their order. Otherwise the first device that cannot be served behind those before it is
reported. -/
theorem of_greedy_exact (devices : List DeviceQueues) (cores : List Lcore) :
    ((∃ a, of devices cores = .ok a) ↔ Servable devices cores) ∧
      (∀ a, of devices cores = .ok a → Exact devices cores a) ∧
      ∀ e, of devices cores = .error e ↔
        ∃ before d rest available, devices = before ++ d :: rest ∧ Servable before cores ∧
          available + demand before d.numaNode = (staff cores d.numaNode).length ∧
          Refused available d e := by
  have begun := served_start cores
  refine ⟨⟨?_, fun servable => ?_⟩, fun a ok => ?_, fun e => of_eq_error_iff.trans begun.stop_iff⟩
  · rintro ⟨a, ok⟩
    obtain ⟨s, run, _⟩ := of_eq_ok_iff.1 ok
    exact begun.run_iff.1 ⟨s, run⟩
  · obtain ⟨s, run⟩ := begun.run_iff.2 servable
    exact ⟨s.toAssignment, of_eq_ok_iff.2 ⟨s, run, rfl⟩⟩
  · obtain ⟨s, run, rfl⟩ := of_eq_ok_iff.1 ok
    exact (begun.run run).exact

theorem of_greedy_exact_interleaved :
    let devices : List DeviceQueues := [⟨0, 1, 2⟩, ⟨1, 0, 1⟩, ⟨2, 1, 1⟩]
    let cores : List Lcore := [⟨8, 1⟩, ⟨1, 0⟩, ⟨8, 0⟩, ⟨9, 1⟩, ⟨10, 1⟩]
    ∃ a, of devices cores = .ok a ∧ a.get? 10 = some ⟨⟨⟨2, 0⟩, 1⟩, 0⟩ := by
  intro devices cores
  obtain ⟨a, ok⟩ : ∃ a, of devices cores = .ok a := ⟨_, rfl⟩
  have exact := (of_greedy_exact devices cores).2.1 a ok
  exact ⟨a, ok, (exact.bound 10 _).2 ⟨1, 2, by decide, by decide, rfl⟩⟩

end Boomerang.Assignment
