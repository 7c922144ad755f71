import Boomerang.Proofs.Numeral
import Boomerang.Proofs.Pieces
import Boomerang.Topology.Basic
import Mathlib.Data.List.Permutation

/-!
The nodes that a host lists. An entry counts if its name announces a number and its list of CPUs can
be read; what such entries say is found, and nothing else. As long as no CPU is on two nodes, the
order of the entries does not matter, although of two entries for one CPU the later one would win.
-/

set_option autoImplicit false

namespace Boomerang

open Text

/-- The entry announces node `number` by its name, and its list of CPUs reads as `cpus`. -/
def NodeEntry.Describes (e : NodeEntry) (number : Nat) (cpus : List Nat) : Prop :=
  ∃ digits text, e.name.toList = "node".toList ++ digits ∧ Number 10 UInt32.size number digits ∧
    e.cpuList = some text ∧ CpuList.ofText text = .ok cpus

namespace Topology

/-- The numbers that the entries announce, one for each entry that describes a node. -/
inductive Numbers : List NodeEntry → List Nat → Prop
  | nil : Numbers [] []
  | described {e : NodeEntry} {entries : List NodeEntry} {numbers : List Nat} {number : Nat}
      {cpus : List Nat} (describes : e.Describes number cpus) (rest : Numbers entries numbers) :
      Numbers (e :: entries) (number :: numbers)
  | skipped {e : NodeEntry} {entries : List NodeEntry} {numbers : List Nat}
      (none : ∀ number cpus, ¬ e.Describes number cpus) (rest : Numbers entries numbers) :
      Numbers (e :: entries) numbers

/-- The text is a number that is not negative, with blanks around it. -/
def Announces (text : String) (node : Int) : Prop :=
  ∃ core, Trimmed core text.toList ∧ Integer 32 node core ∧ 0 ≤ node

/-- The node of a device on a host with these nodes. -/
inductive DeviceAt (nodes : List Nat) (announcement : Option String) : Option Int → Int → Prop
  | configured (node : Int) : DeviceAt nodes announcement (some node) node
  | announced {text : String} {node : Int} (given : announcement = some text)
      (announces : Announces text node) : DeviceAt nodes announcement none node
  | only {node : Nat} (silent : ∀ text node, announcement = some text → ¬ Announces text node)
      (one : nodes = [node]) : DeviceAt nodes announcement none node
  | unknown (silent : ∀ text node, announcement = some text → ¬ Announces text node)
      (several : nodes.length ≠ 1) : DeviceAt nodes announcement none (-1)

/-- No CPU is on two nodes. -/
def Apart (entries : List NodeEntry) : Prop :=
  ∀ e ∈ entries, ∀ e' ∈ entries, ∀ number cpus number' cpus', e.Describes number cpus →
    e'.Describes number' cpus' → number ≠ number' → cpus.Disjoint cpus'

/-- What a host that lists these entries comes to. -/
structure Discovered (entries : List NodeEntry) (t : Topology) : Prop where
  listed : ∀ e ∈ entries, ∀ number cpus, e.Describes number cpus →
    ∀ cpu ∈ cpus, t.nodeOf cpu = number
  unlisted : ∀ cpu, (∀ e ∈ entries, ∀ number cpus, e.Describes number cpus → cpu ∉ cpus) →
    t.nodeOf cpu = 0
  ascending : t.nodes.Pairwise (· ≤ ·)
  nodes : ∃ numbers, Numbers entries numbers ∧
    (numbers = [] → t.nodes = [0]) ∧ (numbers ≠ [] → t.nodes.Perm numbers)
  device : ∀ announcement configured node,
    t.deviceNode announcement configured = node ↔
      DeviceAt t.nodes announcement configured node

/-- Nobody who asks can tell the two apart. -/
structure Alike (t u : Topology) : Prop where
  nodes : t.nodes = u.nodes
  nodeOf : ∀ cpu, t.nodeOf cpu = u.nodeOf cpu
  device : ∀ announcement configured,
    t.deviceNode announcement configured = u.deviceNode announcement configured

end Topology

/-! ## Entries -/

theorem NodeEntry.number?_eq_some_iff {name : String} {number : Nat} :
    number? name = some number ↔
      ∃ digits, name.toList = "node".toList ++ digits ∧ Number 10 UInt32.size number digits := by
  unfold number?
  constructor
  · intro read
    split at read
    case h_1 digits shape => exact ⟨digits, shape, natural?_eq_some_iff.1 read⟩
    case h_2 => cases read
  · rintro ⟨digits, shape, number⟩
    rw [shape]
    exact natural?_eq_some_iff.2 number

theorem NodeEntry.node?_eq_some_iff {e : NodeEntry} {number : Nat} {cpus : List Nat} :
    e.node? = some (number, cpus) ↔ e.Describes number cpus := by
  unfold node? meaning
  constructor
  · intro found
    cases named : number? e.name with
    | none => simp [named] at found
    | some n =>
      obtain ⟨digits, shape, announced⟩ := number?_eq_some_iff.1 named
      cases listed : e.cpuList with
      | none => simp [named, listed] at found
      | some text =>
        cases read : CpuList.ofText text with
        | error reason => simp [named, listed, read] at found
        | ok list =>
          simp only [named, listed, read, Option.map_some] at found
          cases found
          exact ⟨digits, text, shape, announced, listed, read⟩
  · rintro ⟨digits, text, shape, announced, listed, read⟩
    rw [number?_eq_some_iff.2 ⟨digits, shape, announced⟩, listed]
    simp only [Option.map_some, read]

namespace Topology

variable {entries others : List NodeEntry} {cpu number : Nat}

theorem numbers_found (entries : List NodeEntry) :
    Numbers entries ((entries.filterMap NodeEntry.node?).map Prod.fst) := by
  induction entries with
  | nil => exact .nil
  | cons e rest ih =>
    cases found : e.node? with
    | none =>
      rw [List.filterMap_cons_none found]
      refine .skipped (fun number cpus describes => ?_) ih
      rw [NodeEntry.node?_eq_some_iff.2 describes] at found
      cases found
    | some node =>
      rw [List.filterMap_cons_some found]
      exact .described (NodeEntry.node?_eq_some_iff.1 found) ih

theorem Numbers.exists_describes {numbers : List Nat} (all : Numbers entries numbers)
    (member : number ∈ numbers) : ∃ e ∈ entries, ∃ cpus, e.Describes number cpus := by
  induction all with
  | nil => cases member
  | @described e _ _ n cpus describes _ ih =>
    rcases List.mem_cons.1 member with rfl | member
    · exact ⟨e, List.mem_cons_self, cpus, describes⟩
    · obtain ⟨e, listed, described⟩ := ih member
      exact ⟨e, List.mem_cons_of_mem _ listed, described⟩
  | skipped _ _ ih =>
    obtain ⟨e, listed, described⟩ := ih member
    exact ⟨e, List.mem_cons_of_mem _ listed, described⟩

/-! ## CPUs -/

theorem mem_owners_iff : (cpu, number) ∈ (ofEntries entries).owners ↔
    ∃ e ∈ entries, ∃ cpus, e.Describes number cpus ∧ cpu ∈ cpus := by
  simp only [ofEntries, List.mem_flatMap, List.mem_reverse, List.mem_filterMap, List.mem_map,
    Prod.exists, Prod.mk.injEq, NodeEntry.node?_eq_some_iff]
  constructor
  · rintro ⟨_, cpus, ⟨e, listed, describes⟩, _, member, rfl, rfl⟩
    exact ⟨e, listed, cpus, describes, member⟩
  · rintro ⟨e, listed, cpus, describes, member⟩
    exact ⟨number, cpus, ⟨e, listed, describes⟩, cpu, member, rfl, rfl⟩

theorem lookup_of_unique {pairs : List (Nat × Nat)} (member : (cpu, number) ∈ pairs)
    (unique : ∀ other, (cpu, other) ∈ pairs → other = number) :
    pairs.lookup cpu = some number := by
  cases found : pairs.lookup cpu with
  | none =>
    have absent := List.lookup_eq_none_iff.1 found _ member
    simp at absent
  | some other =>
    obtain ⟨front, back, rfl, _⟩ := List.lookup_eq_some_iff.1 found
    rw [unique other (by simp)]

theorem nodeOf_listed (apart : Apart entries) {e : NodeEntry} {cpus : List Nat}
    (listed : e ∈ entries) (describes : e.Describes number cpus) (member : cpu ∈ cpus) :
    (ofEntries entries).nodeOf cpu = number := by
  have owned : (cpu, number) ∈ (ofEntries entries).owners :=
    mem_owners_iff.2 ⟨e, listed, cpus, describes, member⟩
  have found : (ofEntries entries).owners.lookup cpu = some number := by
    refine lookup_of_unique owned fun other also => ?_
    obtain ⟨e', listed', cpus', describes', member'⟩ := mem_owners_iff.1 also
    by_contra different
    exact apart e' listed' e listed _ _ _ _ describes' describes different member' member
  rw [nodeOf, found, Option.getD_some]

theorem nodeOf_unlisted
    (unlisted : ∀ e ∈ entries, ∀ number cpus, e.Describes number cpus → cpu ∉ cpus) :
    (ofEntries entries).nodeOf cpu = 0 := by
  have missing : (ofEntries entries).owners.lookup cpu = none := by
    rw [List.lookup_eq_none_iff]
    rintro ⟨owned, number⟩ member
    obtain ⟨e, listed, cpus, describes, inside⟩ := mem_owners_iff.1 member
    rw [bne_iff_ne]
    rintro rfl
    exact unlisted e listed number cpus describes inside
  rw [nodeOf, missing, Option.getD_none]

/-! ## Nodes -/

def sortedNumbers (entries : List NodeEntry) : List Nat :=
  CpuList.sorted ((entries.filterMap NodeEntry.node?).map Prod.fst)

theorem nodes_ofEntries (entries : List NodeEntry) :
    (ofEntries entries).nodes =
      if (sortedNumbers entries).isEmpty then [0] else sortedNumbers entries := rfl

theorem perm_sortedNumbers (entries : List NodeEntry) :
    (sortedNumbers entries).Perm ((entries.filterMap NodeEntry.node?).map Prod.fst) :=
  List.mergeSort_perm _ _

theorem pairwise_sortedNumbers (entries : List NodeEntry) :
    (sortedNumbers entries).Pairwise (· ≤ ·) :=
  CpuList.pairwise_sorted _

/-- Sorting forgets the order of the entries. -/
theorem sortedNumbers_eq (same : others.Perm entries) :
    sortedNumbers others = sortedNumbers entries := by
  have numbers := (same.filterMap NodeEntry.node?).map Prod.fst
  refine List.Perm.eq_of_pairwise (fun a b _ _ => Nat.le_antisymm)
    (pairwise_sortedNumbers others) (pairwise_sortedNumbers entries) ?_
  exact ((perm_sortedNumbers others).trans numbers).trans (perm_sortedNumbers entries).symm

theorem ascending_ofEntries (entries : List NodeEntry) :
    (ofEntries entries).nodes.Pairwise (· ≤ ·) := by
  rw [nodes_ofEntries]
  split
  · exact List.pairwise_singleton _ _
  · exact pairwise_sortedNumbers entries

theorem nodes_of_numbers (entries : List NodeEntry) : ∃ numbers, Numbers entries numbers ∧
    (numbers = [] → (ofEntries entries).nodes = [0]) ∧
      (numbers ≠ [] → (ofEntries entries).nodes.Perm numbers) := by
  have sorted := perm_sortedNumbers entries
  refine ⟨_, numbers_found entries, fun none => ?_, fun some => ?_⟩
  · rw [none, List.perm_nil] at sorted
    rw [nodes_ofEntries, sorted]
    rfl
  · have nonempty : ¬ (sortedNumbers entries).isEmpty := by
      rw [List.isEmpty_iff]
      rintro none
      rw [none] at sorted
      exact some sorted.symm.eq_nil
    rw [nodes_ofEntries, if_neg nonempty]
    exact sorted

theorem exists_describes_of_mem_nodes (member : number ∈ (ofEntries entries).nodes) :
    number = 0 ∨ ∃ e ∈ entries, ∃ cpus, e.Describes number cpus := by
  obtain ⟨numbers, all, none, some⟩ := nodes_of_numbers entries
  by_cases empty : numbers = []
  · rw [none empty, List.mem_singleton] at member
    exact .inl member
  · exact .inr (all.exists_describes ((some empty).mem_iff.1 member))

/-! ## Devices -/

theorem announced?_eq_some_iff {text : String} {node : Int} :
    announced? text = some node ↔ Announces text node := by
  rw [announced?, Option.filter_eq_some_iff, integer?_eq_some_iff, decide_eq_true_eq, Announces]
  simp only [← trim_eq_iff, exists_eq_left']

theorem announced?_eq_none_iff {announcement : Option String} :
    announcement.bind announced? = none ↔
      ∀ text node, announcement = some text → ¬ Announces text node := by
  rw [Option.bind_eq_none_iff]
  constructor
  · intro none text node given announces
    have found := announced?_eq_some_iff.2 announces
    rw [none text given] at found
    cases found
  · intro silent text given
    cases found : announced? text with
    | none => rfl
    | some node => exact absurd (announced?_eq_some_iff.1 found) (silent text node given)

theorem bmod_of_small (small : number < 2 ^ 31) : Int.bmod number UInt32.size = number := by
  apply Int.bmod_eq_of_le <;> simp only [UInt32.size] <;> omega

theorem deviceNode_of_deviceAt {t : Topology} (small : ∀ n ∈ t.nodes, n < 2 ^ 31)
    {announcement : Option String} {configured : Option Int} {node : Int}
    (placed : DeviceAt t.nodes announcement configured node) :
    t.deviceNode announcement configured = node := by
  cases placed with
  | configured => rfl
  | announced given announces =>
    have found := announced?_eq_some_iff.2 announces
    simp only [deviceNode, given, Option.bind_some, found]
  | only silent one =>
    rename_i n
    have inside : n ∈ t.nodes := one ▸ List.mem_singleton_self n
    simp only [deviceNode, announced?_eq_none_iff.2 silent, one, bmod_of_small (small n inside)]
  | unknown silent several =>
    simp only [deviceNode, announced?_eq_none_iff.2 silent]
    split
    case h_1 n one => exact absurd (congrArg List.length one) several
    case h_2 => rfl

theorem exists_deviceAt (nodes : List Nat) (announcement : Option String)
    (configured : Option Int) : ∃ node, DeviceAt nodes announcement configured node := by
  cases configured with
  | some node => exact ⟨node, .configured node⟩
  | none =>
    cases found : announcement.bind announced? with
    | some node =>
      obtain ⟨text, given, read⟩ := Option.bind_eq_some_iff.1 found
      exact ⟨node, .announced given (announced?_eq_some_iff.1 read)⟩
    | none =>
      have silent := announced?_eq_none_iff.1 found
      by_cases one : nodes.length = 1
      · obtain ⟨node, one⟩ := List.length_eq_one_iff.1 one
        exact ⟨node, .only silent one⟩
      · exact ⟨-1, .unknown silent one⟩

theorem deviceNode_eq_iff {t : Topology} (small : ∀ n ∈ t.nodes, n < 2 ^ 31)
    {announcement : Option String} {configured : Option Int} {node : Int} :
    t.deviceNode announcement configured = node ↔
      DeviceAt t.nodes announcement configured node := by
  refine ⟨?_, deviceNode_of_deviceAt small⟩
  rintro rfl
  obtain ⟨node, placed⟩ := exists_deviceAt t.nodes announcement configured
  rwa [deviceNode_of_deviceAt small placed]

theorem deviceNode_congr {t u : Topology} (nodes : t.nodes = u.nodes)
    (announcement : Option String) (configured : Option Int) :
    t.deviceNode announcement configured = u.deviceNode announcement configured := by
  simp only [deviceNode, nodes]

/-! ## Hosts -/

theorem nodeOf_perm (apart : Apart entries) (same : others.Perm entries) (cpu : Nat) :
    (ofEntries others).nodeOf cpu = (ofEntries entries).nodeOf cpu := by
  have apart' : Apart others := fun e listed e' listed' =>
    apart e (same.mem_iff.1 listed) e' (same.mem_iff.1 listed')
  by_cases owned : ∃ e ∈ entries, ∃ number cpus, e.Describes number cpus ∧ cpu ∈ cpus
  · obtain ⟨e, listed, number, cpus, describes, member⟩ := owned
    rw [nodeOf_listed apart listed describes member,
      nodeOf_listed apart' (same.mem_iff.2 listed) describes member]
  · have unlisted : ∀ e ∈ entries, ∀ number cpus, e.Describes number cpus → cpu ∉ cpus :=
      fun e listed number cpus describes member =>
        owned ⟨e, listed, number, cpus, describes, member⟩
    rw [nodeOf_unlisted unlisted,
      nodeOf_unlisted fun e listed => unlisted e (same.mem_iff.1 listed)]

/-- A host comes to what its entries say, each for itself, and to the same in whatever order they
are listed. -/
theorem discovery_unordered
    (small : ∀ e ∈ entries, ∀ number cpus, e.Describes number cpus → number < 2 ^ 31)
    (apart : Apart entries) : Discovered entries (ofEntries entries) ∧
      ∀ others : List NodeEntry, others.Perm entries →
        Alike (ofEntries others) (ofEntries entries) := by
  have smallNodes : ∀ n ∈ (ofEntries entries).nodes, n < 2 ^ 31 := by
    intro n member
    rcases exists_describes_of_mem_nodes member with rfl | ⟨e, listed, cpus, describes⟩
    · decide
    · exact small e listed n cpus describes
  constructor
  case left => exact {
    listed := fun _ listed _ _ describes _ member => nodeOf_listed apart listed describes member
    unlisted := fun _ unlisted => nodeOf_unlisted unlisted
    ascending := ascending_ofEntries entries
    nodes := nodes_of_numbers entries
    device := fun _ _ _ => deviceNode_eq_iff smallNodes }
  case right =>
    intro others same
    have nodes : (ofEntries others).nodes = (ofEntries entries).nodes := by
      rw [nodes_ofEntries, nodes_ofEntries, sortedNumbers_eq same]
    exact ⟨nodes, nodeOf_perm apart same, deviceNode_congr nodes⟩

theorem discovery_unordered_backwards :
    let entries : List NodeEntry := [⟨"node1", some "4-7\n"⟩, ⟨"possible", none⟩,
      ⟨"node2", some "x"⟩, ⟨"node0", some "0-3\n"⟩]
    (∀ e ∈ entries, ∀ number cpus, e.Describes number cpus → number < 2 ^ 31) ∧ Apart entries ∧
      (ofEntries entries).nodeOf 6 = 1 ∧ Alike (ofEntries entries.reverse) (ofEntries entries) := by
  intro entries
  have found : entries.filterMap NodeEntry.node? = [(1, [4, 5, 6, 7]), (0, [0, 1, 2, 3])] := by
    cbv
  have described : ∀ e ∈ entries, ∀ number cpus, e.Describes number cpus →
      (number, cpus) ∈ [(1, [4, 5, 6, 7]), (0, [0, 1, 2, 3])] := by
    intro e listed number cpus describes
    rw [← found]
    exact List.mem_filterMap.2 ⟨e, listed, NodeEntry.node?_eq_some_iff.2 describes⟩
  have small : ∀ e ∈ entries, ∀ number cpus, e.Describes number cpus → number < 2 ^ 31 := by
    intro e listed number cpus describes
    have among := described e listed number cpus describes
    simp only [List.mem_cons, Prod.mk.injEq, List.not_mem_nil, or_false] at among
    omega
  have apart : Apart entries := by
    intro e listed e' listed' number cpus number' cpus' describes describes' different
    have among := described e listed number cpus describes
    have among' := described e' listed' number' cpus' describes'
    simp only [List.mem_cons, Prod.mk.injEq, List.not_mem_nil, or_false] at among among'
    rcases among with ⟨rfl, rfl⟩ | ⟨rfl, rfl⟩ <;> rcases among' with ⟨rfl, rfl⟩ | ⟨rfl, rfl⟩
    · exact absurd rfl different
    · simp
    · simp
    · exact absurd rfl different
  obtain ⟨discovered, alike⟩ := discovery_unordered small apart
  have first : NodeEntry.Describes ⟨"node1", some "4-7\n"⟩ 1 [4, 5, 6, 7] :=
    NodeEntry.node?_eq_some_iff.1 (by cbv)
  have six := discovered.listed _ List.mem_cons_self 1 _ first 6 (by decide)
  exact ⟨small, apart, six, alike _ (List.reverse_perm _)⟩

end Topology

end Boomerang
