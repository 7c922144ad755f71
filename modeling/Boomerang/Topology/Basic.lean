import Boomerang.Topology.CpuList

/-!
NUMA nodes of a host: which node each CPU belongs to, and which node a device belongs to. The host
lists its nodes as directory entries, each with a list of CPUs; entries that cannot be used are left
out, and a host without any is a single node 0.
-/

set_option autoImplicit false

namespace Boomerang

structure NodeEntry where
  name : String
  cpuList : Option String
  deriving DecidableEq, Repr

namespace NodeEntry

def number? (name : String) : Option Nat :=
  match name.toList with
  | 'n' :: 'o' :: 'd' :: 'e' :: number => Text.natural? 10 UInt32.size number
  | _ => none

inductive Meaning where
  | unrelated
  | skipped
  | node (number : Nat) (cpus : List Nat)
  deriving DecidableEq, Repr

def meaning (e : NodeEntry) : Meaning :=
  match number? e.name with
  | none => .unrelated
  | some number =>
    match e.cpuList.map CpuList.ofText with
    | some (.ok cpus) => .node number cpus
    | _ => .skipped

def node? (e : NodeEntry) : Option (Nat × List Nat) :=
  match e.meaning with
  | .node number cpus => some (number, cpus)
  | _ => none

end NodeEntry

structure Topology where
  /-- The nodes found, ascending. -/
  nodes : List Nat
  /-- CPUs with their nodes; of two entries for one CPU the first counts. -/
  owners : List (Nat × Nat)
  deriving DecidableEq, Repr

namespace Topology

/-- Of two nodes that list the same CPU, the later entry gets it. -/
def ofEntries (entries : List NodeEntry) : Topology :=
  let found := entries.filterMap NodeEntry.node?
  let numbers := (found.map Prod.fst).mergeSort fun a b => decide (a ≤ b)
  ⟨if numbers.isEmpty then [0] else numbers,
    found.reverse.flatMap fun (number, cpus) => cpus.map fun cpu => (cpu, number)⟩

/-- The names of entries that announce a node but cannot be used. -/
def skipped (entries : List NodeEntry) : List String :=
  (entries.filter fun e => e.meaning = .skipped).map NodeEntry.name

def nodeOf (t : Topology) (cpu : Nat) : Nat := (t.owners.lookup cpu).getD 0

def announced? (text : String) : Option Int :=
  (Text.integer? 32 (Text.trim text.toList)).filter fun node => decide (0 ≤ node)

/-- The node of a device: the configured one, else the announced one, else the only node there is,
as a signed word; -1 where several come into question. -/
def deviceNode (t : Topology) (announcement : Option String) (configured : Option Int) : Int :=
  match configured with
  | some node => node
  | none =>
    match announcement.bind announced? with
    | some node => node
    | none =>
      match t.nodes with
      | [node] => Int.bmod node UInt32.size
      | _ => -1

end Topology

end Boomerang
