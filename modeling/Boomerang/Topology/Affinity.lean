import Boomerang.Topology.CpuList

/-!
The CPUs that a thread may run on. Workers get all of them but the first, which is left to the
thread that supervises.
-/

set_option autoImplicit false

namespace Boomerang

structure Affinity where
  cpus : List Nat
  ascending : cpus.Pairwise (· < ·)

namespace Affinity

/-- CPU numbers that the host's sets of CPUs can hold lie below this. -/
def maxCpus : Nat := 1024

def workers (a : Affinity) : List Nat := a.cpus.tail

def pinned (cpu : Nat) : Except CpuError Affinity :=
  if maxCpus ≤ cpu then .error (.outOfRange cpu) else .ok ⟨[cpu], by simp⟩

end Affinity

end Boomerang
