import Boomerang.Queue.Scripted

/-!
A bench to run workers on: a pool of its own and a queue with scripted failures. Frames are copied
into packets of the pool and injected; what was transmitted is collected and its packets go back.
-/

set_option autoImplicit false

namespace Boomerang

structure Bench where
  pool : Pool
  queue : ScriptedQueue

/-- What became of an injected frame; its packet is back in the pool unless it was accepted. -/
inductive Injection where
  | accepted
  | poolEmpty
  | doesNotFit
  | queueFull
  deriving DecidableEq, Repr

namespace Bench

def ofShape? (shape : Pool.Shape) (capacity : Nat) : Option Bench :=
  (ScriptedQueue.ofCapacity? capacity).map fun queue => ⟨Pool.ofShape shape, queue⟩

def inject (b : Bench) (frame : Octets) : Injection × Bench :=
  match b.pool.load frame with
  | (.error .empty, pool) => (.poolEmpty, { b with pool })
  | (.error .doesNotFit, pool) => (.doesNotFit, { b with pool })
  | (.ok packet, pool) =>
    match b.queue.memory.inject? packet with
    | none => (.queueFull, { b with pool := pool.give packet })
    | some memory => (.accepted, { b with pool, queue := { b.queue with memory } })

def collect (b : Bench) : List Octets × Bench :=
  let (packets, memory) := b.queue.memory.takeSent
  (packets.map Packet.frame,
    { b with pool := b.pool.giveAll packets, queue := { b.queue with memory } })

def setBudget (b : Bench) (packets : Option Nat) : Bench :=
  { b with queue.memory := b.queue.memory.setBudget (packets.getD (UInt64.size - 1)) }

def failNextReception (b : Bench) : Bench :=
  { b with queue.memory := b.queue.memory.failNextReception }

def stallAfter (b : Bench) (packets : Nat) : Bench := { b with queue.stallAfter := some packets }

def failTransmit (b : Bench) (offered : Nat) (error : String) : Bench :=
  { b with queue.failures := b.queue.failures ++ [⟨offered, error⟩] }

def starve (b : Bench) (count : Nat) : Bench := { b with queue.starved := b.queue.starved + count }

def pendingReception (b : Bench) : Nat := b.queue.memory.waiting.length

end Bench

end Boomerang
