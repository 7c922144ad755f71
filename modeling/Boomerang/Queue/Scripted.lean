import Boomerang.Queue.Memory

/-!
A memory queue with scripted failures: a reception that stalls after a number of packets, and
transmissions that fail after offering only the first packets of their list.
-/

set_option autoImplicit false

namespace Boomerang

structure TransmitFailure where
  offered : Nat
  error : String

structure ScriptedQueue where
  memory : MemoryQueue
  stallAfter : Option Nat
  failures : List TransmitFailure
  starved : Nat

namespace ScriptedQueue

def ofCapacity? (capacity : Nat) : Option ScriptedQueue :=
  (MemoryQueue.ofCapacity? capacity).map fun memory => ⟨memory, none, [], 0⟩

/-- A failure of the memory queue itself comes before the scripted one. -/
def receive (q : ScriptedQueue) (max : Nat) : Reception × ScriptedQueue :=
  match q.stallAfter with
  | none =>
    let (r, memory) := q.memory.receive max
    (r, { q with memory })
  | some n =>
    let (r, memory) := q.memory.receive (min n max)
    (⟨r.packets, some (r.error.getD "ring stalled")⟩, { q with memory, stallAfter := none })

def transmit (q : ScriptedQueue) (packets : List Packet) : Transmission × ScriptedQueue :=
  match q.failures with
  | [] =>
    let (t, memory) := q.memory.transmit packets
    (t, { q with memory })
  | failure :: failures =>
    let (t, memory) := q.memory.transmit (packets.take failure.offered)
    (⟨t.taken, some failure.error⟩, { q with memory, failures })

def takeStarved (q : ScriptedQueue) : Nat × ScriptedQueue := (q.starved, { q with starved := 0 })

theorem receive_length_le (q : ScriptedQueue) (max : Nat) :
    (q.receive max).1.packets.length ≤ max := by
  unfold receive
  split
  · exact q.memory.receive_length_le max
  · next n _ => exact Nat.le_trans (q.memory.receive_length_le (min n max)) (Nat.min_le_right n max)

theorem transmit_taken_le (q : ScriptedQueue) (packets : List Packet) :
    (q.transmit packets).1.taken ≤ packets.length := by
  unfold transmit
  split
  · exact q.memory.accepts_le packets.length
  · next failure _ _ =>
    refine Nat.le_trans (q.memory.accepts_le (packets.take failure.offered).length) ?_
    simp only [List.length_take]; omega

instance : PacketQueue ScriptedQueue where
  receive := receive
  transmit := transmit
  takeStarved := takeStarved
  receive_le := receive_length_le
  transmit_le := transmit_taken_le

end ScriptedQueue

end Boomerang
