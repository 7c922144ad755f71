import Boomerang.Queue.Basic

/-!
A queue in memory: two bounded first-in first-out rings. Packets are injected on the receive side
and collected on the transmit side, which may be given a budget of packets.
-/

set_option autoImplicit false

namespace Boomerang

/-- `budget` is how many packets the transmit side still takes; none means any number. -/
structure MemoryQueue where
  capacity : Nat
  waiting : List Packet
  sent : List Packet
  budget : Option Nat
  failNext : Bool
  bursts : Nat
  capacity_pos : 0 < capacity

namespace MemoryQueue

def ofCapacity? (capacity : Nat) : Option MemoryQueue :=
  if h : 0 < capacity then some ⟨capacity, [], [], none, false, 0, h⟩ else none

def inject? (q : MemoryQueue) (packet : Packet) : Option MemoryQueue :=
  if q.waiting.length < q.capacity then some { q with waiting := q.waiting ++ [packet] } else none

def takeSent (q : MemoryQueue) : List Packet × MemoryQueue := (q.sent, { q with sent := [] })

/-- The largest 64-bit number stands for no limit. -/
def setBudget (q : MemoryQueue) (packets : Nat) : MemoryQueue :=
  { q with budget := if packets < UInt64.size - 1 then some packets else none }

def failNextReception (q : MemoryQueue) : MemoryQueue := { q with failNext := true }

def receive (q : MemoryQueue) (max : Nat) : Reception × MemoryQueue :=
  if q.failNext then
    (⟨[], some "injected rx failure"⟩, { q with failNext := false, bursts := q.bursts + 1 })
  else
    (⟨q.waiting.take max, none⟩, { q with waiting := q.waiting.drop max, bursts := q.bursts + 1 })

/-- How many of `count` packets the transmit side takes now. -/
def accepts (q : MemoryQueue) (count : Nat) : Nat :=
  min (min count (q.budget.getD count)) (q.capacity - q.sent.length)

def transmit (q : MemoryQueue) (packets : List Packet) : Transmission × MemoryQueue :=
  let taken := q.accepts packets.length
  (⟨taken, none⟩,
    { q with sent := q.sent ++ packets.take taken, budget := q.budget.map (· - taken) })

theorem accepts_le (q : MemoryQueue) (count : Nat) : q.accepts count ≤ count := by
  unfold accepts; omega

theorem receive_length_le (q : MemoryQueue) (max : Nat) :
    (q.receive max).1.packets.length ≤ max := by
  unfold receive
  split
  · exact Nat.zero_le _
  · exact List.length_take_le _ _

instance : PacketQueue MemoryQueue where
  receive := receive
  transmit := transmit
  takeStarved q := (0, q)
  receive_le := receive_length_le
  transmit_le q packets := q.accepts_le packets.length

end MemoryQueue

end Boomerang
