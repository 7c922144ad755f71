import Boomerang.Queue.Basic

/-!
Packets that wait for the next transmission. A full outbox is flushed at once; a flush offers all
of it to the queue, and what the queue does not take is given up.
-/

set_option autoImplicit false

namespace Boomerang

structure Outbox where
  packets : List Packet
  capacity : Nat
  capacity_pos : 0 < capacity

structure Flush where
  sent : Nat
  sentBytes : Nat
  refused : List Packet
  error : Option String

namespace Flush

def none : Flush := ⟨0, 0, [], Option.none⟩

/-- Joins two results; of two errors the later stays. -/
def merge (a b : Flush) : Flush :=
  ⟨a.sent + b.sent, a.sentBytes + b.sentBytes, a.refused ++ b.refused, b.error.or a.error⟩

end Flush

namespace Outbox

variable {σ : Type} [PacketQueue σ]

def ofCapacity (capacity : Nat) : Outbox := ⟨[], max capacity 1, by omega⟩

def size (o : Outbox) : Nat := o.packets.length

def flush (o : Outbox) (queue : σ) : Flush × Outbox × σ :=
  if o.packets.isEmpty then (Flush.none, o, queue)
  else
    let (t, queue) := PacketQueue.transmit queue o.packets
    let gone := o.packets.take t.taken
    (⟨gone.length, Packet.bytes gone, o.packets.drop t.taken, t.error⟩, { o with packets := [] },
      queue)

def append (o : Outbox) (packet : Packet) (queue : σ) : Flush × Outbox × σ :=
  let o := { o with packets := o.packets ++ [packet] }
  if o.capacity ≤ o.packets.length then o.flush queue else (Flush.none, o, queue)

@[simp] theorem packets_flush (o : Outbox) (queue : σ) : (o.flush queue).2.1.packets = [] := by
  unfold flush; split
  · next h => exact List.isEmpty_iff.1 h
  · rfl

@[simp] theorem capacity_flush (o : Outbox) (queue : σ) :
    (o.flush queue).2.1.capacity = o.capacity := by
  unfold flush; split <;> rfl

end Outbox

end Boomerang
