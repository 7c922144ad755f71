import Boomerang.Pool

/-!
Packet queues: what a worker may ask of one, and what it may rely on. Receiving hands over at most
the number of packets asked for; transmitting takes packets from the front of the list and leaves
the others. Either may fail after a part of its work.
-/

set_option autoImplicit false

namespace Boomerang

structure Reception where
  packets : List Packet
  error : Option String

/-- How many packets were taken from the front of the list, and the error that stopped it. -/
structure Transmission where
  taken : Nat
  error : Option String

class PacketQueue (σ : Type) where
  receive : σ → Nat → Reception × σ
  transmit : σ → List Packet → Transmission × σ
  /-- Receptions cut short by an empty pool since it was last asked. -/
  takeStarved : σ → Nat × σ
  receive_le : ∀ (q : σ) (max : Nat), (receive q max).1.packets.length ≤ max
  transmit_le : ∀ (q : σ) (packets : List Packet), (transmit q packets).1.taken ≤ packets.length

end Boomerang
