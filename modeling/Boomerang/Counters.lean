/-!
Packet counters of one queue, and the register of all queues. Counters are 64-bit words and wrap;
a difference stops at zero. The register keeps its queues in ascending order, each of them once.
-/

set_option autoImplicit false

namespace Boomerang

structure Counters where
  rxPackets : UInt64
  rxBytes : UInt64
  txPackets : UInt64
  txBytes : UInt64
  dropped : UInt64
  txErrors : UInt64
  rxStarved : UInt64
  deriving DecidableEq, Repr

namespace Counters

def zero : Counters := ⟨0, 0, 0, 0, 0, 0, 0⟩

def addReceived (c : Counters) (packets bytes : Nat) : Counters :=
  { c with
    rxPackets := c.rxPackets + UInt64.ofNat packets
    rxBytes := c.rxBytes + UInt64.ofNat bytes }

def addSent (c : Counters) (packets bytes : Nat) : Counters :=
  { c with
    txPackets := c.txPackets + UInt64.ofNat packets
    txBytes := c.txBytes + UInt64.ofNat bytes }

def addDropped (c : Counters) (packets : Nat) : Counters :=
  { c with dropped := c.dropped + UInt64.ofNat packets }

/-- Packets given up because the transmit side refused them. -/
def addRefused (c : Counters) (packets : Nat) : Counters :=
  { c with txErrors := c.txErrors + UInt64.ofNat packets }

/-- Receptions cut short because the pool had no free buffer. -/
def addStarved (c : Counters) (count : Nat) : Counters :=
  { c with rxStarved := c.rxStarved + UInt64.ofNat count }

def zipWith (op : UInt64 → UInt64 → UInt64) (a b : Counters) : Counters :=
  ⟨op a.rxPackets b.rxPackets, op a.rxBytes b.rxBytes, op a.txPackets b.txPackets,
    op a.txBytes b.txBytes, op a.dropped b.dropped, op a.txErrors b.txErrors,
    op a.rxStarved b.rxStarved⟩

def add : Counters → Counters → Counters := zipWith (· + ·)

/-- What was counted since `earlier`; nothing where the earlier count is the larger. -/
def since : Counters → Counters → Counters :=
  zipWith fun now earlier => if earlier ≤ now then now - earlier else 0

def sum (items : List Counters) : Counters := items.foldl add zero

end Counters

structure QueueId where
  device : Nat
  queue : Nat
  deriving DecidableEq, Repr

def QueueId.before (a b : QueueId) : Bool :=
  a.device < b.device || (a.device = b.device && a.queue < b.queue)

def deviceText (device : Nat) : String := "dev" ++ toString device

/-- The counters of each known queue, in ascending order of the queues. -/
abbrev Register := List (QueueId × Counters)

namespace Register

def get? (r : Register) (id : QueueId) : Option Counters := r.lookup id

def modify (id : QueueId) (change : Counters → Counters) : Register → Register
  | [] => [(id, change Counters.zero)]
  | (other, c) :: rest =>
    if id = other then (id, change c) :: rest
    else if id.before other then (id, change Counters.zero) :: (other, c) :: rest
    else (other, c) :: modify id change rest

def enroll (r : Register) (id : QueueId) : Register := modify id (fun c => c) r

def put (r : Register) (id : QueueId) (c : Counters) : Register := modify id (fun _ => c) r

end Register

end Boomerang
