import Boomerang.Slot

/-!
A pool of equal slots in one region of memory. Slot `i` starts at `i * slotSize`; its first 128
bytes are headroom, and the rest is the area in which its buffer keeps a frame. Free slots are
handed out in the order in which they came back, at first in index order. A buffer is worked on in
place (`update`), or its owner takes its bytes along as a packet and brings them back (`take?`,
`give`).
-/

set_option autoImplicit false

namespace Boomerang

def headroom : Nat := 128

def defaultSlotSize : Nat := 2048

inductive PoolError where
  | countOutOfRange
  | slotTooSmall
  | sizeOverflow
  | outOfMemory
  deriving DecidableEq, Repr

def PoolError.message : PoolError → String
  | .countOutOfRange => "buffer count out of range"
  | .slotTooSmall => "buffer size must exceed the 128-byte headroom"
  | .sizeOverflow => "pool size overflow"
  | .outOfMemory => "Cannot allocate memory (os error 12)"

structure Pool.Shape where
  count : Nat
  slotSize : Nat
  count_pos : 0 < count
  headroom_lt : headroom < slotSize
  deriving DecidableEq, Repr

namespace Pool

/-- No process can map as many bytes as this. -/
def addressSpace : Nat := 1 <<< 47

/-- The shape asked for; slot numbers have 32 bits and sizes 64. -/
def Shape.of (count slotSize : Nat) : Except PoolError Shape :=
  if h : 0 < count ∧ count < UInt32.size then
    if h' : headroom < slotSize then
      if UInt64.size ≤ count * slotSize then .error .sizeOverflow
      else if addressSpace ≤ count * slotSize then .error .outOfMemory
      else .ok ⟨count, slotSize, h.1, h'⟩
    else .error .slotTooSmall
  else .error .countOutOfRange

def Shape.capacity (s : Shape) : Nat := s.slotSize - headroom

def Shape.base (s : Shape) (index : Nat) : Nat := index * s.slotSize + headroom

abbrev Memory := Nat → UInt8

def Memory.read (m : Memory) (start count : Nat) : Octets :=
  (List.range' start count).map m

def Memory.write (m : Memory) (start : Nat) (value : Array UInt8) : Memory := fun a =>
  if h : start ≤ a ∧ a < start + value.size then value[a - start] else m a

@[simp] theorem Memory.length_read (m : Memory) (start count : Nat) :
    (m.read start count).length = count := by simp [Memory.read]

end Pool

/-- Slots below `fresh` were handed out before; those of them that came back wait in `returned`. -/
structure Pool where
  shape : Pool.Shape
  memory : Pool.Memory
  fresh : Nat
  returned : List Nat

structure Buffer where
  index : Nat
  length : Nat
  deriving DecidableEq, Repr

def Buffer.describe (b : Buffer) : String :=
  "PoolBuffer \x7b index: " ++ toString b.index ++ ", start: " ++ toString headroom ++ ", len: " ++
    toString b.length ++ " \x7d"

/-- A buffer in the hands of one owner, with the bytes of its slot. -/
structure Packet where
  index : Nat
  slot : Slot
  deriving DecidableEq, Repr

namespace Pool

def ofShape (shape : Shape) : Pool := ⟨shape, fun _ => 0, 0, []⟩

def free (p : Pool) : List Nat := List.range' p.fresh (p.shape.count - p.fresh) ++ p.returned

def available (p : Pool) : Nat := p.shape.count - p.fresh + p.returned.length

@[simp] theorem length_free (p : Pool) : p.free.length = p.available := by
  simp [free, available]

def next? (p : Pool) : Option (Nat × Pool) :=
  if p.fresh < p.shape.count then some (p.fresh, { p with fresh := p.fresh + 1 })
  else
    match p.returned with
    | [] => none
    | index :: rest => some (index, { p with returned := rest })

def putBack (p : Pool) (index : Nat) : Pool := { p with returned := p.returned ++ [index] }

def alloc? (p : Pool) : Option (Buffer × Pool) := p.next?.map fun (index, p) => (⟨index, 0⟩, p)

def release (p : Pool) (b : Buffer) : Pool := p.putBack b.index

def area (p : Pool) (index : Nat) : Octets := p.memory.read (p.shape.base index) p.shape.capacity

@[simp] theorem length_area (p : Pool) (index : Nat) :
    (p.area index).length = p.shape.capacity := Memory.length_read _ _ _

/-- A buffer's slot; a frame is never longer than the slot's area. -/
def slot (p : Pool) (b : Buffer) : Slot :=
  ⟨p.area b.index, min b.length p.shape.capacity,
    Nat.le_trans (Nat.min_le_right _ _) (Nat.le_of_eq (p.length_area b.index).symm)⟩

def store (p : Pool) (index : Nat) (area : Octets) : Pool :=
  { p with memory := p.memory.write (p.shape.base index) area.toArray }

def update {α : Type} (p : Pool) (b : Buffer) (work : Slot → α × Slot) : α × Buffer × Pool :=
  let (result, s) := work (p.slot b)
  (result, ⟨b.index, s.length⟩, p.store b.index (s.area.take p.shape.capacity))

def take? (p : Pool) : Option (Packet × Pool) :=
  p.next?.map fun (index, p) => (⟨index, Slot.ofArea (p.area index)⟩, p)

def give (p : Pool) (packet : Packet) : Pool :=
  (p.store packet.index (packet.slot.area.take p.shape.capacity)).putBack packet.index

def giveAll (p : Pool) (packets : List Packet) : Pool := packets.foldl give p

theorem next?_eq (p : Pool) :
    p.next?.map (fun (index, q) => (index, q.free)) =
      match p.free with
      | [] => none
      | index :: rest => some (index, rest) := by
  unfold next? free
  by_cases h : p.fresh < p.shape.count
  · obtain ⟨n, hn⟩ : ∃ n, p.shape.count - p.fresh = n + 1 := ⟨p.shape.count - p.fresh - 1, by omega⟩
    rw [if_pos h, hn, List.range'_succ]
    have : p.shape.count - (p.fresh + 1) = n := by omega
    simp [this]
  · have : p.shape.count - p.fresh = 0 := by omega
    rw [if_neg h, this]
    cases hr : p.returned <;> simp [this]

theorem next?_eq_none_iff (p : Pool) : p.next? = none ↔ p.available = 0 := by
  unfold next? available
  by_cases h : p.fresh < p.shape.count
  · rw [if_pos h]; simp; omega
  · rw [if_neg h]; cases hr : p.returned <;> simp; omega

end Pool

namespace Packet

def frame (p : Packet) : Octets := p.slot.frame

def size (p : Packet) : Nat := p.slot.length

def bytes (packets : List Packet) : Nat := packets.foldr (fun p total => p.size + total) 0

end Packet

inductive Pool.LoadError where
  | empty
  | doesNotFit
  deriving DecidableEq, Repr

/-- A packet with a copy of `frame`; the pool stays as it was if there is none, but a slot that
proved too small has moved to the end of the free list. -/
def Pool.load (p : Pool) (frame : Octets) : Except Pool.LoadError Packet × Pool :=
  match p.take? with
  | none => (.error .empty, p)
  | some (packet, q) =>
    match packet.slot.hold? frame with
    | none => (.error .doesNotFit, q.give packet)
    | some slot => (.ok { packet with slot }, q)

end Boomerang
