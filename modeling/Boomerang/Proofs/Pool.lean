import Boomerang.Pool

/-!
What the operations of a pool do to its free list, and which bytes of its region they touch. A slot
handed out was the head of the free list, a slot taken back becomes its end; work on a buffer
changes the area of its own slot and nothing else.
-/

set_option autoImplicit false

namespace Boomerang

namespace Pool

variable {p q : Pool} {packet : Packet} {b : Buffer}

/-! ## The free list -/

@[simp] theorem free_ofShape (shape : Shape) : (ofShape shape).free = List.range shape.count := by
  simp [ofShape, free, List.range_eq_range']

@[simp] theorem free_store (p : Pool) (index : Nat) (area : Octets) :
    (p.store index area).free = p.free := rfl

@[simp] theorem free_putBack (p : Pool) (index : Nat) :
    (p.putBack index).free = p.free ++ [index] := by
  simp [free, putBack]

@[simp] theorem free_release (p : Pool) (b : Buffer) : (p.release b).free = p.free ++ [b.index] :=
  p.free_putBack b.index

@[simp] theorem free_give (p : Pool) (packet : Packet) :
    (p.give packet).free = p.free ++ [packet.index] := by
  rw [give, free_putBack, free_store]

@[simp] theorem free_giveAll (p : Pool) (packets : List Packet) :
    (p.giveAll packets).free = p.free ++ packets.map Packet.index := by
  unfold giveAll
  induction packets generalizing p with
  | nil => simp
  | cons packet rest ih =>
    rw [List.foldl_cons, ih, free_give, List.append_assoc]
    rfl

theorem of_next? {index : Nat} (next : p.next? = some (index, q)) :
    p.free = index :: q.free ∧ q.shape = p.shape ∧ q.memory = p.memory := by
  refine ⟨?_, ?_⟩
  · have heads := p.next?_eq
    rw [next] at heads
    cases free : p.free with
    | nil => simp [free] at heads
    | cons first rest =>
      simp only [free, Option.map_some, Option.some.injEq, Prod.mk.injEq] at heads
      obtain ⟨rfl, rfl⟩ := heads
      rfl
  · unfold next? at next
    split at next
    · cases next
      exact ⟨rfl, rfl⟩
    · split at next
      · cases next
      · cases next
        exact ⟨rfl, rfl⟩

theorem next?_eq_none_iff_free (p : Pool) : p.next? = none ↔ p.free = [] := by
  rw [next?_eq_none_iff, ← length_free, List.length_eq_zero_iff]

theorem of_take? (taken : p.take? = some (packet, q)) :
    p.free = packet.index :: q.free ∧ q.shape = p.shape := by
  unfold take? at taken
  obtain ⟨⟨index, q'⟩, next, same⟩ := Option.map_eq_some_iff.1 taken
  cases same
  obtain ⟨free, shape, _⟩ := of_next? next
  exact ⟨free, shape⟩

theorem of_alloc? (allocated : p.alloc? = some (b, q)) :
    p.free = b.index :: q.free ∧ b.length = 0 ∧ q.shape = p.shape ∧ q.memory = p.memory := by
  unfold alloc? at allocated
  obtain ⟨⟨index, q'⟩, next, same⟩ := Option.map_eq_some_iff.1 allocated
  cases same
  obtain ⟨free, shape, memory⟩ := of_next? next
  exact ⟨free, rfl, shape, memory⟩

theorem alloc?_eq_none_iff (p : Pool) : p.alloc? = none ↔ p.free = [] := by
  rw [alloc?, Option.map_eq_none_iff, next?_eq_none_iff_free]

@[simp] theorem shape_store (p : Pool) (index : Nat) (area : Octets) :
    (p.store index area).shape = p.shape := rfl

/-! ## The region -/

/-- The addresses that the buffer of slot `index` can use: all of its slot but the headroom. -/
def Shape.Region (shape : Shape) (index a : Nat) : Prop :=
  index * shape.slotSize + headroom ≤ a ∧ a < (index + 1) * shape.slotSize

theorem Shape.headroom_add_capacity (shape : Shape) : headroom + shape.capacity = shape.slotSize := by
  have := shape.headroom_lt
  unfold Shape.capacity
  omega

theorem Shape.base_add_capacity (shape : Shape) (index : Nat) :
    shape.base index + shape.capacity = (index + 1) * shape.slotSize := by
  have := shape.headroom_add_capacity
  rw [Shape.base, Nat.succ_mul]
  omega

theorem Shape.region_iff (shape : Shape) (index a : Nat) :
    shape.Region index a ↔ shape.base index ≤ a ∧ a < shape.base index + shape.capacity := by
  rw [base_add_capacity]
  exact Iff.rfl

/-- Each region ends with its slot, and the slots fill the memory of the pool. -/
theorem Shape.lt_of_region {shape : Shape} {index a : Nat} (inside : index < shape.count)
    (region : shape.Region index a) : a < shape.count * shape.slotSize :=
  Nat.lt_of_lt_of_le region.2 (Nat.mul_le_mul_right _ inside)

theorem Shape.disjoint {shape : Shape} {i j a : Nat} (different : i ≠ j)
    (region : shape.Region i a) : ¬ shape.Region j a := by
  intro other
  obtain ⟨lower, upper⟩ := region
  obtain ⟨lower', upper'⟩ := other
  -- The lower of the two slots ends before the other starts.
  rcases Nat.lt_or_gt_of_ne different with before | behind
  · have := Nat.mul_le_mul_right shape.slotSize (Nat.succ_le_of_lt before)
    simp only [Nat.succ_eq_add_one] at this
    omega
  · have := Nat.mul_le_mul_right shape.slotSize (Nat.succ_le_of_lt behind)
    simp only [Nat.succ_eq_add_one] at this
    omega

theorem Memory.read_congr {m m' : Memory} {start count : Nat}
    (same : ∀ a, start ≤ a → a < start + count → m a = m' a) :
    m.read start count = m'.read start count := by
  apply List.map_congr_left
  intro a member
  have bounds := List.mem_range'_1.1 member
  exact same a bounds.1 bounds.2

theorem Memory.write_outside {m : Memory} {start a : Nat} {value : Octets}
    (outside : ¬ (start ≤ a ∧ a < start + value.length)) :
    m.write start value.toArray a = m a := by
  rw [Memory.write, dif_neg]
  simpa using outside

theorem Memory.write_inside {m : Memory} {start i : Nat} {value : Octets}
    (inside : i < value.length) : m.write start value.toArray (start + i) = value[i] := by
  rw [Memory.write, dif_pos]
  · simp
  · simp [inside]

theorem Memory.read_write (m : Memory) (start : Nat) (value : Octets) :
    (m.write start value.toArray).read start value.length = value := by
  apply List.ext_getElem
  · simp
  · intro i _ inside
    simp only [Memory.read, List.getElem_map, List.getElem_range', Nat.one_mul]
    exact Memory.write_inside inside

theorem Memory.write_read (m : Memory) (start count : Nat) :
    m.write start (m.read start count).toArray = m := by
  funext a
  by_cases inside : start ≤ a ∧ a < start + count
  case pos =>
    obtain ⟨i, rfl⟩ := Nat.exists_eq_add_of_le inside.1
    have bound : i < (m.read start count).length := by
      rw [Memory.length_read]
      omega
    rw [Memory.write_inside bound]
    simp [Memory.read]
  case neg => exact Memory.write_outside (by simpa using inside)

theorem slot_congr (shapes : q.shape = p.shape)
    (same : ∀ a, p.shape.Region b.index a → q.memory a = p.memory a) :
    q.slot b = p.slot b := by
  have areas : q.area b.index = p.area b.index := by
    unfold area
    rw [shapes]
    apply Memory.read_congr
    intro a lower upper
    exact same a ((p.shape.region_iff b.index a).2 ⟨lower, upper⟩)
  simp only [slot, areas, shapes]

theorem capacity_slot (p : Pool) (b : Buffer) : (p.slot b).capacity = p.shape.capacity := by
  simp only [Slot.capacity, slot, length_area]

theorem length_slot (fits : b.length ≤ p.shape.capacity) : (p.slot b).length = b.length :=
  Nat.min_eq_left fits

/-- Work on a buffer stays inside the region of its slot. -/
theorem update_outside {α : Type} {a : Nat} (work : Slot → α × Slot)
    (outside : ¬ p.shape.Region b.index a) : (p.update b work).2.2.memory a = p.memory a := by
  rw [Shape.region_iff] at outside
  apply Memory.write_outside
  rw [List.length_take]
  omega

theorem slot_update {α : Type} (work : Slot → α × Slot)
    (keeps : (work (p.slot b)).2.capacity = p.shape.capacity) :
    (p.update b work).2.2.slot (p.update b work).2.1 = (work (p.slot b)).2 := by
  unfold update
  -- What the work was does not matter any more, only the slot that it left.
  generalize work (p.slot b) = done at keeps
  obtain ⟨result, area, length, fits⟩ := done
  unfold Slot.capacity at keeps
  dsimp only at keeps
  have read : (p.store b.index (area.take p.shape.capacity)).area b.index = area := by
    rw [← keeps, List.take_length, Pool.area, store, ← keeps]
    exact Memory.read_write ..
  have whole : min length p.shape.capacity = length := by
    rw [← keeps]
    exact Nat.min_eq_left fits
  simp only [slot, read, whole, shape_store]

theorem update_unchanged {α : Type} {result : α} (work : Slot → α × Slot)
    (fits : b.length ≤ p.shape.capacity) (unchanged : work (p.slot b) = (result, p.slot b)) :
    p.update b work = (result, b, p) := by
  have whole : (p.slot b).area.take p.shape.capacity = p.area b.index := by
    simp only [slot]
    rw [← p.length_area b.index, List.take_length]
  have kept : p.store b.index (p.area b.index) = p := by
    rw [store, Pool.area, Memory.write_read]
  unfold update
  rw [unchanged]
  dsimp only
  rw [whole, kept, length_slot fits]

end Pool

end Boomerang
