import Boomerang.Proofs.Pool
import Mathlib.Data.List.Perm.Basic

/-!
Who owns the slots of a pool. Owners allocate buffers, edit them and let go of them in any order;
the operations of one owner may fall anywhere between those of another. At every moment each slot
is free or belongs to one live buffer, and no owner can reach the bytes of another.
-/

set_option autoImplicit false

namespace Boomerang

inductive Edit where
  | copy (frame : Octets)
  | setLength (n : Nat)
  | append (n : Nat)
  | trim (n : Nat)
  /-- Bytes of the frame. -/
  | write (start : Nat) (value : Octets)
  /-- Bytes anywhere in the area of the buffer. -/
  | fill (start : Nat) (value : Octets)

namespace Edit

def result? (s : Slot) : Edit → Option Slot
  | .copy frame => s.hold? frame
  | .setLength n => s.setLength? n
  | .append n => s.append? n
  | .trim n => s.trim? n
  | .write start value => s.overwrite? start value
  | .fill start value => s.fill? start value

/-- The edit as work on a slot, with whether it was done. A refused edit leaves the slot. -/
def work (e : Edit) (s : Slot) : Bool × Slot :=
  match e.result? s with
  | some t => (true, t)
  | none => (false, s)

variable {e : Edit} {s t : Slot}

theorem capacity_of_result? (done : e.result? s = some t) : t.capacity = s.capacity := by
  cases e with
  | copy frame =>
    simp only [result?, Slot.hold?] at done
    split at done
    case isTrue fits =>
      cases done
      exact Octets.length_overwrite (by rw [Nat.zero_add]; exact fits)
    case isFalse => cases done
  | setLength n =>
    simp only [result?, Slot.setLength?] at done
    split at done <;> cases done
    rfl
  | append n =>
    simp only [result?, Slot.append?] at done
    split at done <;> cases done
    rfl
  | trim n =>
    simp only [result?, Slot.trim?] at done
    split at done <;> cases done
    rfl
  | write start value =>
    simp only [result?, Slot.overwrite?] at done
    split at done
    case isTrue fits =>
      cases done
      exact Octets.length_overwrite (Nat.le_trans fits s.length_le)
    case isFalse => cases done
  | fill start value =>
    simp only [result?, Slot.fill?] at done
    split at done
    case isTrue fits =>
      cases done
      exact Octets.length_overwrite fits
    case isFalse => cases done

theorem work_of_done (done : e.result? s = some t) : e.work s = (true, t) := by
  simp only [work, done]

theorem work_of_refused (refused : e.result? s = none) : e.work s = (false, s) := by
  simp only [work, refused]

theorem capacity_work (e : Edit) (s : Slot) : (e.work s).2.capacity = s.capacity := by
  cases applied : e.result? s with
  | some t =>
    rw [work_of_done applied]
    exact capacity_of_result? applied
  | none => rw [work_of_refused applied]

end Edit

structure Tenancy where
  pool : Pool
  live : List Buffer

/-- What one owner does next; buffers go by their place among the live ones. -/
inductive Tenancy.Action where
  | alloc
  | release (i : Nat)
  | edit (i : Nat) (e : Edit)

namespace Tenancy

def Action.target? : Action → Option Nat
  | .alloc => none
  | .release i => some i
  | .edit i _ => some i

def step (t : Tenancy) : Action → Tenancy
  | .alloc =>
    match t.pool.alloc? with
    | none => t
    | some (b, pool) => ⟨pool, t.live ++ [b]⟩
  | .release i =>
    match t.live[i]? with
    | none => t
    | some b => ⟨t.pool.release b, t.live.eraseIdx i⟩
  | .edit i e =>
    match t.live[i]? with
    | none => t
    | some b =>
      let r := t.pool.update b e.work
      ⟨r.2.2, t.live.set i r.2.1⟩

def run (shape : Pool.Shape) (actions : List Action) : Tenancy :=
  actions.foldl step ⟨Pool.ofShape shape, []⟩

/-- Each slot has one place, and no frame is longer than the area of its slot. -/
structure Sound (shape : Pool.Shape) (t : Tenancy) : Prop where
  shape_eq : t.pool.shape = shape
  slots : (t.pool.free ++ t.live.map Buffer.index).Perm (List.range shape.count)
  fits : ∀ b ∈ t.live, b.length ≤ shape.capacity

variable {shape : Pool.Shape} {t : Tenancy} {b b' : Buffer} {i j : Nat}

theorem sound_start (shape : Pool.Shape) : Sound shape ⟨Pool.ofShape shape, []⟩ where
  shape_eq := rfl
  slots := by simp
  fits := by
    intro b member
    cases member

theorem Sound.alloc {pool : Pool} (sound : Sound shape t) (allocated : t.pool.alloc? = some (b, pool)) :
    Sound shape ⟨pool, t.live ++ [b]⟩ := by
  obtain ⟨free, empty, kept, _⟩ := Pool.of_alloc? allocated
  refine ⟨kept.trans sound.shape_eq, ?_, ?_⟩
  · have slots := sound.slots
    rw [free, List.cons_append] at slots
    rw [List.map_append, ← List.append_assoc]
    exact (List.perm_append_singleton _ _).trans slots
  · intro other member
    rcases List.mem_append.1 member with before | new
    · exact sound.fits other before
    · rw [List.mem_singleton.1 new, empty]
      exact Nat.zero_le _

theorem Sound.release (sound : Sound shape t) (owned : t.live[i]? = some b) :
    Sound shape ⟨t.pool.release b, t.live.eraseIdx i⟩ := by
  refine ⟨sound.shape_eq, ?_, ?_⟩
  · -- The slot leaves the live buffers at place `i` and comes to the end of the free list.
    obtain ⟨inside, rfl⟩ := List.getElem?_eq_some_iff.1 owned
    have moved : (t.live[i].index :: (t.live.eraseIdx i).map Buffer.index).Perm
        (t.live.map Buffer.index) := (List.getElem_cons_eraseIdx_perm inside).map Buffer.index
    rw [Pool.free_release, List.append_assoc]
    exact (moved.append_left _).trans sound.slots
  · intro other member
    exact sound.fits other (List.mem_of_mem_eraseIdx member)

theorem Sound.edit (sound : Sound shape t) (owned : t.live[i]? = some b) (e : Edit) :
    Sound shape
      ⟨(t.pool.update b e.work).2.2, t.live.set i (t.pool.update b e.work).2.1⟩ := by
  refine ⟨sound.shape_eq, ?_, ?_⟩
  · -- An edit changes the length of a buffer at most, so all slots keep their places.
    obtain ⟨inside, rfl⟩ := List.getElem?_eq_some_iff.1 owned
    have same : (t.live.set i (t.pool.update t.live[i] e.work).2.1).map Buffer.index =
        t.live.map Buffer.index := by
      have index : (t.pool.update t.live[i] e.work).2.1.index = t.live[i].index := rfl
      rw [List.map_set, index, ← List.getElem_map Buffer.index (h := by simpa using inside),
        List.set_getElem_self]
    rw [same]
    exact sound.slots
  · intro other member
    rcases List.mem_or_eq_of_mem_set member with before | rfl
    · exact sound.fits other before
    · have kept := e.capacity_work (t.pool.slot b)
      rw [Pool.capacity_slot, sound.shape_eq] at kept
      rw [← kept]
      exact (e.work (t.pool.slot b)).2.length_le

theorem Sound.step (sound : Sound shape t) (action : Action) : Sound shape (t.step action) := by
  cases action with
  | alloc =>
    simp only [Tenancy.step]
    split
    case h_1 => exact sound
    case h_2 b pool allocated => exact sound.alloc allocated
  | release i =>
    simp only [Tenancy.step]
    split
    case h_1 => exact sound
    case h_2 b owned => exact sound.release owned
  | edit i e =>
    simp only [Tenancy.step]
    split
    case h_1 => exact sound
    case h_2 b owned => exact sound.edit owned e

theorem sound_run (shape : Pool.Shape) (actions : List Action) : Sound shape (run shape actions) := by
  unfold run
  have start := sound_start shape
  generalize (⟨Pool.ofShape shape, []⟩ : Tenancy) = t at start
  induction actions generalizing t with
  | nil => exact start
  | cons action rest ih => exact ih (t.step action) (start.step action)

/-! ## What soundness gives -/

theorem Sound.nodup (sound : Sound shape t) :
    t.pool.free.Nodup ∧ (t.live.map Buffer.index).Nodup := by
  have distinct := sound.slots.nodup_iff.2 List.nodup_range
  rw [List.nodup_append] at distinct
  exact ⟨distinct.1, distinct.2.1⟩

theorem Sound.length_free_add_live (sound : Sound shape t) :
    t.pool.free.length + t.live.length = shape.count := by
  have lengths := sound.slots.length_eq
  rwa [List.length_append, List.length_map, List.length_range] at lengths

theorem Sound.index_lt (sound : Sound shape t) (owned : b ∈ t.live) : b.index < shape.count := by
  have place : b.index ∈ t.pool.free ++ t.live.map Buffer.index :=
    List.mem_append_right _ (List.mem_map_of_mem owned)
  exact List.mem_range.1 (sound.slots.mem_iff.1 place)

theorem Sound.index_ne (sound : Sound shape t) (owned : t.live[i]? = some b)
    (owned' : t.live[j]? = some b') (different : i ≠ j) : b.index ≠ b'.index := by
  intro same
  have inside : i < (t.live.map Buffer.index).length := by
    rw [List.length_map]
    exact (List.getElem?_eq_some_iff.1 owned).1
  apply different
  apply (List.getElem?_inj inside sound.nodup.2).1
  rw [List.getElem?_map, List.getElem?_map, owned, owned', Option.map_some, Option.map_some, same]

theorem Sound.others (sound : Sound shape t) (action : Action) (owned : t.live[i]? = some b)
    (other : action.target? ≠ some i) :
    b ∈ (t.step action).live ∧ (t.step action).pool.slot b = t.pool.slot b := by
  have member := List.mem_of_getElem? owned
  cases action with
  | alloc =>
    simp only [Tenancy.step]
    split
    case h_1 => exact ⟨member, rfl⟩
    case h_2 new pool allocated =>
      obtain ⟨_, _, shapes, memories⟩ := Pool.of_alloc? allocated
      refine ⟨List.mem_append_left _ member, Pool.slot_congr shapes ?_⟩
      intro a _
      rw [memories]
  | release j =>
    have elsewhere : i ≠ j := fun same => other (congrArg some same.symm)
    simp only [Tenancy.step]
    split
    case h_1 => exact ⟨member, rfl⟩
    case h_2 =>
      exact ⟨List.mem_eraseIdx_iff_getElem?.2 ⟨i, elsewhere, owned⟩, rfl⟩
  | edit j e =>
    have elsewhere : i ≠ j := fun same => other (congrArg some same.symm)
    simp only [Tenancy.step]
    split
    case h_1 => exact ⟨member, rfl⟩
    case h_2 edited owned' =>
      -- The two buffers have different slots, and the edit stays inside the slot of its own.
      refine ⟨?_, Pool.slot_congr rfl ?_⟩
      · apply List.mem_of_getElem?
        rw [List.getElem?_set_ne elsewhere.symm]
        exact owned
      · intro a region
        exact Pool.update_outside e.work
          (Pool.Shape.disjoint (sound.index_ne owned owned' elsewhere) region)

/-- What holds of a pool and the buffers that are out, whatever their owners did. -/
structure Isolated (shape : Pool.Shape) (t : Tenancy) : Prop where
  /-- Each slot is free or belongs to one live buffer. -/
  slots : (t.pool.free ++ t.live.map Buffer.index).Perm (List.range shape.count)
  once : t.pool.free.Nodup ∧ (t.live.map Buffer.index).Nodup
  /-- Allocation fails exactly when every slot is out. -/
  exhausted : t.pool.alloc? = none ↔ t.live.length = shape.count
  /-- The free list has room for the slot of a live buffer, which becomes its end. -/
  returned : ∀ b ∈ t.live, t.pool.free.length < shape.count ∧
    (t.pool.release b).free = t.pool.free ++ [b.index]
  /-- Headroom, frame and tailroom make up the slot. -/
  layout : ∀ b ∈ t.live, (t.pool.slot b).length = b.length ∧ headroom + b.length ≤ shape.slotSize ∧
    headroom + b.length + (t.pool.slot b).tailroom = shape.slotSize
  /-- A refused edit changes nothing. -/
  refused : ∀ b ∈ t.live, ∀ e : Edit, e.result? (t.pool.slot b) = none →
    t.pool.update b e.work = (false, b, t.pool)
  /-- The result of an edit is what its owner reads afterwards. -/
  done : ∀ b ∈ t.live, ∀ (e : Edit) (s : Slot), e.result? (t.pool.slot b) = some s →
    ∃ b' pool, t.pool.update b e.work = (true, b', pool) ∧ b'.index = b.index ∧ pool.slot b' = s
  /-- The bytes of a buffer lie behind the headroom of its own slot, inside the memory. -/
  region : ∀ b ∈ t.live, b.index < shape.count ∧
    ∀ a, shape.Region b.index a → a < shape.count * shape.slotSize
  /-- A buffer reads those bytes only. -/
  reads : ∀ b ∈ t.live, ∀ memory : Pool.Memory,
    (∀ a, shape.Region b.index a → memory a = t.pool.memory a) →
      Pool.slot { t.pool with memory } b = t.pool.slot b
  /-- An edit writes those bytes only. -/
  writes : ∀ b ∈ t.live, ∀ (e : Edit) (a : Nat), ¬ shape.Region b.index a →
    (t.pool.update b e.work).2.2.memory a = t.pool.memory a
  /-- No action changes a buffer that it is not about. -/
  others : ∀ (action : Action) (i : Nat) (b : Buffer), t.live[i]? = some b →
    action.target? ≠ some i →
      b ∈ (t.step action).live ∧ (t.step action).pool.slot b = t.pool.slot b

theorem Sound.isolated (sound : Sound shape t) : Isolated shape t := by
  obtain ⟨rfl, slots, fits⟩ := id sound
  have lengths := sound.length_free_add_live
  refine ⟨slots, sound.nodup, ?_, ?_, ?_, ?_, ?_, ?_, ?_, ?_, fun action i b => sound.others action⟩
  · rw [Pool.alloc?_eq_none_iff, ← List.length_eq_zero_iff]
    omega
  · intro b owned
    have := List.length_pos_of_mem owned
    exact ⟨by omega, Pool.free_release t.pool b⟩
  · intro b owned
    have length := Pool.length_slot (fits b owned)
    have rest := (t.pool.slot b).length_add_tailroom
    have whole := t.pool.shape.headroom_add_capacity
    rw [Pool.capacity_slot, length] at rest
    exact ⟨length, by omega, by omega⟩
  · intro b owned e refused
    exact Pool.update_unchanged e.work (fits b owned) (Edit.work_of_refused refused)
  · intro b owned e s applied
    have worked := Edit.work_of_done applied
    have kept := e.capacity_work (t.pool.slot b)
    rw [Pool.capacity_slot] at kept
    have held := Pool.slot_update e.work kept
    rw [worked] at held
    refine ⟨(t.pool.update b e.work).2.1, (t.pool.update b e.work).2.2, ?_, rfl, held⟩
    simp only [Pool.update, worked]
  · intro b owned
    have inside := sound.index_lt owned
    exact ⟨inside, fun a => Pool.Shape.lt_of_region inside⟩
  · intro b _ memory same
    exact Pool.slot_congr rfl same
  · intro b _ e a outside
    exact Pool.update_outside e.work outside

/-- Whatever the owners of buffers do, and in whatever order, each slot has one place and no owner
reaches the bytes of another. -/
theorem slots_isolated (shape : Pool.Shape) (actions : List Action) :
    Isolated shape (run shape actions) :=
  (sound_run shape actions).isolated

/-- The only slot of a pool has one owner at a time. -/
example : (run ⟨1, 130, by decide, by decide⟩ [.alloc, .alloc, .release 0, .alloc]).live =
    [⟨0, 0⟩] := by decide

end Tenancy

end Boomerang
