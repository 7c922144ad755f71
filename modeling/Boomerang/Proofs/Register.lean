import Boomerang.Stats
import Mathlib.Data.List.Basic

/-!
Registers in order. A register keeps each queue once, in ascending order; a change concerns one
queue and leaves the others as they are. What a report remembers is a register too, and agrees
with the one it was made of.
-/

set_option autoImplicit false

namespace Boomerang

namespace QueueId

theorem before_iff {a b : QueueId} :
    a.before b = true ↔ a.device < b.device ∨ a.device = b.device ∧ a.queue < b.queue := by
  simp only [before, Bool.or_eq_true, Bool.and_eq_true, decide_eq_true_eq]

theorem before_trans {a b c : QueueId} (first : a.before b = true) (next : b.before c = true) :
    a.before c = true := by
  rw [before_iff] at first next ⊢
  omega

theorem ne_of_before {a b : QueueId} (ordered : a.before b = true) : a ≠ b := by
  rintro rfl
  rw [before_iff] at ordered
  omega

theorem before_of_not_before {a b : QueueId} (different : a ≠ b) (unordered : ¬ a.before b = true) :
    b.before a = true := by
  rw [before_iff] at unordered ⊢
  have apart : ¬ (a.device = b.device ∧ a.queue = b.queue) := by
    rintro ⟨device, queue⟩
    cases a
    cases b
    exact different (congrArg₂ QueueId.mk device queue)
  omega

end QueueId

namespace Register

def ids (r : Register) : List QueueId := r.map Prod.fst

/-- What is counted of a queue; nothing, if it is not known. -/
def counters (r : Register) (id : QueueId) : Counters := (r.get? id).getD Counters.zero

def Ascending (r : Register) : Prop := r.ids.Pairwise fun a b => a.before b = true

variable {r : Register} {id other : QueueId} {c : Counters} {change : Counters → Counters}

theorem ascending_nil : Ascending [] := List.Pairwise.nil

theorem ascending_cons :
    Ascending ((id, c) :: r) ↔ (∀ other ∈ r.ids, id.before other = true) ∧ Ascending r :=
  List.pairwise_cons

theorem Ascending.nodup (ascending : Ascending r) : r.ids.Nodup :=
  ascending.imp QueueId.ne_of_before

theorem get?_cons_self : get? ((id, c) :: r) id = some c := List.lookup_cons_self

theorem get?_cons_of_ne (different : other ≠ id) : get? ((id, c) :: r) other = get? r other := by
  rw [get?, List.lookup_cons, beq_false_of_ne different]
  rfl

theorem get?_eq_none_of_not_mem (unknown : id ∉ r.ids) : r.get? id = none := by
  rw [get?, List.lookup_eq_none_iff]
  intro entry member
  rw [bne_iff_ne]
  rintro rfl
  exact unknown (List.mem_map_of_mem member)

theorem counters_of_not_mem (unknown : id ∉ r.ids) : r.counters id = Counters.zero := by
  rw [counters, get?_eq_none_of_not_mem unknown]
  rfl

theorem filter_eq_get? (ascending : Ascending r) (id : QueueId) :
    (r.filter fun entry => entry.1 = id) = (r.get? id).toList.map (Prod.mk id) := by
  induction r with
  | nil => rfl
  | cons entry rest ih =>
    obtain ⟨other, c⟩ := entry
    obtain ⟨behind, rest_ascending⟩ := ascending_cons.1 ascending
    by_cases same : other = id
    · subst same
      have absent : other ∉ ids rest := fun member =>
        QueueId.ne_of_before (behind other member) rfl
      rw [List.filter_cons_of_pos (by simp), ih rest_ascending, get?_cons_self,
        get?_eq_none_of_not_mem absent]
      rfl
    · rw [List.filter_cons_of_neg (by simpa using same), ih rest_ascending,
        get?_cons_of_ne (Ne.symm same)]

theorem mem_iff_get? (ascending : Ascending r) : (id, c) ∈ r ↔ r.get? id = some c := by
  have found : (id, c) ∈ r ↔ (id, c) ∈ r.filter fun entry => entry.1 = id := by simp
  rw [found, filter_eq_get? ascending]
  simp

/-! ## Changes -/

theorem mem_ids_modify : other ∈ ids (modify id change r) ↔ other = id ∨ other ∈ r.ids := by
  induction r with
  | nil => simp [modify, ids]
  | cons entry rest ih =>
    obtain ⟨first, c⟩ := entry
    rw [modify]
    split
    case isTrue same =>
      subst same
      simp [ids]
    case isFalse =>
      split
      case isTrue => simp [ids]
      case isFalse =>
        have inner : other ∈ ids ((first, c) :: modify id change rest) ↔
            other = first ∨ other ∈ ids (modify id change rest) := List.mem_cons
        have outer : other ∈ ids ((first, c) :: rest) ↔ other = first ∨ other ∈ ids rest :=
          List.mem_cons
        rw [inner, outer, ih]
        exact or_left_comm

theorem Ascending.modify (ascending : Ascending r) (id : QueueId) (change : Counters → Counters) :
    Ascending (r.modify id change) := by
  induction r with
  | nil => exact List.pairwise_singleton _ _
  | cons entry rest ih =>
    obtain ⟨first, c⟩ := entry
    obtain ⟨behind, rest_ascending⟩ := ascending_cons.1 ascending
    rw [Register.modify]
    split
    case isTrue same =>
      subst same
      exact ascending_cons.2 ⟨behind, rest_ascending⟩
    case isFalse different =>
      split
      case isTrue ordered =>
        refine ascending_cons.2 ⟨fun other member => ?_, ascending⟩
        rcases List.mem_cons.1 member with rfl | member
        · exact ordered
        · exact QueueId.before_trans ordered (behind other member)
      case isFalse unordered =>
        refine ascending_cons.2 ⟨fun other member => ?_, ih rest_ascending⟩
        rcases mem_ids_modify.1 member with rfl | member
        · exact QueueId.before_of_not_before different unordered
        · exact behind other member

theorem get?_modify_self (ascending : Ascending r) :
    (r.modify id change).get? id = some (change (r.counters id)) := by
  induction r with
  | nil => exact get?_cons_self
  | cons entry rest ih =>
    obtain ⟨first, c⟩ := entry
    obtain ⟨behind, rest_ascending⟩ := ascending_cons.1 ascending
    rw [modify]
    split
    case isTrue same =>
      subst same
      rw [get?_cons_self, counters, get?_cons_self]
      rfl
    case isFalse different =>
      split
      case isTrue ordered =>
        -- All queues of the register come behind the new one.
        have unknown : id ∉ ids ((first, c) :: rest) := by
          intro member
          rcases List.mem_cons.1 member with same | member
          · exact different same
          · exact QueueId.ne_of_before (QueueId.before_trans ordered (behind id member)) rfl
        rw [get?_cons_self, counters_of_not_mem unknown]
      case isFalse =>
        rw [get?_cons_of_ne different, ih rest_ascending, counters, counters,
          get?_cons_of_ne different]

theorem get?_modify_of_ne (different : other ≠ id) :
    (r.modify id change).get? other = r.get? other := by
  induction r with
  | nil => exact get?_cons_of_ne different
  | cons entry rest ih =>
    obtain ⟨first, c⟩ := entry
    rw [modify]
    split
    case isTrue same =>
      subst same
      rw [get?_cons_of_ne different, get?_cons_of_ne different]
    case isFalse =>
      split
      case isTrue => exact get?_cons_of_ne different
      case isFalse =>
        by_cases here : other = first
        · subst here
          rw [get?_cons_self, get?_cons_self]
        · rw [get?_cons_of_ne here, get?_cons_of_ne here, ih]

theorem counters_modify (ascending : Ascending r) :
    (r.modify id change).counters other =
      if other = id then change (r.counters id) else r.counters other := by
  by_cases same : other = id
  · subst same
    rw [if_pos rfl, counters, get?_modify_self ascending]
    rfl
  · rw [if_neg same, counters, get?_modify_of_ne same, counters]

theorem enroll_of_mem (ascending : Ascending r) (known : id ∈ r.ids) : r.enroll id = r := by
  induction r with
  | nil => cases known
  | cons entry rest ih =>
    obtain ⟨first, c⟩ := entry
    obtain ⟨behind, rest_ascending⟩ := ascending_cons.1 ascending
    rw [enroll, modify]
    split
    case isTrue same => rw [same]
    case isFalse different =>
      have later : id ∈ ids rest := (List.mem_cons.1 known).resolve_left different
      split
      case isTrue ordered =>
        exact absurd rfl (QueueId.ne_of_before (QueueId.before_trans ordered (behind id later)))
      case isFalse => exact congrArg ((first, c) :: ·) (ih rest_ascending later)

end Register

namespace Stats

open Register

variable {last now : Register} {id : QueueId}

theorem ascending_remember (ascending : Ascending last) (now : Register) :
    Ascending (remember last now) := by
  induction now generalizing last with
  | nil => exact ascending
  | cons entry rest ih => exact ih (ascending.modify entry.1 fun _ => entry.2)

theorem mem_ids_remember :
    id ∈ (remember last now).ids ↔ id ∈ last.ids ∨ id ∈ now.ids := by
  induction now generalizing last with
  | nil =>
    have nothing : remember last [] = last := rfl
    simp [nothing, ids]
  | cons entry rest ih =>
    have next : remember last (entry :: rest) = remember (last.put entry.1 entry.2) rest := rfl
    rw [next, ih, put, mem_ids_modify]
    simp only [ids, List.map_cons, List.mem_cons]
    tauto

/-- A report remembers the queues that it found as it found them, and keeps the others. -/
theorem get?_remember (kept : Ascending last) (found : Ascending now) :
    (remember last now).get? id = (now.get? id).or (last.get? id) := by
  induction now generalizing last with
  | nil => rfl
  | cons entry rest ih =>
    obtain ⟨first, c⟩ := entry
    obtain ⟨behind, rest_ascending⟩ := ascending_cons.1 found
    have next : remember last ((first, c) :: rest) = remember (last.put first c) rest := rfl
    have put_ascending : Ascending (last.put first c) := kept.modify first fun _ => c
    rw [next, ih put_ascending rest_ascending, put]
    by_cases same : id = first
    · subst same
      have absent : id ∉ ids rest := fun member => QueueId.ne_of_before (behind id member) rfl
      rw [get?_eq_none_of_not_mem absent, get?_modify_self kept, get?_cons_self]
      rfl
    · rw [get?_modify_of_ne same, get?_cons_of_ne same]

theorem counters_remember (kept : Ascending last) (found : Ascending now)
    (covered : ∀ id ∈ last.ids, id ∈ now.ids) :
    (remember last now).counters id = now.counters id := by
  rw [counters, counters, get?_remember kept found]
  by_cases known : id ∈ now.ids
  · obtain ⟨entry, member, rfl⟩ := List.mem_map.1 known
    rw [(mem_iff_get? found).1 member]
    rfl
  · rw [get?_eq_none_of_not_mem known,
      get?_eq_none_of_not_mem fun member => known (covered id member)]
    rfl

end Stats

end Boomerang
