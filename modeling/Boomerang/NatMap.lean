/-!
Maps from numbers, as lists of entries in ascending order of their keys. An insertion replaces what
was there; it is one pass through the list, so that a look-up behind it needs no order.
-/

set_option autoImplicit false

namespace Boomerang

abbrev NatMap (α : Type) := List (Nat × α)

namespace NatMap

variable {α : Type} {map : NatMap α} {key other : Nat} {value : α}

def insert (key : Nat) (value : α) : NatMap α → NatMap α
  | [] => [(key, value)]
  | (other, held) :: rest =>
    if key = other then (key, value) :: rest
    else if key < other then (key, value) :: (other, held) :: rest
    else (other, held) :: insert key value rest

def keys (map : NatMap α) : List Nat := map.map Prod.fst

def Ascending (map : NatMap α) : Prop := map.keys.Pairwise (· < ·)

theorem lookup_cons_of_ne (apart : other ≠ key) :
    List.lookup other ((key, value) :: map) = map.lookup other := by
  rw [List.lookup_cons, beq_false_of_ne apart]

@[simp] theorem lookup_insert_self (key : Nat) (value : α) (map : NatMap α) :
    (map.insert key value).lookup key = some value := by
  induction map with
  | nil => exact List.lookup_cons_self
  | cons entry rest ih =>
    rw [insert]
    split
    · exact List.lookup_cons_self
    · split
      · exact List.lookup_cons_self
      · rwa [lookup_cons_of_ne ‹_›]

theorem lookup_insert_of_ne (apart : other ≠ key) (value : α) (map : NatMap α) :
    (map.insert key value).lookup other = map.lookup other := by
  induction map with
  | nil => exact lookup_cons_of_ne apart
  | cons entry rest ih =>
    obtain ⟨first, held⟩ := entry
    rw [insert]
    split
    case isTrue same =>
      subst same
      rw [lookup_cons_of_ne apart, lookup_cons_of_ne apart]
    case isFalse =>
      split
      case isTrue => exact lookup_cons_of_ne apart
      case isFalse => rw [List.lookup_cons, List.lookup_cons, ih]

theorem mem_keys_insert : other ∈ (map.insert key value).keys ↔ other = key ∨ other ∈ map.keys := by
  induction map with
  | nil => simp [insert, keys]
  | cons entry rest ih =>
    simp only [keys, List.map_cons, List.mem_cons] at ih ⊢
    rw [insert]
    split
    case isTrue same => rw [List.map_cons, List.mem_cons, same, or_self_left]
    case isFalse =>
      split
      case isTrue => simp only [List.map_cons, List.mem_cons]
      case isFalse => rw [List.map_cons, List.mem_cons, ih, or_left_comm]

theorem Ascending.insert (ascending : map.Ascending) (key : Nat) (value : α) :
    (map.insert key value).Ascending := by
  induction map with
  | nil => exact List.pairwise_singleton _ _
  | cons entry rest ih =>
    obtain ⟨behind, rest_ascending⟩ := List.pairwise_cons.1 ascending
    rw [NatMap.insert]
    split
    case isTrue same => exact List.pairwise_cons.2 ⟨same ▸ behind, rest_ascending⟩
    case isFalse apart =>
      split
      case isTrue before =>
        refine List.pairwise_cons.2 ⟨fun k member => ?_, ascending⟩
        rcases List.mem_cons.1 member with rfl | later
        · exact before
        · exact Nat.lt_trans before (behind k later)
      case isFalse after =>
        refine List.pairwise_cons.2 ⟨fun k member => ?_, ih rest_ascending⟩
        rcases mem_keys_insert.1 member with rfl | later
        · exact Nat.lt_of_le_of_ne (Nat.le_of_not_lt after) (Ne.symm apart)
        · exact behind k later

theorem perm_insert (fresh : key ∉ map.keys) (value : α) :
    (map.insert key value).Perm ((key, value) :: map) := by
  induction map with
  | nil => exact .refl _
  | cons entry rest ih =>
    obtain ⟨apart, unknown⟩ := not_or.1 (mt List.mem_cons.2 fresh)
    rw [insert, if_neg apart]
    split
    · exact .refl _
    · exact ((ih unknown).cons entry).trans (.swap _ _ _)

theorem lookup_eq_some_iff_mem (ascending : map.Ascending) :
    map.lookup key = some value ↔ (key, value) ∈ map := by
  rw [List.lookup_eq_some_iff]
  constructor
  · rintro ⟨front, back, rfl, _⟩
    simp
  · intro member
    obtain ⟨front, back, rfl⟩ := List.append_of_mem member
    refine ⟨front, back, rfl, fun earlier listed => ?_⟩
    rw [Ascending, keys, List.map_append, List.pairwise_append] at ascending
    have before := ascending.2.2 earlier.1 (List.mem_map_of_mem listed) key (by simp)
    simpa using Nat.ne_of_gt before

end NatMap

end Boomerang
