import Boomerang.Watch
import Mathlib.Data.List.Basic

/-!
The roll of a crew. A check takes those off it whose threads have ended, and everyone taken off is
reported once; the shutdown reports those on it that panicked.
-/

set_option autoImplicit false

namespace Boomerang

namespace Member

/-- The error that a member has been the cause of once all is over: whoever was taken off the list
was reported then, and of the others those that panicked are. -/
def error? (m : Member) : Option Log.Event :=
  if m.listed then if m.thread = .panicked then some m.joinEvent else none else some m.exitEvent

def exit? (m : Member) : Option Log.Event := if m.listed then none else some m.exitEvent

def hasFailed (m : Member) : Bool := m.listed && m.thread == .panicked

theorem hasExited_iff (m : Member) :
    m.hasExited = true ↔ m.listed = true ∧ m.thread ≠ .running := by
  rw [hasExited, Bool.and_eq_true, bne_iff_ne]

theorem error?_of_panicked {m : Member} (panicked : m.thread = .panicked) :
    m.error? = some (if m.listed then m.joinEvent else m.exitEvent) := by
  rw [error?, if_pos panicked]
  split
  · rfl
  · rfl

theorem hasFailed_stop (m : Member) : (if m.listed then m.stop else m).hasFailed = m.hasFailed := by
  obtain ⟨worker, thread, listed⟩ := m
  cases listed <;> cases thread <;> rfl

theorem joinEvent_stop (m : Member) : (if m.listed then m.stop else m).joinEvent = m.joinEvent := by
  split <;> rfl

end Member

namespace Crew

variable {crew : Crew} {position : Nat} {m : Member}

/-! ## Checks -/

theorem getElem?_check (crew : Crew) (position : Nat) : crew.check.2.2[position]? =
    crew[position]?.map fun m => if m.hasExited then m.unlist else m :=
  List.getElem?_map

theorem listed_check (crew : Crew) : listed crew.check.2.2 =
    (crew.filter fun m => m.listed && m.thread == .running).map (·.worker) := by
  rw [listed, check, List.filter_map, List.map_map]
  have kept (m : Member) : (if m.hasExited then m.unlist else m).listed =
      (m.listed && m.thread == .running) := by
    obtain ⟨worker, thread, listed⟩ := m
    cases listed <;> cases thread <;> rfl
  have worker (m : Member) : (if m.hasExited then m.unlist else m).worker = m.worker := by
    split <;> rfl
  simp only [Function.comp_def, kept, worker]

/-- Whoever is off the list after a check was so before, or was reported by it. -/
theorem exits_check (crew : Crew) : (crew.check.2.2.filterMap Member.exit?).Perm
    (crew.filterMap Member.exit? ++ crew.check.2.1) := by
  unfold check
  induction crew with
  | nil => exact List.Perm.nil
  | cons m crew ih =>
    obtain ⟨worker, thread, listed⟩ := m
    cases listed with
    | false => exact ih.cons _
    | true =>
      cases thread with
      | running => exact ih
      | stopped => exact (ih.cons _).trans List.perm_middle.symm
      | panicked => exact (ih.cons _).trans List.perm_middle.symm

theorem check_eq_false_iff (ended : ∀ m ∈ crew, m.listed = false → m.thread ≠ .running) :
    crew.check.1 = false ↔ ∀ m ∈ crew, m.thread ≠ .running := by
  rw [← Bool.not_eq_true, check_eq_true_iff]
  constructor
  · intro none m member running
    refine none ⟨m, member, ?_, running⟩
    exact eq_true_of_ne_false fun off => ended m member off running
  · rintro all ⟨m, member, _, running⟩
    exact all m member running

/-! ## The shutdown -/

theorem shutdown_log (crew : Crew) :
    crew.shutdown.1 = (crew.filter Member.hasFailed).map Member.joinEvent ++ [stoppedEvent] := by
  have log : crew.shutdown.1 = ((crew.map fun m => if m.listed then m.stop else m).filter
    Member.hasFailed).map Member.joinEvent ++ [stoppedEvent] := rfl
  rw [log, List.filter_map, List.map_map]
  simp only [Function.comp_def, Member.hasFailed_stop, Member.joinEvent_stop]

theorem flatMap_failure (crew : Crew) : (crew.filter (·.listed)).flatMap Member.failure =
    (crew.filter Member.hasFailed).map Member.joinEvent := by
  induction crew with
  | nil => rfl
  | cons m crew ih =>
    obtain ⟨worker, thread, listed⟩ := m
    cases listed with
    | false => exact ih
    | true =>
      cases thread with
      | panicked => exact congrArg (_ :: ·) ih
      | _ => exact ih

theorem errors_perm (crew : Crew) : (crew.filterMap Member.error?).Perm
    (crew.filterMap Member.exit? ++ (crew.filter Member.hasFailed).map Member.joinEvent) := by
  induction crew with
  | nil => exact List.Perm.nil
  | cons m crew ih =>
    obtain ⟨worker, thread, listed⟩ := m
    cases listed with
    | false => exact ih.cons _
    | true =>
      cases thread with
      | running => exact ih
      | stopped => exact ih
      | panicked => exact (ih.cons _).trans List.perm_middle.symm

/-! ## Orders -/

theorem mem_positions : position ∈ crew.positions ↔
    ∃ m, crew[position]? = some m ∧ m.listed = true := by
  rw [positions, List.mem_filter, List.mem_range, Option.any_eq_true]
  refine and_iff_right_of_imp ?_
  rintro ⟨m, found, _⟩
  exact (List.getElem?_eq_some_iff.1 found).1

theorem positions_cons (m : Member) (crew : Crew) : positions (m :: crew) =
    (if m.listed then [0] else []) ++ (positions crew).map (· + 1) := by
  rw [positions, List.length_cons, List.range_succ_eq_map, List.filter_cons, List.filter_map]
  obtain ⟨worker, thread, listed⟩ := m
  cases listed <;> rfl

theorem flatMap_positions {β : Type} (f : Member → List β) (crew : Crew) :
    crew.positions.flatMap (fun position => crew[position]?.elim [] f) =
      (crew.filter (·.listed)).flatMap f := by
  induction crew with
  | nil => rfl
  | cons m crew ih =>
    rw [positions_cons, List.flatMap_append, List.flatMap_map]
    simp only [List.getElem?_cons_succ]
    rw [ih]
    cases listed : m.listed with
    | true => rw [List.filter_cons_of_pos listed]; simp
    | false => rw [List.filter_cons_of_neg (by simp [listed])]; simp

end Crew

end Boomerang
