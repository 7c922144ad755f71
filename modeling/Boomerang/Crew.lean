import Boomerang.Log

/-!
Supervision of worker threads. A thread ends because it was told to stop or because it panicked.
A check reports every listed worker whose thread has ended and takes it off the list; the final
shutdown stops all listed workers, then joins them in order and reports those that panicked.
-/

set_option autoImplicit false

namespace Boomerang

inductive Thread where
  | running
  | stopped
  | panicked
  deriving DecidableEq, Repr

/-- A running thread ends; an ended one stays as it ended. -/
def Thread.finish (panics : Bool) : Thread → Thread
  | .running => if panics then .panicked else .stopped
  | .stopped => .stopped
  | .panicked => .panicked

structure Member where
  worker : Nat
  thread : Thread
  listed : Bool
  deriving DecidableEq, Repr

abbrev Crew := List Member

namespace Member

def hasExited (m : Member) : Bool := m.listed && m.thread != .running

def exitEvent (m : Member) : Log.Event :=
  ⟨.error, "Worker exited unexpectedly", [("worker", toString m.worker)]⟩

def joinEvent (m : Member) : Log.Event :=
  ⟨.error, "Failed to join worker",
    [("worker", toString m.worker), ("error", "Worker thread panicked")]⟩

def finish (panics : Bool) (m : Member) : Member := { m with thread := m.thread.finish panics }

def stop (m : Member) : Member := m.finish false

def unlist (m : Member) : Member := { m with listed := false }

end Member

namespace Crew

def listed (crew : Crew) : List Nat := (crew.filter (·.listed)).map (·.worker)

def find? (crew : Crew) (worker : Nat) : Option Nat :=
  crew.findIdx? fun m => m.listed && m.worker == worker

/-- Reports and unlists the workers that exited; the flag says whether any is left. -/
def check (crew : Crew) : Bool × List Log.Event × Crew :=
  let checked := crew.map fun m => if m.hasExited then m.unlist else m
  (checked.any (·.listed), (crew.filter Member.hasExited).map Member.exitEvent, checked)

def stoppedEvent : Log.Event := ⟨.info, "Data plane stopped", []⟩

/-- Stops every listed worker, then joins each of them. -/
def shutdown (crew : Crew) : List Log.Event × Crew :=
  let stopped := crew.map fun m => if m.listed then m.stop else m
  let failed := stopped.filter fun m => m.listed && m.thread == .panicked
  (failed.map Member.joinEvent ++ [stoppedEvent], stopped.map Member.unlist)

theorem check_eq_true_iff (crew : Crew) :
    crew.check.1 = true ↔ ∃ m ∈ crew, m.listed = true ∧ m.thread = .running := by
  simp only [check, List.any_map, List.any_eq_true, Function.comp]
  refine exists_congr fun m => and_congr_right fun _ => ?_
  by_cases hl : m.listed <;> by_cases ht : m.thread = .running <;>
    simp [Member.hasExited, Member.unlist, hl, ht]

end Crew

end Boomerang
