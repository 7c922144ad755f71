import Boomerang.Proofs.Roll
import Mathlib.Data.List.Induction
import Mathlib.Data.List.TakeWhile

/-!
What every turn of a watch keeps: each thread is as its first end left it, whoever is off the list
was seen by a check after the end, and the log is that of the checks and of the orders carried out.
-/

set_option autoImplicit false

namespace Boomerang

def Turn.opening (turns : List Turn) : List Turn := turns.takeWhile (· != .shutdown)

/-- A thread after some turns: it is its first end that counts. -/
def Thread.after (position : Nat) (turns : List Turn) (thread : Thread) : Thread :=
  turns.foldl (fun thread turn =>
    match turn with
    | .ends other panics => if other = position then thread.finish panics else thread
    | _ => thread) thread

/-- Some check came after the end of the thread. -/
def Thread.Sighted (position : Nat) (turns : List Turn) (thread : Thread) : Prop :=
  ∃ earlier, earlier ++ [.check] <+: Turn.opening turns ∧
    thread.after position earlier ≠ .running

variable {workers : List (Nat × Thread)} {turns : List Turn} {turn : Turn} {w : Watch}
  {position worker : Nat} {thread : Thread}

/-! ## Turns -/

open Turn

theorem Watch.run_snoc (workers : List (Nat × Thread)) (turns : List Turn) (turn : Turn) :
    run workers (turns ++ [turn]) = (run workers turns).step turn := by
  rw [run, List.foldl_append]
  rfl

theorem opening_append (closed : .shutdown ∈ turns) (later : List Turn) :
    opening (turns ++ later) = opening turns := by
  induction turns with
  | nil => cases closed
  | cons turn turns ih =>
    rw [opening, List.cons_append, List.takeWhile_cons, opening, List.takeWhile_cons]
    split
    case isTrue other =>
      rcases List.mem_cons.1 closed with rfl | closed
      · cases other
      · exact congrArg (turn :: ·) (ih closed)
    case isFalse => rfl

theorem opening_eq_self (before : .shutdown ∉ turns) : opening turns = turns := by
  rw [opening, List.takeWhile_eq_self_iff]
  intro turn member
  rw [bne_iff_ne]
  rintro rfl
  exact before member

theorem opening_append_shutdown (before : .shutdown ∉ turns) (later : List Turn) :
    opening (turns ++ .shutdown :: later) = turns := by
  rw [opening, List.takeWhile_append_of_pos]
  · exact List.append_nil turns
  · intro turn member
    rw [bne_iff_ne]
    rintro rfl
    exact before member

namespace Thread

theorem after_snoc_ends (position other : Nat) (turns : List Turn) (panics : Bool)
    (thread : Thread) : thread.after position (turns ++ [.ends other panics]) =
      if other = position then (thread.after position turns).finish panics
      else thread.after position turns := by
  rw [after, List.foldl_append]
  rfl

theorem after_snoc (other : ∀ position panics, turn ≠ .ends position panics) :
    thread.after position (turns ++ [turn]) = thread.after position turns := by
  rw [after, List.foldl_append]
  cases turn with
  | ends position panics => exact absurd rfl (other position panics)
  | _ => rfl

theorem finish_eq_self {panics : Bool} (ended : thread ≠ .running) :
    thread.finish panics = thread := by
  cases thread with
  | running => exact absurd rfl ended
  | _ => rfl

theorem finish_ne_running (panics : Bool) (thread : Thread) :
    thread.finish panics ≠ .running := by
  cases thread <;> cases panics <;> exact Thread.noConfusion

theorem after_append_ne_running (ended : thread.after position turns ≠ .running)
    (later : List Turn) : thread.after position (turns ++ later) ≠ .running := by
  induction later using List.reverseRecOn with
  | nil => rwa [List.append_nil]
  | append_singleton later turn ih =>
    rw [← List.append_assoc]
    cases turn with
    | ends other panics =>
      rw [after_snoc_ends]
      split
      · exact finish_ne_running panics _
      · exact ih
    | _ => rwa [after_snoc fun _ _ => Turn.noConfusion]

theorem Sighted.ended (sighted : thread.Sighted position turns) :
    thread.after position turns ≠ .running := by
  obtain ⟨earlier, early, ended⟩ := sighted
  obtain ⟨later, rfl⟩ := ((List.prefix_append _ _).trans early).trans (List.takeWhile_prefix _)
  exact after_append_ne_running ended later

/-- A check before the shutdown sees every thread that has ended by then. -/
theorem sighted_snoc_check (before : .shutdown ∉ turns) :
    thread.Sighted position (turns ++ [.check]) ↔
      thread.Sighted position turns ∨ thread.after position turns ≠ .running := by
  have now : .shutdown ∉ turns ++ [.check] := by simpa using before
  unfold Sighted
  rw [opening_eq_self before, opening_eq_self now]
  simp only [List.prefix_concat_iff, List.append_cancel_right_eq]
  constructor
  · rintro ⟨earlier, rfl | early, ended⟩
    · exact Or.inr ended
    · exact Or.inl ⟨earlier, early, ended⟩
  · rintro (⟨earlier, early, ended⟩ | ended)
    · exact ⟨earlier, Or.inr early, ended⟩
    · exact ⟨turns, Or.inl rfl, ended⟩

/-- Nothing else sees a thread, and after the shutdown has begun nothing does. -/
theorem sighted_snoc (blind : turn ≠ .check ∨ .shutdown ∈ turns) :
    thread.Sighted position (turns ++ [turn]) ↔ thread.Sighted position turns := by
  unfold Sighted
  by_cases closed : .shutdown ∈ turns
  · rw [opening_append closed]
  · by_cases last : turn = .shutdown
    · rw [last, opening_append_shutdown closed, opening_eq_self closed]
    · have now : .shutdown ∉ turns ++ [turn] := by simp [closed, Ne.symm last]
      have other : turn ≠ .check := blind.resolve_right closed
      rw [opening_eq_self closed, opening_eq_self now]
      simp only [List.prefix_concat_iff]
      refine exists_congr fun earlier => and_congr_left fun _ => or_iff_right fun same => ?_
      exact other (List.singleton_inj.1 (List.append_inj_right' same rfl)).symm

end Thread

/-! ## What every turn keeps -/

namespace Member

theorem finish_eq_self {m : Member} {panics : Bool} (ended : m.thread ≠ .running) :
    m.finish panics = m := by
  rw [finish, Thread.finish_eq_self ended]

end Member

namespace Crew

theorem getElem?_finish (crew : Crew) (position other : Nat) (panics : Bool) :
    (crew.modify other (Member.finish panics))[position]? =
      crew[position]?.map fun m => if other = position then m.finish panics else m :=
  List.getElem?_modify ..

theorem orders_finish (crew : Crew) (position : Nat) (panics : Bool) :
    orders (crew.modify position (Member.finish panics)) = crew.orders := by
  have same : positions (crew.modify position (Member.finish panics)) = crew.positions := by
    rw [positions, positions, List.length_modify]
    refine List.filter_congr fun other _ => ?_
    rw [getElem?_finish, Option.any_map]
    refine congrArg (fun p => Option.any p _) (funext fun m => ?_)
    split
    · rfl
    · rfl
  rw [orders, same, orders]

theorem exits_finish (crew : Crew) (position : Nat) (panics : Bool) :
    (crew.modify position (Member.finish panics)).filterMap Member.exit? =
      crew.filterMap Member.exit? := by
  induction crew generalizing position with
  | nil => rw [List.modify_nil]
  | cons m crew ih =>
    cases position with
    | zero => rfl
    | succ position =>
      rw [List.modify_succ_cons, List.filterMap_cons, List.filterMap_cons, ih]

end Crew

namespace Order

variable {order : Order} {crew : Crew}

/-- Ends of other threads do not matter to an order that can be carried out, and its own thread has
ended before. -/
theorem getElem?_finish_of_ready (ready : (Order.join position).ready crew = true) (other : Nat)
    (panics : Bool) :
    (crew.modify other (Member.finish panics))[position]? = crew[position]? := by
  rw [Crew.getElem?_finish]
  rw [Order.ready] at ready
  cases found : crew[position]? with
  | none => rfl
  | some m =>
    rw [found, Option.all_some, bne_iff_ne] at ready
    rw [Option.map_some, Member.finish_eq_self ready, ite_self]

theorem ready_finish (ready : order.ready crew = true) (other : Nat) (panics : Bool) :
    order.ready (crew.modify other (Member.finish panics)) = true := by
  cases order with
  | join position => rwa [Order.ready, getElem?_finish_of_ready ready]
  | _ => rfl

theorem events_finish (ready : order.ready crew = true) (other : Nat) (panics : Bool) :
    order.events (crew.modify other (Member.finish panics)) = order.events crew := by
  cases order with
  | join position => rw [events, getElem?_finish_of_ready ready, events]
  | _ => rfl

/-- All orders together report what the shutdown reports. -/
theorem events_orders (crew : Crew) : crew.orders.flatMap (events crew) = crew.shutdown.1 := by
  have silent : (crew.positions.map Order.tell).flatMap (events crew) = [] := by
    rw [List.flatMap_map, List.flatMap_eq_nil_iff]
    exact fun _ _ => rfl
  rw [Crew.shutdown_log, Crew.orders, List.flatMap_append, List.flatMap_append, silent,
    List.flatMap_map, List.nil_append, ← Crew.flatMap_failure, ← Crew.flatMap_positions]
  rfl

end Order

/-- A watch after some turns. The log is that of the checks, and behind it that of the orders which
have been carried out. -/
structure Watch.Sound (workers : List (Nat × Thread)) (turns : List Turn) (w : Watch) : Prop where
  size : w.crew.length = workers.length
  member (position worker : Nat) (thread : Thread) : workers[position]? = some (worker, thread) →
    ∃ listed, w.crew[position]? = some (⟨worker, thread.after position turns, listed⟩ : Member) ∧
      (listed = false ↔ thread.Sighted position turns)
  waiting : w.plan = none ↔ .shutdown ∉ turns
  idle : w.plan = none → w.acts = []
  planned : ∀ rest, w.plan = some rest → w.acts ++ rest = w.crew.orders
  carried : ∀ order ∈ w.acts, order.ready w.crew = true
  log : w.log = (run workers (opening turns)).log ++ w.acts.flatMap (Order.events w.crew)
  exits : (run workers (opening turns)).log.Perm (w.crew.filterMap Member.exit?)

namespace Watch

theorem sound_begin (workers : List (Nat × Thread)) : Sound workers [] (begin workers) where
  size := List.length_map _
  member position worker thread found := by
    refine ⟨true, ?_, ?_⟩
    · rw [begin, Crew.enlist, List.getElem?_map, found]
      rfl
    · refine iff_of_false Bool.noConfusion ?_
      rintro ⟨earlier, early, _⟩
      exact List.append_ne_nil_of_right_ne_nil _ (List.cons_ne_nil _ _) (List.prefix_nil.1 early)
  waiting := by simp [begin]
  idle _ := rfl
  planned rest impossible := by cases impossible
  carried order member := by cases member
  log := rfl
  exits := by
    have none : (Crew.enlist workers).filterMap Member.exit? = [] := by
      rw [List.filterMap_eq_nil_iff]
      intro m among
      obtain ⟨_, _, rfl⟩ := List.mem_map.1 among
      rfl
    rw [begin, none]
    rfl

theorem Sound.opening_log (sound : Sound workers turns (run workers turns)) (turn : Turn)
    (blind : turn ≠ .check ∨ .shutdown ∈ turns) :
    (run workers (opening (turns ++ [turn]))).log = (run workers (opening turns)).log := by
  by_cases closed : .shutdown ∈ turns
  · rw [opening_append closed]
  · have waits := sound.waiting.2 closed
    cases turn with
    | check => exact absurd rfl (blind.resolve_right closed)
    | shutdown => rw [opening_append_shutdown closed, opening_eq_self closed]
    | ends position panics =>
      rw [opening_eq_self closed, opening_eq_self (by simpa using closed), run_snoc]
      rfl
    | advance =>
      rw [opening_eq_self closed, opening_eq_self (by simpa using closed), run_snoc, step,
        Watch.advance, waits]

theorem Sound.ends (sound : Sound workers turns (run workers turns)) (other : Nat)
    (panics : Bool) : Sound workers (turns ++ [.ends other panics])
      (run workers (turns ++ [.ends other panics])) := by
  have log := sound.opening_log (.ends other panics) (Or.inl Turn.noConfusion)
  rw [run_snoc]
  refine ⟨?_, ?_, ?_, sound.idle, ?_, ?_, ?_, ?_⟩
  · exact (List.length_modify ..).trans sound.size
  · intro position worker thread found
    obtain ⟨listed, here, seen⟩ := sound.member position worker thread found
    refine ⟨listed, ?_, ?_⟩
    · rw [step, Crew.getElem?_finish, here, Thread.after_snoc_ends, Option.map_some]
      split
      · rfl
      · rfl
    · rw [Thread.sighted_snoc (Or.inl Turn.noConfusion)]
      exact seen
  · rw [step, sound.waiting]
    simp
  · intro rest planned
    exact (sound.planned rest planned).trans (Crew.orders_finish ..).symm
  · intro order among
    exact Order.ready_finish (sound.carried order among) other panics
  · rw [log, step, sound.log]
    refine congrArg (_ ++ ·) (List.flatMap_congr fun order among => ?_)
    exact (Order.events_finish (sound.carried order among) other panics).symm
  · rw [log, step, Crew.exits_finish]
    exact sound.exits

/-- A turn that leaves the crew alone can only have to do with the shutdown. -/
theorem Sound.sameCrew (sound : Sound workers turns (run workers turns)) (turn : Turn)
    (blind : turn ≠ .check ∨ .shutdown ∈ turns)
    (other : ∀ position panics, turn ≠ .ends position panics) {plan : Option (List Order)}
    {acts : List Order} {log : List Log.Event} (waiting : plan = none ↔ .shutdown ∉ turns ++ [turn])
    (idle : plan = none → acts = [])
    (planned : ∀ rest, plan = some rest → acts ++ rest = (run workers turns).crew.orders)
    (carried : ∀ order ∈ acts, order.ready (run workers turns).crew = true)
    (told : log = (run workers (opening turns)).log ++
      acts.flatMap (Order.events (run workers turns).crew)) :
    Sound workers (turns ++ [turn]) ⟨(run workers turns).crew, plan, acts, log⟩ := by
  have same := sound.opening_log turn blind
  refine ⟨sound.size, ?_, waiting, idle, planned, carried, ?_, ?_⟩
  · intro position worker thread found
    rw [Thread.after_snoc other, Thread.sighted_snoc blind]
    exact sound.member position worker thread found
  · rw [same]
    exact told
  · rw [same]
    exact sound.exits

theorem Sound.idleTurn (sound : Sound workers turns (run workers turns)) (turn : Turn)
    (blind : turn ≠ .check ∨ .shutdown ∈ turns) (closed : turn = .shutdown → .shutdown ∈ turns)
    (other : ∀ position panics, turn ≠ .ends position panics)
    (still : (run workers turns).step turn = run workers turns) :
    Sound workers (turns ++ [turn]) (run workers (turns ++ [turn])) := by
  have waiting : (run workers turns).plan = none ↔ .shutdown ∉ turns ++ [turn] := by
    rw [sound.waiting, List.mem_append, List.mem_singleton, not_or]
    exact (and_iff_left_of_imp fun before same => before (closed same.symm)).symm
  rw [run_snoc, still]
  exact sound.sameCrew turn blind other waiting sound.idle sound.planned sound.carried sound.log

theorem Sound.check (sound : Sound workers turns (run workers turns)) :
    Sound workers (turns ++ [.check]) (run workers (turns ++ [.check])) := by
  by_cases waits : (run workers turns).plan = none
  · have before := sound.waiting.1 waits
    have now : .shutdown ∉ turns ++ [.check] := by simpa using before
    have next : (run workers turns).step .check = { run workers turns with
        crew := (run workers turns).crew.check.2.2
        log := (run workers turns).log ++ (run workers turns).crew.check.2.1 } := if_pos waits
    have exits := sound.exits
    rw [opening_eq_self before] at exits
    rw [run_snoc, next]
    refine ⟨?_, ?_, ?_, sound.idle, ?_, ?_, ?_, ?_⟩
    · exact (List.length_map _).trans sound.size
    · intro position worker thread found
      obtain ⟨listed, here, seen⟩ := sound.member position worker thread found
      refine ⟨listed && thread.after position turns == .running, ?_, ?_⟩
      · rw [Crew.getElem?_check, here, Thread.after_snoc fun _ _ => Turn.noConfusion]
        cases listed <;> cases thread.after position turns <;> rfl
      · rw [Thread.sighted_snoc_check before, ← seen, Bool.and_eq_false_iff, beq_eq_false_iff_ne]
    · exact iff_of_true waits now
    · intro rest planned
      cases waits.symm.trans planned
    · intro order among
      cases (sound.idle waits) ▸ among
    · rw [opening_eq_self now, run_snoc, next]
      dsimp only
      rw [sound.idle waits]
      exact (List.append_nil _).symm
    · rw [opening_eq_self now, run_snoc, next]
      exact (exits.append_right _).trans (Crew.exits_check _).symm
  · have closed : .shutdown ∈ turns := Classical.not_not.1 (mt sound.waiting.2 waits)
    exact sound.idleTurn _ (Or.inr closed) (fun _ => closed) (fun _ _ => Turn.noConfusion)
      (if_neg waits)

theorem Sound.shutdown (sound : Sound workers turns (run workers turns)) :
    Sound workers (turns ++ [.shutdown]) (run workers (turns ++ [.shutdown])) := by
  by_cases waits : (run workers turns).plan = none
  · have next : (run workers turns).step .shutdown =
      { run workers turns with plan := some (run workers turns).crew.orders } := if_pos waits
    rw [run_snoc, next]
    refine sound.sameCrew .shutdown (Or.inl Turn.noConfusion) (fun _ _ => Turn.noConfusion)
      (by simp) (absurd · (Option.some_ne_none _)) ?_ sound.carried sound.log
    rintro rest ⟨⟩
    exact congrArg (· ++ _) (sound.idle waits)
  · have closed : .shutdown ∈ turns := Classical.not_not.1 (mt sound.waiting.2 waits)
    exact sound.idleTurn _ (Or.inr closed) (fun _ => closed) (fun _ _ => Turn.noConfusion)
      (if_neg waits)

theorem Sound.advance (sound : Sound workers turns (run workers turns)) :
    Sound workers (turns ++ [.advance]) (run workers (turns ++ [.advance])) := by
  have idle (still : (run workers turns).advance = run workers turns) :=
    sound.idleTurn .advance (Or.inl Turn.noConfusion) Turn.noConfusion
      (fun _ _ => Turn.noConfusion) still
  cases plan : (run workers turns).plan with
  | none => exact idle (by rw [Watch.advance, plan])
  | some orders =>
    cases orders with
    | nil => exact idle (by rw [Watch.advance, plan])
    | cons order rest =>
      by_cases ready : order.ready (run workers turns).crew = true
      · have next : (run workers turns).step .advance = ⟨(run workers turns).crew, some rest,
            (run workers turns).acts ++ [order],
            (run workers turns).log ++ order.events (run workers turns).crew⟩ := by
          rw [step, Watch.advance, plan]
          exact if_pos ready
        have closed : .shutdown ∈ turns :=
          Classical.not_not.1 fun before => by cases (sound.waiting.2 before).symm.trans plan
        rw [run_snoc, next]
        refine sound.sameCrew .advance (Or.inl Turn.noConfusion) (fun _ _ => Turn.noConfusion)
          (by simp [closed]) (absurd · (Option.some_ne_none _)) ?_ ?_ ?_
        · rintro rest ⟨⟩
          rw [List.append_assoc]
          exact sound.planned (order :: rest) plan
        · exact List.forall_mem_append.2 ⟨sound.carried, by simpa using ready⟩
        · rw [List.flatMap_append, ← List.append_assoc, ← sound.log, List.flatMap_singleton]
      · refine idle ?_
        rw [Watch.advance, plan]
        exact if_neg ready

theorem sound_run (workers : List (Nat × Thread)) (turns : List Turn) :
    Sound workers turns (run workers turns) := by
  induction turns using List.reverseRecOn with
  | nil => exact sound_begin workers
  | append_singleton turns turn ih =>
    cases turn with
    | ends position panics => exact ih.ends position panics
    | check => exact ih.check
    | shutdown => exact ih.shutdown
    | advance => exact ih.advance

end Watch

end Boomerang
