import Boomerang.Proofs.Supervision

/-!
What comes of a watch. Everything follows from what the turns keep: who is seen by a check, in what
order the shutdown proceeds, and which errors there have been when all is over.
-/

set_option autoImplicit false

namespace Boomerang

variable {workers : List (Nat × Thread)} {turns : List Turn} {w : Watch}
  {position worker : Nat} {thread : Thread}

open Turn

namespace Watch

theorem Sound.thread_eq (sound : Sound workers turns w) {m : Member}
    (here : w.crew[position]? = some m) : ∃ worker thread,
      workers[position]? = some (worker, thread) ∧ m.worker = worker ∧
        m.thread = thread.after position turns ∧
        (m.listed = false ↔ thread.Sighted position turns) := by
  have inside := (List.getElem?_eq_some_iff.1 here).1
  rw [sound.size] at inside
  obtain ⟨listed, same, seen⟩ :=
    sound.member position _ _ (List.getElem?_eq_some_iff.2 ⟨inside, rfl⟩)
  cases here.symm.trans same
  exact ⟨_, _, List.getElem?_eq_some_iff.2 ⟨inside, rfl⟩, rfl, rfl, seen⟩

theorem Sound.ended_of_unlisted (sound : Sound workers turns w) (m : Member)
    (among : m ∈ w.crew) (off : m.listed = false) : m.thread ≠ .running := by
  obtain ⟨position, here⟩ := List.getElem?_of_mem among
  obtain ⟨_, thread, _, _, same, seen⟩ := sound.thread_eq here
  rw [same]
  exact (seen.1 off).ended

theorem Sound.check_eq_false_iff (sound : Sound workers turns w) :
    w.crew.check.1 = false ↔ ∀ (position worker : Nat) (thread : Thread),
      workers[position]? = some (worker, thread) → thread.after position turns ≠ .running := by
  rw [Crew.check_eq_false_iff sound.ended_of_unlisted]
  constructor
  · intro all position worker thread found
    obtain ⟨listed, here, _⟩ := sound.member position worker thread found
    exact all _ (List.mem_of_getElem? here)
  · intro all m among
    obtain ⟨position, here⟩ := List.getElem?_of_mem among
    obtain ⟨worker, thread, found, _, same, _⟩ := sound.thread_eq here
    rw [same]
    exact all position worker thread found

/-- A worker is among those that a check reports if it is the first check after its end. -/
theorem Sound.hasExited_iff (sound : Sound workers turns w) {m : Member}
    (here : w.crew[position]? = some m) (found : workers[position]? = some (worker, thread)) :
    m.hasExited = true ↔
      thread.after position turns ≠ .running ∧ ¬ thread.Sighted position turns := by
  obtain ⟨listed, same, seen⟩ := sound.member position worker thread found
  cases here.symm.trans same
  rw [Member.hasExited_iff, ← seen, and_comm, Bool.not_eq_false]

/-- Nobody is joined before all that are to be joined have been told to stop. -/
theorem told_of_joined {crew : Crew} {acts rest earlier : List Order} {other : Nat}
    (planned : acts ++ rest = crew.orders) (joined : earlier ++ [.join position] <+: acts)
    (listed : other ∈ crew.positions) : .tell other ∈ earlier := by
  have mixed : Order.join position ∉ crew.positions.map Order.tell := by simp
  have ours : earlier ++ [.join position] <+: crew.orders :=
    joined.trans ⟨rest, planned⟩
  rw [Crew.orders, List.append_assoc] at ours
  rcases List.prefix_or_prefix_of_prefix ours (List.prefix_append _ _) with short | long
  · exact absurd (short.subset (by simp)) mixed
  · rcases List.prefix_concat_iff.1 long with same | told
    · exact absurd (by simp [same]) mixed
    · exact told.subset (List.mem_map_of_mem listed)

theorem ready_of_ended {crew : Crew} (ended : ∀ m ∈ crew, m.thread ≠ .running) (order : Order) :
    order.ready crew = true := by
  cases order with
  | join position =>
    rw [Order.ready, Option.all_eq_true]
    exact fun m here => bne_iff_ne.2 (ended m (List.mem_of_getElem? here))
  | _ => rfl

theorem advance_all {rest : List Order} (ended : ∀ m ∈ w.crew, m.thread ≠ .running)
    (plan : w.plan = some rest) : (List.replicate rest.length Turn.advance).foldl step w =
      ⟨w.crew, some [], w.acts ++ rest, w.log ++ rest.flatMap (Order.events w.crew)⟩ := by
  induction rest generalizing w with
  | nil =>
    obtain ⟨crew, _, acts, log⟩ := w
    cases plan
    simp
  | cons order rest ih =>
    have next : w.step .advance =
        ⟨w.crew, some rest, w.acts ++ [order], w.log ++ order.events w.crew⟩ := by
      rw [step, Watch.advance, plan]
      exact if_pos (ready_of_ended ended order)
    rw [List.length_cons, List.replicate_succ, List.foldl_cons, next]
    refine (ih (w := ⟨w.crew, some rest, _, _⟩) ended rfl).trans ?_
    simp

theorem Sound.acts_of_concluded (sound : Sound workers turns w) (concluded : w.plan = some []) :
    w.acts = w.crew.orders := by
  rw [← sound.planned [] concluded, List.append_nil]

theorem Sound.log_of_concluded (sound : Sound workers turns w) (concluded : w.plan = some []) :
    w.log = (run workers (opening turns)).log ++ w.crew.shutdown.1 := by
  rw [sound.log, sound.acts_of_concluded concluded, Order.events_orders]

theorem filter_error_exits (crew : Crew) :
    (crew.filterMap Member.exit?).filter (fun e => e.level == .error) =
      crew.filterMap Member.exit? := by
  rw [List.filter_eq_self]
  intro e among
  obtain ⟨m, _, reported⟩ := List.mem_filterMap.1 among
  unfold Member.exit? at reported
  split at reported
  · cases reported
  · cases reported
    rfl

theorem filter_error_shutdown (crew : Crew) :
    crew.shutdown.1.filter (fun e => e.level == .error) =
      (crew.filter Member.hasFailed).map Member.joinEvent := by
  rw [Crew.shutdown_log, List.filter_append, List.filter_eq_self.2, List.filter_singleton]
  · exact List.append_nil _
  · intro e among
    obtain ⟨m, _, rfl⟩ := List.mem_map.1 among
    rfl

theorem Sound.errors_perm (sound : Sound workers turns w) (concluded : w.plan = some []) :
    (w.log.filter fun e => e.level == .error).Perm (w.crew.filterMap Member.error?) := by
  have exits := sound.exits.filter fun e => e.level == .error
  rw [filter_error_exits] at exits
  rw [sound.log_of_concluded concluded, List.filter_append, filter_error_shutdown]
  exact (exits.append_right _).trans (Crew.errors_perm w.crew).symm

/-- What a watch has come to after some turns. -/
structure Supervised (workers : List (Nat × Thread)) (turns : List Turn) (w : Watch) : Prop where
  size : w.crew.length = workers.length
  /-- A worker is off the list if a check came after its end. -/
  member (position worker : Nat) (thread : Thread) : workers[position]? = some (worker, thread) →
    ∃ listed, w.crew[position]? = some (⟨worker, thread.after position turns, listed⟩ : Member) ∧
      (listed = false ↔ thread.Sighted position turns)
  /-- The checks have reported whoever is off the list, and each of them once. -/
  exits : (run workers (opening turns)).log.Perm (w.crew.filterMap Member.exit?)
  /-- A check reports in the order of the list, -/
  reported : .shutdown ∉ turns → (run workers (turns ++ [.check])).log =
    w.log ++ (w.crew.filter Member.hasExited).map Member.exitEvent
  /-- and namely those for whom it is the first check after their end. -/
  first (position worker : Nat) (thread : Thread) (m : Member) :
    workers[position]? = some (worker, thread) → w.crew[position]? = some m →
      (m.hasExited = true ↔
        thread.after position turns ≠ .running ∧ ¬ thread.Sighted position turns)
  kept : .shutdown ∉ turns → Crew.listed (run workers (turns ++ [.check])).crew =
    (w.crew.filter fun m => m.listed && m.thread == .running).map (·.worker)
  left : w.crew.check.1 = false ↔ ∀ (position worker : Nat) (thread : Thread),
    workers[position]? = some (worker, thread) → thread.after position turns ≠ .running
  /-- All listed workers are told before any is joined, and a join waits for its thread. -/
  told (earlier : List Order) (position other : Nat) (m : Member) :
    earlier ++ [.join position] <+: w.acts → w.crew[other]? = some m → m.listed = true →
      .tell other ∈ earlier
  joined (position : Nat) (m : Member) : .join position ∈ w.acts → w.crew[position]? = some m →
    m.thread ≠ .running
  planned (rest : List Order) : w.plan = some rest → w.acts ++ rest = w.crew.orders
  /-- Nothing but a running thread holds up the shutdown. -/
  concludes : .shutdown ∈ turns → (∀ m ∈ w.crew, m.thread ≠ .running) →
    ∃ n, (run workers (turns ++ List.replicate n .advance)).plan = some []
  log : w.plan = some [] → w.log = (run workers (opening turns)).log ++ w.crew.shutdown.1
  failures : w.crew.shutdown.1 =
    (w.crew.filter Member.hasFailed).map Member.joinEvent ++ [Crew.stoppedEvent]
  /-- The errors of the whole are one for each worker that has one. -/
  errors : w.plan = some [] →
    (w.log.filter fun e => e.level == .error).Perm (w.crew.filterMap Member.error?)
  panics (m : Member) : m ∈ w.crew → m.thread = .panicked →
    m.error? = some (if m.listed then m.joinEvent else m.exitEvent)

theorem run_append (workers : List (Nat × Thread)) (turns later : List Turn) :
    run workers (turns ++ later) = later.foldl step (run workers turns) :=
  List.foldl_append

theorem step_check_of_opening (sound : Sound workers turns (run workers turns))
    (before : .shutdown ∉ turns) : run workers (turns ++ [.check]) = { run workers turns with
      crew := (run workers turns).crew.check.2.2
      log := (run workers turns).log ++ (run workers turns).crew.check.2.1 } := by
  rw [run_snoc]
  exact if_pos (sound.waiting.2 before)

theorem Sound.concludes (sound : Sound workers turns (run workers turns))
    (closed : .shutdown ∈ turns) (ended : ∀ m ∈ (run workers turns).crew, m.thread ≠ .running) :
    ∃ n, (run workers (turns ++ List.replicate n .advance)).plan = some [] := by
  cases plan : (run workers turns).plan with
  | none => exact absurd closed (sound.waiting.1 plan)
  | some rest =>
    refine ⟨rest.length, ?_⟩
    rw [run_append, advance_all ended plan]

theorem Sound.told (sound : Sound workers turns w) {earlier : List Order} {other : Nat}
    {m : Member} (joined : earlier ++ [.join position] <+: w.acts)
    (here : w.crew[other]? = some m) (listed : m.listed = true) : .tell other ∈ earlier := by
  cases plan : w.plan with
  | none =>
    rw [sound.idle plan, List.prefix_nil] at joined
    exact absurd joined (List.append_ne_nil_of_right_ne_nil _ (List.cons_ne_nil _ _))
  | some rest =>
    have among := Crew.mem_positions.2 ⟨m, here, listed⟩
    exact told_of_joined (sound.planned rest plan) joined among

theorem Sound.joined (sound : Sound workers turns w) {m : Member}
    (carried : .join position ∈ w.acts) (here : w.crew[position]? = some m) :
    m.thread ≠ .running := by
  have ready := sound.carried _ carried
  rwa [Order.ready, here, Option.all_some, bne_iff_ne] at ready

theorem supervised_run (workers : List (Nat × Thread)) (turns : List Turn) :
    Supervised workers turns (run workers turns) :=
  have sound := sound_run workers turns
  { size := sound.size
    member := sound.member
    exits := sound.exits
    reported := fun before => by
      rw [step_check_of_opening sound before]
      rfl
    first := fun _ _ _ _ found here => sound.hasExited_iff here found
    kept := fun before => by
      rw [step_check_of_opening sound before]
      exact Crew.listed_check _
    left := sound.check_eq_false_iff
    told := fun _ _ _ _ joined here listed => sound.told joined here listed
    joined := fun _ _ carried here => sound.joined carried here
    planned := sound.planned
    concludes := sound.concludes
    log := sound.log_of_concluded
    failures := Crew.shutdown_log _
    errors := sound.errors_perm
    panics := fun _ _ panicked => Member.error?_of_panicked panicked }

/-- One worker is found by a check, the other only when it is joined. -/
example : (run [(3, .running), (5, .running)] [.ends 1 true, .check, .shutdown, .advance, .advance,
    .ends 0 true, .advance, .advance]).log =
      [Member.exitEvent ⟨5, .panicked, true⟩, Member.joinEvent ⟨3, .panicked, true⟩,
        Crew.stoppedEvent] := by
  decide +kernel

end Watch

end Boomerang
