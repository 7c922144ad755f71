import Boomerang.Proofs.Oversight
import Boomerang.Session

/-!
The end of a session. A session ends at the first signal, or at the first tick that finds all
threads ended, and is then shut down; what it logged about its workers is the log of a watch over
them.
-/

set_option autoImplicit false

namespace Boomerang

open Watch

/-! ## Threads that are told to stop -/

namespace Member

theorem stop_stop (m : Member) : m.stop.stop = m.stop := by
  obtain ⟨worker, thread, listed⟩ := m
  cases thread <;> rfl

theorem stop_eq_self {m : Member} (ended : m.thread ≠ .running) : m.stop = m :=
  finish_eq_self ended

end Member

namespace Crew

variable {crew : Crew}

theorem map_stop_stop (crew : Crew) (position : Nat) :
    (crew.modify position Member.stop).map Member.stop = crew.map Member.stop := by
  induction crew generalizing position with
  | nil => rw [List.modify_nil]
  | cons m crew ih =>
    cases position with
    | zero => exact congrArg (· :: _) m.stop_stop
    | succ position => exact congrArg (_ :: ·) (ih position)

theorem foldl_stop (crew : Crew) :
    (List.range crew.length).foldl (fun crew position => crew.modify position Member.stop) crew =
      crew.map Member.stop := by
  -- The first `n` rounds have stopped the first `n` threads.
  have rounds (n position : Nat) :
      ((List.range n).foldl (fun crew position => crew.modify position Member.stop) crew)[position]?
        = crew[position]?.map fun m => if position < n then m.stop else m := by
    induction n with
    | zero => simp
    | succ n ih =>
      rw [List.range_succ, List.foldl_append, List.foldl_cons, List.foldl_nil,
        List.getElem?_modify, ih]
      cases crew[position]? with
      | none => rfl
      | some m =>
        by_cases here : n = position
        · simp [here]
        · have same : position < n + 1 ↔ position < n := by omega
          simp [here, same]
  refine List.ext_getElem? fun position => ?_
  rw [rounds, List.getElem?_map]
  cases found : crew[position]? with
  | none => rfl
  | some m => rw [Option.map_some, if_pos (List.getElem?_eq_some_iff.1 found).1, Option.map_some]

theorem shutdown_map_stop (crew : Crew) :
    (shutdown (crew.map Member.stop)).1 = crew.shutdown.1 := by
  have failed (m : Member) : m.stop.hasFailed = m.hasFailed := by
    obtain ⟨worker, thread, listed⟩ := m
    cases thread <;> rfl
  have event (m : Member) : m.stop.joinEvent = m.joinEvent := rfl
  rw [shutdown_log, shutdown_log, List.filter_map, List.map_map]
  simp only [Function.comp_def, failed, event]

theorem shutdown_crew (ended : ∀ m ∈ crew, m.listed = false → m.thread ≠ .running) :
    crew.shutdown.2 = (crew.map Member.stop).map Member.unlist := by
  have stopped : crew.map (fun m => if m.listed then m.stop else m) = crew.map Member.stop := by
    refine List.map_congr_left fun m among => ?_
    split
    case isTrue => rfl
    case isFalse off => exact (Member.stop_eq_self (ended m among (eq_false_of_ne_true off))).symm
  rw [← stopped]
  rfl

theorem ended_stop (ended : ∀ m ∈ crew, m.listed = false → m.thread ≠ .running)
    (position : Nat) :
    ∀ m ∈ crew.modify position Member.stop, m.listed = false → m.thread ≠ .running := by
  intro m among off
  obtain ⟨other, here⟩ := List.getElem?_of_mem among
  obtain ⟨before, found, rfl⟩ := Option.map_eq_some_iff.1 ((getElem?_finish ..).symm.trans here)
  split
  case isTrue => exact Thread.finish_ne_running false _
  case isFalse other =>
    rw [if_neg other] at off
    exact ended before (List.mem_of_getElem? found) off

end Crew

namespace Fleet

theorem crew_endAt (f : Fleet) (panics : Bool) (position : Nat) :
    (f.endAt panics position).crew =
      if position < f.stations.length then f.crew.modify position (Member.finish panics)
      else f.crew := by
  rw [List.modify_eq_set_getElem?, endAt]
  cases member : f.crew[position]? with
  | none => exact (ite_self _).symm
  | some m =>
    cases station : f.stations[position]? with
    | none => rw [if_neg (Nat.not_lt.2 (List.getElem?_eq_none_iff.1 station))]
    | some s =>
      rw [if_pos (List.getElem?_eq_some_iff.1 station).1]
      dsimp only
      split
      case isTrue => rfl
      case isFalse ended =>
        -- A thread that has ended stays as it is.
        have same : f.crew.set position (m.finish panics) = f.crew := by
          rw [Member.finish_eq_self ended]
          obtain ⟨inside, rfl⟩ := List.getElem?_eq_some_iff.1 member
          exact List.set_getElem_self inside
        exact same.symm

/-- A fleet has its workers on the list from the beginning, so that a session over spawned workers
is one over enlisted ones. -/
theorem crew_spawn (workers : List (Nat × Thread)) (stations : List Station)
    (setup : Worker.Setup) (bench : Bench) (frames : List Octets) (panics : Bool) :
    (spawn ⟨Crew.enlist workers, stations⟩ setup bench frames panics).crew =
      Crew.enlist (workers ++ [(setup.id, if panics then .panicked else .running)]) := by
  have last : (spawn ⟨Crew.enlist workers, stations⟩ setup bench frames panics).crew =
    Crew.enlist workers ++ [⟨setup.id, if panics then .panicked else .running, true⟩] := rfl
  rw [last, Crew.enlist, Crew.enlist, List.map_append]
  rfl

def stopAll (f : Fleet) : Fleet := (List.range f.crew.length).foldl stopAt f

theorem stopped_crew {f : Fleet} (ended : ∀ m ∈ f.crew, m.listed = false → m.thread ≠ .running)
    (positions : List Nat) :
    (∀ m ∈ (positions.foldl stopAt f).crew, m.listed = false → m.thread ≠ .running) ∧
      (positions.foldl stopAt f).crew.map Member.stop = f.crew.map Member.stop := by
  induction positions generalizing f with
  | nil => exact ⟨ended, rfl⟩
  | cons position rest ih =>
    rw [List.foldl_cons, stopAt]
    have crew := f.crew_endAt false position
    split at crew
    case isFalse =>
      rw [← crew] at ended ⊢
      exact ih ended
    case isTrue =>
      have next := Crew.ended_stop ended position
      obtain ⟨others, all⟩ := ih (f := f.endAt false position) (crew ▸ next)
      exact ⟨others, all.trans (crew ▸ Crew.map_stop_stop f.crew position)⟩

end Fleet

def Occurrence.isTick : Occurrence → Bool
  | .tick _ => true
  | _ => false

namespace Session

def aboutWorkers (e : Log.Event) : Bool :=
  e.message = "Worker exited unexpectedly" || e.message = "Failed to join worker" ||
    e.message = "Data plane stopped"

/-- The session behind some occurrences, whether or not one of them ends it. -/
def after (s : Session) (occurrences : List Occurrence) : Session :=
  occurrences.foldl (fun s o => (s.step o).2) s

/-- A session is over with a signal, and with a tick if all threads have ended. -/
def Decisive (s : Session) : Occurrence → Prop
  | .signal _ => True
  | .tick _ => ∀ m ∈ s.fleet.crew, m.thread ≠ .running
  | _ => False

def Stays (s : Session) (occurrences : List Occurrence) : Prop :=
  ∀ earlier o, earlier ++ [o] <+: occurrences → ¬ (s.after earlier).Decisive o

/-- The end of a thread, if there is a worker on that position. -/
def endTurns (s : Session) (panics : Bool) (position : Nat) : List Turn :=
  if position < s.fleet.stations.length then [.ends position panics] else []

/-- What an occurrence is to a watch over the workers. -/
def turns (s : Session) : Occurrence → List Turn
  | .tick _ => [.check]
  | .signal _ => []
  | .workerStops worker => ((s.fleet.crew.find? worker).map (s.endTurns false)).getD []
  | .threadEnds position panics => s.endTurns panics position

def turnsOf (s : Session) : List Occurrence → List Turn
  | [] => []
  | o :: rest => s.turns o ++ turnsOf (s.step o).2 rest

/-- The shutdown in turns: all threads end as they are told, and are then joined one by one. -/
def closing (s : Session) : List Turn :=
  .shutdown :: (List.range s.fleet.crew.length).map (Turn.ends · false) ++
    List.replicate s.fleet.crew.orders.length .advance

/-- The turns of a session that an occurrence ends, and of its shutdown. -/
def turnsUntil (s : Session) (before : List Occurrence) (o : Occurrence) : List Turn :=
  s.turnsOf before ++ (s.after before).turns o ++ ((s.after before).step o).2.closing

/-- The workers of a session as a watch over them would have it. -/
structure Tracks (workers : List (Nat × Thread)) (turns : List Turn) (s : Session) : Prop where
  before : .shutdown ∉ turns
  crew : (run workers turns).crew = s.fleet.crew
  log : s.log.filter aboutWorkers = (run workers turns).log
  errors : ∀ e ∈ s.log, e.level = .error → aboutWorkers e = true ∨ e = allExitedEvent

variable {workers : List (Nat × Thread)} {turns : List Turn} {s : Session}

/-! ## Events -/

theorem aboutWorkers_exits {crew : Crew} : ∀ e ∈ crew.check.2.1, aboutWorkers e = true := by
  intro e among
  obtain ⟨m, _, rfl⟩ := List.mem_map.1 among
  rfl

theorem aboutWorkers_shutdown {crew : Crew} : ∀ e ∈ crew.shutdown.1, aboutWorkers e = true := by
  rw [Crew.shutdown_log]
  intro e among
  rcases List.mem_append.1 among with failure | last
  · obtain ⟨m, _, rfl⟩ := List.mem_map.1 failure
    rfl
  · rw [List.mem_singleton.1 last]
    rfl

theorem report_calm (stats : Stats) (moment : Nat) (register : Register) :
    ∀ e ∈ (stats.report moment register).1, e.level = .info ∧ aboutWorkers e = false := by
  intro e among
  rcases List.mem_append.1 among with line | total
  · obtain ⟨_, _, rfl⟩ := List.mem_map.1 line
    exact ⟨rfl, rfl⟩
  · rw [List.mem_singleton.1 total]
    exact ⟨rfl, rfl⟩

theorem filter_report (stats : Stats) (moment : Nat) (register : Register) :
    (stats.report moment register).1.filter aboutWorkers = [] := by
  rw [List.filter_eq_nil_iff]
  intro e among
  rw [(report_calm stats moment register e among).2]
  exact Bool.noConfusion

/-! ## Steps -/

theorem step_tick (s : Session) (moment : Nat) : s.step (.tick moment) = (s.fleet.crew.check.1,
    ⟨{ s.fleet with crew := s.fleet.crew.check.2.2 }, (s.stats.report moment s.fleet.register).2,
      s.log ++ (s.stats.report moment s.fleet.register).1 ++ s.fleet.crew.check.2.1 ++
        if s.fleet.crew.check.1 then [] else [allExitedEvent]⟩) := by
  have check : s.fleet.check = (s.fleet.crew.check.1, s.fleet.crew.check.2.1,
    { s.fleet with crew := s.fleet.crew.check.2.2 }) := rfl
  rw [Session.step, check]
  dsimp only
  split
  case isTrue left => rw [left, List.append_nil]
  case isFalse none => rw [eq_false_of_ne_true none]

theorem Tracks.endAt (tracks : Tracks workers turns s) (panics : Bool) (position : Nat) :
    Tracks workers (turns ++ s.endTurns panics position)
      { s with fleet := s.fleet.endAt panics position } := by
  have crew := s.fleet.crew_endAt panics position
  rw [endTurns]
  split
  case isTrue inside =>
    rw [if_pos inside] at crew
    refine ⟨?_, ?_, ?_, tracks.errors⟩
    · simpa using tracks.before
    · rw [run_snoc, Watch.step, tracks.crew]
      exact crew.symm
    · rw [run_snoc]
      exact tracks.log
  case isFalse outside =>
    rw [if_neg outside] at crew
    rw [List.append_nil]
    exact ⟨tracks.before, tracks.crew.trans crew.symm, tracks.log, tracks.errors⟩

theorem Tracks.tick (tracks : Tracks workers turns s) (moment : Nat) :
    Tracks workers (turns ++ [.check]) (s.step (.tick moment)).2 := by
  have next := step_check_of_opening (sound_run workers turns) tracks.before
  rw [step_tick]
  refine ⟨?_, ?_, ?_, ?_⟩
  · simpa using tracks.before
  · rw [next, tracks.crew]
  · have last : (if s.fleet.crew.check.1 then [] else [allExitedEvent]).filter aboutWorkers =
        [] := by
      split <;> rfl
    rw [next, tracks.crew]
    simp only [List.filter_append, filter_report, last, tracks.log, List.append_nil]
    rw [List.filter_eq_self.2 aboutWorkers_exits]
  · intro e among error
    rcases List.mem_append.1 among with among | last
    · rcases List.mem_append.1 among with among | exited
      · rcases List.mem_append.1 among with earlier | line
        · exact tracks.errors e earlier error
        · cases (report_calm _ _ _ e line).1.symm.trans error
      · exact Or.inl (aboutWorkers_exits e exited)
    · split at last
      · cases last
      · exact Or.inr (List.mem_singleton.1 last)

theorem Tracks.signal (tracks : Tracks workers turns s) (signal : Signal) :
    Tracks workers turns (s.step (.signal signal)).2 := by
  refine ⟨tracks.before, tracks.crew, ?_, ?_⟩
  · rw [Session.step, List.filter_append, tracks.log]
    cases signal <;> exact List.append_nil _
  · intro e among error
    rcases List.mem_append.1 among with earlier | last
    · exact tracks.errors e earlier error
    · rw [List.mem_singleton.1 last] at error
      cases signal <;> cases error

theorem Tracks.step (tracks : Tracks workers turns s) (o : Occurrence) :
    Tracks workers (turns ++ s.turns o) (s.step o).2 := by
  cases o with
  | tick moment => exact tracks.tick moment
  | signal signal =>
    rw [Session.turns, List.append_nil]
    exact tracks.signal signal
  | workerStops worker =>
    rw [Session.step, Session.turns, Fleet.stop]
    cases s.fleet.crew.find? worker with
    | some position => exact tracks.endAt false position
    | none => rwa [Option.map_none, Option.getD_none, List.append_nil]
  | threadEnds position panics => exact tracks.endAt panics position

theorem tracks_after (tracks : Tracks workers turns s) (occurrences : List Occurrence) :
    Tracks workers (turns ++ s.turnsOf occurrences) (s.after occurrences) := by
  induction occurrences generalizing s turns with
  | nil => rwa [turnsOf, List.append_nil]
  | cons o rest ih =>
    rw [turnsOf, ← List.append_assoc]
    exact ih (tracks.step o)

theorem Tracks.step_eq_false_iff (tracks : Tracks workers turns s) (o : Occurrence) :
    (s.step o).1 = false ↔ s.Decisive o := by
  cases o with
  | tick moment =>
    have ended := (sound_run workers turns).ended_of_unlisted
    rw [tracks.crew] at ended
    rw [step_tick, Crew.check_eq_false_iff ended, Decisive]
  | _ => simp [Decisive, Session.step]

/-! ## The shutdown -/

theorem foldl_ends (w : Watch) (positions : List Nat) :
    (positions.map (Turn.ends · false)).foldl Watch.step w =
      ⟨positions.foldl (fun crew position => crew.modify position Member.stop) w.crew,
        w.plan, w.acts, w.log⟩ := by
  induction positions generalizing w with
  | nil => rfl
  | cons position rest ih => exact ih _

theorem Tracks.closing (tracks : Tracks workers turns s) :
    (run workers (turns ++ s.closing)).plan = some [] ∧
      (run workers (turns ++ s.closing)).crew = s.fleet.crew.map Member.stop := by
  have waits := (sound_run workers turns).waiting.2 tracks.before
  have begun : (run workers turns).step .shutdown =
    { run workers turns with plan := some (run workers turns).crew.orders } := if_pos waits
  have ended : ∀ m ∈ s.fleet.crew.map Member.stop, m.thread ≠ .running := by
    intro m among
    obtain ⟨_, _, rfl⟩ := List.mem_map.1 among
    exact Thread.finish_ne_running false _
  rw [Session.closing, run_append, List.cons_append, List.foldl_cons, begun, List.foldl_append,
    foldl_ends, tracks.crew, Crew.foldl_stop, advance_all ended rfl]
  exact ⟨rfl, rfl⟩

theorem Tracks.shutdown (tracks : Tracks workers turns s) :
    s.shutdown.log.filter aboutWorkers = (run workers (turns ++ s.closing)).log ∧
      s.shutdown.fleet.crew = (run workers (turns ++ s.closing)).crew.map Member.unlist := by
  obtain ⟨concluded, crew⟩ := tracks.closing
  have sound := sound_run workers (turns ++ s.closing)
  have ended := (sound_run workers turns).ended_of_unlisted
  rw [tracks.crew] at ended
  obtain ⟨others, stopped⟩ := Fleet.stopped_crew ended (List.range s.fleet.crew.length)
  constructor
  · have log : s.shutdown.log = s.log ++ s.fleet.stopAll.crew.shutdown.1 := rfl
    have before : Turn.opening (turns ++ s.closing) = turns := by
      rw [Session.closing, List.cons_append, opening_append_shutdown tracks.before]
    have joined : s.fleet.stopAll.crew.shutdown.1 =
        (run workers (turns ++ s.closing)).crew.shutdown.1 := by
      rw [crew, ← Crew.shutdown_map_stop, Fleet.stopAll, stopped]
    rw [sound.log_of_concluded concluded, before, ← joined, log, List.filter_append, tracks.log,
      List.filter_eq_self.2 aboutWorkers_shutdown]
  · rw [crew, ← stopped]
    exact Crew.shutdown_crew others

theorem count_step (s : Session) (o : Occurrence) : (s.step o).2.log.count allExitedEvent =
    s.log.count allExitedEvent + if o.isTick ∧ (s.step o).1 = false then 1 else 0 := by
  cases o with
  | tick moment =>
    have report : (s.stats.report moment s.fleet.register).1.count allExitedEvent = 0 := by
      refine List.count_eq_zero.2 fun among => ?_
      cases (report_calm _ _ _ _ among).1
    have exits : s.fleet.crew.check.2.1.count allExitedEvent = 0 :=
      List.count_eq_zero.2 fun among => by cases aboutWorkers_exits _ among
    rw [step_tick, List.count_append, List.count_append, List.count_append, report, exits]
    cases s.fleet.crew.check.1 <;> rfl
  | signal signal =>
    rw [Session.step, List.count_append]
    cases signal <;> rfl
  | workerStops worker => simp [Session.step]
  | threadEnds position panics => simp [Session.step]

/-! ## The whole session -/

theorem stays_nil (s : Session) : s.Stays [] := by
  intro earlier o early
  exact absurd (List.prefix_nil.1 early) (by simp)

theorem stays_cons_iff {o : Occurrence} {rest : List Occurrence} :
    s.Stays (o :: rest) ↔ ¬ s.Decisive o ∧ (s.step o).2.Stays rest := by
  constructor
  · intro stays
    refine ⟨stays [] o (List.prefix_append [o] rest), fun earlier x early => ?_⟩
    exact stays (o :: earlier) x (List.cons_prefix_cons.2 ⟨rfl, early⟩)
  · rintro ⟨first, stays⟩ earlier x early
    cases earlier with
    | nil =>
      obtain ⟨rfl, _⟩ := List.cons_prefix_cons.1 early
      exact first
    | cons e earlier =>
      obtain ⟨rfl, inner⟩ := List.cons_prefix_cons.1 early
      exact stays earlier x inner

theorem follow?_cons (s : Session) (o : Occurrence) (rest : List Occurrence) :
    s.follow? (o :: rest) =
      if (s.step o).1 then (s.step o).2.follow? rest else some (s.step o).2.shutdown := rfl

theorem Tracks.follow?_eq_none_iff (tracks : Tracks workers turns s)
    (occurrences : List Occurrence) : s.follow? occurrences = none ↔ s.Stays occurrences := by
  induction occurrences generalizing s turns with
  | nil => exact iff_of_true rfl (stays_nil s)
  | cons o rest ih =>
    rw [follow?_cons, stays_cons_iff, ← tracks.step_eq_false_iff, ← ih (tracks.step o)]
    cases (s.step o).1 with
    | true => simp
    | false => simp

theorem Tracks.follow?_eq_some (tracks : Tracks workers turns s) {before : List Occurrence}
    {o : Occurrence} (stays : s.Stays before) (decisive : (s.after before).Decisive o)
    (rest : List Occurrence) :
    s.follow? (before ++ o :: rest) = some ((s.after before).step o).2.shutdown := by
  induction before generalizing s turns with
  | nil =>
    rw [List.nil_append, follow?_cons, if_neg]
    · rfl
    · rw [(tracks.step_eq_false_iff o).2 decisive]
      exact Bool.noConfusion
  | cons x before ih =>
    obtain ⟨first, stays⟩ := stays_cons_iff.1 stays
    rw [List.cons_append, follow?_cons, if_pos]
    · exact ih (tracks.step x) stays decisive
    · rw [← tracks.step_eq_false_iff] at first
      exact eq_true_of_ne_false first

theorem Tracks.count_after (tracks : Tracks workers turns s) {before : List Occurrence}
    (stays : s.Stays before) :
    (s.after before).log.count allExitedEvent = s.log.count allExitedEvent := by
  induction before generalizing s turns with
  | nil => rfl
  | cons x before ih =>
    obtain ⟨first, stays⟩ := stays_cons_iff.1 stays
    rw [← tracks.step_eq_false_iff] at first
    refine (ih (tracks.step x) stays).trans ?_
    rw [count_step, if_neg fun last => first last.2, Nat.add_zero]

/-- A session that an occurrence has ended, and the watch over its workers. -/
structure Closed (workers : List (Nat × Thread)) (turns : List Turn) (o : Occurrence)
    (final : Session) : Prop where
  concluded : (run workers turns).plan = some []
  log : final.log.filter aboutWorkers = (run workers turns).log
  crew : final.fleet.crew = (run workers turns).crew.map Member.unlist
  allExited : final.log.count allExitedEvent = if o.isTick then 1 else 0
  errors : (final.log.filter fun e => e.level == .error && e != allExitedEvent).Perm
    ((run workers turns).crew.filterMap Member.error?)

/-- Apart from the last word of a session all errors are about workers. -/
theorem errors_filter {log : List Log.Event}
    (errors : ∀ e ∈ log, e.level = .error → aboutWorkers e = true ∨ e = allExitedEvent) :
    (log.filter aboutWorkers).filter (fun e => e.level == .error) =
      log.filter fun e => e.level == .error && e != allExitedEvent := by
  rw [List.filter_filter]
  refine List.filter_congr fun e among => ?_
  by_cases error : e.level = .error
  · rcases errors e among error with about | rfl
    · have other : e ≠ allExitedEvent := by
        rintro rfl
        cases about
      rw [about, bne_iff_ne.2 other]
    · rfl
  · rw [beq_eq_false_iff_ne.2 error, Bool.false_and, Bool.false_and]

theorem closed_shutdown (tracks : Tracks workers turns s) {before : List Occurrence}
    {o : Occurrence} (fresh : s.log.count allExitedEvent = 0) (stays : s.Stays before)
    (decisive : (s.after before).Decisive o) :
    Closed workers (turns ++ s.turnsUntil before o) o ((s.after before).step o).2.shutdown := by
  have behind := tracks_after tracks before
  have last := behind.step o
  have concluded := last.closing.1
  obtain ⟨log, crew⟩ := last.shutdown
  have told : ((s.after before).step o).2.shutdown.log = ((s.after before).step o).2.log ++
    ((s.after before).step o).2.fleet.stopAll.crew.shutdown.1 := rfl
  rw [turnsUntil, ← List.append_assoc, ← List.append_assoc]
  refine ⟨concluded, log, crew, ?_, ?_⟩
  · have silent : ((s.after before).step o).2.fleet.stopAll.crew.shutdown.1.count
        allExitedEvent = 0 :=
      List.count_eq_zero.2 fun among => by cases aboutWorkers_shutdown _ among
    rw [told, List.count_append, silent, count_step, tracks.count_after stays, fresh,
      (behind.step_eq_false_iff o).2 decisive]
    simp
  · rw [← errors_filter, log]
    · exact (sound_run workers _).errors_perm concluded
    · intro e among
      rw [told] at among
      rcases List.mem_append.1 among with earlier | failure
      · exact last.errors e earlier
      · exact fun _ => Or.inl (aboutWorkers_shutdown e failure)

/-- When a session ends, and what it has said about its workers by then. -/
structure Departs (workers : List (Nat × Thread)) (fleet : Fleet) (names : List String)
    (moment : Nat) : Prop where
  stays (occurrences : List Occurrence) : run? fleet names moment occurrences = none ↔
    (begin fleet names moment).Stays occurrences
  leaves (before rest : List Occurrence) (o : Occurrence) :
    (begin fleet names moment).Stays before → ((begin fleet names moment).after before).Decisive o →
      ∃ final, run? fleet names moment (before ++ o :: rest) = some final ∧
        Closed workers ((begin fleet names moment).turnsUntil before o) o final

theorem departs (workers : List (Nat × Thread)) (stations : List Station) (names : List String)
    (moment : Nat) : Departs workers ⟨Crew.enlist workers, stations⟩ names moment := by
  have tracks : Tracks workers [] (begin ⟨Crew.enlist workers, stations⟩ names moment) :=
    ⟨by simp, rfl, rfl, by simp [begin]⟩
  refine ⟨tracks.follow?_eq_none_iff, fun before rest o stays decisive => ?_⟩
  exact ⟨_, tracks.follow?_eq_some stays decisive rest, closed_shutdown tracks rfl stays decisive⟩

end Session

/-- However the threads of the workers end among the checks and the shutdown, every end is reported
as it should be; and a session ends as soon as it has to, with each worker reported once. -/
theorem ends_reported_once (workers : List (Nat × Thread)) :
    (∀ turns, Supervised workers turns (run workers turns)) ∧
      ∀ stations names moment,
        Session.Departs workers ⟨Crew.enlist workers, stations⟩ names moment :=
  ⟨supervised_run workers, Session.departs workers⟩

end Boomerang
