import Boomerang.Fleet

/-!
The life of a running data plane: at each tick the statistics are reported and the workers checked;
a signal, or a tick that finds no worker left, ends it with the shutdown.
-/

set_option autoImplicit false

namespace Boomerang

inductive Signal where
  | interrupt
  | terminate
  deriving DecidableEq, Repr

def Signal.event : Signal → Log.Event
  | .interrupt => ⟨.info, "Received SIGINT, shutting down...", []⟩
  | .terminate => ⟨.info, "Received SIGTERM, shutting down...", []⟩

/-- What can happen while a data plane runs. A tick comes at a moment, in nanoseconds; a worker is
stopped by its number; any thread may end by itself. -/
inductive Occurrence where
  | tick (moment : Nat)
  | signal (signal : Signal)
  | workerStops (worker : Nat)
  | threadEnds (position : Nat) (panics : Bool)
  deriving DecidableEq, Repr

structure Session where
  fleet : Fleet
  stats : Stats
  log : List Log.Event

namespace Session

def allExitedEvent : Log.Event := ⟨.error, "All workers exited", []⟩

def step (s : Session) : Occurrence → Bool × Session
  | .signal signal => (false, { s with log := s.log ++ [signal.event] })
  | .workerStops worker => (true, { s with fleet := (s.fleet.stop worker).2 })
  | .threadEnds position panics => (true, { s with fleet := s.fleet.endAt panics position })
  | .tick moment =>
    let report := s.stats.report moment s.fleet.register
    let (left, exits, fleet) := s.fleet.check
    let log := s.log ++ report.1 ++ exits
    if left then (true, ⟨fleet, report.2, log⟩)
    else (false, ⟨fleet, report.2, log ++ [allExitedEvent]⟩)

def shutdown (s : Session) : Session :=
  let (log, fleet) := s.fleet.shutdown
  { s with fleet, log := s.log ++ log }

/-- Follows occurrences until one ends the session; none if all of them leave it running. -/
def follow? (s : Session) : List Occurrence → Option Session
  | [] => none
  | o :: rest =>
    let (goesOn, s) := s.step o
    if goesOn then s.follow? rest else some s.shutdown

def begin (fleet : Fleet) (names : List String) (moment : Nat) : Session :=
  ⟨fleet, Stats.start names moment, []⟩

def run? (fleet : Fleet) (names : List String) (moment : Nat) (occurrences : List Occurrence) :
    Option Session :=
  (begin fleet names moment).follow? occurrences

end Session

structure Stop where
  moment : Nat
  worker : Nat

def tickAt (interval number : Nat) : Occurrence := .tick (number * interval * 1000000000)

/-- The ticks of an interval with the stops between them, and one tick after the last stop. -/
def timetable (interval passed : Nat) : List Stop → List Occurrence
  | [] => [tickAt interval (passed + 1)]
  | s :: rest =>
    let ticks := s.moment / interval
    ((List.range (ticks - passed)).map fun k => tickAt interval (passed + k + 1)) ++
      .workerStops s.worker :: timetable interval ticks rest

end Boomerang
