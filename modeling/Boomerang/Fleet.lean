import Boomerang.Bench
import Boomerang.Crew
import Boomerang.Stats
import Boomerang.Worker

/-!
Workers running over benches under supervision. A station is a worker with its pool; a running
worker has received and flushed all that was injected before it was spawned.
-/

set_option autoImplicit false

namespace Boomerang

structure Station where
  pool : Pool
  worker : Worker ScriptedQueue
  injected : List Injection

namespace Station

def settle (s : Station) : Station :=
  let settled := s.worker.polls (s.worker.queue.memory.waiting.length + 1)
  { s with worker := settled.1, pool := s.pool.giveAll settled.2.released }

def shutdown (s : Station) : Station :=
  let last := s.worker.shutdown
  { s with worker := last.1, pool := s.pool.giveAll last.2.released }

/-- A worker that panics lets go of the packets that it holds, without sending them. -/
def abandon (s : Station) : Station :=
  { s with
    worker.outbox.packets := []
    pool := s.pool.giveAll s.worker.outbox.packets }

def bench (s : Station) : Bench := ⟨s.pool, s.worker.queue⟩

def outcome (s : Station) : List Octets × Nat :=
  let (frames, b) := s.bench.collect
  (frames, b.pool.available)

end Station

structure Fleet where
  crew : Crew
  stations : List Station

namespace Fleet

def empty : Fleet := ⟨[], []⟩

def spawn (f : Fleet) (setup : Worker.Setup) (bench : Bench) (frames : List Octets)
    (panics : Bool) : Fleet :=
  let (injected, bench) := frames.foldl (fun (done, b) frame =>
    let (outcome, b) := Bench.inject b frame
    (done ++ [outcome], b)) (([] : List Injection), bench)
  let station : Station := ⟨bench.pool, Worker.start setup bench.queue, injected⟩
  let thread := if panics then Thread.panicked else .running
  ⟨f.crew ++ [⟨setup.id, thread, true⟩],
    f.stations ++ [if panics then station else station.settle]⟩

/-- Ends the thread at a position, if it runs. A worker that is stopped flushes once more. -/
def endAt (panics : Bool) (f : Fleet) (position : Nat) : Fleet :=
  match f.crew[position]?, f.stations[position]? with
  | some m, some s =>
    if m.thread = .running then
      ⟨f.crew.set position (m.finish panics),
        f.stations.set position (if panics then s.abandon else s.shutdown)⟩
    else f
  | _, _ => f

def stopAt (f : Fleet) (position : Nat) : Fleet := f.endAt false position

def stop (f : Fleet) (worker : Nat) : Bool × Fleet :=
  match f.crew.find? worker with
  | some position => (true, f.stopAt position)
  | none => (false, f)

def check (f : Fleet) : Bool × List Log.Event × Fleet :=
  let (left, log, crew) := Crew.check f.crew
  (left, log, { f with crew })

def shutdown (f : Fleet) : List Log.Event × Fleet :=
  let stopped := (List.range f.crew.length).foldl stopAt f
  let (log, crew) := Crew.shutdown stopped.crew
  (log, { stopped with crew })

/-- The counters of all queues; workers that share a queue share its counters. -/
def register (f : Fleet) : Register :=
  f.stations.foldl (fun r s => r.modify s.worker.setup.queue (Counters.add s.worker.counters)) []

end Fleet

end Boomerang
