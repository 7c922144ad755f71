import Boomerang.Crew

/-!
Supervision turn by turn. Threads end whenever they like, and checks come at any time. The shutdown
goes through its orders one at a time: it tells every listed worker to stop, then joins each of
them, and a join waits for its thread. A check looks at each thread once, so a thread that ends
meanwhile has ended before the check or after it.
-/

set_option autoImplicit false

namespace Boomerang

/-- What the shutdown does: it tells a worker to stop, joins its thread, and says that all is
over. -/
inductive Order where
  | tell (position : Nat)
  | join (position : Nat)
  | conclude
  deriving DecidableEq, Repr

def Member.failure (m : Member) : List Log.Event :=
  if m.thread = .panicked then [m.joinEvent] else []

namespace Crew

def enlist (workers : List (Nat × Thread)) : Crew :=
  workers.map fun (worker, thread) => ⟨worker, thread, true⟩

def positions (crew : Crew) : List Nat :=
  (List.range crew.length).filter fun position => crew[position]?.any (·.listed)

/-- All listed workers are told to stop before the first of them is joined. -/
def orders (crew : Crew) : List Order :=
  crew.positions.map Order.tell ++ crew.positions.map Order.join ++ [.conclude]

end Crew

namespace Order

/-- A thread is joined once it has ended. -/
def ready (crew : Crew) : Order → Bool
  | .join position => crew[position]?.all (·.thread != .running)
  | _ => true

def events (crew : Crew) : Order → List Log.Event
  | .tell _ => []
  | .join position => crew[position]?.elim [] Member.failure
  | .conclude => [Crew.stoppedEvent]

end Order

inductive Turn where
  | ends (position : Nat) (panics : Bool)
  | check
  | shutdown
  | advance
  deriving DecidableEq, Repr

structure Watch where
  crew : Crew
  plan : Option (List Order)
  acts : List Order
  log : List Log.Event

namespace Watch

def begin (workers : List (Nat × Thread)) : Watch := ⟨Crew.enlist workers, none, [], []⟩

def advance (w : Watch) : Watch :=
  match w.plan with
  | some (order :: rest) =>
    if order.ready w.crew then
      ⟨w.crew, some rest, w.acts ++ [order], w.log ++ order.events w.crew⟩
    else w
  | _ => w

def step (w : Watch) : Turn → Watch
  | .ends position panics => { w with crew := w.crew.modify position (Member.finish panics) }
  | .check =>
    if w.plan = none then
      { w with crew := w.crew.check.2.2, log := w.log ++ w.crew.check.2.1 }
    else w
  | .shutdown => if w.plan = none then { w with plan := some w.crew.orders } else w
  | .advance => w.advance

def run (workers : List (Nat × Thread)) (turns : List Turn) : Watch :=
  turns.foldl step (begin workers)

end Watch

end Boomerang
