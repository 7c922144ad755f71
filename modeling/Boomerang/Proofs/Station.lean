import Boomerang.Fleet
import Boomerang.Proofs.Conservation
import Boomerang.Proofs.Rings

/-!
Stations as rigs. The rings of a scripted queue are the packets on its two sides, so the books of a
worker over one need no word about what is waiting or held: it is in the queue.
-/

set_option autoImplicit false

namespace Boomerang

namespace Station

def withBench (s : Station) (b : Bench) : Station :=
  ⟨b.pool, { s.worker with queue := b.queue }, s.injected⟩

def inject (s : Station) (frame : Octets) : Station :=
  { s.withBench (s.bench.inject frame).2 with injected := s.injected ++ [(s.bench.inject frame).1] }

def collect (s : Station) : Station := s.withBench s.bench.collect.2

def poll (s : Station) : Station :=
  ⟨s.pool.giveAll s.worker.poll.2.2.released, s.worker.poll.2.1, s.injected⟩

def waiting (s : Station) : List Nat := s.worker.queue.memory.waiting.map Packet.index

def sent (s : Station) : List Nat := s.worker.queue.memory.sent.map Packet.index

/-- What can happen to a station: its queue may be told to fail or to refuse, but its rings change
by injecting, collecting and the work of its worker alone. -/
inductive Reached (shape : Pool.Shape) (setup : Worker.Setup) : Station → Prop where
  | start {capacity : Nat} {b : Bench} (made : Bench.ofShape? shape capacity = some b) :
    Reached shape setup ⟨b.pool, Worker.start setup b.queue, []⟩
  | inject {s : Station} (before : Reached shape setup s) (frame : Octets) :
    Reached shape setup (s.inject frame)
  | collect {s : Station} (before : Reached shape setup s) : Reached shape setup s.collect
  | adjust {s : Station} {queue : ScriptedQueue} (before : Reached shape setup s)
      (waiting : queue.memory.waiting = s.worker.queue.memory.waiting)
      (sent : queue.memory.sent = s.worker.queue.memory.sent) :
    Reached shape setup { s with worker.queue := queue }
  | poll {s : Station} (before : Reached shape setup s) : Reached shape setup s.poll
  | shutdown {s : Station} (before : Reached shape setup s) : Reached shape setup s.shutdown

variable {shape : Pool.Shape} {setup : Worker.Setup} {s : Station}

def rig (s : Station) (traffic : Traffic) (released : List Packet) : Rig ScriptedQueue :=
  ⟨s.pool, s.waiting, s.sent, s.worker, traffic, released⟩

variable {traffic : Traffic} {released : List Packet}

theorem rig_inject (reached : Rig.Reached shape setup (s.rig traffic released)) (frame : Octets) :
    Rig.Reached shape setup ((s.inject frame).rig traffic released) := by
  -- Three ways to be turned away, the last two of them with a packet in hand.
  unfold inject Bench.inject Pool.load
  have pool : s.bench.pool = s.pool := rfl
  rw [pool]
  cases taken : s.pool.take? with
  | none => exact reached
  | some result =>
    obtain ⟨packet, pool⟩ := result
    dsimp only
    cases held : packet.slot.hold? frame with
    | none => exact reached.reject taken packet.slot
    | some slot =>
      dsimp only
      cases accepted : s.bench.queue.memory.inject? { packet with slot } with
      | none => exact reached.reject taken slot
      | some memory =>
        unfold MemoryQueue.inject? at accepted
        split at accepted
        case isTrue =>
          cases accepted
          have moved := (reached.inject taken).queue
            { s.worker.queue with
              memory.waiting := s.worker.queue.memory.waiting ++ [{ packet with slot }] }
          rw [Station.rig, Station.waiting]
          dsimp only [withBench]
          rw [List.map_append]
          exact moved
        case isFalse => cases accepted

/-- Whatever happened to a station can happen to a rig. -/
theorem Reached.rig (reached : Reached shape setup s) :
    ∃ traffic released, Rig.Reached shape setup (s.rig traffic released) := by
  induction reached with
  | @start capacity b made =>
    unfold Bench.ofShape? ScriptedQueue.ofCapacity? MemoryQueue.ofCapacity? at made
    split at made
    case isTrue space =>
      cases made
      exact ⟨[], [], .start _⟩
    case isFalse => cases made
  | inject _ frame ih =>
    obtain ⟨traffic, released, reached⟩ := ih
    exact ⟨traffic, released, rig_inject reached frame⟩
  | @collect s _ ih =>
    obtain ⟨traffic, released, reached⟩ := ih
    -- All that was sent goes back to the pool, then the queue forgets it.
    have all : s.sent.Perm (s.worker.queue.memory.sent.map Packet.index ++ []) := by
      rw [List.append_nil]
      exact List.Perm.refl _
    exact ⟨traffic, released, (reached.collect s.worker.queue.memory.sent all).queue _⟩
  | @adjust s queue _ waiting sent ih =>
    obtain ⟨traffic, released, reached⟩ := ih
    have adjusted := reached.queue queue
    rw [Station.rig, Station.waiting, Station.sent] at adjusted
    rw [← waiting, ← sent] at adjusted
    exact ⟨traffic, released, adjusted⟩
  | @poll s _ ih =>
    obtain ⟨traffic, released, reached⟩ := ih
    obtain ⟨waiting, sent⟩ := ScriptedQueue.rings.moved_poll s.worker
    have handed : s.waiting =
        (Traffic.received s.worker.pollTraffic).map Packet.index ++ s.poll.waiting := by
      rw [Station.waiting, Station.waiting, ← List.map_append]
      exact congrArg (List.map Packet.index) waiting
    have taken : s.poll.sent =
        s.sent ++ (Traffic.taken s.worker.pollTraffic).map Packet.index := by
      rw [Station.sent, Station.sent, ← List.map_append]
      exact congrArg (List.map Packet.index) sent
    have moved := reached.poll (List.Perm.of_eq handed)
    refine ⟨traffic ++ s.worker.pollTraffic, released ++ s.worker.poll.2.2.released, ?_⟩
    rw [Station.rig, taken]
    exact moved
  | @shutdown s _ ih =>
    obtain ⟨traffic, released, reached⟩ := ih
    obtain ⟨waiting, sent⟩ := ScriptedQueue.rings.moved_flush s.worker
    have kept : s.shutdown.waiting = s.waiting := congrArg (List.map Packet.index) waiting
    have taken : s.shutdown.sent =
        s.sent ++ (Traffic.taken s.worker.flushTraffic).map Packet.index := by
      rw [Station.sent, Station.sent, ← List.map_append]
      exact congrArg (List.map Packet.index) sent
    refine ⟨traffic ++ s.worker.flushTraffic, released ++ s.worker.shutdown.2.released, ?_⟩
    rw [Station.rig, kept, taken]
    exact reached.shutdown

/-- The books of a station, read off its pool, its worker and the rings of its queue. -/
structure Conserved (shape : Pool.Shape) (setup : Worker.Setup) (s : Station) : Prop where
  balance : s.worker.counters.rxPackets =
    s.worker.counters.dropped + s.worker.counters.txPackets + s.worker.counters.txErrors +
      UInt64.ofNat s.worker.pending
  pending_lt : s.worker.pending < max 1 setup.outboxSize
  slots : (s.pool.free ++
    (s.waiting ++ s.worker.outbox.packets.map Packet.index ++ s.sent)).Perm
      (List.range shape.count)

theorem Reached.conserved (reached : Reached shape setup s) : Conserved shape setup s := by
  obtain ⟨traffic, released, rig⟩ := reached.rig
  have accounted := rig.history.accounted
  exact ⟨accounted.balance, accounted.pending_lt, rig.slots_perm⟩

theorem giveAll_append (p : Pool) (a b : List Packet) :
    p.giveAll (a ++ b) = (p.giveAll a).giveAll b := List.foldl_append

/-- A settled station has only polled. -/
theorem Reached.settle (reached : Reached shape setup s) : Reached shape setup s.settle := by
  unfold Station.settle
  dsimp only
  generalize s.worker.queue.memory.waiting.length + 1 = rounds
  induction rounds generalizing s with
  | zero => exact reached
  | succ rounds ih =>
    have rest := ih reached.poll
    rw [Worker.polls]
    dsimp only
    rw [giveAll_append]
    exact rest

end Station

end Boomerang
