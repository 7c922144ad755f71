import Boomerang.Proofs.Turn

/-!
The histories of a worker. Between its operations the queue may change in any way: packets arrive,
sent packets are collected, failures are set up. Whatever happened, the counters agree with what
went over the queue.
-/

set_option autoImplicit false

namespace Boomerang

namespace Worker

variable {σ : Type} [PacketQueue σ] {setup : Setup}

/-- A worker, with what went over its queue and what it released since its start. -/
structure History (σ : Type) where
  worker : Worker σ
  traffic : Traffic
  released : List Packet

namespace History

def begin (setup : Setup) (queue : σ) : History σ := ⟨start setup queue, [], []⟩

def withQueue (h : History σ) (queue : σ) : History σ :=
  ⟨{ h.worker with queue }, h.traffic, h.released⟩

def flush (h : History σ) : History σ :=
  ⟨h.worker.flush.1, h.traffic ++ h.worker.flushTraffic, h.released ++ h.worker.flush.2.released⟩

def poll (h : History σ) : History σ :=
  ⟨h.worker.poll.2.1, h.traffic ++ h.worker.pollTraffic, h.released ++ h.worker.poll.2.2.released⟩

def shutdown (h : History σ) : History σ :=
  ⟨h.worker.shutdown.1, h.traffic ++ h.worker.flushTraffic,
    h.released ++ h.worker.shutdown.2.released⟩

/-- The histories of a worker with `setup`. A flush on its own is the first part of a round: behind
it a queue may change before it is asked for packets. -/
inductive Reached (setup : Setup) : History σ → Prop where
  | start (queue : σ) : Reached setup (begin setup queue)
  | queue {h : History σ} (before : Reached setup h) (queue : σ) : Reached setup (h.withQueue queue)
  | flush {h : History σ} (before : Reached setup h) : Reached setup h.flush
  | poll {h : History σ} (before : Reached setup h) : Reached setup h.poll
  | shutdown {h : History σ} (before : Reached setup h) : Reached setup h.shutdown

variable {h : History σ}

theorem received_flush (h : History σ) :
    Traffic.received h.flush.traffic = Traffic.received h.traffic := by
  obtain ⟨_, offers, _⟩ := turned_over_flush h.worker
  rw [History.flush, Traffic.received_append, offers, List.append_nil]

/-- A whole history is one turn of the fresh worker. -/
theorem Reached.turned (reached : Reached setup h) (queue : σ) :
    Turned (Worker.start setup queue) h.worker (Traffic.received h.traffic) h.traffic
      h.released := by
  -- Every operation adds its turn behind the turns so far; changes of the queue add none.
  induction reached with
  | start _ =>
    refine ⟨rfl, rfl, rfl, fun space => space, ⟨0, ?_⟩, List.Perm.nil⟩
    rfl
  | queue _ _ ih => exact ih.congr rfl rfl
  | @flush h _ ih =>
    obtain ⟨next, _, _⟩ := turned_over_flush h.worker
    have turned := ih.trans next
    rwa [List.append_nil, ← received_flush] at turned
  | @poll h _ ih =>
    obtain ⟨_, _, next⟩ := turned_over_poll h.worker
    have turned := ih.trans next
    rwa [← Traffic.received_append] at turned
  | @shutdown h _ ih =>
    have turned := ih.trans (turned_over_shutdown h.worker)
    rwa [List.append_nil, ← received_flush] at turned

theorem Reached.setup_eq (reached : Reached setup h) : h.worker.setup = setup :=
  (reached.turned h.worker.queue).setup

/-- The answers to all received packets are those that were offered, and then those that wait. -/
theorem Reached.replies_eq (reached : Reached setup h) :
    setup.policy.replies (Traffic.received h.traffic) =
      Traffic.offered h.traffic ++ h.worker.outbox.packets :=
  (reached.turned h.worker.queue).packets

theorem Reached.released_perm (reached : Reached setup h) :
    h.released.Perm
      (Traffic.refused h.traffic ++ setup.policy.discards (Traffic.received h.traffic)) :=
  (reached.turned h.worker.queue).released

/-! ## Whole runs -/

def polls : Nat → History σ → History σ
  | 0, h => h
  | n + 1, h => polls n h.poll

theorem worker_polls (n : Nat) (h : History σ) : (h.polls n).worker = (h.worker.polls n).1 := by
  induction n generalizing h with
  | zero => rfl
  | succ n ih => exact ih h.poll

theorem released_polls (n : Nat) (h : History σ) :
    (h.polls n).released = h.released ++ (h.worker.polls n).2.released := by
  induction n generalizing h with
  | zero => exact (List.append_nil _).symm
  | succ n ih => exact (ih h.poll).trans (List.append_assoc ..)

def run (rounds : Nat) (h : History σ) : History σ := (h.polls rounds).shutdown

theorem worker_run (rounds : Nat) (h : History σ) :
    (h.run rounds).worker = (h.worker.run rounds).1 := by
  rw [run, History.shutdown, worker_polls]
  rfl

theorem released_run (rounds : Nat) (h : History σ) :
    (h.run rounds).released = h.released ++ (h.worker.run rounds).2.released := by
  rw [run, History.shutdown, worker_polls, released_polls, List.append_assoc]
  rfl

theorem Reached.polls (reached : Reached setup h) (n : Nat) : Reached setup (h.polls n) := by
  induction n generalizing h with
  | zero => exact reached
  | succ n ih => exact ih reached.poll

theorem Reached.run (reached : Reached setup h) (rounds : Nat) : Reached setup (h.run rounds) :=
  (reached.polls rounds).shutdown

/-! ## The counters -/

/-- The counters agree with the traffic, and every received packet is dropped, sent, given up or
still waiting. -/
structure Accounted (setup : Setup) (h : History σ) : Prop where
  rxPackets : h.worker.counters.rxPackets = UInt64.ofNat (Traffic.received h.traffic).length
  rxBytes : h.worker.counters.rxBytes = UInt64.ofNat (Packet.bytes (Traffic.received h.traffic))
  txPackets : h.worker.counters.txPackets = UInt64.ofNat (Traffic.taken h.traffic).length
  txBytes : h.worker.counters.txBytes = UInt64.ofNat (Packet.bytes (Traffic.taken h.traffic))
  dropped : h.worker.counters.dropped =
    UInt64.ofNat (setup.policy.discards (Traffic.received h.traffic)).length
  txErrors : h.worker.counters.txErrors = UInt64.ofNat (Traffic.refused h.traffic).length
  balance : h.worker.counters.rxPackets =
    h.worker.counters.dropped + h.worker.counters.txPackets + h.worker.counters.txErrors +
      UInt64.ofNat h.worker.pending
  pending_lt : h.worker.pending < max 1 setup.outboxSize

theorem Reached.length_received (reached : Reached setup h) :
    (Traffic.received h.traffic).length =
      (setup.policy.discards (Traffic.received h.traffic)).length +
        (Traffic.taken h.traffic).length + (Traffic.refused h.traffic).length +
        h.worker.pending := by
  have answered := setup.policy.length_replies_add_discards (Traffic.received h.traffic)
  have offered := Traffic.length_offered h.traffic
  rw [reached.replies_eq, List.length_append] at answered
  have pending : h.worker.pending = h.worker.outbox.packets.length := rfl
  omega

theorem Reached.counters_eq (reached : Reached setup h) :
    ∃ starved,
      h.worker.counters = tally setup.policy (Traffic.received h.traffic) h.traffic starved := by
  obtain ⟨starved, counters⟩ := (reached.turned h.worker.queue).counters
  refine ⟨starved, counters.trans ?_⟩
  simp [Worker.start, Counters.add, Counters.zipWith, Counters.zero]

theorem Reached.pending_lt (reached : Reached setup h) :
    h.worker.pending < max 1 setup.outboxSize := by
  have turned := reached.turned h.worker.queue
  have room := turned.room (Outbox.ofCapacity setup.outboxSize).capacity_pos
  have capacity : h.worker.outbox.capacity = max setup.outboxSize 1 := turned.capacity
  rw [capacity] at room
  rw [Nat.max_comm]
  exact room

theorem Reached.accounted (reached : Reached setup h) : Accounted setup h := by
  obtain ⟨starved, counters⟩ := reached.counters_eq
  have balance : h.worker.counters.rxPackets =
      h.worker.counters.dropped + h.worker.counters.txPackets + h.worker.counters.txErrors +
        UInt64.ofNat h.worker.pending := by
    rw [counters]
    simp only [tally]
    rw [reached.length_received, UInt64.ofNat_add, UInt64.ofNat_add, UInt64.ofNat_add]
  exact
    { rxPackets := congrArg Counters.rxPackets counters
      rxBytes := congrArg Counters.rxBytes counters
      txPackets := congrArg Counters.txPackets counters
      txBytes := congrArg Counters.txBytes counters
      dropped := congrArg Counters.dropped counters
      txErrors := congrArg Counters.txErrors counters
      balance := balance
      pending_lt := reached.pending_lt }

/-- The books of a whole run, from the start of the worker to its shutdown. -/
theorem accounted_run (setup : Setup) (queue : σ) (rounds : Nat) :
    ∃ traffic, Accounted setup ⟨((start setup queue).run rounds).1, traffic,
      ((start setup queue).run rounds).2.released⟩ := by
  have reached : Reached setup ((begin setup queue).run rounds) := (Reached.start queue).run rounds
  have worker : ((begin setup queue).run rounds).worker = ((start setup queue).run rounds).1 :=
    worker_run rounds (begin setup queue)
  have released : ((begin setup queue).run rounds).released =
      ((start setup queue).run rounds).2.released := released_run rounds (begin setup queue)
  refine ⟨((begin setup queue).run rounds).traffic, ?_⟩
  rw [← worker, ← released]
  exact reached.accounted

end History

end Worker

end Boomerang
