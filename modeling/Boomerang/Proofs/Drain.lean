import Boomerang.Proofs.Order
import Boomerang.Proofs.Rings

/-!
Workers that run until nothing waits. If the queue refuses nothing, the answers to all that waited
are sent in the end, and neither the size of the bursts nor that of the outbox shows.
-/

set_option autoImplicit false

namespace Boomerang

namespace Worker

namespace History

variable {σ : Type} [PacketQueue σ] {setup : Setup} {h : History σ}

/-- What a history that started over `queue` did to the rings. -/
def Rung (rings : Rings σ) (queue : σ) (h : History σ) : Prop :=
  rings.waiting queue = Traffic.received h.traffic ++ rings.waiting h.worker.queue ∧
    rings.sent h.worker.queue = rings.sent queue ++ Traffic.taken h.traffic

variable {rings : Rings σ} {queue : σ}

theorem Rung.poll (rung : Rung rings queue h) : Rung rings queue h.poll := by
  obtain ⟨waiting, sent⟩ := rings.moved_poll h.worker
  obtain ⟨before, before'⟩ := rung
  refine ⟨?_, ?_⟩
  · rw [History.poll, Traffic.received_append, List.append_assoc, ← waiting]
    exact before
  · rw [History.poll, Traffic.taken_append, sent, before', List.append_assoc]

theorem Rung.polls (rung : Rung rings queue h) (n : Nat) : Rung rings queue (h.polls n) := by
  induction n generalizing h with
  | zero => exact rung
  | succ n ih => exact ih rung.poll

theorem Rung.shutdown (rung : Rung rings queue h) : Rung rings queue h.shutdown := by
  obtain ⟨waiting, sent⟩ := rings.moved_flush h.worker
  obtain ⟨_, offers, _⟩ := turned_over_flush h.worker
  obtain ⟨before, before'⟩ := rung
  refine ⟨?_, ?_⟩
  · rw [History.shutdown, Traffic.received_append, offers, List.append_nil, before, ← waiting]
    rfl
  · rw [History.shutdown, Traffic.taken_append, ← List.append_assoc, ← before']
    exact sent

theorem sent_run (rings : Rings σ) (setup : Setup) (queue : σ) (rounds : Nat)
    (dry : rings.waiting ((start setup queue).run rounds).1.queue = [])
    (nothing : Traffic.refused ((begin setup queue).run rounds).traffic = []) :
    rings.sent ((start setup queue).run rounds).1.queue =
      rings.sent queue ++ setup.policy.replies (rings.waiting queue) := by
  have start : Rung rings queue (begin setup queue) := ⟨rfl, (List.append_nil _).symm⟩
  have polled := start.polls rounds
  obtain ⟨waiting, sent⟩ := polled.shutdown
  have worker : ((begin setup queue).polls rounds).shutdown.worker =
      ((Worker.start setup queue).run rounds).1 := worker_run rounds (begin setup queue)
  have complete := ((Reached.start queue).polls rounds).complete nothing
  have received : Traffic.received ((begin setup queue).polls rounds).traffic =
      rings.waiting queue := by
    rw [worker, dry, List.append_nil, History.shutdown, Traffic.received_append,
      (turned_over_flush _).2.1, List.append_nil] at waiting
    exact waiting.symm
  rw [← worker, sent, complete, received]

end History

end Worker

/-! ## The memory queue -/

namespace MemoryQueue

open Worker Worker.History

/-- A queue that fails no reception and has no budget. -/
structure Willing (capacity : Nat) (q : MemoryQueue) : Prop where
  capacity_eq : q.capacity = capacity
  budget : q.budget = none
  sound : q.failNext = false

theorem receive_of_willing {capacity : Nat} {q : MemoryQueue} (willing : Willing capacity q)
    (max : Nat) : q.receive max =
      (⟨q.waiting.take max, none⟩,
        { q with waiting := q.waiting.drop max, bursts := q.bursts + 1 }) := by
  rw [MemoryQueue.receive, willing.sound]
  rfl

structure Roomy (start : MemoryQueue) (q : Recorded MemoryQueue) : Prop
    extends Willing start.capacity q.queue where
  sent : q.queue.sent.length = start.sent.length + (Traffic.taken q.traffic).length
  nothing : start.sent.length + (Traffic.offered q.traffic).length ≤ start.capacity →
    Traffic.refused q.traffic = []

theorem keeps_roomy (start : MemoryQueue) : PacketQueue.Keeps (Roomy start) where
  receive := by
    rintro q max ⟨willing, sent, nothing⟩
    have received : PacketQueue.receive q max =
        ((q.queue.receive max).1, ⟨(q.queue.receive max).2,
          q.traffic ++ [.reception (q.queue.receive max).1]⟩) := rfl
    rw [received, receive_of_willing willing]
    refine ⟨⟨willing.capacity_eq, willing.budget, willing.sound⟩, ?_, ?_⟩
    · rw [Traffic.taken_append, Traffic.taken_reception, List.append_nil]
      exact sent
    · rw [Traffic.offered_append, Traffic.offered_reception, Traffic.refused_append,
        Traffic.refused_reception, List.append_nil, List.append_nil]
      exact nothing
  transmit := by
    rintro q packets ⟨willing, sent, nothing⟩
    have accepted := q.queue.accepts_le packets.length
    have transmitted : PacketQueue.transmit q packets =
        (⟨q.queue.accepts packets.length, none⟩, ⟨(q.queue.transmit packets).2,
          q.traffic ++ [.offer packets ⟨q.queue.accepts packets.length, none⟩]⟩) := rfl
    rw [transmitted]
    refine ⟨⟨willing.capacity_eq, ?_, willing.sound⟩, ?_, ?_⟩
    · simp only [MemoryQueue.transmit, willing.budget, Option.map_none]
    · rw [Traffic.taken_append, Traffic.taken_offer, List.length_append]
      simp only [MemoryQueue.transmit, List.length_append]
      omega
    · rw [Traffic.offered_append, Traffic.offered_offer, List.length_append,
        Traffic.refused_append, Traffic.refused_offer]
      intro fits
      have before := nothing (by omega)
      -- Nothing was refused so far: what was sent is what was offered, and there is room for more.
      have whole : q.queue.accepts packets.length = packets.length := by
        have lengths := Traffic.length_offered q.traffic
        rw [before, List.length_nil] at lengths
        rw [accepts, willing.budget, willing.capacity_eq, Option.getD_none]
        omega
      rw [before, whole, List.drop_length, List.nil_append]
  takeStarved := by
    rintro q ⟨willing, sent, nothing⟩
    exact ⟨willing, sent, nothing⟩

variable {setup : Setup} {q : MemoryQueue} {h : History MemoryQueue} {passed : Nat}

theorem roomy_record (w : Worker MemoryQueue) (willing : Willing q.capacity w.queue) :
    Roomy w.queue w.record.queue where
  capacity_eq := rfl
  budget := willing.budget
  sound := willing.sound
  sent := rfl
  nothing _ := rfl

theorem roomy_flush (w : Worker MemoryQueue) (willing : Willing q.capacity w.queue) :
    Roomy w.queue ⟨w.flush.1.queue, w.flushTraffic⟩ := by
  have roomy := (keeps_roomy w.queue).flush w.record (roomy_record w willing)
  rw [flush_eq]
  exact roomy

theorem roomy_poll (w : Worker MemoryQueue) (willing : Willing q.capacity w.queue) :
    Roomy w.queue ⟨w.poll.2.1.queue, w.pollTraffic⟩ := by
  have roomy := (keeps_roomy w.queue).poll w.record (roomy_record w willing)
  rw [poll_eq]
  exact roomy

theorem waiting_poll (w : Worker MemoryQueue) (willing : Willing q.capacity w.queue) :
    w.poll.2.1.queue.waiting = w.queue.waiting.drop w.setup.burstSize := by
  obtain ⟨waiting, _⟩ := rings.moved_poll w
  obtain ⟨kept, _⟩ := rings.moved_flush w
  obtain ⟨_, received, _⟩ := turned_over_poll w
  have burst : w.flush.1.receive.1.packets = w.queue.waiting.take w.setup.burstSize := by
    have asked : w.flush.1.receive.1 = (w.flush.1.queue.receive w.setup.burstSize).1 := rfl
    have kept : w.flush.1.queue.waiting = w.queue.waiting := kept
    rw [asked, receive_of_willing (roomy_flush w willing).toWilling, ← kept]
  have split : w.queue.waiting =
      w.queue.waiting.take w.setup.burstSize ++ w.poll.2.1.queue.waiting := by
    rw [received, burst] at waiting
    exact waiting
  have joined : w.queue.waiting.take w.setup.burstSize ++ w.poll.2.1.queue.waiting =
      w.queue.waiting.take w.setup.burstSize ++ w.queue.waiting.drop w.setup.burstSize := by
    rw [← split, List.take_append_drop]
  exact List.append_cancel_left joined

/-- A worker in the middle of a run, with all its offers taken so far. -/
structure Steady (setup : Setup) (q : MemoryQueue) (passed : Nat) (h : History MemoryQueue) : Prop
    extends Willing q.capacity h.worker.queue where
  reached : Reached setup h
  rung : Rung rings q h
  nothing : Traffic.refused h.traffic = []
  waiting : h.worker.queue.waiting = q.waiting.drop passed

/-- The room of the queue is enough for whatever the worker offers next. -/
theorem Steady.room {h' : History MemoryQueue} {more : Traffic} (steady : Steady setup q passed h)
    (room : q.sent.length + q.waiting.length ≤ q.capacity) (reached : Reached setup h')
    (rung : Rung rings q h') (traffic : h'.traffic = h.traffic ++ more) :
    h.worker.queue.sent.length + (Traffic.offered more).length ≤ h.worker.queue.capacity := by
  -- All that is ever offered are answers, and there are no more answers than packets waiting.
  have answers := congrArg List.length reached.replies_eq
  have answered := setup.policy.length_replies_add_discards (Traffic.received h'.traffic)
  have received : q.waiting = Traffic.received h'.traffic ++ h'.worker.queue.waiting := rung.1
  have received := congrArg List.length received
  have sent : h.worker.queue.sent = q.sent ++ Traffic.taken h.traffic := steady.rung.2
  have taken := Traffic.length_offered h.traffic
  rw [steady.nothing, List.length_nil] at taken
  rw [steady.capacity_eq, sent]
  rw [traffic] at answers answered received
  simp only [Traffic.offered_append, List.length_append] at answers answered received ⊢
  omega

theorem Steady.poll (steady : Steady setup q passed h)
    (room : q.sent.length + q.waiting.length ≤ q.capacity) :
    Steady setup q (passed + setup.burstSize) h.poll := by
  have roomy := roomy_poll h.worker steady.toWilling
  have fits := steady.room room steady.reached.poll steady.rung.poll rfl
  refine ⟨⟨roomy.capacity_eq.trans steady.capacity_eq, roomy.budget, roomy.sound⟩,
    steady.reached.poll, steady.rung.poll, ?_, ?_⟩
  · rw [History.poll, Traffic.refused_append, steady.nothing, List.nil_append]
    exact roomy.nothing fits
  · have waiting := waiting_poll h.worker steady.toWilling
    rw [steady.reached.setup_eq, steady.waiting, List.drop_drop] at waiting
    exact waiting

theorem Steady.polls (steady : Steady setup q passed h)
    (room : q.sent.length + q.waiting.length ≤ q.capacity) (n : Nat) :
    Steady setup q (passed + n * setup.burstSize) (h.polls n) := by
  induction n generalizing h passed with
  | zero =>
    rw [Nat.zero_mul, Nat.add_zero]
    exact steady
  | succ n ih =>
    have rest := ih (steady.poll room)
    rw [Nat.add_assoc, Nat.add_comm setup.burstSize, ← Nat.succ_mul] at rest
    exact rest

/-- A worker over a queue with room for all answers sends the answers to all that waited, once it
has polled for long enough. -/
theorem sent_run (setup : Setup) (q : MemoryQueue) (rounds : Nat) (willing : Willing q.capacity q)
    (room : q.sent.length + q.waiting.length ≤ q.capacity)
    (enough : q.waiting.length ≤ rounds * setup.burstSize) :
    ((Worker.start setup q).run rounds).1.queue.sent =
      q.sent ++ setup.policy.replies q.waiting := by
  have start : Steady setup q 0 (begin setup q) :=
    ⟨willing, .start q, ⟨rfl, (List.append_nil _).symm⟩, rfl, rfl⟩
  have steady := start.polls room rounds
  have fits := steady.room room steady.reached.shutdown steady.rung.shutdown rfl
  have nothing : Traffic.refused ((begin setup q).run rounds).traffic = [] := by
    have roomy := roomy_flush ((begin setup q).polls rounds).worker steady.toWilling
    rw [History.run, History.shutdown, Traffic.refused_append, steady.nothing, List.nil_append]
    exact roomy.nothing fits
  have dry : rings.waiting ((Worker.start setup q).run rounds).1.queue = [] := by
    have worker : ((begin setup q).run rounds).worker =
        ((Worker.start setup q).run rounds).1 := worker_run rounds (begin setup q)
    obtain ⟨kept, _⟩ := rings.moved_flush ((begin setup q).polls rounds).worker
    have empty : ((begin setup q).polls rounds).worker.queue.waiting = [] := by
      rw [steady.waiting, Nat.zero_add]
      exact List.drop_of_length_le enough
    rw [← worker]
    exact kept.trans empty
  exact Worker.History.sent_run rings setup q rounds dry nothing

end MemoryQueue

end Boomerang
