import Boomerang.Proofs.Turn
import Boomerang.Queue.Scripted

/-!
Queues with two rings. What waits is received in order; what is taken comes behind what was sent
before. A worker changes its queue by the operations of a queue alone, so what those keep, the
worker keeps, and its traffic can be read off the rings.
-/

set_option autoImplicit false

namespace Boomerang

variable {σ : Type} [PacketQueue σ]

/-- A property of queues that no operation breaks. -/
structure PacketQueue.Keeps (P : σ → Prop) : Prop where
  receive : ∀ (q : σ) (max : Nat), P q → P (PacketQueue.receive q max).2
  transmit : ∀ (q : σ) (packets : List Packet), P q → P (PacketQueue.transmit q packets).2
  takeStarved : ∀ q : σ, P q → P (PacketQueue.takeStarved q).2

namespace PacketQueue.Keeps

variable {P : σ → Prop} {q : σ}

theorem outbox_flush (keeps : Keeps P) (o : Outbox) (holds : P q) : P (o.flush q).2.2 := by
  unfold Outbox.flush
  split
  · exact holds
  · exact keeps.transmit q o.packets holds

theorem outbox_append (keeps : Keeps P) (o : Outbox) (packet : Packet) (holds : P q) :
    P (o.append packet q).2.2 := by
  unfold Outbox.append
  dsimp only
  split
  · exact keeps.outbox_flush _ holds
  · exact holds

theorem burst_step (keeps : Keeps P) (setup : Worker.Setup) (b : Worker.Burst σ) (packet : Packet)
    (holds : P b.queue) : P (Worker.Burst.step setup b packet).queue := by
  unfold Worker.Burst.step
  dsimp only
  split
  · exact keeps.outbox_append b.outbox _ holds
  · exact holds

theorem burst_run (keeps : Keeps P) (setup : Worker.Setup) (o : Outbox) (packets : List Packet)
    (holds : P q) : P (Worker.Burst.run setup o q packets).queue := by
  unfold Worker.Burst.run
  -- The burst has to vary: its queue is another one after each packet.
  have start : P (⟨o, q, Flush.none, 0, [], []⟩ : Worker.Burst σ).queue := holds
  generalize (⟨o, q, Flush.none, 0, [], []⟩ : Worker.Burst σ) = b at start
  induction packets generalizing b with
  | nil => exact start
  | cons packet rest ih => exact ih _ (keeps.burst_step setup b packet start)

theorem flush (keeps : Keeps P) (w : Worker σ) (holds : P w.queue) : P w.flush.1.queue :=
  keeps.outbox_flush w.outbox holds

theorem poll (keeps : Keeps P) (w : Worker σ) (holds : P w.queue) : P w.poll.2.1.queue := by
  have flushed := keeps.flush { w with phase := .polling } holds
  unfold Worker.poll
  dsimp only
  generalize ({ w with phase := .polling } : Worker σ).flush.1 = f at *
  have received : P f.receive.2.queue :=
    keeps.takeStarved _ (keeps.receive f.queue f.setup.burstSize flushed)
  split
  · exact received
  · exact keeps.burst_run f.receive.2.setup f.receive.2.outbox _ received

end PacketQueue.Keeps

structure Rings (σ : Type) [PacketQueue σ] where
  waiting : σ → List Packet
  sent : σ → List Packet
  receive : ∀ (q : σ) (max : Nat),
    waiting q = (PacketQueue.receive q max).1.packets ++ waiting (PacketQueue.receive q max).2 ∧
      sent (PacketQueue.receive q max).2 = sent q
  transmit : ∀ (q : σ) (packets : List Packet),
    waiting (PacketQueue.transmit q packets).2 = waiting q ∧
      sent (PacketQueue.transmit q packets).2 =
        sent q ++ packets.take (PacketQueue.transmit q packets).1.taken
  takeStarved : ∀ q : σ,
    waiting (PacketQueue.takeStarved q).2 = waiting q ∧ sent (PacketQueue.takeStarved q).2 = sent q

namespace Rings

variable (rings : Rings σ)

/-- What the traffic since `start` did to the rings. -/
def Moved (start : σ) (q : Recorded σ) : Prop :=
  rings.waiting start = Traffic.received q.traffic ++ rings.waiting q.queue ∧
    rings.sent q.queue = rings.sent start ++ Traffic.taken q.traffic

theorem keeps_moved (start : σ) : PacketQueue.Keeps (rings.Moved start) where
  receive := by
    rintro q max ⟨waiting, sent⟩
    obtain ⟨next, same⟩ := rings.receive q.queue max
    refine ⟨?_, ?_⟩
    · rw [Recorded.traffic_receive, Traffic.received_append, Traffic.received_reception,
        List.append_assoc, waiting, next]
      rfl
    · rw [Recorded.traffic_receive, Traffic.taken_append, Traffic.taken_reception,
        List.append_nil, ← sent]
      exact same
  transmit := by
    rintro q packets ⟨waiting, sent⟩
    obtain ⟨same, next⟩ := rings.transmit q.queue packets
    refine ⟨?_, ?_⟩
    · rw [Recorded.traffic_transmit, Traffic.received_append, Traffic.received_offer,
        List.append_nil, waiting, ← same]
      rfl
    · rw [Recorded.traffic_transmit, Traffic.taken_append, Traffic.taken_offer,
        ← List.append_assoc, ← sent]
      exact next
  takeStarved := by
    rintro q ⟨waiting, sent⟩
    obtain ⟨same, same'⟩ := rings.takeStarved q.queue
    exact ⟨waiting.trans (congrArg _ same.symm), same'.trans sent⟩

theorem moved_record (w : Worker σ) : rings.Moved w.queue w.record.queue :=
  ⟨rfl, (List.append_nil _).symm⟩

theorem moved_flush (w : Worker σ) :
    rings.waiting w.flush.1.queue = rings.waiting w.queue ∧
      rings.sent w.flush.1.queue = rings.sent w.queue ++ Traffic.taken w.flushTraffic := by
  have moved := (rings.keeps_moved w.queue).flush w.record (rings.moved_record w)
  obtain ⟨_, offers, _⟩ := Worker.turned_over_flush w
  have waiting : rings.waiting w.queue =
      Traffic.received w.flushTraffic ++ rings.waiting w.record.flush.1.queue.queue := moved.1
  rw [offers, List.nil_append] at waiting
  rw [Worker.flush_eq]
  exact ⟨waiting.symm, moved.2⟩

theorem moved_poll (w : Worker σ) :
    rings.waiting w.queue =
        Traffic.received w.pollTraffic ++ rings.waiting w.poll.2.1.queue ∧
      rings.sent w.poll.2.1.queue = rings.sent w.queue ++ Traffic.taken w.pollTraffic := by
  have moved := (rings.keeps_moved w.queue).poll w.record (rings.moved_record w)
  rw [Worker.poll_eq]
  exact moved

end Rings

def MemoryQueue.rings : Rings MemoryQueue where
  waiting := MemoryQueue.waiting
  sent := MemoryQueue.sent
  receive := by
    intro q max
    simp only [PacketQueue.receive, MemoryQueue.receive]
    split
    · exact ⟨rfl, rfl⟩
    · exact ⟨(List.take_append_drop max q.waiting).symm, rfl⟩
  transmit q packets := ⟨rfl, rfl⟩
  takeStarved q := ⟨rfl, rfl⟩

/-- Scripted failures stop at the memory queue inside. -/
def ScriptedQueue.rings : Rings ScriptedQueue where
  waiting q := q.memory.waiting
  sent q := q.memory.sent
  receive := by
    intro q max
    simp only [PacketQueue.receive, ScriptedQueue.receive]
    split
    · exact MemoryQueue.rings.receive q.memory max
    · next n _ => exact MemoryQueue.rings.receive q.memory (min n max)
  transmit := by
    intro q packets
    simp only [PacketQueue.transmit, ScriptedQueue.transmit]
    split
    · exact ⟨rfl, rfl⟩
    · next failure _ _ =>
      refine ⟨rfl, congrArg (q.memory.sent ++ ·) ?_⟩
      have bound := q.memory.accepts_le (packets.take failure.offered).length
      rw [List.length_take] at bound
      simp only [MemoryQueue.transmit, List.take_take, List.length_take]
      congr 1
      omega
  takeStarved q := ⟨rfl, rfl⟩

end Boomerang
