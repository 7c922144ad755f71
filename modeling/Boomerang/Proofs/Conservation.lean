import Boomerang.Proofs.History
import Boomerang.Proofs.Pool
import Boomerang.Queue.Memory

/-!
Nothing is lost around a worker. A rig is a worker with the pool that its packets come from; the
slots that are out wait for reception, lie in the outbox, or were taken by the transmit side and
not collected yet. The queue itself is any queue.
-/

set_option autoImplicit false

namespace Boomerang

/-- A turn lets go of each slot that it had or received exactly once: it releases it, hands it to
the transmit side, or keeps it in the outbox. -/
theorem Worker.Turned.slots {σ τ : Type} {w : Worker σ} {w' : Worker τ}
    {answered released : List Packet} {traffic : Traffic}
    (turned : Turned w w' answered traffic released) :
    ((w.outbox.packets ++ answered).map Packet.index).Perm
      ((released ++ Traffic.taken traffic ++ w'.outbox.packets).map Packet.index) := by
  have answers := w.setup.policy.indices_perm answered
  have offers := (Traffic.offered_perm traffic).map Packet.index
  have letGo := turned.released.map Packet.index
  have moved := congrArg (List.map Packet.index) turned.packets
  -- The lists interleave in different ways, so each slot is counted.
  simp only [List.map_append] at answers offers letGo moved ⊢
  rw [List.perm_iff_count] at answers offers letGo ⊢
  intro index
  have answers := answers index
  have offers := offers index
  have letGo := letGo index
  have moved := congrArg (List.count index) moved
  simp only [List.count_append] at answers offers letGo moved ⊢
  omega

/-- A worker with its pool. `waiting` are the slots of its receive side, `held` those that the
transmit side took and nobody has collected. -/
structure Rig (σ : Type) where
  pool : Pool
  waiting : List Nat
  held : List Nat
  history : Worker.History σ

namespace Rig

variable {σ : Type} [PacketQueue σ] {shape : Pool.Shape} {setup : Worker.Setup} {rig : Rig σ}

def worker (rig : Rig σ) : Worker σ := rig.history.worker

/-- What can happen around a worker. The queue is free to do anything but invent buffers: a burst
comes in slots that wait on the receive side. -/
inductive Reached (shape : Pool.Shape) (setup : Worker.Setup) : Rig σ → Prop where
  | start (queue : σ) :
    Reached shape setup ⟨Pool.ofShape shape, [], [], Worker.History.begin setup queue⟩
  /-- A packet from the pool starts to wait for reception. -/
  | inject {rig : Rig σ} {packet : Packet} {pool : Pool} (before : Reached shape setup rig)
      (taken : rig.pool.take? = some (packet, pool)) :
    Reached shape setup { rig with pool, waiting := rig.waiting ++ [packet.index] }
  /-- The receive side has no place for the packet, and it goes back. -/
  | reject {rig : Rig σ} {packet : Packet} {pool : Pool} (before : Reached shape setup rig)
      (taken : rig.pool.take? = some (packet, pool)) (slot : Slot) :
    Reached shape setup { rig with pool := pool.give { packet with slot } }
  | collect {rig : Rig σ} {rest : List Nat} (before : Reached shape setup rig)
      (packets : List Packet) (held : rig.held.Perm (packets.map Packet.index ++ rest)) :
    Reached shape setup { rig with pool := rig.pool.giveAll packets, held := rest }
  /-- The queue changes by itself: it fails next time, its budget is renewed. -/
  | queue {rig : Rig σ} (before : Reached shape setup rig) (queue : σ) :
    Reached shape setup { rig with history := rig.history.withQueue queue }
  | flush {rig : Rig σ} (before : Reached shape setup rig) :
    Reached shape setup
      ⟨rig.pool.giveAll rig.worker.flush.2.released, rig.waiting,
        rig.held ++ (Traffic.taken rig.worker.flushTraffic).map Packet.index, rig.history.flush⟩
  | poll {rig : Rig σ} {rest : List Nat} (before : Reached shape setup rig)
      (handed : rig.waiting.Perm
        ((Traffic.received rig.worker.pollTraffic).map Packet.index ++ rest)) :
    Reached shape setup
      ⟨rig.pool.giveAll rig.worker.poll.2.2.released, rest,
        rig.held ++ (Traffic.taken rig.worker.pollTraffic).map Packet.index, rig.history.poll⟩
  | shutdown {rig : Rig σ} (before : Reached shape setup rig) :
    Reached shape setup
      ⟨rig.pool.giveAll rig.worker.shutdown.2.released, rig.waiting,
        rig.held ++ (Traffic.taken rig.worker.flushTraffic).map Packet.index,
        rig.history.shutdown⟩

theorem Reached.history (reached : Reached shape setup rig) :
    Worker.History.Reached setup rig.history := by
  induction reached with
  | start queue => exact .start queue
  | inject _ _ ih => exact ih
  | reject _ _ _ ih => exact ih
  | collect _ _ _ ih => exact ih
  | queue _ queue ih => exact ih.queue queue
  | flush _ ih => exact ih.flush
  | poll _ _ ih => exact ih.poll
  | shutdown _ ih => exact ih.shutdown

def slots (rig : Rig σ) : List Nat :=
  rig.pool.free ++
    (rig.waiting ++ rig.worker.outbox.packets.map Packet.index ++ rig.held)

omit [PacketQueue σ] in
theorem slots_of_turned {history : Worker.History σ} {answered released : List Packet}
    {traffic : Traffic} {rest : List Nat}
    (turned : Worker.Turned rig.worker history.worker answered traffic released)
    (handed : rig.waiting.Perm (answered.map Packet.index ++ rest)) :
    (slots ⟨rig.pool.giveAll released, rest,
      rig.held ++ (Traffic.taken traffic).map Packet.index, history⟩).Perm rig.slots := by
  have moved := turned.slots
  -- What the turn received was waiting, what it released is free, and what was taken is held.
  simp only [slots, Pool.free_giveAll, List.map_append, worker] at moved ⊢
  rw [List.perm_iff_count] at moved handed ⊢
  intro index
  have moved := moved index
  have handed := handed index
  simp only [List.count_append] at moved handed ⊢
  omega

theorem Reached.slots_perm (reached : Reached shape setup rig) :
    rig.slots.Perm (List.range shape.count) := by
  induction reached with
  | start queue =>
    simp only [slots, Pool.free_ofShape]
    exact List.Perm.of_eq (List.append_nil _)
  | @inject rig packet pool _ taken ih =>
    obtain ⟨free, _⟩ := Pool.of_take? taken
    refine List.Perm.trans ?_ ih
    simp only [slots, free, worker]
    rw [List.perm_iff_count]
    intro index
    simp only [List.count_append, List.count_cons, List.count_nil]
    omega
  | @reject rig packet pool _ taken slot ih =>
    obtain ⟨free, _⟩ := Pool.of_take? taken
    refine List.Perm.trans ?_ ih
    simp only [slots, free, worker, Pool.free_give, List.append_assoc, List.cons_append]
    exact List.perm_middle
  | @collect rig rest _ packets held ih =>
    refine List.Perm.trans ?_ ih
    simp only [slots, worker, Pool.free_giveAll]
    rw [List.perm_iff_count] at held ⊢
    intro index
    have held := held index
    simp only [List.count_append] at held ⊢
    omega
  | queue _ queue ih => exact ih
  | @flush rig _ ih =>
    obtain ⟨turned, _, _⟩ := Worker.turned_over_flush rig.worker
    exact (slots_of_turned turned (List.Perm.refl _)).trans ih
  | @poll rig rest _ handed ih =>
    obtain ⟨_, _, turned⟩ := Worker.turned_over_poll rig.worker
    exact (slots_of_turned turned handed).trans ih
  | @shutdown rig _ ih =>
    have turned := Worker.turned_over_shutdown rig.worker
    exact (slots_of_turned turned (List.Perm.refl _)).trans ih

structure Conserved (shape : Pool.Shape) (setup : Worker.Setup) (rig : Rig σ) : Prop
    extends Worker.History.Accounted setup rig.history where
  /-- The slots out of the pool are those waiting for reception, those in the outbox, and those
  taken by the transmit side and not collected. -/
  slots : (rig.pool.free ++
    (rig.waiting ++ rig.worker.outbox.packets.map Packet.index ++ rig.held)).Perm
      (List.range shape.count)
  shutdown : rig.worker.shutdown.1.pending = 0
  run : ∀ rounds, (rig.worker.run rounds).1.pending = 0

/-- Whatever happened to a worker, over whatever queue, its counters agree with the packets that
went over the queue and every slot of the pool has its place. -/
theorem conserved_of_reached (reached : Reached shape setup rig) :
    Conserved shape setup rig where
  toAccounted := reached.history.accounted
  slots := reached.slots_perm
  shutdown := rig.worker.pending_shutdown
  run rounds := (rig.worker.polls rounds).1.pending_shutdown

theorem conserved_after_refusal :
    ∃ (shape : Pool.Shape) (setup : Worker.Setup) (rig : Rig MemoryQueue),
      Reached shape setup rig ∧ Conserved shape setup rig ∧ rig.held = [0] ∧
        rig.pool.free = [1] ∧ rig.worker.pending = 0 := by
  let shape : Pool.Shape := ⟨2, 130, by decide, by decide⟩
  let setup : Worker.Setup := ⟨0, 0, ⟨0, 0⟩, 0, 2, 4, true, false, 4789, ⟨[0, 0, 0, 0, 0, 0], rfl⟩⟩
  let queue (packets : List Packet) : MemoryQueue := ⟨4, packets, [], some 1, false, 0, by decide⟩
  let packet (index : Nat) : Packet := ⟨index, Slot.ofArea []⟩
  have start : Reached shape setup
    ⟨Pool.ofShape shape, [], [], Worker.History.begin setup (queue [])⟩ := .start _
  have first := start.inject rfl
  have second := first.inject rfl
  have waiting := second.queue (queue [packet 0, packet 1])
  have handed : [0, 1].Perm ([0, 1] ++ []) := by decide
  have polled := waiting.poll handed
  have reached := polled.shutdown
  refine ⟨_, _, _, reached, conserved_of_reached reached, ?_, ?_, Worker.pending_shutdown _⟩
  all_goals decide +kernel +zetaReduce

end Rig

end Boomerang
