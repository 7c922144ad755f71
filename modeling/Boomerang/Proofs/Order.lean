import Boomerang.Proofs.History
import Boomerang.Proofs.Rings

/-!
The order of answers. A worker answers burst by burst and sends outbox by outbox, but to the other
end it looks as if it took one packet at a time: what was sent, what was given up and what still
waits are the answers to all received packets, in the order of their reception, each of them once.
-/

set_option autoImplicit false

namespace Boomerang

/-- What became of an answer. -/
inductive Fate where
  | taken | refused | pending
  deriving DecidableEq, Repr

/-- Answers with their fates, in the order in which they were made. -/
abbrev Ledger := List (Packet × Fate)

namespace Ledger

def note (packets : List Packet) (fate : Fate) : Ledger := packets.map fun packet => (packet, fate)

def packets (l : Ledger) : List Packet := l.map Prod.fst

def having (l : Ledger) (fate : Fate) : List Packet := packets (l.filter fun entry => entry.2 = fate)

variable (l m : Ledger) (answers : List Packet) (fate other : Fate)

@[simp] theorem packets_append : packets (l ++ m) = packets l ++ packets m := List.map_append

@[simp] theorem having_append : having (l ++ m) fate = having l fate ++ having m fate := by
  simp only [having, List.filter_append, packets_append]

@[simp] theorem packets_note : packets (note answers fate) = answers := by
  unfold packets note
  rw [List.map_map]
  exact List.map_id answers

@[simp] theorem having_note_self : having (note answers fate) fate = answers := by
  have all : (note answers fate).filter (fun entry => entry.2 = fate) = note answers fate := by
    apply List.filter_eq_self.2
    intro entry member
    obtain ⟨_, _, rfl⟩ := List.mem_map.1 member
    exact decide_eq_true rfl
  rw [having, all, packets_note]

variable {fate other}

theorem having_note_of_ne (different : other ≠ fate) : having (note answers other) fate = [] := by
  simp [having, packets, note, List.filter_map, Function.comp_def, different]

end Ledger

namespace Exchange

open Ledger

def ledger : Exchange → Ledger
  | .reception _ => []
  | .offer packets outcome =>
    note (packets.take outcome.taken) .taken ++ note (packets.drop outcome.taken) .refused

theorem packets_ledger (e : Exchange) : packets e.ledger = e.offered := by
  cases e with
  | reception burst => rfl
  | offer packets outcome =>
    rw [ledger, packets_append, packets_note, packets_note, List.take_append_drop]
    rfl

theorem taken_ledger (e : Exchange) : having e.ledger .taken = e.taken := by
  cases e with
  | reception burst => rfl
  | offer packets outcome =>
    rw [ledger, having_append, having_note_self, having_note_of_ne _ (by decide), List.append_nil]
    rfl

theorem refused_ledger (e : Exchange) : having e.ledger .refused = e.refused := by
  cases e with
  | reception burst => rfl
  | offer packets outcome =>
    rw [ledger, having_append, having_note_self, having_note_of_ne _ (by decide), List.nil_append]
    rfl

theorem pending_ledger (e : Exchange) : having e.ledger .pending = [] := by
  cases e with
  | reception burst => rfl
  | offer packets outcome =>
    rw [ledger, having_append, having_note_of_ne _ (by decide), having_note_of_ne _ (by decide),
      List.nil_append]

end Exchange

namespace Traffic

open Ledger

def ledger (t : Traffic) : Ledger := t.flatMap Exchange.ledger

variable (t : Traffic)

theorem packets_ledger : packets t.ledger = offered t := by
  unfold packets ledger
  rw [List.map_flatMap]
  exact congrArg t.flatMap (funext Exchange.packets_ledger)

theorem having_ledger (fate : Fate) :
    having t.ledger fate = t.flatMap fun e => having e.ledger fate := by
  unfold having packets ledger
  rw [List.filter_flatMap, List.map_flatMap]

theorem taken_ledger : having t.ledger .taken = taken t := by
  rw [having_ledger, funext Exchange.taken_ledger]
  rfl

theorem refused_ledger : having t.ledger .refused = refused t := by
  rw [having_ledger, funext Exchange.refused_ledger]
  rfl

theorem pending_ledger : having t.ledger .pending = [] := by
  rw [having_ledger, funext Exchange.pending_ledger]
  simp

theorem taken_eq_offered (nothing : refused t = []) : taken t = offered t := by
  induction t with
  | nil => rfl
  | cons e rest ih =>
    simp only [refused, taken, offered, List.flatMap_cons, List.append_eq_nil_iff] at ih nothing ⊢
    rw [ih nothing.2, e.offered_eq, nothing.1, List.append_nil]

end Traffic

namespace Worker

namespace History

variable {σ : Type} [PacketQueue σ] {setup : Setup} {h : History σ}

def ledger (h : History σ) : Ledger :=
  h.traffic.ledger ++ Ledger.note h.worker.outbox.packets .pending

/-- What the other end sees of a worker, and what becomes of the rest. -/
structure Ordered (setup : Setup) (h : History σ) : Prop where
  /-- The ledger lists the answers to all received packets, in the order of reception: each of
  them has one fate. -/
  answers : Ledger.packets h.ledger = setup.policy.replies (Traffic.received h.traffic)
  /-- What was sent, in the order in which it was sent. -/
  taken : Ledger.having h.ledger .taken = Traffic.taken h.traffic
  refused : Ledger.having h.ledger .refused = Traffic.refused h.traffic
  pending : Ledger.having h.ledger .pending = h.worker.outbox.packets
  /-- The refused answers were counted, and released together with the discarded packets. -/
  txErrors : h.worker.counters.txErrors = UInt64.ofNat (Traffic.refused h.traffic).length
  released : h.released.Perm
    (Traffic.refused h.traffic ++ setup.policy.discards (Traffic.received h.traffic))
  /-- The next round and the shutdown start with a flush, and the flush offers all that waits. -/
  next : ∃ after, h.poll.traffic =
    h.traffic ++ h.worker.flushTraffic ++ .reception h.worker.flush.1.receive.1 :: after
  last : h.shutdown.traffic = h.traffic ++ h.worker.flushTraffic
  flushed : Traffic.offered h.worker.flushTraffic = h.worker.outbox.packets
  /-- If nothing is refused until the shutdown, all answers are sent. -/
  complete : Traffic.refused h.shutdown.traffic = [] →
    Traffic.taken h.shutdown.traffic = setup.policy.replies (Traffic.received h.traffic)
  /-- A queue that takes all it is offered makes sure of that. -/
  generous : (∀ (q : σ) (packets : List Packet),
      (PacketQueue.transmit q packets).1.taken = packets.length) →
    Traffic.refused h.shutdown.traffic = []

theorem Reached.packets_ledger (reached : Reached setup h) :
    Ledger.packets h.ledger = setup.policy.replies (Traffic.received h.traffic) := by
  rw [ledger, Ledger.packets_append, Traffic.packets_ledger, Ledger.packets_note]
  exact reached.replies_eq.symm

theorem Reached.complete (reached : Reached setup h)
    (nothing : Traffic.refused h.shutdown.traffic = []) :
    Traffic.taken h.shutdown.traffic = setup.policy.replies (Traffic.received h.traffic) := by
  obtain ⟨_, _, flushed⟩ := turned_over_flush h.worker
  -- The last flush offers the pending answers, so by then every answer was offered.
  have all : h.shutdown.traffic = h.traffic ++ h.worker.flushTraffic := rfl
  rw [Traffic.taken_eq_offered _ nothing, all, Traffic.offered_append, flushed]
  exact reached.replies_eq.symm

theorem keeps_nothing_refused
    (generous : ∀ (q : σ) (packets : List Packet),
      (PacketQueue.transmit q packets).1.taken = packets.length) :
    PacketQueue.Keeps fun q : Recorded σ => Traffic.refused q.traffic = [] where
  receive := by
    intro q max nothing
    rw [Recorded.traffic_receive, Traffic.refused_append, nothing]
    rfl
  transmit := by
    intro q packets nothing
    rw [Recorded.traffic_transmit, Traffic.refused_append, nothing, Traffic.refused_offer, generous,
      List.drop_length]
    rfl
  takeStarved := by
    intro q nothing
    exact nothing

theorem Reached.nothing_refused (reached : Reached setup h)
    (generous : ∀ (q : σ) (packets : List Packet),
      (PacketQueue.transmit q packets).1.taken = packets.length) :
    Traffic.refused h.traffic = [] := by
  have keeps := keeps_nothing_refused generous
  have flushed (w : Worker σ) : Traffic.refused w.flushTraffic = [] := keeps.flush w.record rfl
  have polled (w : Worker σ) : Traffic.refused w.pollTraffic = [] := keeps.poll w.record rfl
  induction reached with
  | start queue => rfl
  | queue _ _ ih => exact ih
  | @flush h _ ih => rw [History.flush, Traffic.refused_append, ih, flushed, List.append_nil]
  | @poll h _ ih => rw [History.poll, Traffic.refused_append, ih, polled, List.append_nil]
  | @shutdown h _ ih => rw [History.shutdown, Traffic.refused_append, ih, flushed, List.append_nil]

theorem Reached.ordered (reached : Reached setup h) : Ordered setup h := by
  obtain ⟨_, _, flushed⟩ := turned_over_flush h.worker
  obtain ⟨⟨after, traffic⟩, _, _⟩ := turned_over_poll h.worker
  refine
    { answers := reached.packets_ledger
      taken := ?_
      refused := ?_
      pending := ?_
      txErrors := reached.accounted.txErrors
      released := reached.released_perm
      next := ⟨after, ?_⟩
      last := rfl
      flushed := flushed
      complete := reached.complete
      generous := reached.shutdown.nothing_refused }
  · rw [ledger, Ledger.having_append, Traffic.taken_ledger, Ledger.having_note_of_ne _ (by decide),
      List.append_nil]
  · rw [ledger, Ledger.having_append, Traffic.refused_ledger,
      Ledger.having_note_of_ne _ (by decide), List.append_nil]
  · rw [ledger, Ledger.having_append, Traffic.pending_ledger, Ledger.having_note_self,
      List.nil_append]
  · rw [List.append_assoc, ← traffic]
    rfl

/-- What a worker sends is an order-preserving part of the answers to what it received, and the
other answers are refused or pending. Nothing but the policy decides what is sent in the end:
bursts and outboxes of any size lead to the same packets. -/
theorem answers_in_order (reached : Reached setup h) :
    Ordered setup h ∧
      ∀ (τ : Type) [PacketQueue τ] (setup' : Setup) (h' : History τ), Reached setup' h' →
        setup'.policy = setup.policy → Traffic.received h'.traffic = Traffic.received h.traffic →
        Traffic.refused h.shutdown.traffic = [] → Traffic.refused h'.shutdown.traffic = [] →
          Traffic.taken h'.shutdown.traffic = Traffic.taken h.shutdown.traffic := by
  refine ⟨reached.ordered, ?_⟩
  intro τ _ setup' h' reached' policy received nothing nothing'
  rw [reached.complete nothing, reached'.complete nothing', policy, received]

theorem answers_in_order_midway :
    ∃ (setup : Setup) (h : History MemoryQueue), Reached setup h ∧ Ordered setup h ∧
      (Traffic.taken h.traffic).map Packet.index = [0] ∧
        h.worker.outbox.packets.map Packet.index = [1] := by
  let setup : Setup := ⟨0, 0, ⟨0, 0⟩, 0, 1, 4, true, false, 4789, ⟨[0, 0, 0, 0, 0, 0], rfl⟩⟩
  let packet (index : Nat) : Packet := ⟨index, Slot.ofArea []⟩
  let queue : MemoryQueue := ⟨4, [packet 0, packet 1], [], none, false, 0, by decide⟩
  have reached := ((Reached.start queue : Reached setup _).poll).poll
  refine ⟨_, _, reached, (answers_in_order reached).1, ?_, ?_⟩
  all_goals decide +kernel +zetaReduce

end History

end Worker

end Boomerang
