import Boomerang.Worker

/-!
What goes over a queue. A recorded queue answers as the queue inside it does and keeps all that was
exchanged. A worker cannot tell the two apart, so the record of an operation says what the operation
does over the queue alone.
-/

set_option autoImplicit false

namespace Boomerang

/-- A call of a queue that failed: which side it was on, and what the queue said. -/
structure Failure where
  direction : String
  error : String
  deriving DecidableEq, Repr

/-- One exchange: a burst that was received, or packets that were offered for transmission. -/
inductive Exchange where
  | reception (burst : Reception)
  | offer (packets : List Packet) (outcome : Transmission)

namespace Exchange

def received : Exchange → List Packet
  | .reception burst => burst.packets
  | .offer _ _ => []

def offered : Exchange → List Packet
  | .reception _ => []
  | .offer packets _ => packets

/-- What the transmit side took from the front of an offer. -/
def taken : Exchange → List Packet
  | .reception _ => []
  | .offer packets outcome => packets.take outcome.taken

/-- What it left, and the worker gave up. -/
def refused : Exchange → List Packet
  | .reception _ => []
  | .offer packets outcome => packets.drop outcome.taken

def failure? : Exchange → Option Failure
  | .reception burst => burst.error.map (Failure.mk "rx")
  | .offer _ outcome => outcome.error.map (Failure.mk "tx")

theorem offered_eq (e : Exchange) : e.offered = e.taken ++ e.refused := by
  cases e with
  | reception burst => rfl
  | offer packets outcome => exact (List.take_append_drop _ _).symm

end Exchange

abbrev Traffic := List Exchange

namespace Traffic

def received (t : Traffic) : List Packet := t.flatMap Exchange.received

def offered (t : Traffic) : List Packet := t.flatMap Exchange.offered

def taken (t : Traffic) : List Packet := t.flatMap Exchange.taken

def refused (t : Traffic) : List Packet := t.flatMap Exchange.refused

def failures (t : Traffic) : List Failure := t.filterMap Exchange.failure?

variable (t u : Traffic)

@[simp] theorem received_append : received (t ++ u) = received t ++ received u :=
  List.flatMap_append

@[simp] theorem offered_append : offered (t ++ u) = offered t ++ offered u := List.flatMap_append

@[simp] theorem taken_append : taken (t ++ u) = taken t ++ taken u := List.flatMap_append

@[simp] theorem refused_append : refused (t ++ u) = refused t ++ refused u := List.flatMap_append

@[simp] theorem failures_append : failures (t ++ u) = failures t ++ failures u :=
  List.filterMap_append

theorem failures_cons (e : Exchange) : failures (e :: t) = e.failure?.toList ++ failures t := by
  rw [failures, List.filterMap_cons]
  cases e.failure? <;> rfl

section

variable (burst : Reception) (packets : List Packet) (outcome : Transmission)

@[simp] theorem received_reception : received [.reception burst] = burst.packets :=
  List.append_nil _

@[simp] theorem offered_reception : offered [.reception burst] = [] := rfl

@[simp] theorem taken_reception : taken [.reception burst] = [] := rfl

@[simp] theorem refused_reception : refused [.reception burst] = [] := rfl

@[simp] theorem received_offer : received [.offer packets outcome] = [] := rfl

@[simp] theorem offered_offer : offered [.offer packets outcome] = packets := List.append_nil _

@[simp] theorem taken_offer : taken [.offer packets outcome] = packets.take outcome.taken :=
  List.append_nil _

@[simp] theorem refused_offer : refused [.offer packets outcome] = packets.drop outcome.taken :=
  List.append_nil _

@[simp] theorem failures_reception :
    failures [.reception burst] = (burst.error.map (Failure.mk "rx")).toList := by
  rw [failures_cons]
  exact List.append_nil _

@[simp] theorem failures_offer :
    failures [.offer packets outcome] = (outcome.error.map (Failure.mk "tx")).toList := by
  rw [failures_cons]
  exact List.append_nil _

theorem getLast?_failures_offer :
    (failures [.offer packets outcome]).getLast? = outcome.error.map (Failure.mk "tx") := by
  rw [failures_offer]
  cases outcome.error <;> rfl

end

theorem offered_perm : (offered t).Perm (taken t ++ refused t) := by
  induction t with
  | nil => exact List.Perm.nil
  | cons e rest ih =>
    simp only [offered, taken, refused, List.flatMap_cons] at ih ⊢
    rw [e.offered_eq, List.append_assoc, List.append_assoc]
    refine List.Perm.append_left _ ((ih.append_left _).trans ?_)
    exact List.perm_append_comm_assoc ..

theorem length_offered : (offered t).length = (taken t).length + (refused t).length := by
  rw [(offered_perm t).length_eq, List.length_append]

end Traffic

/-- A queue with a record of what went over it. -/
structure Recorded (σ : Type) where
  queue : σ
  traffic : Traffic

variable {σ : Type} [PacketQueue σ]

namespace Recorded

def receive (q : Recorded σ) (max : Nat) : Reception × Recorded σ :=
  let r := PacketQueue.receive q.queue max
  (r.1, ⟨r.2, q.traffic ++ [.reception r.1]⟩)

def transmit (q : Recorded σ) (packets : List Packet) : Transmission × Recorded σ :=
  let r := PacketQueue.transmit q.queue packets
  (r.1, ⟨r.2, q.traffic ++ [.offer packets r.1]⟩)

def takeStarved (q : Recorded σ) : Nat × Recorded σ :=
  let r := PacketQueue.takeStarved q.queue
  (r.1, ⟨r.2, q.traffic⟩)

instance : PacketQueue (Recorded σ) where
  receive := receive
  transmit := transmit
  takeStarved := takeStarved
  receive_le q max := PacketQueue.receive_le q.queue max
  transmit_le q packets := PacketQueue.transmit_le q.queue packets

theorem traffic_receive (q : Recorded σ) (max : Nat) :
    (PacketQueue.receive q max).2.traffic =
      q.traffic ++ [.reception (PacketQueue.receive q.queue max).1] := rfl

theorem traffic_transmit (q : Recorded σ) (packets : List Packet) :
    (PacketQueue.transmit q packets).2.traffic =
      q.traffic ++ [.offer packets (PacketQueue.transmit q.queue packets).1] := rfl

end Recorded

/-! ## The record is not seen -/

theorem Outbox.flush_erase (o : Outbox) (q : Recorded σ) :
    o.flush q.queue = ((o.flush q).1, (o.flush q).2.1, (o.flush q).2.2.queue) := by
  unfold Outbox.flush
  split <;> rfl

theorem Outbox.append_erase (o : Outbox) (packet : Packet) (q : Recorded σ) :
    o.append packet q.queue =
      ((o.append packet q).1, (o.append packet q).2.1, (o.append packet q).2.2.queue) := by
  unfold Outbox.append
  dsimp only
  split
  · exact Outbox.flush_erase _ q
  · rfl

namespace Worker

def Burst.erase (b : Burst (Recorded σ)) : Burst σ :=
  ⟨b.outbox, b.queue.queue, b.flushed, b.dropped, b.released, b.log⟩

theorem Burst.step_erase (setup : Setup) (b : Burst (Recorded σ)) (packet : Packet) :
    Burst.step setup b.erase packet = (Burst.step setup b packet).erase := by
  unfold Burst.step
  dsimp only
  split
  · have same := Outbox.append_erase b.outbox (answer setup packet).2 b.queue
    simp only [Burst.erase, same]
  · rfl

theorem Burst.run_erase (setup : Setup) (o : Outbox) (q : Recorded σ) (packets : List Packet) :
    Burst.run setup o q.queue packets = (Burst.run setup o q packets).erase := by
  have start : (⟨o, q.queue, Flush.none, 0, [], []⟩ : Burst σ) =
    Burst.erase ⟨o, q, Flush.none, 0, [], []⟩ := rfl
  rw [Burst.run, start, Burst.run]
  exact List.foldl_hom Burst.erase fun b packet => Burst.step_erase setup b packet

/-- The worker over the queue inside. -/
def erase (w : Worker (Recorded σ)) : Worker σ :=
  ⟨w.setup, w.queue.queue, w.outbox, w.counters, w.phase, w.errors⟩

def record (w : Worker σ) : Worker (Recorded σ) :=
  ⟨w.setup, ⟨w.queue, []⟩, w.outbox, w.counters, w.phase, w.errors⟩

theorem flush_erase (w : Worker (Recorded σ)) :
    w.erase.flush = (w.flush.1.erase, w.flush.2) := by
  have same := Outbox.flush_erase w.outbox w.queue
  simp only [flush, erase, same]
  rfl

theorem receive_erase (w : Worker (Recorded σ)) :
    w.erase.receive = (w.receive.1, w.receive.2.erase) := rfl

theorem process_erase (w : Worker (Recorded σ)) (packets : List Packet) :
    w.erase.process packets = ((w.process packets).1.erase, (w.process packets).2) := by
  have same := Burst.run_erase w.setup w.outbox w.queue packets
  simp only [process, erase, same]
  rfl

theorem poll_erase (w : Worker (Recorded σ)) :
    w.erase.poll = (w.poll.1, w.poll.2.1.erase, w.poll.2.2) := by
  have flushed := flush_erase { w with phase := .polling }
  have start : { w.erase with phase := .polling } = ({ w with phase := .polling } : Worker _).erase :=
    rfl
  unfold poll
  dsimp only
  rw [start, flushed]
  dsimp only
  rw [receive_erase]
  dsimp only
  split
  · rfl
  · rw [process_erase]
    rfl

theorem flush_eq (w : Worker σ) : w.flush = (w.record.flush.1.erase, w.record.flush.2) :=
  flush_erase w.record

theorem poll_eq (w : Worker σ) :
    w.poll = (w.record.poll.1, w.record.poll.2.1.erase, w.record.poll.2.2) :=
  poll_erase w.record

def flushTraffic (w : Worker σ) : Traffic := w.record.flush.1.queue.traffic

def pollTraffic (w : Worker σ) : Traffic := w.record.poll.2.1.queue.traffic

end Worker

end Boomerang
