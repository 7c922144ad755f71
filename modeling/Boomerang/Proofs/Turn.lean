import Boomerang.Proofs.Atomicity
import Boomerang.Proofs.Traffic

/-!
What an operation of a worker does. Flushes, bursts and whole rounds of polling are described by one
relation between the worker before and after: what was answered, what went over the queue, and what
was released. It composes, so a history of operations is described by the same relation.
-/

set_option autoImplicit false

namespace Boomerang

theorem Packet.bytes_append (a b : List Packet) :
    Packet.bytes (a ++ b) = Packet.bytes a + Packet.bytes b := by
  induction a with
  | nil => simp [Packet.bytes]
  | cons packet rest ih =>
    simp only [Packet.bytes, List.cons_append, List.foldr_cons] at ih ⊢
    omega

theorem Counters.add_assoc (a b c : Counters) : (a.add b).add c = a.add (b.add c) := by
  simp only [Counters.add, Counters.zipWith, UInt64.add_assoc]

variable {σ τ υ : Type}

/-! ## The outbox -/

/-- What became of an outbox while `put` was added to it and `traffic` went over its queue. `f` is
the joint result of the flushes. -/
structure Outbox.Moved (o o' : Outbox) (q q' : Recorded σ) (put : List Packet) (traffic : Traffic)
    (f : Flush) : Prop where
  record : q'.traffic = q.traffic ++ traffic
  offers : Traffic.received traffic = []
  packets : o.packets ++ put = Traffic.offered traffic ++ o'.packets
  capacity : o'.capacity = o.capacity
  room : o.size < o.capacity → o'.size < o'.capacity
  sent : f.sent = (Traffic.taken traffic).length
  sentBytes : f.sentBytes = Packet.bytes (Traffic.taken traffic)
  refused : f.refused = Traffic.refused traffic
  error : f.error.map (Failure.mk "tx") = (Traffic.failures traffic).getLast?

namespace Outbox

variable {o o' o'' : Outbox} {q q' q'' : Recorded σ} {put put' : List Packet}
  {traffic traffic' : Traffic} {f f' : Flush}

theorem Moved.refl (o : Outbox) (q : Recorded σ) : Moved o o q q [] [] Flush.none where
  record := (List.append_nil _).symm
  offers := rfl
  packets := by rw [List.append_nil]; rfl
  capacity := rfl
  room h := h
  sent := rfl
  sentBytes := rfl
  refused := rfl
  error := rfl

theorem Moved.trans (first : Moved o o' q q' put traffic f)
    (next : Moved o' o'' q' q'' put' traffic' f') :
    Moved o o'' q q'' (put ++ put') (traffic ++ traffic') (f.merge f') where
  record := by rw [next.record, first.record, List.append_assoc]
  offers := by rw [Traffic.received_append, first.offers, next.offers]; rfl
  packets := by
    rw [← List.append_assoc, first.packets, List.append_assoc, next.packets,
      Traffic.offered_append, List.append_assoc]
  capacity := next.capacity.trans first.capacity
  room h := next.room (first.room h)
  sent := by
    rw [Traffic.taken_append, List.length_append, ← first.sent, ← next.sent]
    rfl
  sentBytes := by
    rw [Traffic.taken_append, Packet.bytes_append, ← first.sentBytes, ← next.sentBytes]
    rfl
  refused := by
    rw [Traffic.refused_append, ← first.refused, ← next.refused]
    rfl
  error := by
    rw [Traffic.failures_append, List.getLast?_append, ← first.error, ← next.error]
    exact Option.map_or

variable [PacketQueue σ]

theorem moved_flush (o : Outbox) (q : Recorded σ) :
    ∃ traffic, Moved o (o.flush q).2.1 q (o.flush q).2.2 [] traffic (o.flush q).1 := by
  by_cases empty : o.packets.isEmpty = true
  case pos =>
    rw [Outbox.flush, if_pos empty]
    exact ⟨[], Moved.refl o q⟩
  case neg =>
    rw [Outbox.flush, if_neg empty]
    refine ⟨[.offer o.packets (PacketQueue.transmit q.queue o.packets).1], rfl, rfl, ?_, rfl,
      fun _ => o.capacity_pos, ?_, ?_, ?_, ?_⟩
    · rw [Traffic.offered_offer]
    · rw [Traffic.taken_offer]
      rfl
    · rw [Traffic.taken_offer]
      rfl
    · rw [Traffic.refused_offer]
      rfl
    · exact (Traffic.getLast?_failures_offer ..).symm

theorem moved_append (o : Outbox) (packet : Packet) (q : Recorded σ) :
    ∃ traffic, Moved o (o.append packet q).2.1 q (o.append packet q).2.2 [packet] traffic
      (o.append packet q).1 := by
  rw [Outbox.append]
  dsimp only
  split
  case isTrue full =>
    -- The flush starts from the outbox with the packet in it and leaves nothing behind.
    obtain ⟨traffic, moved⟩ := moved_flush { o with packets := o.packets ++ [packet] } q
    refine ⟨traffic, moved.record, moved.offers, ?_, moved.capacity, ?_, moved.sent,
      moved.sentBytes, moved.refused, moved.error⟩
    · have packets := moved.packets
      rwa [List.append_nil] at packets
    · intro _
      rw [Outbox.size, packets_flush, capacity_flush]
      exact o.capacity_pos
  case isFalse space =>
    refine ⟨[], (List.append_nil _).symm, rfl, rfl, rfl, fun _ => ?_, rfl, rfl, rfl, rfl⟩
    exact Nat.lt_of_not_le space

end Outbox

/-! ## A burst -/

namespace Worker

variable {setup : Setup}

/-- A burst on its way, with `answered` done of it and `traffic` gone over the queue meanwhile. -/
structure Burst.Served (setup : Setup) (o : Outbox) (q : Recorded σ) (answered : List Packet)
    (traffic : Traffic) (b : Burst (Recorded σ)) : Prop
    extends Outbox.Moved o b.outbox q b.queue (setup.policy.replies answered) traffic b.flushed where
  dropped : b.dropped = (setup.policy.discards answered).length
  released : b.released.Perm (Traffic.refused traffic ++ setup.policy.discards answered)

theorem Burst.served_step [PacketQueue σ] {o : Outbox} {q : Recorded σ} {answered : List Packet}
    {traffic : Traffic} {b : Burst (Recorded σ)} (served : Served setup o q answered traffic b)
    (packet : Packet) :
    ∃ more, Served setup o q (answered ++ [packet]) (traffic ++ more) (step setup b packet) := by
  rw [Burst.step, answer_eq]
  cases replied : setup.policy.reply? packet with
  | some reply =>
    obtain ⟨replies, discards⟩ := Policy.replies_of_reply replied
    obtain ⟨more, moved⟩ := Outbox.moved_append b.outbox reply b.queue
    refine ⟨more, ?_, ?_, ?_⟩
    · rw [Policy.replies_append, replies]
      exact served.toMoved.trans moved
    · rw [Policy.discards_append, discards, List.append_nil]
      exact served.dropped
    · rw [Policy.discards_append, discards, List.append_nil, Traffic.refused_append,
        ← moved.refused]
      -- What is refused now comes behind what was dropped before.
      refine (served.released.append_right _).trans ?_
      rw [List.append_assoc, List.append_assoc]
      exact List.perm_append_comm.append_left _
  | none =>
    obtain ⟨replies, discards⟩ := Policy.replies_of_none replied
    refine ⟨[], ?_, ?_, ?_⟩
    · rw [Policy.replies_append, replies, List.append_nil, List.append_nil]
      exact served.toMoved
    · rw [Policy.discards_append, discards, List.length_append, ← served.dropped]
      rfl
    · rw [Policy.discards_append, discards, List.append_nil, ← List.append_assoc]
      exact served.released.append_right _

theorem Burst.served_foldl [PacketQueue σ] {o : Outbox} {q : Recorded σ}
    {answered packets : List Packet} {traffic : Traffic} {b : Burst (Recorded σ)}
    (served : Served setup o q answered traffic b) :
    ∃ more, Served setup o q (answered ++ packets) (traffic ++ more)
      (packets.foldl (step setup) b) := by
  -- On the packets that are left: what is done of the burst, and its traffic, grow at the end.
  induction packets generalizing answered traffic b with
  | nil =>
    refine ⟨[], ?_⟩
    rwa [List.append_nil, List.append_nil]
  | cons packet packets ih =>
    obtain ⟨more, next⟩ := served_step served packet
    obtain ⟨rest, last⟩ := ih next
    refine ⟨more ++ rest, ?_⟩
    rwa [List.append_assoc, List.append_assoc, List.singleton_append] at last

theorem Burst.served_run [PacketQueue σ] (setup : Setup) (o : Outbox) (q : Recorded σ)
    (packets : List Packet) :
    ∃ traffic, Served setup o q packets traffic (run setup o q packets) := by
  have start : Served setup o q [] [] ⟨o, q, Flush.none, 0, [], []⟩ :=
    ⟨Outbox.Moved.refl o q, rfl, List.Perm.nil⟩
  exact served_foldl start

/-! ## The worker -/

/-- What the counters gain while packets are answered and traffic goes over the queue. -/
def tally (p : Policy) (answered : List Packet) (traffic : Traffic) (starved : Nat) : Counters where
  rxPackets := UInt64.ofNat answered.length
  rxBytes := UInt64.ofNat (Packet.bytes answered)
  txPackets := UInt64.ofNat (Traffic.taken traffic).length
  txBytes := UInt64.ofNat (Packet.bytes (Traffic.taken traffic))
  dropped := UInt64.ofNat (p.discards answered).length
  txErrors := UInt64.ofNat (Traffic.refused traffic).length
  rxStarved := UInt64.ofNat starved

theorem tally_append (p : Policy) (a a' : List Packet) (t t' : Traffic) (n n' : Nat) :
    (tally p a t n).add (tally p a' t' n') = tally p (a ++ a') (t ++ t') (n + n') := by
  simp only [tally, Counters.add, Counters.zipWith, Traffic.taken_append, Traffic.refused_append,
    Policy.discards_append, Packet.bytes_append, List.length_append, UInt64.ofNat_add]

/-- How a worker is turned into another by answering packets while traffic goes over its queue and
packets are released. The queue itself is not looked at. -/
structure Turned (w : Worker σ) (w' : Worker τ) (answered : List Packet) (traffic : Traffic)
    (released : List Packet) : Prop where
  setup : w'.setup = w.setup
  packets : w.outbox.packets ++ w.setup.policy.replies answered =
    Traffic.offered traffic ++ w'.outbox.packets
  capacity : w'.outbox.capacity = w.outbox.capacity
  room : w.outbox.size < w.outbox.capacity → w'.outbox.size < w'.outbox.capacity
  counters : ∃ starved, w'.counters = w.counters.add (tally w.setup.policy answered traffic starved)
  released : released.Perm (Traffic.refused traffic ++ w.setup.policy.discards answered)

theorem Turned.trans {w : Worker σ} {w' : Worker τ} {w'' : Worker υ} {a a' : List Packet}
    {t t' : Traffic} {r r' : List Packet} (first : Turned w w' a t r) (next : Turned w' w'' a' t' r') :
    Turned w w'' (a ++ a') (t ++ t') (r ++ r') where
  setup := next.setup.trans first.setup
  packets := by
    have packets := next.packets
    rw [first.setup] at packets
    rw [Policy.replies_append, ← List.append_assoc, first.packets, List.append_assoc, packets,
      Traffic.offered_append, List.append_assoc]
  capacity := next.capacity.trans first.capacity
  room h := next.room (first.room h)
  counters := by
    -- Counters only add up, so it does not matter between which turns a flush fell.
    obtain ⟨n, counters⟩ := first.counters
    obtain ⟨n', counters'⟩ := next.counters
    refine ⟨n + n', ?_⟩
    rw [counters', counters, first.setup, Counters.add_assoc, tally_append]
  released := by
    have released := next.released
    rw [first.setup] at released
    rw [Traffic.refused_append, Policy.discards_append]
    refine (first.released.append released).trans ?_
    rw [List.append_assoc, List.append_assoc]
    exact (List.perm_append_comm_assoc ..).append_left _

theorem counted (c : Counters) (p : Policy) (answered : List Packet) {traffic : Traffic} {f : Flush}
    (sent : f.sent = (Traffic.taken traffic).length)
    (sentBytes : f.sentBytes = Packet.bytes (Traffic.taken traffic))
    (refused : f.refused = Traffic.refused traffic) :
    (((c.addReceived answered.length (Packet.bytes answered)).addDropped
      (p.discards answered).length).addSent f.sent f.sentBytes).addRefused f.refused.length =
      c.add (tally p answered traffic 0) := by
  rw [sent, sentBytes, refused]
  simp [Counters.addReceived, Counters.addDropped, Counters.addSent, Counters.addRefused,
    Counters.add, Counters.zipWith, tally]

theorem counted_starved (c : Counters) (p : Policy) (burst : Reception) (starved : Nat) :
    c.addStarved starved = c.add (tally p [] [.reception burst] starved) := by
  simp [Counters.addStarved, Counters.add, Counters.zipWith, tally, Packet.bytes]

def books (w : Worker σ) : Setup × Outbox × Counters := (w.setup, w.outbox, w.counters)

theorem Turned.congr {τ' υ' : Type} {w : Worker σ} {w' : Worker τ} {v : Worker τ'} {v' : Worker υ'}
    {answered released : List Packet} {traffic : Traffic}
    (turned : Turned w w' answered traffic released) (start : v.books = w.books)
    (finish : v'.books = w'.books) : Turned v v' answered traffic released := by
  obtain ⟨setup, outbox, counters⟩ : v.setup = w.setup ∧ v.outbox = w.outbox ∧
      v.counters = w.counters := by simpa [books] using start
  obtain ⟨setup', outbox', counters'⟩ : v'.setup = w'.setup ∧ v'.outbox = w'.outbox ∧
      v'.counters = w'.counters := by simpa [books] using finish
  obtain ⟨a, b, c, d, e, f⟩ := turned
  constructor
  all_goals simp only [setup, outbox, counters, setup', outbox', counters']
  all_goals assumption

variable [PacketQueue σ]

theorem turned_flush (w : Worker (Recorded σ)) :
    ∃ traffic, Turned w w.flush.1 [] traffic w.flush.2.released ∧
      w.flush.1.queue.traffic = w.queue.traffic ++ traffic ∧ Traffic.received traffic = [] ∧
      Traffic.offered traffic = w.outbox.packets := by
  obtain ⟨traffic, moved⟩ := Outbox.moved_flush w.outbox w.queue
  have counted := counted w.counters w.setup.policy [] moved.sent moved.sentBytes moved.refused
  have packets := moved.packets
  refine ⟨traffic, ⟨rfl, packets, moved.capacity, moved.room, ⟨0, ?_⟩, ?_⟩, moved.record,
    moved.offers, ?_⟩
  · rw [← counted]
    simp [Counters.addReceived, Counters.addDropped, Packet.bytes]
    rfl
  · rw [← moved.refused, Policy.discards_nil, List.append_nil]
    exact List.Perm.refl _
  · rw [List.append_nil, Outbox.packets_flush, List.append_nil] at packets
    exact packets.symm

theorem turned_receive (w : Worker (Recorded σ)) :
    Turned w w.receive.2 [] [.reception w.receive.1] [] ∧
      w.receive.2.queue.traffic = w.queue.traffic ++ [.reception w.receive.1] := by
  have counters := counted_starved w.counters w.setup.policy w.receive.1
  exact ⟨⟨rfl, List.append_nil _, rfl, fun h => h, ⟨_, counters _⟩, List.Perm.nil⟩, rfl⟩

theorem turned_process (w : Worker (Recorded σ)) (packets : List Packet) :
    ∃ traffic, Turned w (w.process packets).1 packets traffic (w.process packets).2.released ∧
      (w.process packets).1.queue.traffic = w.queue.traffic ++ traffic ∧
      Traffic.received traffic = [] := by
  obtain ⟨traffic, served⟩ := Burst.served_run w.setup w.outbox w.queue packets
  have counted := counted w.counters w.setup.policy packets served.sent served.sentBytes
    served.refused
  rw [← served.dropped] at counted
  exact ⟨traffic, ⟨rfl, served.packets, served.capacity, served.room, ⟨0, counted⟩,
    served.released⟩, served.record, served.offers⟩

theorem turned_poll (w : Worker (Recorded σ)) :
    ∃ before after, let burst := w.flush.1.receive.1
      w.poll.2.1.queue.traffic = w.queue.traffic ++ (before ++ .reception burst :: after) ∧
      w.flush.1.queue.traffic = w.queue.traffic ++ before ∧
      Traffic.received before = [] ∧ Traffic.received after = [] ∧
      Turned w w.poll.2.1 burst.packets (before ++ .reception burst :: after)
        w.poll.2.2.released := by
  obtain ⟨before, flushed, record, offers, _⟩ := turned_flush { w with phase := .polling }
  have flushed : Turned w _ _ _ _ := flushed.congr rfl rfl
  -- The round flushes in the polling phase, but the phase is no part of what a flush does.
  have same : w.flush.1.queue = ({ w with phase := .polling } : Worker _).flush.1.queue := rfl
  have same' : w.flush.1.receive.1 =
      ({ w with phase := .polling } : Worker _).flush.1.receive.1 := rfl
  rw [poll, same, same']
  dsimp only at record ⊢
  generalize ({ w with phase := .polling } : Worker (Recorded σ)).flush = f at *
  obtain ⟨received, recordReceived⟩ := turned_receive f.1
  have taken := flushed.trans received
  rw [List.append_nil, List.append_nil] at taken
  rw [record] at recordReceived
  by_cases empty : f.1.receive.1.packets.isEmpty = true
  case pos =>
    rw [if_pos empty]
    refine ⟨before, [], ?_, record, offers, rfl, ?_⟩
    · exact recordReceived.trans (List.append_assoc ..)
    · rw [List.isEmpty_iff.1 empty]
      exact taken
  case neg =>
    rw [if_neg empty]
    obtain ⟨after, processed, recordProcessed, offers'⟩ :=
      turned_process f.1.receive.2 f.1.receive.1.packets
    rw [recordReceived, List.append_assoc, List.append_assoc, List.singleton_append]
      at recordProcessed
    have whole := taken.trans processed
    rw [List.nil_append, List.append_assoc, List.singleton_append] at whole
    exact ⟨before, after, recordProcessed, record, offers, offers', whole⟩

/-! ## Over any queue -/

theorem turned_over_flush (w : Worker σ) :
    Turned w w.flush.1 [] w.flushTraffic w.flush.2.released ∧
      Traffic.received w.flushTraffic = [] ∧ Traffic.offered w.flushTraffic = w.outbox.packets := by
  obtain ⟨traffic, turned, record, offers, all⟩ := turned_flush w.record
  have record : w.flushTraffic = traffic := record
  rw [record, flush_eq]
  exact ⟨turned.congr rfl rfl, offers, all⟩

theorem turned_over_shutdown (w : Worker σ) :
    Turned w w.shutdown.1 [] w.flushTraffic w.shutdown.2.released :=
  (turned_over_flush w).1.congr rfl rfl

theorem turned_over_poll (w : Worker σ) :
    (∃ after, w.pollTraffic = w.flushTraffic ++ .reception w.flush.1.receive.1 :: after) ∧
      Traffic.received w.pollTraffic = w.flush.1.receive.1.packets ∧
      Turned w w.poll.2.1 (Traffic.received w.pollTraffic) w.pollTraffic w.poll.2.2.released := by
  obtain ⟨before, after, record, recordFlush, offers, offers', turned⟩ := turned_poll w.record
  have burst : w.flush.1.receive.1 = w.record.flush.1.receive.1 := by
    rw [flush_eq, receive_erase]
  rw [← burst] at record turned
  have record : w.pollTraffic = before ++ .reception w.flush.1.receive.1 :: after := record
  have recordFlush : w.flushTraffic = before := recordFlush
  have received : Traffic.received w.pollTraffic = w.flush.1.receive.1.packets := by
    rw [record, Traffic.received_append, offers, List.nil_append]
    show w.flush.1.receive.1.packets ++ Traffic.received after = w.flush.1.receive.1.packets
    rw [offers', List.append_nil]
  refine ⟨⟨after, ?_⟩, received, ?_⟩
  · rw [recordFlush, record]
  · rw [received, record, poll_eq]
    exact turned.congr rfl rfl

end Worker

end Boomerang
