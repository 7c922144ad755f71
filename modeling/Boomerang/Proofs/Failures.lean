import Boomerang.Proofs.History
import Boomerang.Queue.Scripted
import Mathlib.Algebra.GroupWithZero.Nat

/-!
What a worker makes of the failures of its queue. It counts them and reports some of them, but the
flushes while it answers a burst are accounted for together: of their failures the last is noted and
the others are lost.
-/

set_option autoImplicit false

namespace Boomerang

namespace Traffic

/-- A round of polling up to its reception, and what is exchanged while the burst is answered. -/
def cut : Traffic → Traffic × Traffic
  | [] => ([], [])
  | .reception burst :: rest => ([.reception burst], rest)
  | .offer packets outcome :: rest => (.offer packets outcome :: (cut rest).1, (cut rest).2)

theorem cut_append (t : Traffic) : (cut t).1 ++ (cut t).2 = t := by
  induction t with
  | nil => rfl
  | cons e rest ih =>
    cases e with
    | reception burst => rfl
    | offer packets outcome => exact congrArg (Exchange.offer packets outcome :: ·) ih

/-- The failures of a round that are noted. -/
def noted (t : Traffic) : List Failure := failures (cut t).1 ++ (failures (cut t).2).getLast?.toList

/-- More than one flush fails while a burst is answered. -/
def Merges (t : Traffic) : Prop := 2 ≤ (failures (cut t).2).length

instance (t : Traffic) : Decidable (Merges t) :=
  inferInstanceAs (Decidable (2 ≤ (failures (cut t).2).length))

theorem failures_eq_cut (t : Traffic) : failures t = failures (cut t).1 ++ failures (cut t).2 := by
  rw [← failures_append, cut_append]

theorem last_sublist {α : Type} (l : List α) : l.getLast?.toList.Sublist l := by
  cases last : l.getLast? with
  | none => exact List.nil_sublist l
  | some a => exact List.singleton_sublist.2 (List.mem_of_getLast? last)

theorem last_eq_iff {α : Type} (l : List α) : l.getLast?.toList = l ↔ l.length < 2 := by
  match l with
  | [] => simp
  | [a] => simp
  | a :: b :: rest =>
    have one : (a :: b :: rest).getLast?.toList.length = 1 := by
      rw [List.getLast?_eq_some_getLast (List.cons_ne_nil a _)]
      rfl
    refine ⟨fun same => ?_, fun short => ?_⟩
    · rw [same] at one
      omega
    · simp only [List.length_cons] at short
      omega

theorem noted_sublist (t : Traffic) : (noted t).Sublist (failures t) := by
  rw [failures_eq_cut]
  exact (last_sublist _).append_left _

theorem noted_eq_iff (t : Traffic) : noted t = failures t ↔ ¬ Merges t := by
  rw [failures_eq_cut, noted, List.append_cancel_left_eq, last_eq_iff, Merges, Nat.not_le]

def notedIn (rounds : List Traffic) : List Failure := rounds.flatMap noted

theorem notedIn_sublist (rounds : List Traffic) :
    (notedIn rounds).Sublist (failures rounds.flatten) := by
  induction rounds with
  | nil => exact List.Sublist.refl _
  | cons round rest ih =>
    rw [List.flatten_cons, failures_append]
    exact (noted_sublist round).append ih

theorem notedIn_eq_iff (rounds : List Traffic) :
    notedIn rounds = failures rounds.flatten ↔ ∀ round ∈ rounds, ¬ Merges round := by
  induction rounds with
  | nil => exact ⟨fun _ _ member => (List.not_mem_nil member).elim, fun _ => rfl⟩
  | cons round rest ih =>
    have joined : notedIn (round :: rest) = noted round ++ notedIn rest := List.flatMap_cons
    rw [joined, List.flatten_cons, failures_append, List.forall_mem_cons, ← noted_eq_iff, ← ih]
    refine ⟨fun same => ?_, fun ⟨first, others⟩ => by rw [first, others]⟩
    -- Nowhere is more noted than fails, so the lengths agree only part by part.
    have lengths := congrArg List.length same
    have first := (noted_sublist round).length_le
    have others := (notedIn_sublist rest).length_le
    rw [List.length_append, List.length_append] at lengths
    exact ⟨(noted_sublist round).eq_of_length (by omega),
      (notedIn_sublist rest).eq_of_length (by omega)⟩

section

variable (packets : List Packet) (offer : Option Transmission)

theorem failures_offered : failures (offer.map (Exchange.offer packets)).toList =
    ((offer.bind Transmission.error).map (Failure.mk "tx")).toList := by
  cases offer with
  | none => rfl
  | some outcome => exact failures_offer packets outcome

theorem noted_offered : noted (offer.map (Exchange.offer packets)).toList =
    failures (offer.map (Exchange.offer packets)).toList := by
  cases offer with
  | none => rfl
  | some outcome => exact List.append_nil _

theorem noted_round (burst : Reception) (after : Traffic) :
    noted ((offer.map (Exchange.offer packets)).toList ++ .reception burst :: after) =
      failures ((offer.map (Exchange.offer packets)).toList ++ [.reception burst]) ++
        (failures after).getLast?.toList := by
  cases offer <;> rfl

end

end Traffic

variable {σ τ υ : Type}

theorem Outbox.flush_offered [PacketQueue σ] (o : Outbox) (q : Recorded σ) :
    ∃ offer : Option Transmission,
      (o.flush q).2.2.traffic = q.traffic ++ (offer.map (Exchange.offer o.packets)).toList ∧
        (o.flush q).1.error = offer.bind Transmission.error := by
  unfold Outbox.flush
  split
  · exact ⟨none, (List.append_nil _).symm, rfl⟩
  · exact ⟨some (PacketQueue.transmit q.queue o.packets).1, rfl, rfl⟩

namespace Worker

/-! ## Reports -/

theorem isPowerOfTwo_iff (n : UInt64) : isPowerOfTwo n = true ↔ n.toNat.isPowerOfTwo := by
  rw [isPowerOfTwo, Bool.and_eq_true, bne_iff_ne, beq_iff_eq, Nat.one_shiftLeft]
  refine ⟨fun ⟨_, power⟩ => ⟨n.toNat.log2, power.symm⟩, ?_⟩
  rintro ⟨k, power⟩
  refine ⟨?_, by rw [power, Nat.log2_two_pow]⟩
  rintro rfl
  exact Nat.ne_of_lt (Nat.two_pow_pos k) power

def reported (log : List Log.Event) : List Log.Event :=
  log.filter fun event => event.message = "Queue I/O error"

/-- What is to be reported of failures behind the first `count`: those whose number is a power of
two, in order and under their number. Numbers are words. -/
def reports (worker count : Nat) (failures : List Failure) : List Log.Event :=
  ((failures.zipIdx (count + 1)).filter fun numbered => (numbered.2 % 2 ^ 64).isPowerOfTwo).map
    fun numbered =>
      errorEvent worker numbered.1.direction numbered.1.error (UInt64.ofNat numbered.2)

theorem reported_append (log more : List Log.Event) :
    reported (log ++ more) = reported log ++ reported more := List.filter_append ..

theorem reports_append (worker count : Nat) (failures more : List Failure) :
    reports worker count (failures ++ more) =
      reports worker count failures ++ reports worker (count + failures.length) more := by
  simp only [reports, List.zipIdx_append, List.filter_append, List.map_append,
    Nat.add_right_comm count 1]

/-- With `2 ^ 64` more failures there are more reports: one of their numbers is 1 again. -/
theorem length_reports_lt {worker : Nat} {failures more : List Failure}
    (longer : failures.length + 2 ^ 64 ≤ more.length) :
    (reports worker 0 failures).length < (reports worker 0 more).length := by
  have length (l : List Failure) : (reports worker 0 l).length =
      ((List.range' 1 l.length).filter fun n => (n % 2 ^ 64).isPowerOfTwo).length := by
    rw [reports, List.length_map, ← List.zipIdx_map_snd, List.filter_map, List.length_map]
    rfl
  have again : 1 + failures.length + (2 ^ 64 - failures.length % 2 ^ 64) % 2 ^ 64 ∈
      (List.range' (1 + failures.length) (more.length - failures.length)).filter
        fun n => (n % 2 ^ 64).isPowerOfTwo := by
    rw [List.mem_filter, List.mem_range'_1]
    have one : (1 + failures.length + (2 ^ 64 - failures.length % 2 ^ 64) % 2 ^ 64) % 2 ^ 64 =
        2 ^ 0 := by
      omega
    rw [one]
    exact ⟨by omega, by decide⟩
  rw [length, length, ← Nat.add_sub_of_le (Nat.le_of_add_right_le longer), ← List.range'_append_1,
    List.filter_append, List.length_append]
  exact Nat.lt_add_of_pos_right (List.length_pos_of_mem again)

/-- How a worker notes failures on its way to another state: it counts them all, and reports those
that are to be reported, under the numbers behind its count. -/
structure Noted (w : Worker σ) (w' : Worker τ) (failures : List Failure) (log : List Log.Event) :
    Prop where
  setup : w'.setup = w.setup
  errors : w'.errors = w.errors + UInt64.ofNat failures.length
  log : ∀ count, w.errors = UInt64.ofNat count →
    reported log = reports w.setup.id count failures

theorem Noted.trans {w : Worker σ} {w' : Worker τ} {w'' : Worker υ} {failures more : List Failure}
    {log log' : List Log.Event} (first : Noted w w' failures log) (next : Noted w' w'' more log') :
    Noted w w'' (failures ++ more) (log ++ log') where
  setup := next.setup.trans first.setup
  errors := by
    rw [next.errors, first.errors, List.length_append, UInt64.ofNat_add, UInt64.add_assoc]
  log count before := by
    have between : w'.errors = UInt64.ofNat (count + failures.length) := by
      rw [first.errors, before, UInt64.ofNat_add]
    rw [reported_append, reports_append, first.log count before, next.log _ between, first.setup]

theorem Noted.congr {σ' τ' : Type} {w : Worker σ} {w' : Worker τ} {v : Worker σ'} {v' : Worker τ'}
    {failures : List Failure} {log : List Log.Event} (noted : Noted w w' failures log)
    (start : (v.setup, v.errors) = (w.setup, w.errors))
    (finish : (v'.setup, v'.errors) = (w'.setup, w'.errors)) : Noted v v' failures log := by
  obtain ⟨setup, errors⟩ := Prod.mk.inj start
  obtain ⟨setup', errors'⟩ := Prod.mk.inj finish
  refine ⟨?_, ?_, ?_⟩
  · rw [setup', setup]
    exact noted.setup
  · rw [errors', errors]
    exact noted.errors
  · rw [setup, errors]
    exact noted.log

theorem noted_error (w : Worker σ) (direction : String) (error : Option String) :
    Noted w (w.countError error) (error.map (Failure.mk direction)).toList
      (w.errorLog direction error) := by
  cases error with
  | none => exact ⟨rfl, (UInt64.add_zero _).symm, fun _ _ => rfl⟩
  | some error =>
    refine ⟨rfl, rfl, fun count before => ?_⟩
    have next : w.errors + 1 = UInt64.ofNat (count + 1) := by
      rw [before, UInt64.ofNat_add]
      rfl
    have number : (UInt64.ofNat (count + 1)).toNat = (count + 1) % 2 ^ 64 := UInt64.toNat_ofNat'
    have power := isPowerOfTwo_iff (UInt64.ofNat (count + 1))
    rw [number] at power
    have alone : reports w.setup.id count [⟨direction, error⟩] =
        if isPowerOfTwo (UInt64.ofNat (count + 1)) then
          [errorEvent w.setup.id direction error (UInt64.ofNat (count + 1))]
        else [] := by
      rw [reports, List.zipIdx_singleton, List.filter_cons, List.filter_nil]
      simp only [power, decide_eq_true_eq]
      split <;> rfl
    rw [errorLog, next, Option.map_some, Option.toList_some, alone]
    split <;> rfl

/-! ## Operations -/

theorem reported_answerLog (setup : Setup) (packet : Packet) :
    reported (answerLog setup packet) = [] := by
  have received (text : String) : "rx " ++ text ≠ "Queue I/O error" := by
    simp [← String.toList_inj, String.toList_append]
  have sent (text : String) : "tx " ++ text ≠ "Queue I/O error" := by
    simp [← String.toList_inj, String.toList_append]
  unfold answerLog
  split
  · rfl
  · dsimp only
    split
    all_goals simp [reported, traceEvent, received, sent]

theorem Burst.reported_run [PacketQueue σ] (setup : Setup) (o : Outbox) (q : σ)
    (packets : List Packet) : reported (run setup o q packets).log = [] := by
  have step_log (b : Burst σ) (packet : Packet) :
      (step setup b packet).log = b.log ++ answerLog setup packet := by
    unfold step
    dsimp only
    split <;> rfl
  suffices quiet : ∀ b : Burst σ, reported b.log = [] →
      reported (packets.foldl (step setup) b).log = [] from quiet _ rfl
  induction packets with
  | nil => exact fun _ silent => silent
  | cons packet packets ih =>
    intro b silent
    refine ih _ ?_
    rw [step_log, reported_append, silent, reported_answerLog, List.append_nil]

variable [PacketQueue σ]

theorem noted_flush (w : Worker (Recorded σ)) :
    ∃ offer : Option Transmission,
      let traffic := (offer.map (Exchange.offer w.outbox.packets)).toList
      w.flush.1.queue.traffic = w.queue.traffic ++ traffic ∧
        Noted w w.flush.1 (Traffic.failures traffic) w.flush.2.log := by
  obtain ⟨offer, record, error⟩ := w.outbox.flush_offered w.queue
  refine ⟨offer, record, ?_⟩
  rw [Traffic.failures_offered, ← error]
  exact (noted_error w "tx" (w.outbox.flush w.queue).1.error).congr rfl rfl

theorem noted_receive (w : Worker σ) :
    Noted w w.receive.2 (Traffic.failures [.reception w.receive.1])
      (w.errorLog "rx" w.receive.1.error) := by
  rw [Traffic.failures_reception]
  exact (noted_error w "rx" w.receive.1.error).congr rfl rfl

theorem noted_process (w : Worker (Recorded σ)) (packets : List Packet) :
    ∃ traffic, (w.process packets).1.queue.traffic = w.queue.traffic ++ traffic ∧
      Noted w (w.process packets).1 (Traffic.failures traffic).getLast?.toList
        (w.process packets).2.log := by
  obtain ⟨traffic, served⟩ := Burst.served_run w.setup w.outbox w.queue packets
  obtain ⟨setup, errors, log⟩ :=
    noted_error w "tx" (Burst.run w.setup w.outbox w.queue packets).flushed.error
  refine ⟨traffic, served.record, ?_⟩
  rw [← served.error]
  refine ⟨setup, errors, fun count before => ?_⟩
  rw [← log count before, process, reported_append, Burst.reported_run]
  rfl

/-- Of a round of polling, everything up to the reception is noted, and the last failure behind. -/
theorem noted_poll_recorded (w : Worker (Recorded σ)) :
    ∃ traffic, w.poll.2.1.queue.traffic = w.queue.traffic ++ traffic ∧
      Noted w w.poll.2.1 (Traffic.noted traffic) w.poll.2.2.log := by
  obtain ⟨offer, record, flushed⟩ := noted_flush { w with phase := .polling }
  have flushed : Noted w _ _ _ := flushed.congr rfl rfl
  rw [poll]
  dsimp only at record flushed ⊢
  generalize ({ w with phase := .polling } : Worker (Recorded σ)).flush = f at *
  have received := flushed.trans (noted_receive f.1)
  rw [← Traffic.failures_append] at received
  have recordReceived : f.1.receive.2.queue.traffic =
      f.1.queue.traffic ++ [.reception f.1.receive.1] := rfl
  rw [record, List.append_assoc] at recordReceived
  by_cases empty : f.1.receive.1.packets.isEmpty = true
  case pos =>
    rw [if_pos empty]
    refine ⟨_, recordReceived, ?_⟩
    rw [Traffic.noted_round]
    rw [← List.append_nil (Traffic.failures _)] at received
    exact received
  case neg =>
    rw [if_neg empty]
    obtain ⟨after, recordProcessed, processed⟩ :=
      noted_process f.1.receive.2 f.1.receive.1.packets
    rw [recordReceived, List.append_assoc, List.append_assoc, List.singleton_append]
      at recordProcessed
    refine ⟨_, recordProcessed, ?_⟩
    rw [Traffic.noted_round]
    exact received.trans processed

/-! ## Over any queue -/

theorem noted_over_flush (w : Worker σ) :
    Noted w w.flush.1 (Traffic.noted w.flushTraffic) w.flush.2.log := by
  obtain ⟨offer, record, noted⟩ := noted_flush w.record
  have record : w.flushTraffic = (offer.map (Exchange.offer w.outbox.packets)).toList := record
  rw [record, Traffic.noted_offered, flush_eq]
  exact noted.congr rfl rfl

theorem noted_over_poll (w : Worker σ) :
    Noted w w.poll.2.1 (Traffic.noted w.pollTraffic) w.poll.2.2.log := by
  obtain ⟨traffic, record, noted⟩ := noted_poll_recorded w.record
  have record : w.pollTraffic = traffic := record
  rw [record, poll_eq]
  exact noted.congr rfl rfl

/-- A history with what each operation exchanged, and with all that was logged. -/
structure Chronicle (σ : Type) extends History σ where
  rounds : List Traffic
  log : List Log.Event

namespace Chronicle

def begin (setup : Setup) (queue : σ) : Chronicle σ := ⟨History.begin setup queue, [], []⟩

def withQueue (c : Chronicle σ) (queue : σ) : Chronicle σ :=
  ⟨c.toHistory.withQueue queue, c.rounds, c.log⟩

def flush (c : Chronicle σ) : Chronicle σ :=
  ⟨c.toHistory.flush, c.rounds ++ [c.worker.flushTraffic], c.log ++ c.worker.flush.2.log⟩

def poll (c : Chronicle σ) : Chronicle σ :=
  ⟨c.toHistory.poll, c.rounds ++ [c.worker.pollTraffic], c.log ++ c.worker.poll.2.2.log⟩

def shutdown (c : Chronicle σ) : Chronicle σ :=
  ⟨c.toHistory.shutdown, c.rounds ++ [c.worker.flushTraffic], c.log ++ c.worker.shutdown.2.log⟩

/-- The chronicles of a worker with `setup`. -/
inductive Reached (setup : Setup) : Chronicle σ → Prop where
  | start (queue : σ) : Reached setup (begin setup queue)
  | queue {c : Chronicle σ} (before : Reached setup c) (queue : σ) :
      Reached setup (c.withQueue queue)
  | flush {c : Chronicle σ} (before : Reached setup c) : Reached setup c.flush
  | poll {c : Chronicle σ} (before : Reached setup c) : Reached setup c.poll
  | shutdown {c : Chronicle σ} (before : Reached setup c) : Reached setup c.shutdown

/-- The worker counted these failures, and reported those that are to be reported. -/
structure Booked (setup : Setup) (c : Chronicle σ) (failures : List Failure) : Prop where
  errors : c.worker.errors = UInt64.ofNat failures.length
  log : reported c.log = reports setup.id 0 failures

variable {setup : Setup} {c : Chronicle σ}

omit [PacketQueue σ] in
theorem traffic_more (whole : c.traffic = c.rounds.flatten) (round : Traffic) :
    c.traffic ++ round = (c.rounds ++ [round]).flatten := by
  rw [List.flatten_concat, whole]

omit [PacketQueue σ] in
theorem noted_more {fresh w' : Worker σ} {round : Traffic} {log : List Log.Event}
    (before : Noted fresh c.worker (Traffic.notedIn c.rounds) c.log)
    (step : Noted c.worker w' (Traffic.noted round) log) :
    Noted fresh w' (Traffic.notedIn (c.rounds ++ [round])) (c.log ++ log) := by
  rw [Traffic.notedIn, List.flatMap_append, List.flatMap_singleton]
  exact before.trans step

/-- Without its log and the borders between operations, a chronicle is a history. -/
theorem Reached.history (reached : Reached setup c) :
    History.Reached setup c.toHistory ∧ c.traffic = c.rounds.flatten := by
  induction reached with
  | start queue => exact ⟨.start queue, rfl⟩
  | queue _ queue ih => exact ⟨ih.1.queue queue, ih.2⟩
  | flush _ ih => exact ⟨ih.1.flush, traffic_more ih.2 _⟩
  | poll _ ih => exact ⟨ih.1.poll, traffic_more ih.2 _⟩
  | shutdown _ ih => exact ⟨ih.1.shutdown, traffic_more ih.2 _⟩

theorem Reached.noted (reached : Reached setup c) (queue : σ) :
    Noted (Worker.start setup queue) c.worker (Traffic.notedIn c.rounds) c.log := by
  induction reached with
  | start _ => exact ⟨rfl, rfl, fun _ _ => rfl⟩
  | queue _ _ ih => exact ih.congr rfl rfl
  | @flush c _ ih => exact noted_more ih (noted_over_flush c.worker)
  | @poll c _ ih => exact noted_more ih (noted_over_poll c.worker)
  | @shutdown c _ ih => exact (noted_more ih (noted_over_flush c.worker)).congr rfl rfl

/-- The books are kept of the failures that are noted. Nothing is lost exactly as long as no two
flushes fail while one burst is answered. -/
theorem failures_booked_iff (reached : Reached setup c) :
    Booked setup c (Traffic.notedIn c.rounds) ∧
      (Traffic.notedIn c.rounds).Sublist (Traffic.failures c.traffic) ∧
      (Booked setup c (Traffic.failures c.traffic) ↔
        ∀ round ∈ c.rounds, ¬ Traffic.Merges round) := by
  obtain ⟨_, errors, log⟩ := reached.noted c.worker.queue
  have booked : Booked setup c (Traffic.notedIn c.rounds) :=
    ⟨errors.trans (UInt64.zero_add _), log 0 rfl⟩
  have kept := Traffic.notedIn_sublist c.rounds
  rw [reached.history.2, ← Traffic.notedIn_eq_iff]
  refine ⟨booked, kept, fun all => ?_, fun same => ?_⟩
  · refine kept.eq_of_length ?_
    have counts := congrArg UInt64.toNat (booked.errors.symm.trans all.errors)
    rw [UInt64.toNat_ofNat', UInt64.toNat_ofNat'] at counts
    have less := kept.length_le
    -- Lengths that differ and count the same are at least `2 ^ 64` apart, and the logs differ.
    rcases Nat.lt_or_eq_of_le less with apart | same
    · have longer := @length_reports_lt setup.id (Traffic.notedIn c.rounds)
        (Traffic.failures c.rounds.flatten) (by omega)
      rw [← booked.log, ← all.log] at longer
      exact absurd longer (Nat.lt_irrefl _)
    · exact same
  · rwa [← same]

/-- A reception stalls behind one packet, the flushes that start the next two rounds fail, and the
reception of the last stalls at once. The third failure is counted and not reported. -/
theorem failures_booked_apart :
    let setup : Setup :=
      ⟨0, 0, ⟨0, 0⟩, 0, 256, 2, true, false, 4789, ⟨[2, 0, 0, 0, 0, 1], rfl⟩⟩
    let memory : MemoryQueue :=
      ⟨16, [⟨0, Slot.ofFrame [0] 0⟩, ⟨1, Slot.ofFrame [1] 0⟩], [], none, false, 0, by decide⟩
    let queue : ScriptedQueue := ⟨memory, some 1, [⟨0, "link down"⟩], 0⟩
    let c := ((begin setup queue).poll.poll.withQueue { queue with stallAfter := some 0 }).poll
    Reached setup c ∧ (∀ round ∈ c.rounds, ¬ Traffic.Merges round) ∧
      Traffic.failures c.traffic =
        [⟨"rx", "ring stalled"⟩, ⟨"tx", "link down"⟩, ⟨"tx", "link down"⟩,
          ⟨"rx", "ring stalled"⟩] ∧
      Booked setup c (Traffic.failures c.traffic) ∧
      reported c.log = [errorEvent 0 "rx" "ring stalled" 1, errorEvent 0 "tx" "link down" 2,
        errorEvent 0 "rx" "ring stalled" 4] := by
  intro setup memory queue c
  have reached : Reached setup c := .poll (.queue (.poll (.poll (.start queue))) _)
  have apart : ∀ round ∈ c.rounds, ¬ Traffic.Merges round := by decide +kernel
  exact ⟨reached, apart, by decide +kernel, (failures_booked_iff reached).2.2.2 apart,
    by decide +kernel⟩

/-- Both flushes of a burst fail. One failure is counted and reported, the other leaves no trace. -/
theorem failures_merged :
    let setup : Setup :=
      ⟨0, 0, ⟨0, 0⟩, 0, 256, 1, true, false, 4789, ⟨[2, 0, 0, 0, 0, 1], rfl⟩⟩
    let memory : MemoryQueue :=
      ⟨16, [⟨0, Slot.ofFrame [0] 0⟩, ⟨1, Slot.ofFrame [1] 0⟩], [], none, false, 0, by decide⟩
    let c := (begin setup (⟨memory, none, [⟨0, "first"⟩, ⟨0, "second"⟩], 0⟩ : ScriptedQueue)).poll
    Reached setup c ∧ Traffic.failures c.traffic = [⟨"tx", "first"⟩, ⟨"tx", "second"⟩] ∧
      c.worker.errors = 1 ∧ reported c.log = [errorEvent 0 "tx" "second" 1] := by
  intro setup memory c
  exact ⟨.poll (.start _), by decide +kernel⟩

end Chronicle

end Worker

end Boomerang
