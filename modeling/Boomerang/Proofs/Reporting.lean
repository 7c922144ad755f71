import Boomerang.Proofs.Register
import Mathlib.Algebra.GroupWithZero.Nat
import Mathlib.Data.List.Induction

/-!
Statistics over time. Queues are enrolled, counters grow and reports are made in any order. Each
report tells of every queue what was counted since the report before, so over all reports nothing
is told twice and nothing is left out.
-/

set_option autoImplicit false

namespace Boomerang

namespace Counters

inductive Kind where
  | rxPackets | rxBytes | txPackets | txBytes | dropped | txErrors | rxStarved
  deriving DecidableEq, Repr

def word (c : Counters) : Kind → UInt64
  | .rxPackets => c.rxPackets
  | .rxBytes => c.rxBytes
  | .txPackets => c.txPackets
  | .txBytes => c.txBytes
  | .dropped => c.dropped
  | .txErrors => c.txErrors
  | .rxStarved => c.rxStarved

def count (c : Counters) (kind : Kind) : Nat := (c.word kind).toNat

theorem word_zero (kind : Kind) : zero.word kind = 0 := by
  cases kind <;> rfl

theorem count_zero (kind : Kind) : zero.count kind = 0 := by
  rw [count, word_zero]
  rfl

theorem word_zipWith (op : UInt64 → UInt64 → UInt64) (a b : Counters) (kind : Kind) :
    (zipWith op a b).word kind = op (a.word kind) (b.word kind) := by
  cases kind <;> rfl

theorem count_since (now earlier : Counters) (kind : Kind) :
    (now.since earlier).count kind = now.count kind - earlier.count kind := by
  rw [count, since, word_zipWith, count, count]
  split
  case isTrue ordered => exact UInt64.toNat_sub_of_le _ _ ordered
  case isFalse unordered =>
    rw [UInt64.le_iff_toNat_le, Nat.not_le] at unordered
    exact (Nat.sub_eq_zero_of_le (Nat.le_of_lt unordered)).symm

theorem word_sum (items : List Counters) (kind : Kind) :
    (sum items).word kind = UInt64.ofNat (items.map fun c => c.count kind).sum := by
  -- The sum runs from the left, so the induction carries what is already added up.
  suffices added : ∀ c : Counters, (items.foldl add c).word kind =
      c.word kind + UInt64.ofNat (items.map fun c => c.count kind).sum by
    rw [sum, added zero, word_zero, UInt64.zero_add]
  induction items with
  | nil =>
    intro c
    exact (UInt64.add_zero _).symm
  | cons first rest ih =>
    intro c
    have here : UInt64.ofNat (first.count kind) = first.word kind := UInt64.ofNat_toNat
    rw [List.foldl_cons, ih, add, word_zipWith, List.map_cons, List.sum_cons, UInt64.ofNat_add,
      here, UInt64.add_assoc]

inductive Entry where
  | received (packets bytes : Nat)
  | sent (packets bytes : Nat)
  | dropped (packets : Nat)
  | refused (packets : Nat)
  | starved (count : Nat)
  deriving DecidableEq, Repr

namespace Entry

def enter (entry : Entry) (c : Counters) : Counters :=
  match entry with
  | .received packets bytes => c.addReceived packets bytes
  | .sent packets bytes => c.addSent packets bytes
  | .dropped packets => c.addDropped packets
  | .refused packets => c.addRefused packets
  | .starved count => c.addStarved count

def amount : Entry → Kind → Nat
  | .received packets _, .rxPackets => packets
  | .received _ bytes, .rxBytes => bytes
  | .sent packets _, .txPackets => packets
  | .sent _ bytes, .txBytes => bytes
  | .dropped packets, .dropped => packets
  | .refused packets, .txErrors => packets
  | .starved count, .rxStarved => count
  | _, _ => 0

theorem word_enter (entry : Entry) (c : Counters) (kind : Kind) :
    (entry.enter c).word kind = c.word kind + UInt64.ofNat (entry.amount kind) := by
  cases entry <;> cases kind <;> first | rfl | exact (UInt64.add_zero _).symm

end Entry

end Counters

open Counters

inductive Activity where
  | enroll (id : QueueId)
  | enter (id : QueueId) (entry : Entry)
  | report (moment : Nat)
  deriving DecidableEq, Repr

namespace Activity

def queue? : Activity → Option QueueId
  | .enroll id => some id
  | .enter id _ => some id
  | .report _ => none

def moment? : Activity → Option Nat
  | .report moment => some moment
  | _ => none

def amount (id : QueueId) (kind : Kind) : Activity → Nat
  | .enter other entry => if other = id then entry.amount kind else 0
  | _ => 0

/-- Everything that was ever counted of a queue. -/
def counted (activities : List Activity) (id : QueueId) (kind : Kind) : Nat :=
  (activities.map (amount id kind)).sum

theorem counted_snoc (activities : List Activity) (activity : Activity) (id : QueueId)
    (kind : Kind) : counted (activities ++ [activity]) id kind =
      counted activities id kind + activity.amount id kind := by
  simp [counted]

end Activity

open Activity

/-- A report as it was made: the counters it found, the differences it told of, and its log. It is
about the time from the report before it to its own moment. -/
structure Report where
  since : Nat
  moment : Nat
  found : Register
  deltas : List (QueueId × Counters)
  seconds : Float
  log : List Log.Event

/-- What a report tells of one counter of all queues together. -/
def Report.told (report : Report) (kind : Kind) : Nat :=
  (report.deltas.map fun delta => delta.2.count kind).sum

/-- What the reports told of one counter of a queue, all in all. -/
def reported (reports : List Report) (id : QueueId) (kind : Kind) : Nat :=
  (((reports.flatMap Report.deltas).filter fun delta => delta.1 = id).map
    fun delta => delta.2.count kind).sum

theorem reported_snoc (reports : List Report) (report : Report) (id : QueueId) (kind : Kind) :
    reported (reports ++ [report]) id kind =
      reported reports id kind + reported [report] id kind := by
  simp [reported]

/-- A report names each queue that it found once, in order. The line of a queue has the differences
that the report tells of it, the last line has their sums, and the rates are over the time that has
passed. -/
structure Report.Exact (names : List String) (report : Report) : Prop where
  ascending : report.found.Ascending
  queues : report.deltas.map Prod.fst = report.found.ids
  seconds : report.seconds =
    max ((UInt64.ofNat ((report.moment - report.since) / 1000000000)).toFloat +
      (UInt64.ofNat ((report.moment - report.since) % 1000000000)).toFloat / 1e9)
      2.220446049250313e-16
  log : report.log =
    report.deltas.map (fun (id, delta) => ⟨.info, "Queue stats",
      [("device", names.getD id.device "?"), ("queue", toString id.queue),
        ("rx_pps", toString (delta.rxPackets.toFloat / report.seconds).toUInt64.toNat),
        ("tx_pps", toString (delta.txPackets.toFloat / report.seconds).toUInt64.toNat),
        ("rx_mbps", Text.float (delta.rxBytes.toFloat * 8.0 / report.seconds / 1e6)),
        ("tx_mbps", Text.float (delta.txBytes.toFloat * 8.0 / report.seconds / 1e6)),
        ("dropped", toString (delta.count .dropped)),
        ("tx_errors", toString (delta.count .txErrors)),
        ("rx_nombuf", toString (delta.count .rxStarved))]⟩) ++
    [⟨.info, "Total stats",
      [("rx_pps", toString ((UInt64.ofNat (report.told .rxPackets)).toFloat /
          report.seconds).toUInt64.toNat),
        ("tx_pps", toString ((UInt64.ofNat (report.told .txPackets)).toFloat /
          report.seconds).toUInt64.toNat),
        ("dropped", toString (report.told .dropped % 2 ^ 64)),
        ("tx_errors", toString (report.told .txErrors % 2 ^ 64)),
        ("rx_nombuf", toString (report.told .rxStarved % 2 ^ 64))]⟩]

structure Journal where
  register : Register
  stats : Stats
  reports : List Report

namespace Journal

def begin (names : List String) (started : Nat) : Journal := ⟨[], Stats.start names started, []⟩

/-- The report that would be made at a moment. -/
def report (j : Journal) (moment : Nat) : Report :=
  ⟨j.stats.lastAt, moment, j.register, j.stats.deltas j.register, j.stats.seconds moment,
    (j.stats.report moment j.register).1⟩

def step (j : Journal) : Activity → Journal
  | .enroll id => { j with register := j.register.enroll id }
  | .enter id entry => { j with register := j.register.modify id entry.enter }
  | .report moment =>
    ⟨j.register, (j.stats.report moment j.register).2, j.reports ++ [j.report moment]⟩

def run (names : List String) (started : Nat) (activities : List Activity) : Journal :=
  activities.foldl step (begin names started)

theorem run_snoc (names : List String) (started : Nat) (activities : List Activity)
    (activity : Activity) :
    run names started (activities ++ [activity]) = (run names started activities).step activity :=
  List.foldl_concat ..

theorem word_total (deltas : List (QueueId × Counters)) (kind : Kind) :
    (sum (deltas.map Prod.snd)).word kind =
      UInt64.ofNat (deltas.map fun delta => delta.2.count kind).sum := by
  rw [word_sum, List.map_map]
  rfl

theorem count_total (deltas : List (QueueId × Counters)) (kind : Kind) :
    (sum (deltas.map Prod.snd)).count kind =
      (deltas.map fun delta => delta.2.count kind).sum % 2 ^ 64 := by
  rw [count, word_total]
  exact UInt64.toNat_ofNat'

theorem exact_report {j : Journal} (ascending : j.register.Ascending) (moment : Nat) :
    (j.report moment).Exact j.stats.names where
  ascending := ascending
  queues := by
    rw [report, Stats.deltas, List.map_map]
    rfl
  seconds := rfl
  log := by
    have word := word_total (j.report moment).deltas
    have count := count_total (j.report moment).deltas
    simp only [Report.told, ← word, ← count]
    rfl

/-- A report tells of a queue what was counted since the one that is remembered. -/
theorem reported_report {j : Journal} (ascending : j.register.Ascending) (moment : Nat)
    (id : QueueId) (kind : Kind) : reported [j.report moment] id kind =
      (j.register.counters id).count kind - (j.stats.last.counters id).count kind := by
  have entries : ((j.report moment).deltas.filter fun delta => delta.1 = id) =
      ((j.register.filter fun entry => entry.1 = id).map
        fun entry => (entry.1, entry.2.since (j.stats.last.counters entry.1))) := by
    rw [report, Stats.deltas, List.filter_map]
    rfl
  rw [reported, List.flatMap_singleton, entries, Register.filter_eq_get? ascending]
  cases found : j.register.get? id with
  | none => simp [Register.counters, found, count_zero]
  | some c =>
    have now : j.register.counters id = c := by
      rw [Register.counters, found]
      rfl
    simp [now, count_since]

/-- How a journal stands to what happened. -/
structure Consistent (names : List String) (started : Nat) (activities : List Activity)
    (j : Journal) : Prop where
  named : j.stats.names = names
  moments : j.reports.map Report.moment = activities.filterMap moment?
  spans : started :: j.reports.map Report.moment =
    j.reports.map Report.since ++ [j.stats.lastAt]
  ascending : j.register.Ascending
  known : ∀ id, id ∈ j.register.ids ↔ ∃ activity ∈ activities, activity.queue? = some id
  word : ∀ id kind, (j.register.counters id).word kind =
    UInt64.ofNat (counted activities id kind)
  remembered : j.stats.last.Ascending
  covered : ∀ id ∈ j.stats.last.ids, id ∈ j.register.ids
  last : ∀ report, j.reports.getLast? = some report →
    ∀ id, j.stats.last.counters id = report.found.counters id
  /-- What was told so far is what was counted up to the last report. -/
  told : ∀ id kind, counted activities id kind < 2 ^ 64 →
    reported j.reports id kind = (j.stats.last.counters id).count kind ∧
      (j.stats.last.counters id).count kind ≤ counted activities id kind
  exact : ∀ report ∈ j.reports, report.Exact names

variable {names : List String} {started : Nat} {activities : List Activity} {j : Journal}

theorem consistent_begin (names : List String) (started : Nat) :
    Consistent names started [] (begin names started) where
  named := rfl
  moments := rfl
  spans := rfl
  ascending := Register.ascending_nil
  known id := by simp [begin, Register.ids]
  word id kind := word_zero kind
  remembered := Register.ascending_nil
  covered id member := by cases member
  last report made := by cases made
  told id kind _ := by
    have nothing : ((begin names started).stats.last.counters id).count kind = 0 :=
      count_zero kind
    rw [nothing]
    exact ⟨rfl, Nat.zero_le _⟩
  exact report member := by cases member

/-- A change to the counters of one queue is no matter of the reporter. -/
theorem Consistent.modify (consistent : Consistent names started activities j) (activity : Activity)
    {id : QueueId} {change : Counters → Counters} (queue : activity.queue? = some id)
    (changes : ∀ c kind, (change c).word kind =
      c.word kind + UInt64.ofNat (activity.amount id kind))
    (others : ∀ other kind, other ≠ id → activity.amount other kind = 0) :
    Consistent names started (activities ++ [activity])
      { j with register := j.register.modify id change } where
  named := consistent.named
  moments := by
    have none : activity.moment? = none := by
      cases activity with
      | report moment => cases queue
      | _ => rfl
    rw [List.filterMap_append, List.filterMap_cons_none none, List.filterMap_nil, List.append_nil]
    exact consistent.moments
  spans := consistent.spans
  ascending := consistent.ascending.modify id change
  known other := by
    rw [Register.mem_ids_modify, consistent.known]
    simp only [List.mem_append, List.mem_singleton, or_and_right, exists_or, exists_eq_left, queue,
      Option.some.injEq]
    rw [or_comm, eq_comm]
  word other kind := by
    rw [Register.counters_modify consistent.ascending, counted_snoc]
    by_cases same : other = id
    · rw [if_pos same, changes, same, consistent.word, UInt64.ofNat_add]
    · rw [if_neg same, consistent.word, others other kind same, Nat.add_zero]
  remembered := consistent.remembered
  covered other member := Register.mem_ids_modify.2 (Or.inr (consistent.covered other member))
  last := consistent.last
  told other kind fits := by
    rw [counted_snoc] at fits ⊢
    obtain ⟨told, bound⟩ := consistent.told other kind (by omega)
    exact ⟨told, Nat.le_trans bound (Nat.le_add_right _ _)⟩
  exact := consistent.exact

theorem Consistent.report (consistent : Consistent names started activities j) (moment : Nat) :
    Consistent names started (activities ++ [.report moment]) (j.step (.report moment)) := by
  have same (id : QueueId) (kind : Kind) :
      counted (activities ++ [.report moment]) id kind = counted activities id kind :=
    counted_snoc activities (.report moment) id kind
  have here : (j.step (.report moment)).reports = j.reports ++ [j.report moment] := rfl
  -- The reporter knows of no queue that the register does not have.
  have remembers (id : QueueId) :
      (j.step (.report moment)).stats.last.counters id = j.register.counters id :=
    Stats.counters_remember consistent.remembered consistent.ascending consistent.covered
  refine
    { named := consistent.named, moments := ?moments, spans := ?spans,
      ascending := consistent.ascending, known := ?known, word := ?word,
      remembered := Stats.ascending_remember consistent.remembered j.register,
      covered := ?covered, last := ?last, told := ?told, exact := ?exact }
  case moments =>
    rw [here, List.map_append, List.filterMap_append, consistent.moments]
    rfl
  case spans =>
    rw [here, List.map_append, List.map_append, ← List.cons_append, consistent.spans]
    rfl
  case known =>
    intro id
    rw [show (j.step (.report moment)).register = j.register from rfl, consistent.known]
    simp [queue?]
  case word =>
    intro id kind
    rw [same]
    exact consistent.word id kind
  case covered =>
    intro id member
    exact (Stats.mem_ids_remember.1 member).elim (consistent.covered id) fun found => found
  case last =>
    intro report made id
    rw [here, List.getLast?_concat, Option.some.injEq] at made
    rw [remembers, ← made]
    rfl
  case told =>
    intro id kind fits
    rw [same] at fits ⊢
    obtain ⟨told, bound⟩ := consistent.told id kind fits
    have value : (j.register.counters id).count kind = counted activities id kind := by
      rw [count, consistent.word]
      exact UInt64.toNat_ofNat_of_lt fits
    rw [here, reported_snoc, reported_report consistent.ascending, told, remembers, value]
    omega
  case exact =>
    intro report member
    rcases List.mem_append.1 member with earlier | new
    · exact consistent.exact report earlier
    · rw [List.mem_singleton.1 new, ← consistent.named]
      exact exact_report consistent.ascending moment

theorem Consistent.step (consistent : Consistent names started activities j) (activity : Activity) :
    Consistent names started (activities ++ [activity]) (j.step activity) := by
  cases activity with
  | enroll id =>
    refine consistent.modify (.enroll id) rfl (fun c kind => ?_) fun _ _ _ => rfl
    exact (UInt64.add_zero _).symm
  | enter id entry =>
    refine consistent.modify (.enter id entry) rfl (fun c kind => ?_) ?_
    · rw [entry.word_enter, amount, if_pos rfl]
    · intro other kind different
      exact if_neg (Ne.symm different)
  | report moment => exact consistent.report moment

theorem consistent_run (names : List String) (started : Nat) (activities : List Activity) :
    Consistent names started activities (run names started activities) := by
  induction activities using List.reverseRecOn with
  | nil => exact consistent_begin names started
  | append_singleton activities activity ih =>
    rw [run_snoc]
    exact ih.step activity

/-- What the register and the reports say, whatever happened. -/
structure Faithful (names : List String) (started : Nat) (activities : List Activity)
    (j : Journal) : Prop where
  /-- The register has the queues that were enrolled or counted, each once and in order. -/
  ascending : j.register.ids.Pairwise fun a b => a.before b = true
  once : j.register.ids.Nodup
  known : ∀ id, id ∈ j.register.ids ↔ ∃ activity ∈ activities, activity.queue? = some id
  /-- A queue that is enrolled again keeps its counters, a new one starts from zero. -/
  again : ∀ id ∈ j.register.ids, j.register.enroll id = j.register
  fresh : ∀ id, id ∉ j.register.ids → (j.register.enroll id).get? id = some zero
  word : ∀ id kind, (j.register.counters id).word kind =
    UInt64.ofNat (counted activities id kind)
  /-- There is a report for each time one was made, about the time since the one before. -/
  moments : j.reports.map Report.moment = activities.filterMap moment?
  spans : started :: j.reports.map Report.moment =
    j.reports.map Report.since ++ [j.stats.lastAt]
  /-- Every report is exact, and together they told of a counter its value at the last one. -/
  reports : ∀ report ∈ j.reports, report.Exact names
  told : ∀ report, j.reports.getLast? = some report → ∀ id kind,
    counted activities id kind < 2 ^ 64 →
      reported j.reports id kind = (report.found.counters id).count kind

theorem reports_faithful (names : List String) (started : Nat) (activities : List Activity) :
    Faithful names started activities (run names started activities) := by
  have consistent := consistent_run names started activities
  refine ⟨consistent.ascending, consistent.ascending.nodup, consistent.known, ?_, ?_,
    consistent.word, consistent.moments, consistent.spans, consistent.exact, ?_⟩
  · intro id known
    exact Register.enroll_of_mem consistent.ascending known
  · intro id unknown
    rw [Register.enroll, Register.get?_modify_self consistent.ascending,
      Register.counters_of_not_mem unknown]
  · intro report made id kind fits
    rw [(consistent.told id kind fits).1, consistent.last report made]

/-- A queue that comes in between two reports is told of in the second from zero on. -/
example :
    let first : QueueId := ⟨0, 0⟩
    let late : QueueId := ⟨0, 1⟩
    let j := run ["tap0"] 0 [.enter first (.sent 2 120), .report 1000, .enter late (.sent 3 180),
      .enter first (.sent 1 60), .report 2000]
    j.reports.map (fun report => report.deltas.map fun delta => delta.2.count .txPackets) =
      [[2], [1, 3]] ∧ reported j.reports first .txBytes = 180 := by decide +kernel

end Journal

end Boomerang
