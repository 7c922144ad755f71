import Boomerang.Queue.Memory
import Mathlib.Data.List.DropRight
import Mathlib.Data.List.Induction

/-!
The memory queue told by its history. What it answers to a call follows from the calls and answers
before it: two rings that lose nothing and keep their order, a budget that is counted from the time
it was set, and a failure that waits for the next reception.
-/

set_option autoImplicit false

namespace Boomerang.MemoryQueue

/-- A call on the queue. Its clones share the rings, so it makes no difference which of them is
called. -/
inductive Call where
  | inject (packet : Packet)
  | receive (max : Nat)
  | failNext
  | transmit (packets : List Packet)
  | setBudget (packets : Nat)
  | takeSent

/-- What the caller gets back. After a transmission it keeps the packets that are left. -/
inductive Reply where
  | done
  | refused (packet : Packet)
  | received (packets : List Packet) (error : Option String)
  | transmitted (taken : Nat) (left : List Packet)
  | collected (packets : List Packet)

structure Event where
  call : Call
  reply : Reply

def perform (q : MemoryQueue) : Call → Reply × MemoryQueue
  | .inject packet =>
    match q.inject? packet with
    | some next => (.done, next)
    | none => (.refused packet, q)
  | .receive max =>
    let (reception, next) := q.receive max
    (.received reception.packets reception.error, next)
  | .failNext => (.done, q.failNextReception)
  | .transmit packets =>
    let (transmission, next) := q.transmit packets
    (.transmitted transmission.taken (packets.drop transmission.taken), next)
  | .setBudget packets => (.done, q.setBudget packets)
  | .takeSent =>
    let (sent, next) := q.takeSent
    (.collected sent, next)

abbrev Ledger := List Event

def run (q : MemoryQueue) (calls : List Call) : Ledger × MemoryQueue :=
  calls.foldl
    (fun (h, q) call => let (reply, next) := q.perform call; (h ++ [⟨call, reply⟩], next)) ([], q)

theorem run_concat (q : MemoryQueue) (calls : List Call) (call : Call) :
    q.run (calls ++ [call]) =
      ((q.run calls).1 ++ [⟨call, ((q.run calls).2.perform call).1⟩],
        ((q.run calls).2.perform call).2) := by
  rw [run, List.foldl_append]
  rfl

namespace Event

def accepted : Event → List Packet
  | ⟨.inject packet, .done⟩ => [packet]
  | _ => []

def received : Event → List Packet
  | ⟨_, .received packets _⟩ => packets
  | _ => []

def removed : Event → List Packet
  | ⟨.transmit packets, .transmitted taken _⟩ => packets.take taken
  | _ => []

def collected : Event → List Packet
  | ⟨_, .collected packets⟩ => packets
  | _ => []

def budget? : Event → Option Nat
  | ⟨.setBudget packets, _⟩ => some packets
  | _ => none

def isReception : Event → Bool
  | ⟨.receive _, _⟩ => true
  | _ => false

def isFailNext : Event → Bool
  | ⟨.failNext, _⟩ => true
  | _ => false

end Event

namespace Ledger

def accepted (h : Ledger) : List Packet := h.flatMap Event.accepted

def received (h : Ledger) : List Packet := h.flatMap Event.received

def removed (h : Ledger) : List Packet := h.flatMap Event.removed

def collected (h : Ledger) : List Packet := h.flatMap Event.collected

def pending (h : Ledger) : List Packet := h.accepted.drop h.received.length

def held (h : Ledger) : List Packet := h.removed.drop h.collected.length

/-- The next reception is to fail: that was asked for, and there was none since. -/
def armed (h : Ledger) : Bool :=
  (h.rtakeWhile fun event => !event.isReception).any Event.isFailNext

/-- The budget that was set last, unless it stands for any number. -/
def limit (h : Ledger) : Option Nat :=
  (h.filterMap Event.budget?).getLast?.filter (· < UInt64.size - 1)

/-- How many packets were taken since the budget was set. -/
def spent (h : Ledger) : Nat :=
  removed (h.rtakeWhile fun event => event.budget?.isNone) |>.length

def remaining (h : Ledger) : Option Nat := h.limit.map (· - h.spent)

/-- What the history prescribes as the reply to the next call. -/
def prescribed (capacity : Nat) (h : Ledger) : Call → Reply
  | .inject packet => if h.pending.length = capacity then .refused packet else .done
  | .receive max =>
    if h.armed then .received [] (some "injected rx failure")
    else .received (h.pending.take max) none
  | .transmit packets =>
    let budget := h.remaining.getD packets.length
    let taken := min (min packets.length budget) (capacity - h.held.length)
    .transmitted taken (packets.drop taken)
  | .takeSent => .collected h.held
  | .failNext | .setBudget _ => .done

/-! ## One more event -/

section

variable (h : Ledger) (e : Event)

@[simp] theorem accepted_concat : accepted (h ++ [e]) = h.accepted ++ e.accepted := by
  simp [accepted]

@[simp] theorem received_concat : received (h ++ [e]) = h.received ++ e.received := by
  simp [received]

@[simp] theorem removed_concat : removed (h ++ [e]) = h.removed ++ e.removed := by
  simp [removed]

@[simp] theorem collected_concat : collected (h ++ [e]) = h.collected ++ e.collected := by
  simp [collected]

@[simp] theorem armed_concat :
    armed (h ++ [e]) = (!e.isReception && (h.armed || e.isFailNext)) := by
  cases reception : e.isReception <;> simp [armed, reception]

end

variable {h : Ledger} {e : Event}

theorem limit_concat_of_none (other : e.budget? = none) : limit (h ++ [e]) = h.limit := by
  simp [limit, List.filterMap_append, other]

theorem limit_concat_of_some {n : Nat} (set : e.budget? = some n) :
    limit (h ++ [e]) = if n < UInt64.size - 1 then some n else none := by
  simp [limit, List.filterMap_append, set, Option.filter]

theorem spent_concat_of_none (other : e.budget? = none) :
    spent (h ++ [e]) = h.spent + e.removed.length := by
  simp [spent, other]

theorem spent_concat_of_some {n : Nat} (set : e.budget? = some n) : spent (h ++ [e]) = 0 := by
  simp [spent, set, removed]

end Ledger

/-! ## One call -/

/-- What a call did to the rings, the budget and the set failure. -/
structure Moved (e : Event) (before after : MemoryQueue) : Prop where
  size : after.capacity = before.capacity
  waiting : e.received ++ after.waiting = before.waiting ++ e.accepted
  sent : e.collected ++ after.sent = before.sent ++ e.removed
  waiting_le : before.waiting.length ≤ before.capacity → after.waiting.length ≤ before.capacity
  sent_le : before.sent.length ≤ before.capacity → after.sent.length ≤ before.capacity
  armed : after.failNext = (!e.isReception && (before.failNext || e.isFailNext))
  set : ∀ n, e.budget? = some n →
    after.budget = if n < UInt64.size - 1 then some n else none
  used : e.budget? = none → after.budget = before.budget.map (· - e.removed.length)
  within : ∀ n, before.budget = some n → e.removed.length ≤ n

section

attribute [local simp] Event.accepted Event.received Event.removed Event.collected Event.budget?
  Event.isReception Event.isFailNext

theorem moved_inject (q : MemoryQueue) (packet : Packet) :
    Moved ⟨.inject packet, (q.perform (.inject packet)).1⟩ q (q.perform (.inject packet)).2 := by
  by_cases room : q.waiting.length < q.capacity
  case pos =>
    have accepted : q.perform (.inject packet) =
        (.done, { q with waiting := q.waiting ++ [packet] }) := by
      simp only [perform, inject?, if_pos room]
    rw [accepted]
    constructor
    case waiting_le =>
      intro _
      simp only [List.length_append, List.length_singleton]
      omega
    all_goals simp
  case neg =>
    have refused : q.perform (.inject packet) = (.refused packet, q) := by
      simp only [perform, inject?, if_neg room]
    rw [refused]
    constructor
    all_goals simp

theorem moved_receive (q : MemoryQueue) (max : Nat) :
    Moved ⟨.receive max, (q.perform (.receive max)).1⟩ q (q.perform (.receive max)).2 := by
  cases failing : q.failNext with
  | true =>
    constructor
    all_goals simp [perform, receive, failing]
  | false =>
    have rest : (q.perform (.receive max)).2.waiting = q.waiting.drop max := by
      simp [perform, receive, failing]
    constructor
    case waiting_le =>
      intro fits
      rw [rest, List.length_drop]
      omega
    all_goals simp [perform, receive, failing]

theorem moved_transmit (q : MemoryQueue) (packets : List Packet) :
    Moved ⟨.transmit packets, (q.perform (.transmit packets)).1⟩ q
      (q.perform (.transmit packets)).2 := by
  have room : q.accepts packets.length ≤ q.capacity - q.sent.length := Nat.min_le_right _ _
  have taken : (packets.take (q.accepts packets.length)).length = q.accepts packets.length :=
    List.length_take_of_le (q.accepts_le packets.length)
  constructor
  case sent_le =>
    intro fits
    simp only [perform, transmit, List.length_append, taken]
    omega
  case used =>
    intro _
    simp only [perform, transmit, Event.removed, taken]
  case within =>
    -- The budget bounds what is taken, so that subtracting it is exact.
    intro n budget
    simp only [perform, transmit, Event.removed, taken]
    simp only [accepts, budget, Option.getD_some]
    omega
  all_goals simp [perform, transmit]

theorem moved (q : MemoryQueue) (call : Call) :
    Moved ⟨call, (q.perform call).1⟩ q (q.perform call).2 := by
  cases call with
  | inject packet => exact moved_inject q packet
  | receive max => exact moved_receive q max
  | transmit packets => exact moved_transmit q packets
  | failNext =>
    constructor
    all_goals simp [perform, failNextReception]
  | setBudget packets =>
    constructor
    all_goals simp [perform, setBudget]
  | takeSent =>
    constructor
    all_goals simp [perform, takeSent]

end

/-! ## The queue behind its history -/

/-- The state of the queue after `h`. -/
structure Follows (capacity : Nat) (h : Ledger) (q : MemoryQueue) : Prop where
  size : q.capacity = capacity
  received : h.received ++ q.waiting = h.accepted
  collected : h.collected ++ q.sent = h.removed
  waiting_le : q.waiting.length ≤ capacity
  sent_le : q.sent.length ≤ capacity
  armed : q.failNext = h.armed
  budget : q.budget = h.remaining
  spent_le : ∀ n, h.limit = some n → h.spent ≤ n

namespace Follows

variable {capacity : Nat} {h : Ledger} {q next : MemoryQueue} {e : Event}

theorem start (made : ofCapacity? capacity = some q) : Follows capacity [] q := by
  unfold ofCapacity? at made
  split at made
  case isTrue =>
    cases made
    have unlimited : Ledger.limit [] = none := rfl
    exact ⟨rfl, rfl, rfl, Nat.zero_le _, Nat.zero_le _, rfl, rfl, by simp [unlimited]⟩
  case isFalse => cases made

theorem pending (follows : Follows capacity h q) : h.pending = q.waiting := by
  rw [Ledger.pending, ← follows.received, List.drop_left]

theorem held (follows : Follows capacity h q) : h.held = q.sent := by
  rw [Ledger.held, ← follows.collected, List.drop_left]

theorem prescribed (follows : Follows capacity h q) (call : Call) :
    (q.perform call).1 = h.prescribed capacity call := by
  cases call with
  | inject packet =>
    have le := follows.waiting_le
    simp only [perform, inject?, Ledger.prescribed, follows.pending, follows.size]
    by_cases full : q.waiting.length = capacity
    · rw [if_neg (by omega), if_pos full]
    · rw [if_pos (by omega), if_neg full]
  | receive max =>
    simp only [perform, receive, Ledger.prescribed, follows.pending, ← follows.armed]
    cases q.failNext <;> rfl
  | transmit packets =>
    simp only [perform, transmit, accepts, Ledger.prescribed, follows.held, follows.size,
      follows.budget]
  | takeSent => simp only [perform, takeSent, Ledger.prescribed, follows.held]
  | failNext => rfl
  | setBudget packets => rfl

/-- What is left of the budget, and that no more than the budget was used. -/
theorem account (follows : Follows capacity h q) (moved : Moved e q next) :
    next.budget = Ledger.remaining (h ++ [e]) ∧
      ∀ n, Ledger.limit (h ++ [e]) = some n → Ledger.spent (h ++ [e]) ≤ n := by
  have budget := follows.budget
  cases set : e.budget? with
  | some n =>
    rw [moved.set n set, Ledger.remaining, Ledger.limit_concat_of_some set,
      Ledger.spent_concat_of_some set]
    exact ⟨by split <;> rfl, fun _ _ => Nat.zero_le _⟩
  | none =>
    rw [moved.used set, budget, Ledger.remaining, Ledger.remaining,
      Ledger.limit_concat_of_none set, Ledger.spent_concat_of_none set]
    refine ⟨?_, ?_⟩
    · cases h.limit with
      | none => rfl
      | some n => simp only [Option.map_some, Nat.sub_sub]
    · intro n limit
      have spent := follows.spent_le n limit
      have within := moved.within (n - h.spent) (by rw [budget, Ledger.remaining, limit]; rfl)
      omega

theorem concat (follows : Follows capacity h q) (moved : Moved e q next) :
    Follows capacity (h ++ [e]) next := by
  obtain ⟨budget, spent_le⟩ := follows.account moved
  have size := follows.size
  constructor
  case size => exact moved.size.trans size
  case received =>
    rw [Ledger.received_concat, List.append_assoc, moved.waiting, ← List.append_assoc,
      follows.received, Ledger.accepted_concat]
  case collected =>
    rw [Ledger.collected_concat, List.append_assoc, moved.sent, ← List.append_assoc,
      follows.collected, Ledger.removed_concat]
  case waiting_le =>
    have fits := moved.waiting_le
    rw [size] at fits
    exact fits follows.waiting_le
  case sent_le =>
    have fits := moved.sent_le
    rw [size] at fits
    exact fits follows.sent_le
  case armed => rw [moved.armed, follows.armed, Ledger.armed_concat]
  case budget => exact budget
  case spent_le => exact spent_le

end Follows

variable {capacity : Nat} {q : MemoryQueue}

theorem follows_run (made : ofCapacity? capacity = some q) (calls : List Call) :
    Follows capacity (q.run calls).1 (q.run calls).2 := by
  induction calls using List.reverseRecOn with
  | nil => exact .start made
  | append_singleton calls call ih =>
    rw [run_concat]
    exact ih.concat (moved _ call)

theorem calls_run (q : MemoryQueue) (calls : List Call) :
    (q.run calls).1.map Event.call = calls := by
  induction calls using List.reverseRecOn with
  | nil => rfl
  | append_singleton calls call ih => rw [run_concat, List.map_append, ih]; rfl

theorem replied_run (made : ofCapacity? capacity = some q) (calls : List Call)
    {before after : Ledger} {event : Event} (split : (q.run calls).1 = before ++ event :: after) :
    event.reply = Ledger.prescribed capacity before event.call := by
  induction calls using List.reverseRecOn generalizing after with
  | nil => simp [run] at split
  | append_singleton calls call ih =>
    have follows := follows_run made calls
    rw [run_concat] at split
    -- The event is the last one, or it stands in the history that was there before.
    rcases List.eq_nil_or_concat' after with rfl | ⟨front, last, rfl⟩
    · obtain ⟨rfl, rfl⟩ := List.append_singleton_inj.1 split
      exact follows.prescribed call
    · rw [← List.cons_append, ← List.append_assoc] at split
      exact ih (List.append_singleton_inj.1 split).1

/-- A queue that lost nothing, reordered nothing and kept to its limits. -/
structure Lossless (capacity : Nat) (calls : List Call) (h : Ledger) (q : MemoryQueue) : Prop where
  called : h.map Event.call = calls
  /-- Every answer was the one that the events before it prescribe. -/
  replied : ∀ (before : Ledger) (event : Event) (after : Ledger), h = before ++ event :: after →
    event.reply = before.prescribed capacity event.call
  received : h.received ++ h.pending = h.accepted
  collected : h.collected ++ h.held = h.removed
  waiting : q.waiting = h.pending ∧ h.pending.length ≤ capacity
  sent : q.sent = h.held ∧ h.held.length ≤ capacity
  /-- The remaining budget is an honest difference. -/
  budget : q.budget = h.remaining ∧ ∀ n, h.limit = some n → h.spent ≤ n

/-- A new queue keeps to its history, whatever is called. -/
theorem lossless (capacity : Nat) (positive : 1 ≤ capacity) (calls : List Call) :
    ∃ q, ofCapacity? capacity = some q ∧
      Lossless capacity calls (q.run calls).1 (q.run calls).2 := by
  have made : ofCapacity? capacity = some ⟨capacity, [], [], none, false, 0, positive⟩ :=
    dif_pos positive
  have follows := follows_run made calls
  refine ⟨_, made, ?_⟩
  constructor
  case called => exact calls_run _ calls
  case replied => exact fun _ _ _ split => replied_run made calls split
  case received => rw [follows.pending, follows.received]
  case collected => rw [follows.held, follows.collected]
  case waiting => exact ⟨follows.pending.symm, follows.pending ▸ follows.waiting_le⟩
  case sent => exact ⟨follows.held.symm, follows.held ▸ follows.sent_le⟩
  case budget => exact ⟨follows.budget, follows.spent_le⟩

theorem lossless_narrow :
    let packet (n : Nat) : Packet := ⟨n, Slot.ofFrame [0] 0⟩
    let calls : List Call :=
      [.inject (packet 0), .inject (packet 1), .failNext, .receive 4, .receive 4, .setBudget 1,
        .transmit [packet 0, packet 2], .takeSent, .transmit [packet 2]]
    1 ≤ 1 ∧ ∃ q, ofCapacity? 1 = some q ∧ Lossless 1 calls (q.run calls).1 (q.run calls).2 ∧
      (q.run calls).1.map Event.reply =
        [.done, .refused (packet 1), .done, .received [] (some "injected rx failure"),
          .received [packet 0] none, .done, .transmitted 1 [packet 2], .collected [packet 0],
          .transmitted 0 [packet 2]] := by
  intro packet calls
  obtain ⟨q, made, kept⟩ := lossless 1 (by decide) calls
  refine ⟨by decide, q, made, kept, ?_⟩
  cases made
  rfl

end Boomerang.MemoryQueue
