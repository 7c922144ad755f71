import Boomerang.Proofs.Turn
import Boomerang.Queue.Scripted

/-!
What a round of polling reports. The packets of a reception are counted and answered even if it
failed behind them, but the number that the round gives back is then zero.
-/

set_option autoImplicit false

namespace Boomerang

/-- The reception failed, and not before the first packet. -/
structure Reception.CutShort (r : Reception) : Prop where
  failed : r.error.isSome = true
  begun : r.packets ≠ []

namespace Worker

variable {σ : Type} [PacketQueue σ]

/-- What a round of polling receives once the outbox is flushed. -/
def reception (w : Worker σ) : Reception := w.flush.1.receive.1

theorem poll_count (w : Worker σ) :
    w.poll.1 = if w.reception.error.isSome then 0 else w.reception.packets.length := by
  -- The phase, the only thing set before the flush, is no part of what a flush looks at.
  have same : ({ w with phase := .polling } : Worker σ).flush.1.receive.1 = w.reception := rfl
  unfold poll
  dsimp only
  rw [same]
  split <;> rfl

theorem rxPackets_poll (w : Worker σ) :
    w.poll.2.1.counters.rxPackets =
      w.counters.rxPackets + UInt64.ofNat (Traffic.received w.pollTraffic).length := by
  obtain ⟨_, _, turned⟩ := turned_over_poll w
  obtain ⟨_, counters⟩ := turned.counters
  rw [counters]
  rfl

/-- A round of polling adds to the counter what it took from the queue, and reports the same number
unless the reception was cut short; then it reports none. -/
theorem poll_reports_received_iff (w : Worker σ) :
    w.poll.2.1.counters.rxPackets =
        w.counters.rxPackets + UInt64.ofNat (Traffic.received w.pollTraffic).length ∧
      (w.poll.1 = (Traffic.received w.pollTraffic).length ↔ ¬ w.reception.CutShort) ∧
      (w.reception.CutShort → w.poll.1 = 0) := by
  have received : Traffic.received w.pollTraffic = w.reception.packets := (turned_over_poll w).2.1
  have nothing : w.reception.CutShort → w.poll.1 = 0 := by
    rintro ⟨failed, _⟩
    rw [poll_count, if_pos failed]
  refine ⟨rxPackets_poll w, ⟨?_, ?_⟩, nothing⟩
  · intro reported cut
    rw [nothing cut, received] at reported
    exact cut.begun (List.eq_nil_of_length_eq_zero reported.symm)
  · intro whole
    rw [poll_count, received]
    by_cases failed : w.reception.error.isSome = true
    case neg => exact if_neg failed
    case pos =>
      have empty : w.reception.packets = [] :=
        Classical.byContradiction fun begun => whole ⟨failed, begun⟩
      rw [if_pos failed, empty]
      rfl

theorem poll_reports_nothing :
    let setup : Setup :=
      ⟨0, 0, ⟨0, 0⟩, 0, 256, 128, true, false, 4789, ⟨[2, 0, 0, 0, 0, 1], rfl⟩⟩
    let memory : MemoryQueue := ⟨16, [⟨0, Slot.ofFrame [0] 0⟩], [], none, false, 0, by decide⟩
    let w : Worker ScriptedQueue := start setup ⟨memory, some 1, [], 0⟩
    w.poll.1 = 0 ∧ (Traffic.received w.pollTraffic).length = 1 ∧
      w.poll.2.1.counters.rxPackets = w.counters.rxPackets + 1 := by
  decide +kernel

end Worker

end Boomerang
