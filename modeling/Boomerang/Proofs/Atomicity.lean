import Boomerang.Proofs.Reflect
import Boomerang.Worker

/-!
A frame is answered or left alone. The walk decides before the first write whether there is an
answer; behind it no step gives up any more, neither around a resized message nor in the headers of
a tunnel.
-/

set_option autoImplicit false

namespace Boomerang

theorem forward_or_untouched (mac : Mac) (port : UInt16) (slot : Slot) :
    (reflect mac port slot).verdict = .forward ∨
      (reflect mac port slot).verdict = .drop ∧ (reflect mac port slot).cursor.slot = slot := by
  by_cases reflectable : Reflectable port slot.frame slot.capacity
  case pos => exact .inl (verdict_of_reflectable reflectable)
  case neg => exact .inr (reflect_of_not_reflectable reflectable)

theorem untouched_of_drop {mac : Mac} {port : UInt16} {slot : Slot}
    (dropped : (reflect mac port slot).verdict = .drop) :
    (reflect mac port slot).cursor.slot = slot := by
  rcases forward_or_untouched mac port slot with forwarded | ⟨_, kept⟩
  · rw [dropped] at forwarded
    cases forwarded
  · exact kept

/-- Dropping is atomic. A dropped frame leaves behind the bytes and the length that were received,
and the bytes of its tailroom; once anything was written the frame is forwarded. -/
theorem drop_atomic (mac : Mac) (port : UInt16) (slot : Slot) :
    let r := reflect mac port slot
    r.verdict ≠ .fault ∧
      (r.verdict = .drop → r.cursor.frame = slot.frame ∧ r.cursor.slot = slot) ∧
      (r.cursor.slot ≠ slot → r.verdict = .forward) := by
  intro r
  have settled : r.verdict = .forward ∨ r.verdict = .drop ∧ r.cursor.slot = slot :=
    forward_or_untouched mac port slot
  refine ⟨?_, ?_, ?_⟩
  · rintro fault
    rcases settled with forwarded | ⟨dropped, _⟩
    · exact nomatch forwarded.symm.trans fault
    · exact nomatch dropped.symm.trans fault
  · intro dropped
    have kept := untouched_of_drop dropped
    exact ⟨congrArg Slot.frame kept, kept⟩
  · intro written
    rcases settled with forwarded | ⟨_, kept⟩
    · exact forwarded
    · exact absurd kept written

/-! ## One packet of a worker -/

structure Policy where
  dryRun : Bool
  mac : Mac
  vxlanPort : UInt16

def Worker.Setup.policy (setup : Worker.Setup) : Policy :=
  ⟨setup.dryRun, setup.mac, setup.vxlanPort⟩

namespace Policy

/-- The answer that goes out for a packet: the rewritten frame if it is forwarded. A dry run
forwards every packet as it came. -/
def reply? (p : Policy) (packet : Packet) : Option Packet :=
  if p.dryRun then some packet
  else
    let r := reflect p.mac p.vxlanPort packet.slot
    if r.verdict = .forward then some { packet with slot := r.cursor.slot } else none

def replies (p : Policy) (packets : List Packet) : List Packet := packets.filterMap p.reply?

def discards (p : Policy) (packets : List Packet) : List Packet :=
  packets.filter fun packet => (p.reply? packet).isNone

variable (p : Policy)

@[simp] theorem discards_nil : p.discards [] = [] := rfl

@[simp] theorem replies_append (a b : List Packet) :
    p.replies (a ++ b) = p.replies a ++ p.replies b := List.filterMap_append

@[simp] theorem discards_append (a b : List Packet) :
    p.discards (a ++ b) = p.discards a ++ p.discards b := List.filter_append ..

variable {p} {packet reply : Packet}

theorem replies_of_reply (replied : p.reply? packet = some reply) :
    p.replies [packet] = [reply] ∧ p.discards [packet] = [] := by
  simp [replies, discards, replied]

theorem replies_of_none (silent : p.reply? packet = none) :
    p.replies [packet] = [] ∧ p.discards [packet] = [packet] := by
  simp [replies, discards, silent]

theorem index_of_reply (replied : p.reply? packet = some reply) : reply.index = packet.index := by
  unfold reply? at replied
  split at replied
  · cases replied; rfl
  · dsimp only at replied
    split at replied
    · cases replied; rfl
    · cases replied

/-- Answers stay in the slots of their requests; the other requests are the discarded ones. -/
theorem indices_perm (p : Policy) (packets : List Packet) :
    (packets.map Packet.index).Perm
      ((p.replies packets).map Packet.index ++ (p.discards packets).map Packet.index) := by
  induction packets with
  | nil => exact List.Perm.nil
  | cons packet rest ih =>
    rw [← List.singleton_append, replies_append, discards_append]
    cases replied : p.reply? packet with
    | some reply =>
      obtain ⟨replies, discards⟩ := replies_of_reply replied
      rw [replies, discards, List.nil_append, List.singleton_append, List.singleton_append,
        List.map_cons, List.map_cons, index_of_reply replied]
      exact ih.cons _
    | none =>
      obtain ⟨replies, discards⟩ := replies_of_none replied
      rw [replies, discards, List.nil_append, List.singleton_append, List.singleton_append,
        List.map_cons, List.map_cons]
      exact (ih.cons _).trans List.perm_middle.symm

theorem length_replies_add_discards (p : Policy) (packets : List Packet) :
    (p.replies packets).length + (p.discards packets).length = packets.length := by
  have lengths := (p.indices_perm packets).length_eq
  simp only [List.length_append, List.length_map] at lengths
  exact lengths.symm

end Policy

theorem Worker.answer_eq (setup : Worker.Setup) (packet : Packet) :
    Worker.answer setup packet =
      match setup.policy.reply? packet with
      | some reply => (.forward, reply)
      | none => (.drop, packet) := by
  rw [Worker.answer, Policy.reply?]
  have policy : setup.policy = ⟨setup.dryRun, setup.mac, setup.vxlanPort⟩ := rfl
  rw [policy]
  by_cases dry : setup.dryRun = true
  case pos => simp only [if_pos dry]
  case neg =>
    simp only [if_neg dry]
    rcases forward_or_untouched setup.mac setup.vxlanPort packet.slot with forwarded | ⟨dropped, kept⟩
    · rw [if_pos forwarded, forwarded]
    · rw [if_neg (by rw [dropped]; decide), dropped, kept]

end Boomerang
