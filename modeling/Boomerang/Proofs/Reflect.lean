import Boomerang.Proofs.Tunnel

/-!
The answer to a received frame, in full. Three theorems cover all frames: one without a tunnel that
makes a request, one whose inner frame makes a request, and every other.
-/

set_option autoImplicit false

namespace Boomerang

open Cursor Answer Octets

variable {port : UInt16} {mac : Mac} {slot : Slot} {f : Octets}

theorem view_ofSlot (slot : Slot) : (ofSlot slot).view = slot.frame := rfl

theorem run_of_made (mac : Mac) {r : Request} (made : r.Made slot.frame slot.capacity) :
    ∃ d, (Answer.frame mac).run (ofSlot slot) = (.forward, d) ∧
      d.frame = r.reply mac slot.frame := by
  obtain ⟨d, replied, answer⟩ := frame_of_made mac (c := ofSlot slot) made
  refine ⟨d, ?_, replied.frame⟩
  rw [Answer.run, answer]
  rfl

theorem run_of_not_made (mac : Mac) {c : Cursor}
    (none : ¬ Requests c.view (c.slot.capacity - c.l2)) :
    ∃ d, (Answer.frame mac).run c = (.drop, d) ∧ d.slot = c.slot := by
  obtain ⟨d, answer, kept⟩ := frame_of_not_made mac none
  exact ⟨d, by rw [Answer.run, answer], kept⟩

theorem reply_of_run_forward {mac : Mac}
    (forwarded : ((Answer.frame mac).run (ofSlot slot)).1 = .forward) :
    ∃ r : Request, r.Made slot.frame slot.capacity ∧
      ((Answer.frame mac).run (ofSlot slot)).2.frame = r.reply mac slot.frame := by
  by_cases request : Requests slot.frame slot.capacity
  case pos =>
    obtain ⟨r, made⟩ := request
    obtain ⟨d, ran, replied⟩ := run_of_made mac made
    exact ⟨r, made, by rw [ran]; exact replied⟩
  case neg =>
    obtain ⟨d, ran, _⟩ := run_of_not_made mac (c := ofSlot slot) request
    rw [ran] at forwarded
    cases forwarded

/-! ## Frames out of a tunnel -/

theorem ipv4HeaderLength_take {n : Nat} (all : 14 < n) :
    ipv4HeaderLength (f.take n) = ipv4HeaderLength f := by
  rw [ipv4HeaderLength, byte_take all, ipv4HeaderLength]

theorem ipv4Header_take {n : Nat} (header : Ipv4Header f) (all : 14 + ipv4HeaderLength f ≤ n) :
    Ipv4Header (f.take n) := by
  have minimum := header.minimum
  have length := ipv4HeaderLength_take (f := f) (show 14 < n by omega)
  refine ⟨?_, ?_, ?_, ?_⟩
  · rw [word_take (by omega), header.etherType]
  · rw [byte_take (by omega), header.version]
  · rwa [length]
  · rw [length, List.length_take]
    exact Nat.le_min.2 ⟨all, header.inside⟩

theorem ipv4HeaderLength_front (f : Octets) :
    ipv4HeaderLength (f.take (tunnelLength f)) = ipv4HeaderLength f :=
  ipv4HeaderLength_take (by rw [tunnelLength]; omega)

theorem tunnelLength_front (f : Octets) :
    tunnelLength (f.take (tunnelLength f)) = tunnelLength f :=
  congrArg (fun n => 14 + n + 16) (ipv4HeaderLength_front f)

theorem ipv4Header_front (tunnelled : Tunnelled port f) :
    Ipv4Header (f.take (tunnelLength f)) :=
  ipv4Header_take tunnelled.toIpv4Header (by rw [tunnelLength]; omega)

theorem length_front_of_found {h : Headers} (found : h.Found (f.drop (tunnelLength f))) :
    (f.take (tunnelLength f)).length = tunnelLength f := by
  have long := length_of_found found
  rw [List.length_drop] at long
  rw [List.length_take]
  omega

def Request.tunnelReply (mac : Mac) (f : Octets) (r : Request) : Octets :=
  let reply := r.reply mac (f.drop (tunnelLength f))
  turnOuter f.length (tunnelLength f + reply.length) (f.take (tunnelLength f)) ++ reply

section TunnelReply

variable {h : Headers} (found : h.Found (f.drop (tunnelLength f)))
include found

theorem length_tunnelReply_eq (mac : Mac) (r : Request) :
    (r.tunnelReply mac f).length =
      tunnelLength f + (r.reply mac (f.drop (tunnelLength f))).length := by
  rw [Request.tunnelReply, List.length_append, length_turnOuter, length_front_of_found found]

theorem take_tunnelReply (mac : Mac) (r : Request) :
    (r.tunnelReply mac f).take (tunnelLength f) =
      turnOuter f.length (r.tunnelReply mac f).length (f.take (tunnelLength f)) := by
  rw [length_tunnelReply_eq found, Request.tunnelReply]
  exact List.take_left' ((length_turnOuter _ _ _).trans (length_front_of_found found))

theorem drop_tunnelReply (mac : Mac) (r : Request) :
    (r.tunnelReply mac f).drop (tunnelLength f) = r.reply mac (f.drop (tunnelLength f)) :=
  List.drop_left' ((length_turnOuter _ _ _).trans (length_front_of_found found))

end TunnelReply

theorem inside_ofSlot (slot : Slot) :
    (ofSlot slot).inside.l2 = tunnelLength slot.frame ∧
      (ofSlot slot).inside.outer =
        some (outerAt (slot.frame.take (tunnelLength slot.frame))) := by
  have zero : (ofSlot slot).l2 = 0 := rfl
  refine ⟨Nat.zero_add _, ?_⟩
  simp only [inside, outerAt, ipv4HeaderLength_front, view_ofSlot, zero, Nat.zero_add]

/-- The cursor that a received frame is answered from, once its tunnel is left. -/
theorem entered_eq (slot : Slot) (h : Headers) :
    let entered := (ofSlot slot).inside.walked h
    entered.slot = slot ∧ entered.l2 = tunnelLength slot.frame ∧
      entered.outer = some (outerAt (slot.frame.take (tunnelLength slot.frame))) ∧
      entered.view = slot.frame.drop (tunnelLength slot.frame) := by
  intro entered
  obtain ⟨sameSlot, l2, outer⟩ := walked_keeps (ofSlot slot).inside h
  obtain ⟨start, placed⟩ := inside_ofSlot slot
  exact ⟨sameSlot, l2.trans start, outer.trans placed,
    (view_walked _ h).trans (view_inside (ofSlot slot))⟩

theorem run_entered_of_made (mac : Mac) (tunnelled : Tunnelled port slot.frame) {r : Request}
    (made : r.Made (slot.frame.drop (tunnelLength slot.frame))
      (slot.capacity - tunnelLength slot.frame)) (h : Headers) :
    ∃ d, (Answer.frame mac).run ((ofSlot slot).inside.walked h) = (.forward, d) ∧
      d.frame = r.tunnelReply mac slot.frame := by
  have width := length_front_of_found made.found
  obtain ⟨sameSlot, l2, outer, view⟩ := entered_eq slot h
  generalize (ofSlot slot).inside.walked h = c at *
  obtain ⟨d, replied, answer⟩ := frame_of_made mac (c := c) (r := r)
    (by rw [view, sameSlot, l2]; exact made)
  have same : c.frame = slot.frame := congrArg Slot.frame sameSlot
  have size : c.size = slot.frame.length := by rw [← Cursor.length_frame, same]
  have overlay : c.isOverlay = true := by rw [isOverlay, outer]; rfl
  have whole := replied.frame
  rw [l2, same, view] at whole
  have resized : d.size = tunnelLength slot.frame + (r.reply mac c.view).length := by
    rw [← Cursor.length_frame, whole, List.length_append, width, view]
  -- The way back edits the front part only, and that part still holds the headers as received.
  have back := tunnel_done slot.frame.length (replied.outer.trans outer)
    (ipv4Header_front tunnelled) (width.trans (tunnelLength_front _).symm) whole
  refine ⟨d.withFrame (r.tunnelReply mac slot.frame), ?_, frame_withFrame _ _⟩
  rw [Answer.run, answer, if_pos overlay, size, back, resized, view]
  rfl

theorem run_entered_of_not_made (mac : Mac)
    (none : ¬ Requests (slot.frame.drop (tunnelLength slot.frame))
      (slot.capacity - tunnelLength slot.frame)) (h : Headers) :
    ∃ d, (Answer.frame mac).run ((ofSlot slot).inside.walked h) = (.drop, d) ∧ d.slot = slot := by
  obtain ⟨sameSlot, l2, _, view⟩ := entered_eq slot h
  obtain ⟨d, ran, kept⟩ := run_of_not_made mac (c := (ofSlot slot).inside.walked h)
    (by rw [view, sameSlot, l2]; exact none)
  exact ⟨d, ran, kept.trans sameSlot⟩

/-! ## Received frames -/

theorem reflect_plain (mac : Mac) (plain : ¬ Tunnelled port slot.frame) {r : Request}
    (made : r.Made slot.frame slot.capacity) :
    (reflect mac port slot).verdict = .forward ∧
      (reflect mac port slot).cursor.frame = r.reply mac slot.frame := by
  obtain ⟨d, ran, replied⟩ := run_of_made mac made
  rw [reflect, decapsulate_of_not_tunnelled (c := ofSlot slot) rfl plain]
  dsimp only
  rw [ran]
  exact ⟨rfl, replied⟩

theorem reflect_tunnelled (mac : Mac) (tunnelled : Tunnelled port slot.frame) {r : Request}
    (made : r.Made (slot.frame.drop (tunnelLength slot.frame))
      (slot.capacity - tunnelLength slot.frame)) :
    (reflect mac port slot).verdict = .forward ∧
      (reflect mac port slot).cursor.frame = r.tunnelReply mac slot.frame := by
  obtain ⟨d, ran, replied⟩ := run_entered_of_made mac tunnelled made r.headers
  rw [reflect, decapsulate_of_found (c := ofSlot slot) rfl tunnelled
    (by rw [view_inside]; exact made.found)]
  dsimp only
  rw [ran]
  exact ⟨rfl, replied⟩

theorem reflect_of_not_reflectable (not : ¬ Reflectable port slot.frame slot.capacity) :
    (reflect mac port slot).verdict = .drop ∧ (reflect mac port slot).cursor.slot = slot := by
  rw [reflect]
  by_cases tunnelled : Tunnelled port slot.frame
  case neg =>
    rw [Reflectable, if_neg tunnelled] at not
    obtain ⟨d, ran, kept⟩ := run_of_not_made mac (c := ofSlot slot) not
    rw [decapsulate_of_not_tunnelled (c := ofSlot slot) rfl tunnelled]
    dsimp only
    rw [ran]
    exact ⟨rfl, kept⟩
  case pos =>
    rw [Reflectable, if_pos tunnelled] at not
    -- A tunnel around something that is no frame is dropped before any responder runs.
    by_cases any : ∃ h : Headers, h.Found (slot.frame.drop (tunnelLength slot.frame))
    case neg =>
      obtain ⟨failed, kept⟩ := decapsulate_of_not_found (c := ofSlot slot) rfl tunnelled
        (by rw [view_inside]; exact fun h found => any ⟨h, found⟩)
      rcases left : (ofSlot slot).decapsulate port with ⟨result, c⟩
      rw [left] at failed kept
      cases failed
      exact ⟨rfl, kept⟩
    case pos =>
      obtain ⟨h, found⟩ := any
      obtain ⟨d, ran, kept⟩ := run_entered_of_not_made mac not h
      rw [decapsulate_of_found (c := ofSlot slot) rfl tunnelled (by rw [view_inside]; exact found)]
      dsimp only
      rw [ran]
      exact ⟨rfl, kept⟩

/-! ## The verdict -/

theorem verdict_of_reflectable (reflectable : Reflectable port slot.frame slot.capacity) :
    (reflect mac port slot).verdict = .forward := by
  by_cases tunnelled : Tunnelled port slot.frame
  case pos =>
    rw [Reflectable, if_pos tunnelled] at reflectable
    obtain ⟨r, made⟩ := reflectable
    exact (reflect_tunnelled mac tunnelled made).1
  case neg =>
    rw [Reflectable, if_neg tunnelled] at reflectable
    obtain ⟨r, made⟩ := reflectable
    exact (reflect_plain mac tunnelled made).1

theorem reflectable_of_forward (forwarded : (reflect mac port slot).verdict = .forward) :
    Reflectable port slot.frame slot.capacity := by
  apply Decidable.byContradiction
  intro not
  rw [(reflect_of_not_reflectable not).1] at forwarded
  cases forwarded

theorem reply_of_forward (forwarded : (reflect mac port slot).verdict = .forward) :
    (Tunnelled port slot.frame ∧ ∃ r : Request,
        r.Made (slot.frame.drop (tunnelLength slot.frame))
          (slot.capacity - tunnelLength slot.frame) ∧
        (reflect mac port slot).cursor.frame = r.tunnelReply mac slot.frame) ∨
      (¬ Tunnelled port slot.frame ∧ ∃ r : Request, r.Made slot.frame slot.capacity ∧
        (reflect mac port slot).cursor.frame = r.reply mac slot.frame) := by
  have reflectable := reflectable_of_forward forwarded
  by_cases tunnelled : Tunnelled port slot.frame
  case pos =>
    rw [Reflectable, if_pos tunnelled] at reflectable
    obtain ⟨r, made⟩ := reflectable
    exact .inl ⟨tunnelled, r, made, (reflect_tunnelled mac tunnelled made).2⟩
  case neg =>
    rw [Reflectable, if_neg tunnelled] at reflectable
    obtain ⟨r, made⟩ := reflectable
    exact .inr ⟨tunnelled, r, made, (reflect_plain mac tunnelled made).2⟩

/-- A received frame is forwarded exactly if it is reflectable, and dropped exactly if it is not. -/
theorem forward_iff_reflectable (mac : Mac) (port : UInt16) (slot : Slot) :
    ((reflect mac port slot).verdict = .forward ↔
        Reflectable port slot.frame slot.capacity) ∧
      ((reflect mac port slot).verdict = .drop ↔
        ¬ Reflectable port slot.frame slot.capacity) := by
  refine ⟨⟨reflectable_of_forward, verdict_of_reflectable⟩, ?_, ?_⟩
  · intro dropped reflectable
    rw [verdict_of_reflectable reflectable] at dropped
    cases dropped
  · intro not
    exact (reflect_of_not_reflectable not).1

/-- A solicitation for duplicate address detection in a tunnel to port 4789, followed by `trailer`
bytes in the frame and by `room` bytes in the buffer. -/
def solicitedSlot (trailer room : Nat) : Slot :=
  Slot.ofFrame (zeros 12 ++ [8, 0, 0x45, 0, 0, 114, 0, 0, 0, 0, 64, 17] ++ zeros 10 ++
    [0, 0, 0x12, 0xb5, 0, 94, 0, 0, 8, 0, 0, 0, 0, 0, 0, 0] ++
    zeros 12 ++ [0x86, 0xdd, 0x60, 0, 0, 0, 0, 24, 58, 255] ++ zeros 32 ++ [135, 0, 0, 0] ++
    zeros 20 ++ zeros trailer) room

example : Reflectable 4789 (solicitedSlot 0 8).frame 136 := by decide +kernel

example : ¬ Reflectable 4789 (solicitedSlot 0 7).frame 135 := by decide +kernel

end Boomerang
