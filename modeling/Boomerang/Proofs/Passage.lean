import Boomerang.Proofs.GuardedWalk
import Boomerang.Proofs.Reflect

/-!
The passage of a frame, with every access checked: described, led out of its tunnel, answered, and
described again. Nothing faults on the way, whatever the frame holds. The headers that the way back
through a tunnel trusts lie in front of the inner frame, and an answer never cuts into them.
-/

set_option autoImplicit false

namespace Boomerang

namespace Answer

open Cursor

variable {α β : Type} {c d : Cursor} {s : Span}

/-- Where the step finishes, the frame has the size and the tunnel that it had. -/
def Keeps (step : Answer α) : Prop :=
  ∀ (c d : Cursor) (value : α), step c = .done value d → d.size = c.size ∧ d.outer = c.outer

theorem keeps_read (s : Span) (position count : Nat) : Keeps (read s position count) := by
  intro c d value done
  unfold read at done
  split at done
  · split at done
    · cases done
      exact ⟨rfl, rfl⟩
    · cases done
  · cases done

theorem keeps_write (s : Span) (position : Nat) (value : Octets) :
    Keeps (write s position value) := by
  intro c d _ done
  unfold write at done
  split at done
  · split at done
    case h_1 slot written =>
      cases done
      unfold Slot.overwrite? at written
      split at written
      · cases written
        exact ⟨rfl, rfl⟩
      · cases written
    · cases done
  · cases done

theorem Keeps.bind {step : Answer α} {next : α → Answer β} (first : Keeps step)
    (second : ∀ value, Keeps (next value)) : Keeps (step >>= next) := by
  intro c e result done
  rw [bind_apply] at done
  split at done
  case h_1 value d ran =>
    obtain ⟨size, outer⟩ := first c d value ran
    obtain ⟨size', outer'⟩ := second value d e result done
    exact ⟨size'.trans size, outer'.trans outer⟩
  · cases done
  · cases done

theorem keeps_swap (s : Span) (first second count : Nat) : Keeps (swap s first second count) :=
  (keeps_read _ _ _).bind fun _ => (keeps_read _ _ _).bind fun _ =>
    (keeps_write _ _ _).bind fun _ => keeps_write _ _ _

theorem keeps_swapIpv4Addresses (s : Span) : Keeps (swapIpv4Addresses s) :=
  (keeps_swap _ _ _ _).bind fun _ => (keeps_read _ _ _).bind fun _ => keeps_write _ _ _

/-- What comes behind a step that keeps size and tunnel may rely on both. -/
theorem Keeps.bind_congr {step : Answer α} {next next' : α → Answer β} (keeps : Keeps step)
    (same : ∀ value d, d.size = c.size → d.outer = c.outer → next value d = next' value d) :
    (step >>= next) c = (step >>= next') c := by
  rw [bind_apply, bind_apply]
  cases ran : step c with
  | done value d =>
    obtain ⟨size, outer⟩ := keeps c d value ran
    exact same value d size outer
  | dropped d => rfl
  | faulted d => rfl

end Answer

namespace Guarded

open Answer Cursor

variable {c : Cursor}

def narrow (n : Nat) : Answer UInt16 := fun c =>
  if n < 65536 then .done (UInt16.ofNat n) c else .faulted c

/-- A length field that follows the frame, counted from `start`. -/
def followed (size start : Nat) : Answer UInt16 := do
  let length ← minus size start
  narrow length

def tunnel (received : Nat) : Answer Unit := do
  let size ← look Cursor.size
  let outer ← find Cursor.outer
  let udp ← slice outer.l4 (outer.l4 + 8)
  if size ≠ received then
    let length ← followed size outer.l4
    write udp 4 (Octets.ofWord length)
  write udp 6 [0, 0]
  let ip ← ipv4At outer.l3
  if size ≠ received then
    let length ← followed size outer.l3
    write ip 2 (Octets.ofWord length)
  swapIpv4Addresses ip
  let ether ← slice outer.l2 (outer.l2 + 14)
  swap ether 0 6 6

theorem followed_done {size start : Nat} (ordered : start ≤ size) (small : size < 65536) :
    followed size start c = .done (UInt16.ofNat (size - start)) c := by
  rw [followed, bind_done (minus_done ordered), narrow, if_pos (by omega)]

theorem followed_eq {changed : Prop} [Decidable changed] {size start position : Nat} {s : Span}
    {next next' : Unit → Answer Unit} (ordered : start ≤ size) (small : changed → size < 65536)
    (same : ∀ value d, d.size = c.size → d.outer = c.outer → next value d = next' value d) :
    (if changed then do
        let length ← followed size start
        write s position (Octets.ofWord length) >>= next
      else next ()) c =
      (if changed then
        write s position (Octets.ofWord (UInt16.ofNat (size - start))) >>= next'
      else next' ()) c := by
  by_cases moved : changed
  · rw [if_pos moved, if_pos moved, bind_done (followed_done ordered (small moved))]
    exact (keeps_write _ _ _).bind_congr same
  · rw [if_neg moved, if_neg moved]
    exact same () c rfl rfl

theorem tunnel_eq {o : Outer} {received : Nat} (outer : c.outer = some o)
    (l2 : o.l2 + 14 ≤ c.size) (l3 : o.l3 ≤ c.size) (l4 : o.l4 + 8 ≤ c.size)
    (small : c.size ≠ received → c.size < 65536) :
    tunnel received c = Answer.tunnel received c := by
  have size : find (fun d : Cursor => some d.size) c = .done c.size c := rfl
  have udp : c.outerUdp = some ⟨o.l4, o.l4 + 8⟩ := by
    rw [Cursor.outerUdp, outer]
    rfl
  rw [tunnel, look_bind, bind_done (find_done outer),
    bind_done (slice_done (Nat.le_add_right _ _) l4), Answer.tunnel, bind_done size,
    bind_done (find_done outer), bind_done (find_done udp)]
  -- Each step reads the tunnel again, from a cursor that the steps before it left in place.
  refine followed_eq (by omega) small fun _ d sizeD keptD => ?_
  refine (keeps_write _ _ _).bind_congr fun _ e sizeE keptE => ?_
  have outerE : e.outer = some o := (keptE.trans keptD).trans outer
  have ip : e.outerIpv4 = ipv4HeaderAt e.frame o.l3 := by
    rw [Cursor.outerIpv4, outerE, Option.bind_some]
  rw [ipv4At_eq, find_bind, find_bind, ip]
  cases ipv4HeaderAt e.frame o.l3 with
  | none => rfl
  | some s =>
    refine followed_eq (by omega) small fun _ f sizeF keptF => ?_
    refine (keeps_swapIpv4Addresses s).bind_congr fun _ g sizeG keptG => ?_
    have outerG : g.outer = some o := (keptG.trans keptF).trans outerE
    have ether : g.outerEther = some ⟨o.l2, o.l2 + 14⟩ := by
      rw [Cursor.outerEther, outerG]
      rfl
    rw [bind_done (find_done ether), bind_done (slice_done (Nat.le_add_right _ _) (by omega))]

/-! ## Answers -/

def frame (mac : Mac) : Answer Unit := do
  match ← parse with
  | .error _ => drop
  | .ok headers =>
    let received ← look Cursor.size
    forHeaders mac headers
    let overlay ← look Cursor.isOverlay
    if overlay then tunnel received

/-- The verdict of a step that may give up but not fault. -/
def settle (step : Answer Unit) : Answer Verdict := fun c =>
  match step c with
  | .done _ d => .done .forward d
  | .dropped d => .done .drop d
  | .faulted d => .faulted d

theorem frame_of_done {mac : Mac} {h : Headers} {d : Cursor} (found : h.Found c.view)
    (done : forHeaders mac h (c.walked h) = .done () d) :
    frame mac c = if d.isOverlay then tunnel c.size d else .done () d := by
  have size : (c.walked h).size = c.size := congrArg Slot.length (walked_keeps c h).1
  rw [frame, parse_eq, walk_bind, parse_of_found found]
  dsimp only
  rw [look_bind, bind_done done, look_bind, size]
  split <;> rfl

theorem frame_of_dropped (mac : Mac) (none : ¬ Requests c.view (c.slot.capacity - c.l2)) :
    frame mac c = .dropped c.parse.2 ∧ Answer.frame mac c = .dropped c.parse.2 := by
  rw [frame, parse_eq, walk_bind, Answer.frame]
  rcases walk : c.parse with ⟨_ | h, reached⟩
  case error => exact ⟨rfl, rfl⟩
  case ok =>
    have found : h.Found c.view := found_of_parse (congrArg Prod.fst walk)
    have dropped := forHeaders_walked_of_not_made mac found none
    rw [parse_of_found found] at walk
    cases walk
    refine ⟨?_, bind_dropped dropped⟩
    dsimp only
    rw [look_bind, bind_dropped dropped]

end Guarded

/-! ## Behind a tunnel -/

namespace Cursor

open Octets Answer

variable {c d : Cursor} {front : Octets}

/-- The cursor stands at a frame inside the tunnel whose headers start the whole frame. -/
structure InTunnel (c : Cursor) : Prop where
  room : c.l2 ≤ c.size
  start : c.l2 = tunnelLength (c.frame.take c.l2)
  header : Ipv4Header (c.frame.take c.l2)
  outer : c.outer = some (outerAt (c.frame.take c.l2))

/-- A cursor that a received frame may be answered from. -/
def Ready (c : Cursor) : Prop := c.outer = none ∨ c.InTunnel

theorem enclosed_of_plain (plain : c.outer = none) : c.Enclosed := by
  intro o outer
  rw [plain] at outer
  cases outer

theorem enclosed_of_outerAt (outer : c.outer = some (outerAt front))
    (room : tunnelLength front ≤ c.size) : c.Enclosed := by
  intro o found
  rw [outer] at found
  cases found
  simp only [tunnelLength] at room
  simp only [outerAt]
  omega

theorem Ready.enclosed (ready : c.Ready) : c.Enclosed := by
  rcases ready with plain | inTunnel
  · exact enclosed_of_plain plain
  · exact enclosed_of_outerAt inTunnel.outer (inTunnel.start ▸ inTunnel.room)

theorem Enclosed.congr (enclosed : c.Enclosed) (slot : d.slot = c.slot)
    (outer : d.outer = c.outer) : d.Enclosed := by
  intro o found
  have size : d.size = c.size := congrArg Slot.length slot
  rw [outer] at found
  rw [size]
  exact enclosed o found

theorem ready_decapsulate (port : UInt16) (slot : Slot) :
    ((ofSlot slot).decapsulate port).2.Ready := by
  by_cases tunnelled : Tunnelled port slot.frame
  case neg =>
    rw [decapsulate_of_not_tunnelled (c := ofSlot slot) rfl tunnelled]
    exact .inl rfl
  rw [decapsulate_of_tunnelled (c := ofSlot slot) rfl tunnelled]
  split
  case isTrue => exact .inl rfl
  case isFalse long =>
    obtain ⟨sameSlot, sameStart, sameTunnel⟩ := parse_keeps (ofSlot slot).inside
    obtain ⟨start, placed⟩ := inside_ofSlot slot
    have l2 := sameStart.trans start
    have outer := sameTunnel.trans placed
    have frame : (ofSlot slot).inside.parse.2.frame = slot.frame := congrArg Slot.frame sameSlot
    have size : (ofSlot slot).inside.parse.2.size = slot.length := congrArg Slot.length sameSlot
    have total : (ofSlot slot).inside.size = slot.length := rfl
    rw [length_view, total, start] at long
    refine .inr ⟨?_, ?_, ?_, ?_⟩
    · rw [l2, size]
      omega
    · rw [l2, frame, tunnelLength_front]
    · rw [l2, frame]
      exact ipv4Header_front tunnelled
    · rw [l2, frame, outer]

end Cursor

namespace Guarded

open Octets Answer Cursor

variable {c : Cursor}

/-- An answered frame goes back through its tunnel, and the headers in front of it stay in place. -/
theorem tunnel_of_replied {d : Cursor} {mac : Mac} {r : Request} (inTunnel : c.InTunnel)
    (made : r.Made c.view (c.slot.capacity - c.l2)) (replied : Replied c d (r.reply mac c.view)) :
    tunnel c.size d = Answer.tunnel c.size d ∧
      ∃ e, Answer.tunnel c.size d = .done () e ∧ e.Enclosed := by
  obtain ⟨room, start, header, outer⟩ := inTunnel
  have width : (c.frame.take c.l2).length = tunnelLength (c.frame.take c.l2) := by
    rw [length_front room, ← start]
  have most := ipv4HeaderLength_le (c.frame.take c.l2)
  have tunnelIs : tunnelLength (c.frame.take c.l2) =
      14 + ipv4HeaderLength (c.frame.take c.l2) + 16 := rfl
  have reply : (r.reply mac c.view).length = _ := Request.length_reply made
  have size : d.size = c.l2 + (r.reply mac c.view).length := by
    rw [← Cursor.length_frame, replied.frame, List.length_append, length_front room]
  have placed : d.outer = some (outerAt (c.frame.take c.l2)) := replied.outer.trans outer
  have small : d.size ≠ c.size → d.size < 65536 := by
    intro changed
    rw [length_view] at reply
    split at reply <;> omega
  refine ⟨tunnel_eq placed ?_ ?_ ?_ small, _, tunnel_done c.size placed header width replied.frame,
    enclosed_of_outerAt placed ?_⟩
  · simp only [outerAt]
    omega
  · simp only [outerAt]
    omega
  · simp only [outerAt]
    omega
  · rw [size_withFrame, List.length_append, length_turnOuter, width]
    exact Nat.le_add_right _ _

theorem frame_settles (mac : Mac) (ready : c.Ready) :
    ∃ verdict d, settle (frame mac) c = .done verdict d ∧
      (Answer.frame mac).run c = (verdict, d) ∧ d.Enclosed := by
  by_cases request : Requests c.view (c.slot.capacity - c.l2)
  case neg =>
    obtain ⟨guarded, plain⟩ := frame_of_dropped mac request
    obtain ⟨slot, _, outer⟩ := parse_keeps c
    refine ⟨.drop, c.parse.2, ?_, ?_, ready.enclosed.congr slot outer⟩
    · rw [settle, guarded]
    · rw [Answer.run, plain]
  obtain ⟨r, made⟩ := request
  obtain ⟨d, done, replied⟩ := forHeaders_walked_of_made mac made
  have guarded := frame_of_done made.found done
  have plain := Answer.frame_of_done made.found done
  have overlay : d.isOverlay = c.isOverlay := congrArg Option.isSome replied.outer
  rcases ready with alone | inTunnel
  · have isPlain : c.isOverlay = false := congrArg Option.isSome alone
    rw [overlay, isPlain, if_neg (by decide)] at guarded
    rw [isPlain, if_neg (by decide)] at plain
    refine ⟨.forward, d, ?_, ?_, enclosed_of_plain (replied.outer.trans alone)⟩
    · rw [settle, guarded]
    · rw [Answer.run, plain]
  · have isOverlay : c.isOverlay = true := congrArg Option.isSome inTunnel.outer
    obtain ⟨same, e, back, enclosed⟩ := tunnel_of_replied inTunnel made replied
    rw [overlay, isOverlay, if_pos rfl, same, back] at guarded
    rw [isOverlay, if_pos rfl, back] at plain
    refine ⟨.forward, e, ?_, ?_, enclosed⟩
    · rw [settle, guarded]
    · rw [Answer.run, plain]

end Guarded

/-! ## The whole way -/

/-- What is known of a frame that was answered: its description before and after, whether it left a
tunnel, and the verdict. -/
structure Passage where
  before : Summary
  decapsulated : Except ParseError Bool
  verdict : Verdict
  after : Summary

namespace Guarded

open Answer Cursor

def passage (mac : Mac) (port : UInt16) : Answer Passage := do
  let before ← summary
  let decapsulated ← decapsulate port
  let verdict ← settle (frame mac)
  let after ← summary
  return ⟨before, decapsulated, verdict, after⟩

/-- Whatever the responders look up, they look up as if every access were checked. What they read
and write they check themselves. -/
structure Sound : Prop where
  ether : ether = find Cursor.ether
  arp : arp = find Cursor.arp
  ipv4 : ipv4 = find Cursor.ipv4
  ipv6 : ipv6 = find Cursor.ipv6
  udp : message .udp = find Cursor.udp
  icmp : message .icmp = find Cursor.icmp
  icmpv6 : message .icmpv6 = find Cursor.icmpv6
  messageLength : messageLength = find Cursor.messageLength
  resize : ∀ length c, resize length c = match c.resizeMessage? length with
    | some d => .done () d
    | none => .dropped c

theorem sound : Sound where
  ether := ether_eq
  arp := arp_eq
  ipv4 := ipv4_eq
  ipv6 := ipv6_eq
  udp := message_eq .udp
  icmp := message_eq .icmp
  icmpv6 := message_eq .icmpv6
  messageLength := messageLength_eq
  resize length c := congrFun (resize_eq length) c

/-- Every frame passes without a fault, and with the same result as without the checks: no access
leaves the bytes that it is made to, no subtraction goes below zero, and the lengths written into
the headers around a tunnelled frame lose nothing. -/
theorem passage_never_faults (mac : Mac) (port : UInt16) (slot : Slot) :
    Sound ∧ ∃ before after,
      let left := (ofSlot slot).decapsulate port
      let answered := (Answer.frame mac).run left.2
      (ofSlot slot).summary? = some before ∧ answered.2.summary? = some after ∧
        passage mac port (ofSlot slot) =
          .done ⟨before, left.1, answered.1, after⟩ answered.2 := by
  refine ⟨sound, ?_⟩
  obtain ⟨before, described, first⟩ := summary_done (enclosed_of_plain (c := ofSlot slot) rfl)
  obtain ⟨verdict, d, settled, ran, enclosed⟩ := frame_settles mac (ready_decapsulate port slot)
  obtain ⟨after, describedAgain, last⟩ := summary_done enclosed
  refine ⟨before, after, ?_⟩
  dsimp only
  rw [ran]
  refine ⟨described, describedAgain, ?_⟩
  rw [passage, bind_done first, decapsulate_eq, walk_bind, bind_done settled, bind_done last]
  rfl

end Guarded

end Boomerang
