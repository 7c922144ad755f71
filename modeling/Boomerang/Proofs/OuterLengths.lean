import Boomerang.Proofs.Transparency

/-!
The lengths in the headers around an advertisement. They are updated when the whole frame has
changed its length, but what they have to follow is the message inside: bytes behind the
solicitation can make up for what the message grows by, and then the lengths stay behind.
-/

set_option autoImplicit false

namespace Boomerang

open Octets Cursor

/-- The IPv4 and the UDP header of a frame both give its datagram the end `stop`. -/
structure OuterEnds (f : Octets) (stop : Nat) : Prop where
  ip : 14 + ipv4TotalLength f = stop
  udp : 14 + ipv4HeaderLength f + udpLength f = stop

instance (f : Octets) (stop : Nat) : Decidable (OuterEnds f stop) :=
  decidable_of_iff (14 + ipv4TotalLength f = stop ∧ 14 + ipv4HeaderLength f + udpLength f = stop)
    ⟨fun ⟨a, b⟩ => ⟨a, b⟩, fun ⟨a, b⟩ => ⟨a, b⟩⟩

/-- Where the IPv6 datagram inside a tunnel ends. -/
def innerEnd (f : Octets) (start : Nat) : Nat := start + 54 + ipv6PayloadLength (f.drop start)

variable {port : UInt16} {mac : Mac} {f : Octets} {capacity : Nat}

theorem payloadLength_advertisement {g : Octets} (made : Request.Made g capacity .solicitation) :
    ipv6PayloadLength (Request.advertisement mac g) = 32 := by
  have long := Request.length_of_solicitation made
  rw [(Request.headKept_advertisement mac long).payloadLength]
  exact Request.payloadLength_addressed long (Request.length_optioned mac long)

theorem lengths_take {n : Nat} (all : 20 + ipv4HeaderLength f ≤ n) :
    ipv4TotalLength (f.take n) = ipv4TotalLength f ∧ udpLength (f.take n) = udpLength f := by
  have header := ipv4HeaderLength_take (f := f) (show 14 < n by omega)
  constructor
  · rw [ipv4TotalLength, word_take (by omega), ipv4TotalLength]
  · rw [udpLength, header, word_take (by omega), udpLength]

section Advertisement

variable (tunnelled : Tunnelled port f)
  (made : Request.Made (f.drop (tunnelLength f)) capacity .solicitation)
  {after : Octets} (replied : after = Request.tunnelReply mac f .solicitation)
include tunnelled made replied

theorem lengths_tunnelReply :
    ipv4HeaderLength after = ipv4HeaderLength f ∧
      ipv4TotalLength after =
        (if tunnelLength f + 86 ≠ f.length then tunnelLength f + 86 - 14
          else ipv4TotalLength f) ∧
      udpLength after =
        (if tunnelLength f + 86 ≠ f.length then tunnelLength f + 86 - (14 + ipv4HeaderLength f)
          else udpLength f) := by
  have found := made.found
  have tunnel : tunnelLength f = 14 + ipv4HeaderLength f + 16 := rfl
  have size : after.length = tunnelLength f + 86 := by
    rw [replied, length_tunnelReply_eq found, Request.length_reply made, if_pos rfl]
  have small := small_of_resized mac made
  have front := take_tunnelReply found mac .solicitation
  rw [← replied] at small front
  have turned := outerTurned_turnOuter f.length (ipv4Header_front tunnelled)
    ((length_front_of_found found).trans (tunnelLength_front f).symm) small
  have header : ipv4HeaderLength after = ipv4HeaderLength f := by
    rw [← ipv4HeaderLength_take (f := after) (show 14 < tunnelLength f by omega), front,
      headerLength_turnOuter, ipv4HeaderLength_front]
  obtain ⟨ip, udp⟩ := lengths_take (f := f) (n := tunnelLength f) (by omega)
  obtain ⟨ipAfter, udpAfter⟩ := lengths_take (f := after) (n := tunnelLength f) (by omega)
  have total := turned.totalLength
  have datagram := turned.udpLength
  rw [← front, ipAfter, ip, size] at total
  rw [← front, udpAfter, udp, size, ipv4HeaderLength_front] at datagram
  exact ⟨header, total, datagram⟩

/-- The outer lengths follow the advertisement exactly if the frame changed its length or there was
nothing to follow. -/
theorem outerEnds_tunnelReply_iff (ends : OuterEnds f (innerEnd f (tunnelLength f))) :
    OuterEnds after (innerEnd after (tunnelLength f)) ↔
      (f.length = tunnelLength f + 86 → ipv6PayloadLength (f.drop (tunnelLength f)) = 32) := by
  obtain ⟨header, ip, udp⟩ := lengths_tunnelReply tunnelled made replied
  obtain ⟨ipEnds, udpEnds⟩ := ends
  have tunnel : tunnelLength f = 14 + ipv4HeaderLength f + 16 := rfl
  have inner : innerEnd after (tunnelLength f) = tunnelLength f + 86 := by
    rw [innerEnd, replied, drop_tunnelReply made.found]
    exact congrArg (tunnelLength f + 54 + ·) (payloadLength_advertisement made)
  rw [innerEnd] at ipEnds udpEnds
  rw [inner]
  by_cases same : f.length = tunnelLength f + 86
  case pos =>
    -- The lengths are what they were, so the datagram has to end where it did.
    rw [if_neg (fun changed => changed same.symm)] at ip udp
    constructor
    · rintro ⟨ipAfter, _⟩ _
      omega
    · intro settled
      have settled := settled same
      exact ⟨by omega, by omega⟩
  case neg =>
    rw [if_pos (fun back => same back.symm)] at ip udp
    exact ⟨fun _ back => absurd back same, fun _ => ⟨by omega, by omega⟩⟩

end Advertisement

theorem made_of_forward {slot : Slot} (tunnelled : Tunnelled port slot.frame)
    (forwarded : (reflect mac port slot).verdict = .forward)
    (found : (Headers.ipv6 .icmpv6).Found (slot.frame.drop (tunnelLength slot.frame)))
    (type : byte (slot.frame.drop (tunnelLength slot.frame)) 54 = 135) :
    Request.Made (slot.frame.drop (tunnelLength slot.frame))
      (slot.capacity - tunnelLength slot.frame) .solicitation := by
  rcases reply_of_forward forwarded with ⟨_, r, made, _⟩ | ⟨plain, _⟩
  · have same := Headers.found_unique found made.found
    -- Of the two requests over ICMPv6 the type rules one out.
    cases r with
    | solicitation => exact made
    | echo6 => exact absurd (type.symm.trans made.asked) (by decide)
    | arp | datagram4 | echo4 | datagram6 => cases same
  · exact absurd tunnelled plain

/-- After an advertisement the outer lengths end with the datagram inside, as they did before,
unless the frame kept its length although the message did not. -/
theorem outer_lengths_follow_iff (mac : Mac) {port : UInt16} {slot : Slot}
    (tunnelled : Tunnelled port slot.frame)
    (forwarded : (reflect mac port slot).verdict = .forward)
    (found : (Headers.ipv6 .icmpv6).Found (slot.frame.drop (tunnelLength slot.frame)))
    (type : byte (slot.frame.drop (tunnelLength slot.frame)) 54 = 135)
    (ends : OuterEnds slot.frame (innerEnd slot.frame (tunnelLength slot.frame))) :
    let after := (reflect mac port slot).cursor.frame
    OuterEnds after (innerEnd after (tunnelLength slot.frame)) ↔
      ¬ (slot.frame.length = tunnelLength slot.frame + 86 ∧
        ipv6PayloadLength (slot.frame.drop (tunnelLength slot.frame)) ≠ 32) := by
  have made := made_of_forward tunnelled forwarded found type
  have replied := (reflect_tunnelled mac tunnelled made).2
  dsimp only
  rw [outerEnds_tunnelReply_iff tunnelled made replied ends, not_and, Decidable.not_not]

/-- Without trailing bytes the frame grows with the message. -/
theorem outer_lengths_follow_untrailed :
    let mac := Address.mac 2 0 0 0 0 1
    let before := (solicitedSlot 0 8).frame
    let after := (reflect mac 4789 (solicitedSlot 0 8)).cursor.frame
    OuterEnds before (innerEnd before (tunnelLength before)) ∧
      OuterEnds after (innerEnd after (tunnelLength before)) := by
  have forwarded : (reflect (Address.mac 2 0 0 0 0 1) 4789 (solicitedSlot 0 8)).verdict =
      .forward := verdict_of_reflectable (by decide +kernel)
  have ends : OuterEnds (solicitedSlot 0 8).frame
    (innerEnd (solicitedSlot 0 8).frame (tunnelLength (solicitedSlot 0 8).frame)) := by
    decide +kernel
  exact ⟨ends, (outer_lengths_follow_iff _ (by decide +kernel) forwarded (by decide +kernel)
    (by decide +kernel) ends).2 (by decide +kernel)⟩

/-- The message grows into eight trailing bytes, and the outer lengths stay behind. -/
theorem outer_lengths_stay_behind :
    let mac := Address.mac 2 0 0 0 0 1
    let before := (solicitedSlot 8 0).frame
    let after := (reflect mac 4789 (solicitedSlot 8 0)).cursor.frame
    Tunnelled 4789 before ∧ (reflect mac 4789 (solicitedSlot 8 0)).verdict = .forward ∧
      OuterEnds before (innerEnd before (tunnelLength before)) ∧
      ¬ OuterEnds after (innerEnd after (tunnelLength before)) := by
  have tunnelled : Tunnelled 4789 (solicitedSlot 8 0).frame := by decide +kernel
  have made : Request.Made ((solicitedSlot 8 0).frame.drop (tunnelLength (solicitedSlot 8 0).frame))
    ((solicitedSlot 8 0).capacity - tunnelLength (solicitedSlot 8 0).frame) .solicitation := by
    decide +kernel
  have ends : OuterEnds (solicitedSlot 8 0).frame
    (innerEnd (solicitedSlot 8 0).frame (tunnelLength (solicitedSlot 8 0).frame)) := by
    decide +kernel
  obtain ⟨forwarded, replied⟩ := reflect_tunnelled (Address.mac 2 0 0 0 0 1) tunnelled made
  refine ⟨tunnelled, forwarded, ends, fun follow => ?_⟩
  have settled := (outerEnds_tunnelReply_iff tunnelled made replied ends).1 follow
  exact absurd (settled (by decide +kernel)) (by decide +kernel)

end Boomerang
