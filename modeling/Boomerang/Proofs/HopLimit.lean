import Boomerang.Proofs.Advertisement

/-!
The hop limit of a solicitation. An advertisement leaves with hop limit 255, but the solicitation is
answered with whatever hop limit it arrived: no decision and no byte of the answer depends on it. A
solicitation that was forwarded by a router is therefore answered as one from the link is.
-/

set_option autoImplicit false

namespace Boomerang

open Octets Cursor

def hopLimit (g : Octets) : UInt8 := g.byte 21

/-- Where the frame that is answered starts in the received one. -/
def answeredFrom (port : UInt16) (f : Octets) : Nat :=
  if Tunnelled port f then tunnelLength f else 0

/-- The received frame is forwarded as a neighbor solicitation, its own or that in its tunnel. -/
structure Solicited (mac : Mac) (port : UInt16) (slot : Slot) : Prop where
  forwarded : (reflect mac port slot).verdict = .forward
  found : (Headers.ipv6 .icmpv6).Found (slot.frame.drop (answeredFrom port slot.frame))
  type : byte (slot.frame.drop (answeredFrom port slot.frame)) 54 = 135

/-- A solicitation is forwarded only with the hop limit that no router lets through, and its
advertisement leaves with that hop limit. -/
def OnLink (mac : Mac) (port : UInt16) (slot : Slot) : Prop :=
  Solicited mac port slot →
    hopLimit (slot.frame.drop (answeredFrom port slot.frame)) = 255 ∧
      hopLimit ((reflect mac port slot).cursor.frame.drop (answeredFrom port slot.frame)) = 255

/-! ## Frames that differ in the hop limit -/

/-- Two frames that differ at most in the hop limit of their IPv6 headers. -/
abbrev OffHopLimit (before after : Octets) : Prop := SameOn (fun i => i ≠ 21) before after

namespace OffHopLimit

variable {g k : Octets} {capacity : Nat} {mac : Mac}

theorem payloadLength (same : OffHopLimit g k) : ipv6PayloadLength k = ipv6PayloadLength g := by
  rw [ipv6PayloadLength, same.word (by decide) (by decide), ipv6PayloadLength]

theorem found (same : OffHopLimit g k) (found : (Headers.ipv6 .icmpv6).Found g) :
    (Headers.ipv6 .icmpv6).Found k := by
  obtain ⟨datagram, named, fits⟩ := found
  have message : ipv6Message k = ipv6Message g := by
    rw [ipv6Message, same.payloadLength, ipv6Message]
  refine ⟨⟨⟨?_, ?_, ?_⟩, ?_⟩, ?_, ?_⟩
  · exact (same.word (by decide) (by decide)).trans datagram.etherType
  · rw [same.byte 14 (by decide)]
    exact datagram.version
  · rw [same.length]
    exact datagram.inside
  · rw [same.payloadLength, same.length]
    exact datagram.contained
  · exact (same.byte 20 (by decide)).trans named
  · rw [message]
    exact HeadKept.fits fits (by decide)

theorem made (same : OffHopLimit g k) (made : Request.Made g capacity .solicitation) :
    Request.Made k capacity .solicitation := by
  obtain ⟨solicits, room⟩ := made.asked
  refine ⟨same.found made.found, ⟨?_, ?_, ?_, ?_⟩, room⟩
  · exact (same.byte 54 (by decide)).trans solicits.type
  · rw [same.payloadLength]
    exact solicits.long
  · exact (same.byte 55 (by decide)).trans solicits.code
  · rw [same.byte 62 (by decide)]
    exact solicits.unicast

/-- The advertisement has a hop limit of its own, and takes everything else from elsewhere. -/
theorem advertisement (mac : Mac) (same : OffHopLimit g k) (long : 78 ≤ g.length) :
    Request.advertisement mac k = Request.advertisement mac g := by
  have target : k.slice 62 16 = g.slice 62 16 := same.slice fun i _ _ => by omega
  have solicitor : Request.solicitor k = Request.solicitor g := by
    rw [Request.solicitor, same.slice fun i _ _ => by omega, same.slice fun i _ _ => by omega,
      Request.solicitor]
  have fixed : (g.slice 0 78).length = 78 := length_slice (by omega)
  have copied : OffHopLimit (g.slice 0 78) (k.slice 0 78) := same.take 78
  -- The last write to the IPv6 header is the one that covers the difference.
  have addressed : Request.addressed g (k.slice 0 78) = Request.addressed g (g.slice 0 78) :=
    (((copied.put_both 18 (ofWord 32)).put_both 22 (g.slice 62 16)).put_both 38
      (Request.solicitor g).1).put_one_eq 255 (by simp only [length_put, fixed]; decide)
  have header : ∀ x, Request.addressed k x = Request.addressed g x := fun x => by
    rw [Request.addressed, target, solicitor, Request.addressed]
  have described : Request.described k (k.slice 0 78) = Request.described g (g.slice 0 78) := by
    rw [Request.described, header, addressed, solicitor, Request.described]
  rw [Request.advertisement, described, target, solicitor, Request.advertisement]

end OffHopLimit

/-! ## Where the solicitation stands -/

variable {port : UInt16} {f e : Octets}

theorem answeredFrom_of_tunnelled (tunnelled : Tunnelled port f) :
    answeredFrom port f = tunnelLength f := if_pos tunnelled

theorem answeredFrom_of_plain (plain : ¬ Tunnelled port f) : answeredFrom port f = 0 := if_neg plain

theorem tunnelled_of_sameOn (same : SameOn (fun i => i < tunnelLength f) f e)
    (tunnelled : Tunnelled port f) : Tunnelled port e ∧ tunnelLength e = tunnelLength f := by
  have tunnel : tunnelLength f = 14 + ipv4HeaderLength f + 16 := rfl
  have header := ipv4HeaderLength_of_sameOn (same.mono fun i _ => by omega)
  refine ⟨⟨ipv4Header_of_sameOn (same.mono fun i _ => by omega) tunnelled.toIpv4Header,
    ⟨?_, ?_⟩, ?_, ?_, ?_⟩, congrArg (fun n => 14 + n + 16) header⟩
  · rw [same.word (by omega) (by omega)]
    exact tunnelled.last
  · rw [same.word (by omega) (by omega)]
    exact tunnelled.first
  · exact (same.byte 23 (by omega)).trans tunnelled.udp
  · rw [header, same.length]
    exact tunnelled.contained
  · rw [header, same.word (by omega) (by omega)]
    exact tunnelled.destination

theorem not_tunnelled_of_found {t : Transport} (found : (Headers.ipv6 t).Found f) :
    ¬ Tunnelled port f :=
  fun tunnelled => absurd (tunnelled.etherType.symm.trans found.1.etherType) (by decide)

/-! ## What is answered, and how -/

variable {mac : Mac} {slot other : Slot} {capacity : Nat}

theorem solicited_iff :
    Solicited mac port slot ↔
      Request.Made (slot.frame.drop (answeredFrom port slot.frame))
        (slot.capacity - answeredFrom port slot.frame) .solicitation := by
  by_cases tunnelled : Tunnelled port slot.frame
  case pos =>
    have start := answeredFrom_of_tunnelled tunnelled
    constructor
    · rintro ⟨forwarded, found, type⟩
      rw [start] at found type ⊢
      exact made_of_forward tunnelled forwarded found type
    · intro made
      exact ⟨(reflect_tunnelled mac tunnelled (start ▸ made)).1, made.found, made.asked.1.type⟩
  case neg =>
    have start := answeredFrom_of_plain tunnelled
    constructor
    · rintro ⟨forwarded, found, type⟩
      rw [start] at found type ⊢
      obtain ⟨pos, _⟩ | ⟨_, r, made, _⟩ := reply_of_forward forwarded
      · exact absurd pos tunnelled
      · obtain rfl := (advertised_iff (c := ofSlot slot) made).1 ⟨rfl, found, type⟩
        exact made
    · intro made
      exact ⟨(reflect_plain mac tunnelled (start ▸ made)).1, made.found, made.asked.1.type⟩

def advertised (mac : Mac) (port : UInt16) (f : Octets) : Octets :=
  if Tunnelled port f then Request.tunnelReply mac f .solicitation
  else Request.advertisement mac f

theorem frame_of_solicited (solicited : Solicited mac port slot) :
    (reflect mac port slot).cursor.frame = advertised mac port slot.frame := by
  have made := solicited_iff.1 solicited
  rw [advertised]
  by_cases tunnelled : Tunnelled port slot.frame
  · rw [answeredFrom_of_tunnelled tunnelled] at made
    rw [if_pos tunnelled]
    exact (reflect_tunnelled mac tunnelled made).2
  · rw [answeredFrom_of_plain tunnelled] at made
    rw [if_neg tunnelled]
    exact (reflect_plain mac tunnelled made).2

theorem drop_advertised
    (made : Request.Made (f.drop (answeredFrom port f)) capacity .solicitation) :
    (advertised mac port f).drop (answeredFrom port f) =
      Request.advertisement mac (f.drop (answeredFrom port f)) := by
  rw [advertised]
  by_cases tunnelled : Tunnelled port f
  · rw [answeredFrom_of_tunnelled tunnelled] at made ⊢
    rw [if_pos tunnelled]
    exact drop_tunnelReply made.found mac .solicitation
  · rw [answeredFrom_of_plain tunnelled, if_neg tunnelled, List.drop_zero, List.drop_zero]

/-- Another hop limit changes neither where the solicitation stands nor what goes back. -/
theorem advertised_of_sameOn (mac : Mac)
    (made : Request.Made (f.drop (answeredFrom port f)) capacity .solicitation)
    (same : SameOn (fun i => i ≠ answeredFrom port f + 21) f e) :
    answeredFrom port e = answeredFrom port f ∧
      OffHopLimit (f.drop (answeredFrom port f)) (e.drop (answeredFrom port f)) ∧
      advertised mac port e = advertised mac port f := by
  have inner : OffHopLimit (f.drop (answeredFrom port f)) (e.drop (answeredFrom port f)) :=
    same.drop _ fun i other => by omega
  have long := Request.length_of_solicitation made
  have answer := inner.advertisement mac long
  by_cases tunnelled : Tunnelled port f
  case pos =>
    rw [answeredFrom_of_tunnelled tunnelled] at same inner answer ⊢
    have front : SameOn (fun i => i < tunnelLength f) f e := same.mono fun i _ => by omega
    obtain ⟨again, tunnel⟩ := tunnelled_of_sameOn front tunnelled
    have outer : e.take (tunnelLength f) = f.take (tunnelLength f) := by
      refine (front.take _).eq fun i inside => ?_
      rw [List.length_take] at inside
      omega
    refine ⟨(answeredFrom_of_tunnelled again).trans tunnel, inner, ?_⟩
    rw [advertised, if_pos again, advertised, if_pos tunnelled, Request.tunnelReply, tunnel, outer,
      same.length, Request.tunnelReply, Request.reply, Request.reply, answer]
  case neg =>
    rw [answeredFrom_of_plain tunnelled, List.drop_zero] at made
    rw [answeredFrom_of_plain tunnelled] at inner answer ⊢
    have plain : ¬ Tunnelled port e := not_tunnelled_of_found (inner.found made.found)
    refine ⟨answeredFrom_of_plain plain, inner, ?_⟩
    rw [advertised, if_neg plain, advertised, if_neg tunnelled]
    exact answer

/-- The responder keeps to the hop limit of the link exactly where the solicitation arrived with
it. Every advertisement leaves with hop limit 255, and it is the same, byte by byte, whatever the
hop limit of its solicitation was. -/
theorem onLink_iff (mac : Mac) (port : UInt16) (slot : Slot) :
    let start := answeredFrom port slot.frame
    let answer := (reflect mac port slot).cursor.frame
    (OnLink mac port slot ↔
        ¬ (Solicited mac port slot ∧ hopLimit (slot.frame.drop start) ≠ 255)) ∧
      (Solicited mac port slot → hopLimit (answer.drop start) = 255) ∧
      ∀ other : Slot, other.capacity = slot.capacity →
        SameOn (fun i => i ≠ start + 21) slot.frame other.frame → Solicited mac port slot →
          Solicited mac port other ∧ (reflect mac port other).cursor.frame = answer := by
  intro start answer
  have left : Solicited mac port slot → hopLimit (answer.drop start) = 255 := by
    intro solicited
    have made := solicited_iff.1 solicited
    have advertisement : answer.drop start = _ :=
      (congrArg (List.drop start) (frame_of_solicited solicited)).trans (drop_advertised made)
    rw [advertisement]
    exact Request.hopLimit_advertisement mac (Request.length_of_solicitation made)
  refine ⟨⟨?_, ?_⟩, left, ?_⟩
  · rintro onLink ⟨solicited, routed⟩
    exact routed (onLink solicited).1
  · intro arrived solicited
    exact ⟨Decidable.byContradiction fun routed => arrived ⟨solicited, routed⟩, left solicited⟩
  · intro other capacity same solicited
    have made := solicited_iff.1 solicited
    obtain ⟨place, inner, alike⟩ := advertised_of_sameOn mac made same
    have again : Solicited mac port other := by
      rw [solicited_iff, place, capacity]
      exact inner.made made
    exact ⟨again, (frame_of_solicited again).trans (alike.trans (frame_of_solicited solicited).symm)⟩

def routedSlot : Slot :=
  Slot.ofFrame ([0x33, 0x33, 0xff, 0, 0, 1, 2, 0, 0, 0, 0, 9, 0x86, 0xdd] ++
    [0x60, 0, 0, 0, 0, 24, 58, 61] ++ 0x20 :: 1 :: 0xd :: 0xb8 :: zeros 11 ++ [9] ++
    0xff :: 2 :: zeros 9 ++ [1, 0xff, 0, 0, 1] ++ [135, 0, 0x4e, 0x63, 0, 0, 0, 0] ++
    0xfe :: 0x80 :: zeros 13 ++ [1]) 8

theorem routed_solicitation_answered :
    let mac := Address.mac 2 0 0 0 0 1
    Solicited mac 4789 routedSlot ∧
      hopLimit (routedSlot.frame.drop (answeredFrom 4789 routedSlot.frame)) = 61 ∧
      ¬ OnLink mac 4789 routedSlot := by
  intro mac
  have solicited : Solicited mac 4789 routedSlot := solicited_iff.2 (by decide +kernel)
  have routed : hopLimit (routedSlot.frame.drop (answeredFrom 4789 routedSlot.frame)) = 61 := by
    decide +kernel
  refine ⟨solicited, routed, fun onLink => ?_⟩
  exact absurd (routed.symm.trans (onLink solicited).1) (by decide)

end Boomerang
