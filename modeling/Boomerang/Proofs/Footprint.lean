import Boomerang.Proofs.Padding
import Boomerang.Proofs.Silence

/-!
The bytes that a returned frame differs in. For each kind of request there is a relation between the
frame and its reply: the fields that changed places, the fields that were written with what they
hold now, and every other byte as it was. It says the same for every length of the IPv4 options, of
the message and of the padding behind it.
-/

set_option autoImplicit false

namespace Boomerang

open Octets Cursor

structure Datagram4Returned (before after : Octets) : Prop extends Ipv4Returned before after where
  ports : Exchanged (14 + ipv4HeaderLength before) (16 + ipv4HeaderLength before) 2 before after
  rest : SameOn (fun i => 12 ≤ i ∧ i < 24 ∨
    34 ≤ i ∧ (i < 14 + ipv4HeaderLength before ∨ 18 + ipv4HeaderLength before ≤ i)) before after

structure Echo4Returned (before after : Octets) : Prop extends Ipv4Returned before after where
  type : after.byte (14 + ipv4HeaderLength before) = 0
  checksum : after.word (16 + ipv4HeaderLength before) =
    Checksum.icmp (after.slice (ipv4Message before).start (ipv4Message before).length)
  rest : SameOn (fun i => 12 ≤ i ∧ i < 24 ∨
    34 ≤ i ∧ (i < 14 + ipv4HeaderLength before ∨ i = 15 + ipv4HeaderLength before ∨
      18 + ipv4HeaderLength before ≤ i)) before after

structure Datagram6Returned (before after : Octets) : Prop extends Ipv6Returned before after where
  ports : Exchanged 54 56 2 before after
  rest : SameOn (fun i => 12 ≤ i ∧ i < 22 ∨ 58 ≤ i) before after

structure Echo6Returned (before after : Octets) : Prop extends Ipv6Returned before after where
  type : after.byte 54 = 129
  checksum : after.word 56 = Checksum.icmpv6 (after.slice 22 16) (after.slice 38 16)
    (after.slice (ipv6Message before).start (ipv6Message before).length)
  rest : SameOn (fun i => 12 ≤ i ∧ i < 22 ∨ i = 55 ∨ 58 ≤ i) before after

/-- The reply goes to the hardware address in the packet, whatever the frame came from. -/
structure ArpReturned (mac : Mac) (before after : Octets) : Prop where
  etherDst : after.slice 0 6 = before.slice 22 6
  etherSrc : after.slice 6 6 = mac.octets
  operation : after.word 20 = 2
  senderHardware : after.slice 22 6 = mac.octets
  targetHardware : after.slice 32 6 = before.slice 22 6
  protocols : Exchanged 28 38 4 before after
  rest : SameOn (fun i => 12 ≤ i ∧ i < 20 ∨ 42 ≤ i) before after

/-- What becomes of a frame with given headers that goes back at its own length. -/
def Returned (mac : Mac) (before after : Octets) : Headers → Prop
  | .arp => ArpReturned mac before after
  | .ipv4 .udp => Datagram4Returned before after
  | .ipv4 .icmp => Echo4Returned before after
  | .ipv6 .udp => Datagram6Returned before after
  | .ipv6 .icmpv6 => Echo6Returned before after
  -- These have no responder.
  | .ipv4 .tcp | .ipv4 .icmpv6 | .ipv6 .tcp | .ipv6 .icmp => False

namespace Request

variable {g : Octets} {mac : Mac} {capacity : Nat} {r : Request}

theorem returned_arpReply (mac : Mac) (packet : ArpPacket g) :
    ArpReturned mac g (arpReply mac g) := by
  have long := packet.contained
  have requester : (g.slice 22 6).length = 6 := length_slice (by omega)
  have sender : (g.slice 28 4).length = 4 := length_slice (by omega)
  have target : (g.slice 38 4).length = 4 := length_slice (by omega)
  have hardware := mac.size_eq
  have word : (ofWord 2).length = 2 := rfl
  refine ⟨?etherDst, ?etherSrc, operation_arpReply mac packet, ?senderHardware, ?targetHardware,
    ⟨?senderProtocol, ?targetProtocol⟩, sameOn_arpReply mac packet⟩
  -- Each field is the value of one write, and all later writes are beside it.
  all_goals
    simp (disch := first | omega | (simp only [length_put]; omega)) only
      [arpReply, slice_put_apart, slice_put_same]

theorem returned_datagram4Reply (found : (Headers.ipv4 .udp).Found g) :
    Datagram4Returned g (datagram4Reply g) := by
  have header := found.1.toIpv4Header
  have minimum := header.minimum
  have long := length_of_found4 found
  have start : (ipv4Message g).start = 14 + ipv4HeaderLength g := rfl
  have turned := sameOn_turnPorts (ipv4Message g) g
  have ports : Exchanged (14 + ipv4HeaderLength g) (16 + ipv4HeaderLength g) 2 g
      (g.turnPorts (ipv4Message g)) := by
    have place : 16 + ipv4HeaderLength g = (ipv4Message g).start + 2 := by omega
    rw [place]
    exact exchanged_exchange (Nat.le_refl _) (by omega)
  refine ⟨ipv4Returned_back header (turned.mono fun i _ => by omega), ?_,
    sameOn_datagram4Reply header⟩
  exact ports.of_after (sameOn_back4 g _) (fun i _ _ => by omega) (fun i _ _ => by omega)

theorem returned_echo4Reply (found : (Headers.ipv4 .icmp).Found g) :
    Echo4Returned g (echo4Reply g) := by
  have header := found.1.toIpv4Header
  have minimum := header.minimum
  have fits := found.2.2.long
  have within := (within_ipv4Message found).start_add_length
  have start : (ipv4Message g).start = 14 + ipv4HeaderLength g := rfl
  have typed := sameOn_put g (14 + ipv4HeaderLength g) [0]
  have filled := sameOn_fillIcmp (ipv4Message g) (g.put (14 + ipv4HeaderLength g) [0])
  have edited : SameOn (fun i => i < 14 + ipv4HeaderLength g) g
      ((g.put (14 + ipv4HeaderLength g) [0]).fillIcmp (ipv4Message g)) :=
    (typed.mono fun i _ => by omega).trans (filled.mono fun i _ => by omega)
  have back := sameOn_back4 g ((g.put (14 + ipv4HeaderLength g) [0]).fillIcmp (ipv4Message g))
  have stored := word_fillIcmp (s := ipv4Message g) (g := g.put (14 + ipv4HeaderLength g) [0])
    (by omega) (by rw [length_put]; omega)
  refine ⟨ipv4Returned_back header (edited.mono fun i _ => by omega), type_echo4Reply found, ?_,
    sameOn_echo4Reply header⟩
  have place : 16 + ipv4HeaderLength g = (ipv4Message g).start + 2 := by omega
  rw [place, echo4Reply, back.word (by omega) (by omega), back.slice fun i _ _ => by omega]
  exact stored

theorem returned_datagram6Reply (found : (Headers.ipv6 .udp).Found g) :
    Datagram6Returned g (datagram6Reply g) := by
  have long := length_of_found6 found
  have start : (ipv6Message g).start = 54 := rfl
  have span : ipv6Span.start = 14 := rfl
  have turned := sameOn_turnPorts (ipv6Message g) g
  have addressed := sameOn_turnIpv6 ipv6Span (g.turnPorts (ipv6Message g))
  have ports : Exchanged 54 56 2 g (g.turnPorts (ipv6Message g)) :=
    exchanged_exchange (by decide) (by omega)
  have ether : SameOn (fun i => i < 12) g ((g.turnPorts (ipv6Message g)).turnIpv6 ipv6Span) :=
    (turned.mono fun i _ => by omega).trans (addressed.mono fun i _ => by omega)
  have addresses : Exchanged 22 38 16 g ((g.turnPorts (ipv6Message g)).turnIpv6 ipv6Span) :=
    exchanged_turnIpv6 (by omega) (turned.mono fun i _ => by omega)
  refine ⟨ipv6Returned_turnEther (by omega) ether addresses, ?_, sameOn_datagram6Reply g⟩
  exact ports.of_after (sameOn_back6 _) (fun i _ _ => by omega) (fun i _ _ => by omega)

theorem returned_echo6Reply (found : (Headers.ipv6 .icmpv6).Found g) :
    Echo6Returned g (echo6Reply g) := by
  have long := length_of_found6 found
  have fits := found.2.2.long
  have within := (within_ipv6Message found).start_add_length
  have start : (ipv6Message g).start = 54 := rfl
  have span : ipv6Span.start = 14 := rfl
  have turned := sameOn_turnIpv6 ipv6Span g
  have typed := sameOn_put (g.turnIpv6 ipv6Span) 54 [129]
  have filled := sameOn_fillIcmpv6 (g.slice 38 16) (g.slice 22 16) (ipv6Message g)
    ((g.turnIpv6 ipv6Span).put 54 [129])
  have later : SameOn (fun i => i < 54) (g.turnIpv6 ipv6Span)
      (fillIcmpv6 (g.slice 38 16) (g.slice 22 16) (ipv6Message g)
        ((g.turnIpv6 ipv6Span).put 54 [129])) :=
    (typed.mono fun i _ => by omega).trans (filled.mono fun i _ => by omega)
  have addresses := (exchanged_turnIpv6 (g := g) (by omega) (.refl _ g)).of_after later
    (fun i _ _ => by omega) (fun i _ _ => by omega)
  have returned : Ipv6Returned g (echo6Reply g) :=
    ipv6Returned_turnEther (by omega)
      ((turned.mono fun i _ => by omega).trans (later.mono fun i _ => by omega)) addresses
  have stored := word_fillIcmpv6 (g.slice 38 16) (g.slice 22 16) (s := ipv6Message g)
    (g := (g.turnIpv6 ipv6Span).put 54 [129]) (by omega) (by rw [length_put, length_turnIpv6]; omega)
  have ether := sameOn_turnEther (fillIcmpv6 (g.slice 38 16) (g.slice 22 16) (ipv6Message g)
    ((g.turnIpv6 ipv6Span).put 54 [129]))
  refine ⟨returned, type_echo6Reply found, ?_, sameOn_echo6Reply g⟩
  -- The checksum was filled in between the addresses that the header has now.
  rw [returned.addresses.atFirst, returned.addresses.atSecond, echo6Reply,
    ether.word (by omega) (by omega), ether.slice fun i _ _ => by omega]
  exact stored

theorem returned_reply (mac : Mac) (made : r.Made g capacity) (other : r ≠ .solicitation) :
    Returned mac g (r.reply mac g) r.headers := by
  have found := made.found
  cases r with
  | arp => exact returned_arpReply mac found
  | datagram4 => exact returned_datagram4Reply found
  | echo4 => exact returned_echo4Reply found
  | datagram6 => exact returned_datagram6Reply found
  | echo6 => exact returned_echo6Reply found
  | solicitation => exact absurd rfl other

end Request

/-- A frame that is forwarded as a whole, and not answered with an advertisement, changes in the
bytes that its kind of request turns around and in no other. -/
theorem forwarded_changes_exactly (mac : Mac) {slot : Slot}
    (forwarded : ((Answer.frame mac).run (ofSlot slot)).1 = .forward)
    (other : ¬ Advertised slot.frame ((Answer.frame mac).run (ofSlot slot))) :
    ∃ h, (ofSlot slot).parse.1 = .ok h ∧
      Returned mac slot.frame ((Answer.frame mac).run (ofSlot slot)).2.frame h := by
  obtain ⟨r, made, replied⟩ := reply_of_run_forward forwarded
  rcases ran : (Answer.frame mac).run (ofSlot slot) with ⟨verdict, c⟩
  rw [ran] at forwarded other replied
  cases forwarded
  refine ⟨r.headers, by rw [parse_of_found (c := ofSlot slot) made.found], ?_⟩
  have frame : c.frame = r.reply mac slot.frame := replied
  rw [frame]
  exact Request.returned_reply mac made fun same => other ((advertised_iff made).2 same)

def datagramSlot : Slot :=
  Slot.ofFrame ([2, 0, 0, 0, 0, 1, 2, 0, 0, 0, 0, 9, 8, 0] ++
    [0x46, 0, 0, 34, 0, 0, 0, 0, 64, 17, 0, 0, 10, 0, 0, 1, 10, 0, 0, 2, 1, 1, 1, 1] ++
    [0x30, 0x39, 0x12, 0x34, 0, 10, 0xab, 0xcd, 0x68, 0x69] ++ zeros 4) 0

theorem datagram_changes_exactly :
    let answer := (Answer.frame (Address.mac 2 0 0 0 0 1)).run (ofSlot datagramSlot)
    answer.1 = .forward ∧ ¬ Advertised datagramSlot.frame answer ∧
      Datagram4Returned datagramSlot.frame answer.2.frame := by
  intro answer
  have made : Request.datagram4.Made datagramSlot.frame datagramSlot.capacity := by decide +kernel
  obtain ⟨_, ran, _⟩ := run_of_made (Address.mac 2 0 0 0 0 1) made
  have forwarded : answer.1 = .forward := congrArg Prod.fst ran
  have other : ¬ Advertised datagramSlot.frame answer := by
    rintro ⟨_, found, _⟩
    exact absurd found (by decide +kernel)
  obtain ⟨h, parsed, returned⟩ := forwarded_changes_exactly _ forwarded other
  rw [parse_of_found (c := ofSlot datagramSlot) made.found] at parsed
  cases parsed
  exact ⟨forwarded, other, returned⟩

end Boomerang
