import Boomerang.Proofs.Neighbor

/-!
What a reply keeps of its request. Between the Ethernet addresses and the message only addresses,
the IPv4 checksum, and the length and hop limit of an advertisement change, so a reply carries the
headers that its request carried.
-/

set_option autoImplicit false

namespace Boomerang.Request

open Octets

variable {g x : Octets} {mac : Mac} {capacity : Nat}

theorem sameOn_back4 (g x : Octets) :
    SameOn (fun i => 12 ≤ i ∧ i < 24 ∨ 34 ≤ i) x ((x.turnIpv4 (ipv4Span g)).turnEther) := by
  have start : (ipv4Span g).start = 14 := rfl
  refine ((sameOn_turnIpv4 (ipv4Span g) x).mono fun i _ => ?_).trans
    ((sameOn_turnEther _).mono fun i _ => ?_)
  · omega
  · omega

theorem sameOn_back6 (x : Octets) :
    SameOn (fun i => 12 ≤ i ∧ i < 22 ∨ 54 ≤ i) x ((x.turnIpv6 ipv6Span).turnEther) := by
  have start : ipv6Span.start = 14 := rfl
  refine ((sameOn_turnIpv6 ipv6Span x).mono fun i _ => ?_).trans
    ((sameOn_turnEther _).mono fun i _ => ?_)
  · omega
  · omega

theorem slice_back4 (g : Octets) (long : 34 ≤ x.length) :
    ((x.turnIpv4 (ipv4Span g)).turnEther).slice 26 4 = x.slice 30 4 ∧
      ((x.turnIpv4 (ipv4Span g)).turnEther).slice 30 4 = x.slice 26 4 := by
  have turned := sameOn_turnEther (x.turnIpv4 (ipv4Span g))
  constructor
  · exact (turned.slice fun i _ _ => by omega).trans (slice_turnIpv4_src long)
  · exact (turned.slice fun i _ _ => by omega).trans (slice_turnIpv4_dst long)

theorem slice_back6 (long : 54 ≤ x.length) :
    ((x.turnIpv6 ipv6Span).turnEther).slice 22 16 = x.slice 38 16 ∧
      ((x.turnIpv6 ipv6Span).turnEther).slice 38 16 = x.slice 22 16 := by
  have turned := sameOn_turnEther (x.turnIpv6 ipv6Span)
  constructor
  · exact (turned.slice fun i _ _ => by omega).trans (slice_turnIpv6_src long)
  · exact (turned.slice fun i _ _ => by omega).trans (slice_turnIpv6_dst long)

theorem sameOn_arpReply (mac : Mac) (packet : ArpPacket g) :
    SameOn (fun i => 12 ≤ i ∧ i < 20 ∨ 42 ≤ i) g (arpReply mac g) := by
  have long := packet.contained
  have requester : (g.slice 22 6).length = 6 := length_slice (by omega)
  have sender : (g.slice 28 4).length = 4 := length_slice (by omega)
  have target : (g.slice 38 4).length = 4 := length_slice (by omega)
  have hardware := mac.size_eq
  have word : (ofWord 2).length = 2 := rfl
  unfold arpReply
  refine .put (.put (.put (.put (.put (.put (.put (.refl _ g) ?_) ?_) ?_) ?_) ?_) ?_) ?_
  all_goals
    intro i kept
    omega

theorem sameOn_datagram4Reply (header : Ipv4Header g) :
    SameOn (fun i => 12 ≤ i ∧ i < 24 ∨
        34 ≤ i ∧ (i < 14 + ipv4HeaderLength g ∨ 18 + ipv4HeaderLength g ≤ i)) g
      (datagram4Reply g) := by
  have minimum := header.minimum
  have start : (ipv4Message g).start = 14 + ipv4HeaderLength g := rfl
  exact ((sameOn_turnPorts _ g).mono fun i _ => by omega).trans
    ((sameOn_back4 g _).mono fun i _ => by omega)

theorem sameOn_echo4Reply (header : Ipv4Header g) :
    SameOn (fun i => 12 ≤ i ∧ i < 24 ∨ 34 ≤ i ∧
        (i < 14 + ipv4HeaderLength g ∨ i = 15 + ipv4HeaderLength g ∨
          18 + ipv4HeaderLength g ≤ i)) g (echo4Reply g) := by
  have minimum := header.minimum
  have start : (ipv4Message g).start = 14 + ipv4HeaderLength g := rfl
  have typed : SameOn (fun i => i < 14 + ipv4HeaderLength g ∨ 15 + ipv4HeaderLength g ≤ i) g
      (g.put (14 + ipv4HeaderLength g) [0]) := by
    refine .put (.refl _ g) fun i _ => ?_
    rw [List.length_singleton]
    omega
  have filled := sameOn_fillIcmp (ipv4Message g) (g.put (14 + ipv4HeaderLength g) [0])
  exact ((typed.mono fun i _ => by omega).trans (filled.mono fun i _ => by omega)).trans
    ((sameOn_back4 g _).mono fun i _ => by omega)

theorem sameOn_datagram6Reply (g : Octets) :
    SameOn (fun i => 12 ≤ i ∧ i < 22 ∨ 58 ≤ i) g (datagram6Reply g) := by
  have start : (ipv6Message g).start = 54 := rfl
  exact ((sameOn_turnPorts _ g).mono fun i _ => by omega).trans
    ((sameOn_back6 _).mono fun i _ => by omega)

theorem sameOn_echo6Reply (g : Octets) :
    SameOn (fun i => 12 ≤ i ∧ i < 22 ∨ i = 55 ∨ 58 ≤ i) g (echo6Reply g) := by
  have ip : ipv6Span.start = 14 := rfl
  have start : (ipv6Message g).start = 54 := rfl
  refine ((sameOn_turnIpv6 ipv6Span g).mono fun i _ => by omega).trans ?_
  refine ((sameOn_put _ 54 [129]).mono fun i _ => by rw [List.length_singleton]; omega).trans ?_
  exact ((sameOn_fillIcmpv6 _ _ _ _).mono fun i _ => by omega).trans
    ((sameOn_turnEther _).mono fun i _ => by omega)

/-! ## Advertisements -/

/-- The solicitation with the option in its place, before anything is written over it. -/
def optioned (mac : Mac) (g : Octets) : Octets := g.slice 0 78 ++ linkOption mac

theorem length_optioned (mac : Mac) (long : 78 ≤ g.length) : (optioned mac g).length = 86 := by
  rw [optioned, List.length_append, length_linkOption, length_slice (by omega)]

theorem advertisement_eq (long : 78 ≤ g.length) :
    advertisement mac g =
      ((fillIcmpv6 (g.slice 62 16) (solicitor g).1 ⟨54, 86⟩ (described g (optioned mac g))).put 0
        (solicitor g).2.1).put 6 mac.octets := by
  rw [optioned, described_append long (length_slice (by omega)), advertisement]

theorem sameOn_described (g x : Octets) :
    SameOn (fun i => i < 54 ∨ 62 ≤ i) (addressed g x) (described g x) := by
  unfold described
  refine .put (.put (.put (.put (.refl _ _) ?_) ?_) ?_) ?_
  all_goals
    intro i kept
    simp only [List.length_cons, List.length_nil]
    omega

section

variable {x : Octets} (width : x.length = 86)
include width

theorem type_described : (described g x).byte 54 = 136 := by
  simp (disch := simp [width]) only [described, byte_put_apart, byte_put_one]

theorem code_described : (described g x).byte 55 = 0 := by
  simp (disch := simp [width]) only [described, byte_put_apart, byte_put_one]

theorem flags_described : (described g x).byte 58 = (solicitor g).2.2 := by
  simp (disch := simp [width]) only [described, byte_put_apart, byte_put_one]

theorem reserved_described : (described g x).slice 59 3 = [0, 0, 0] := by
  simp (disch := simp [width]) only [described, slice_put_same]

end

theorem sameOn_readdressed (long : 12 ≤ g.length) (x : Octets) :
    SameOn (fun i => 12 ≤ i) x ((x.put 0 (solicitor g).2.1).put 6 mac.octets) := by
  have dst := length_solicitorMac long
  have hardware := mac.size_eq
  refine .put (.put (.refl _ x) ?_) ?_
  all_goals
    intro i kept
    omega

theorem sameOn_announced (mac : Mac) (long : 78 ≤ g.length) :
    SameOn (fun i => 12 ≤ i ∧ i < 56 ∨ 58 ≤ i) (described g (optioned mac g))
      (advertisement mac g) := by
  have start : (⟨54, 86⟩ : Span).start = 54 := rfl
  rw [advertisement_eq long]
  exact ((sameOn_fillIcmpv6 _ _ ⟨54, 86⟩ _).mono fun i _ => by omega).trans
    ((sameOn_readdressed (by omega) _).mono fun i _ => by omega)

theorem sameOn_advertisement (mac : Mac) (long : 78 ≤ g.length) :
    SameOn (fun i => 12 ≤ i ∧ i < 54 ∨ 62 ≤ i) (addressed g (optioned mac g))
      (advertisement mac g) :=
  ((sameOn_described g _).mono fun i _ => by omega).trans
    ((sameOn_announced mac long).mono fun i _ => by omega)

theorem headKept_advertisement (mac : Mac) (long : 78 ≤ g.length) :
    HeadKept (addressed g (optioned mac g)) (advertisement mac g) :=
  (sameOn_advertisement mac long).mono fun i _ => by omega

theorem found_addressed_optioned (made : Made g capacity .solicitation) :
    (Headers.ipv6 .icmpv6).Found (addressed g (optioned mac g)) := by
  have long := length_of_solicitation made
  refine found_addressed long (length_optioned mac long)
    (ipv6Header_front long _ made.found.1.toIpv6Header) ?_
  rw [optioned, byte_front long _ (by decide), made.found.2.1]
  rfl

/-! ## Headers -/

theorem found_reply {r : Request} (made : r.Made g capacity) : r.headers.Found (r.reply mac g) := by
  have found := made.found
  -- The replies that keep the head keep its verdict; an advertisement writes a new length.
  cases r with
  | arp =>
    have kept := sameOn_arpReply mac found
    have length := kept.length
    exact ⟨(kept.word (by omega) (by omega)).trans found.etherType, length.symm ▸ found.contained⟩
  | datagram4 =>
    have kept := sameOn_datagram4Reply found.1.toIpv4Header
    have head : HeadKept g (datagram4Reply g) := kept.mono fun i _ => by omega
    exact head.found4 (kept.byte 23 (by omega)) found (by decide)
  | echo4 =>
    have kept := sameOn_echo4Reply found.1.toIpv4Header
    have head : HeadKept g (echo4Reply g) := kept.mono fun i _ => by omega
    exact head.found4 (kept.byte 23 (by omega)) found (by decide)
  | datagram6 =>
    exact HeadKept.found6 ((sameOn_datagram6Reply g).mono fun i _ => by omega) found (by decide)
  | echo6 =>
    exact HeadKept.found6 ((sameOn_echo6Reply g).mono fun i _ => by omega) found (by decide)
  | solicitation =>
    have long := length_of_solicitation made
    exact (headKept_advertisement mac long).found6 (found_addressed_optioned made) (by decide)

end Boomerang.Request
