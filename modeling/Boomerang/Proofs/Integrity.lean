import Boomerang.Proofs.Checksum
import Boomerang.Proofs.Kept
import Boomerang.Proofs.Reflect

/-!
Checksums of forwarded frames. A rewritten header or message carries a checksum that verifies, over
exactly the bytes that its datagram declares; the sum over a UDP datagram and its pseudo-header does
not change, so its checksum is as good as it was received.
-/

set_option autoImplicit false

namespace Boomerang

open Octets Checksum

/-- The IPv4 header verifies, options included. -/
def Ipv4HeaderVerifies (g : Octets) : Prop :=
  fold (words (g.slice 14 (ipv4HeaderLength g))) = 0xffff

/-- The ICMP message verifies as far as the IPv4 header declares it. -/
def IcmpVerifies (g : Octets) : Prop :=
  fold (words (g.slice (ipv4Message g).start (ipv4Message g).length)) = 0xffff

/-- The ICMPv6 message verifies, behind the pseudo-header of its own addresses and length. -/
def Icmpv6Verifies (g : Octets) : Prop :=
  fold (pseudo6 (g.slice 22 16) (g.slice 38 16) 58 (UInt32.ofNat (ipv6PayloadLength g)) +
    words (g.slice 54 (ipv6PayloadLength g))) = 0xffff

/-- The folded sum of the first `n` bytes of a UDP datagram over IPv4 and of its pseudo-header. -/
def udpSum4 (g : Octets) (n : Nat) : UInt16 :=
  fold (pseudo4 (g.slice 26 4) (g.slice 30 4) 17 (UInt16.ofNat n) +
    words (g.slice (ipv4Message g).start n))

def udpSum6 (g : Octets) (n : Nat) : UInt16 :=
  fold (pseudo6 (g.slice 22 16) (g.slice 38 16) 17 (UInt32.ofNat n) +
    words (g.slice (ipv6Message g).start n))

/-- What an answer makes of the checksums of the frame `before`. -/
structure ChecksumsHold (before after : Octets) : Prop where
  headers : ∀ h : Headers, h.Found before → h.Found after
  ipv4 : before.word 12 = 0x0800 → Ipv4HeaderVerifies after
  icmp : (Headers.ipv4 .icmp).Found before → IcmpVerifies after
  icmpv6 : (Headers.ipv6 .icmpv6).Found before → Icmpv6Verifies after
  udp4 : (Headers.ipv4 .udp).Found before →
    after.slice ((ipv4Message before).start + 6) 2 =
        before.slice ((ipv4Message before).start + 6) 2 ∧
      ∀ n, 8 ≤ n → n ≤ (ipv4Message before).length → udpSum4 after n = udpSum4 before n
  udp6 : (Headers.ipv6 .udp).Found before →
    after.slice ((ipv6Message before).start + 6) 2 =
        before.slice ((ipv6Message before).start + 6) 2 ∧
      ∀ n, 8 ≤ n → n ≤ (ipv6Message before).length → udpSum6 after n = udpSum6 before n

/-! ## IPv4 headers -/

variable {g : Octets}

/-- The checksum that comes with the exchanged addresses verifies, whatever the message became. -/
theorem ipv4Header_verifies {x : Octets} (header : Ipv4Header x) (span : ipv4Span x = ipv4Span g) :
    Ipv4HeaderVerifies ((x.turnIpv4 (ipv4Span g)).turnEther) := by
  have minimum := header.minimum
  have inside := header.inside
  have most := ipv4HeaderLength_le x
  have kept : HeadKept x ((x.turnIpv4 (ipv4Span g)).turnEther) :=
    (Request.sameOn_back4 g x).mono fun i _ => by omega
  have length := length_ipv4Span x
  have start : (ipv4Span x).start = 14 := rfl
  have whole : ((x.exchange (14 + 12) (14 + 16) 4).slice 14 (ipv4HeaderLength x)).length =
      ipv4HeaderLength x := length_slice (by rwa [length_exchange])
  rw [Ipv4HeaderVerifies, kept.headerLength, (sameOn_turnEther _).slice (fun i low _ => by omega),
    ← span, turnIpv4, start, length,
    slice_put_inside (by decide) (by rw [length_ofWord]; omega) (by rwa [length_exchange])]
  exact fold_stored_zero (by decide) (by omega) (by omega)

/-! ## Messages -/

theorem fold_fillIcmp {x : Octets} {s : Span} (long : 4 ≤ s.length) (short : s.length ≤ 65535)
    (fits : s.start + s.length ≤ x.length) :
    fold (words ((fillIcmp s x).slice s.start s.length)) = 0xffff := by
  have whole : (x.slice s.start s.length).length = s.length := length_slice fits
  rw [fillIcmp, slice_put_inside (Nat.le_add_right _ _) (by rw [length_ofWord]; omega) fits,
    Nat.add_sub_cancel_left]
  exact fold_stored_zero (by decide) (by omega) (by omega)

theorem fold_fillIcmpv6 {x src dst : Octets} {s : Span} (long : 4 ≤ s.length)
    (short : s.length ≤ 65535) (fits : s.start + s.length ≤ x.length) (srcLength : src.length ≤ 16)
    (dstLength : dst.length ≤ 16) :
    fold (pseudo6 src dst 58 (UInt32.ofNat s.length) +
      words ((fillIcmpv6 src dst s x).slice s.start s.length)) = 0xffff := by
  have whole : (x.slice s.start s.length).length = s.length := length_slice fits
  rw [fillIcmpv6, slice_put_inside (Nat.le_add_right _ _) (by rw [length_ofWord]; omega) fits,
    Nat.add_sub_cancel_left, icmpv6, whole]
  exact fold_stored (by decide) (by omega) (by omega) (toNat_pseudo6_le srcLength dstLength _ _)

theorem icmp_verifies (found : (Headers.ipv4 .icmp).Found g) :
    IcmpVerifies (Request.echo4Reply g) := by
  have header := found.1.toIpv4Header
  have minimum := header.minimum
  have start : (ipv4Message g).start = 14 + ipv4HeaderLength g := rfl
  have within := within_ipv4Message found
  have kept : HeadKept g (Request.echo4Reply g) :=
    (Request.sameOn_echo4Reply header).mono fun i head => by omega
  have total := ipv4TotalLength_lt g
  have short : (ipv4Message g).length ≤ 65535 := by
    simp only [Span.length, ipv4Message]
    omega
  have fits : (ipv4Message g).start + (ipv4Message g).length ≤ g.length := by
    obtain ⟨ordered, inside⟩ := within
    simp only [Span.length]
    omega
  have long := found.2.2.long
  rw [IcmpVerifies, kept.ipv4Message_eq, Request.echo4Reply]
  -- The addresses are exchanged after the checksum is stored, but they are no part of the message.
  rw [(Request.sameOn_back4 g _).slice fun i low _ => by omega]
  exact fold_fillIcmp (by omega) short (by rwa [length_put])

theorem icmpv6Verifies_of_filled (src dst x : Octets) {after : Octets} {s : Span}
    (start : s.start = 54) (payload : ipv6PayloadLength after = s.length)
    (srcIs : after.slice 22 16 = src) (dstIs : after.slice 38 16 = dst)
    (message : after.slice 54 s.length = (fillIcmpv6 src dst s x).slice 54 s.length)
    (long : 4 ≤ s.length) (fits : 54 + s.length ≤ x.length) : Icmpv6Verifies after := by
  have short := ipv6PayloadLength_lt after
  have srcLength : src.length ≤ 16 := by
    rw [← srcIs, length_slice_eq]
    exact Nat.min_le_left _ _
  have dstLength : dst.length ≤ 16 := by
    rw [← dstIs, length_slice_eq]
    exact Nat.min_le_left _ _
  rw [Icmpv6Verifies, payload, srcIs, dstIs, message]
  rw [← start] at fits ⊢
  exact fold_fillIcmpv6 long (by omega) fits srcLength dstLength

theorem icmpv6_verifies_echo (found : (Headers.ipv6 .icmpv6).Found g) :
    Icmpv6Verifies (Request.echo6Reply g) := by
  have inside := found.1.inside
  have contained := found.1.contained
  have length := length_ipv6Message g
  have start : (ipv6Message g).start = 54 := rfl
  have long := found.2.2.long
  have kept : HeadKept g (Request.echo6Reply g) :=
    (Request.sameOn_echo6Reply g).mono fun i _ => by omega
  have typed : SameOn (fun i => 12 ≤ i ∧ i < 54) (g.turnIpv6 ipv6Span)
      ((g.turnIpv6 ipv6Span).put 54 [129]) := .put (.refl _ _) fun i _ => by omega
  have filled := sameOn_fillIcmpv6 (g.slice 38 16) (g.slice 22 16) (ipv6Message g)
    ((g.turnIpv6 ipv6Span).put 54 [129])
  have turned := sameOn_turnEther (fillIcmpv6 (g.slice 38 16) (g.slice 22 16) (ipv6Message g)
    ((g.turnIpv6 ipv6Span).put 54 [129]))
  have addresses : SameOn (fun i => 12 ≤ i ∧ i < 54) (g.turnIpv6 ipv6Span)
      (Request.echo6Reply g) :=
    typed.trans ((filled.mono fun i _ => by omega).trans (turned.mono fun i _ => by omega))
  refine icmpv6Verifies_of_filled (g.slice 38 16) (g.slice 22 16)
    ((g.turnIpv6 ipv6Span).put 54 [129]) start (kept.payloadLength.trans length.symm) ?_ ?_ ?_
    (by omega) ?_
  · rw [addresses.slice fun i _ _ => by omega]
    exact slice_turnIpv6_src inside
  · rw [addresses.slice fun i _ _ => by omega]
    exact slice_turnIpv6_dst inside
  · exact turned.slice fun i _ _ => by omega
  · rw [length_put, length_turnIpv6]
    omega

theorem icmpv6_verifies_advertisement {mac : Mac} {capacity : Nat}
    (made : Request.Made g capacity .solicitation) :
    Icmpv6Verifies (Request.advertisement mac g) := by
  have long := Request.length_of_solicitation made
  have width := Request.length_optioned mac long
  have kept := Request.sameOn_advertisement mac long
  have payload := (Request.headKept_advertisement mac long).payloadLength
  rw [Request.payloadLength_addressed long width] at payload
  refine icmpv6Verifies_of_filled (g.slice 62 16) (Request.solicitor g).1
    (Request.described g (Request.optioned mac g)) (s := ⟨54, 86⟩) rfl payload ?_ ?_ ?_ (by decide)
    (by rw [Request.length_described, width]; decide)
  · exact (kept.slice fun i _ _ => by omega).trans (Request.src_addressed long width)
  · exact (kept.slice fun i _ _ => by omega).trans (Request.dst_addressed long width)
  · rw [Request.advertisement_eq long]
    exact (Request.sameOn_readdressed (by omega) _).slice fun i _ _ => by omega

/-! ## Datagrams -/

theorem words_turnPorts {s : Span} {n : Nat} (long : 4 ≤ n) (fits : s.start + n ≤ g.length) :
    words ((g.turnPorts s).slice s.start n) = words (g.slice s.start n) := by
  have whole : (g.slice s.start n).length = n := length_slice fits
  have inside := slice_exchange_inside (show 0 + 2 ≤ n by omega) (show 2 + 2 ≤ n by omega) fits
  rw [Nat.add_zero] at inside
  rw [turnPorts, inside, words_exchange_ports (by omega)]

theorem udpSum4_reply (found : (Headers.ipv4 .udp).Found g) {n : Nat} (low : 8 ≤ n)
    (high : n ≤ (ipv4Message g).length) :
    udpSum4 (Request.datagram4Reply g) n = udpSum4 g n := by
  have header := found.1.toIpv4Header
  have minimum := header.minimum
  have start : (ipv4Message g).start = 14 + ipv4HeaderLength g := rfl
  obtain ⟨ordered, inside⟩ := within_ipv4Message found
  simp only [Span.length] at high
  have kept : HeadKept g (Request.datagram4Reply g) :=
    (Request.sameOn_datagram4Reply header).mono fun i _ => by omega
  have ports := sameOn_turnPorts (ipv4Message g) g
  obtain ⟨src, dst⟩ := Request.slice_back4 g (x := g.turnPorts (ipv4Message g))
    (by rw [length_turnPorts]; exact header.length)
  rw [ports.slice fun i _ _ => by omega] at src dst
  have sum := words_turnPorts (g := g) (s := ipv4Message g) (show 4 ≤ n by omega) (by omega)
  rw [udpSum4, kept.ipv4Message_eq, Request.datagram4Reply, src, dst,
    (Request.sameOn_back4 g _).slice fun i _ _ => by omega, sum, pseudo4_comm, udpSum4]

theorem udpSum6_reply (found : (Headers.ipv6 .udp).Found g) {n : Nat} (low : 8 ≤ n)
    (high : n ≤ (ipv6Message g).length) :
    udpSum6 (Request.datagram6Reply g) n = udpSum6 g n := by
  have start : (ipv6Message g).start = 54 := rfl
  obtain ⟨ordered, inside⟩ := within_ipv6Message found
  simp only [Span.length] at high
  have kept : HeadKept g (Request.datagram6Reply g) :=
    (Request.sameOn_datagram6Reply g).mono fun i _ => by omega
  have ports := sameOn_turnPorts (ipv6Message g) g
  obtain ⟨src, dst⟩ := Request.slice_back6 (x := g.turnPorts (ipv6Message g))
    (by rw [length_turnPorts]; exact found.1.inside)
  rw [ports.slice fun i _ _ => by omega] at src dst
  have sum := words_turnPorts (g := g) (s := ipv6Message g) (show 4 ≤ n by omega) (by omega)
  rw [udpSum6, kept.ipv6Message_eq, Request.datagram6Reply, src, dst,
    (Request.sameOn_back6 _).slice fun i _ _ => by omega, sum, pseudo6_comm, udpSum6]

/-! ## All replies -/

theorem ipv4_verifies {mac : Mac} {capacity : Nat} {r : Request} (made : r.Made g capacity)
    (etherType : g.word 12 = 0x0800) : Ipv4HeaderVerifies (r.reply mac g) := by
  have found := made.found
  cases r with
  | arp => exact absurd (etherType.symm.trans found.etherType) (by decide)
  | datagram4 =>
    have header := found.1.toIpv4Header
    have behind := le_start_ipv4Message header
    rw [Request.reply, Request.datagram4Reply]
    have kept := headKept_turnPorts (s := ipv4Message g) (by omega) g
    exact ipv4Header_verifies (kept.ipv4Header header) kept.ipv4Span_eq
  | echo4 =>
    have header := found.1.toIpv4Header
    have behind := le_start_ipv4Message header
    rw [Request.reply, Request.echo4Reply]
    have kept := headKept_fillIcmp (s := ipv4Message g) (by omega) g 0
    exact ipv4Header_verifies (kept.ipv4Header header) kept.ipv4Span_eq
  | datagram6 | echo6 | solicitation =>
    exact absurd (etherType.symm.trans found.1.etherType) (by decide)

theorem checksums_reply {mac : Mac} {capacity : Nat} {r : Request} (made : r.Made g capacity) :
    ChecksumsHold g (r.reply mac g) := by
  -- The headers that were found settle which request was made, up to two kinds over ICMPv6.
  have only : ∀ {h : Headers}, h.Found g → h = r.headers := fun found =>
    Headers.found_unique found made.found
  refine ⟨?_, ipv4_verifies made, ?_, ?_, ?_, ?_⟩
  · intro h found
    rw [only found]
    exact Request.found_reply made
  · intro found
    have same := only found
    cases r with
    | echo4 => exact icmp_verifies found
    | arp | datagram4 | datagram6 | echo6 | solicitation => cases same
  · intro found
    have same := only found
    cases r with
    | echo6 => exact icmpv6_verifies_echo found
    | solicitation => exact icmpv6_verifies_advertisement made
    | arp | datagram4 | echo4 | datagram6 => cases same
  · intro found
    have same := only found
    cases r with
    | datagram4 =>
      have header := found.1.toIpv4Header
      have minimum := header.minimum
      have start : (ipv4Message g).start = 14 + ipv4HeaderLength g := rfl
      exact ⟨(Request.sameOn_datagram4Reply header).slice fun i _ _ => by omega,
        fun n low high => udpSum4_reply found low high⟩
    | arp | echo4 | datagram6 | echo6 | solicitation => cases same
  · intro found
    have same := only found
    cases r with
    | datagram6 =>
      have start : (ipv6Message g).start = 54 := rfl
      exact ⟨(Request.sameOn_datagram6Reply g).slice fun i _ _ => by omega,
        fun n low high => udpSum6_reply found low high⟩
    | arp | echo4 | datagram4 | echo6 | solicitation => cases same

/-! ## Forwarded frames -/

theorem outer_verifies {front : Octets} (header : Ipv4Header front) (received size : Nat)
    (g : Octets) : Ipv4HeaderVerifies (turnOuter received size front ++ g) := by
  have long := header.length
  have resized : SameOn (fun i => 12 ≤ i ∧ i < 15) front (resizeOuter received size front) :=
    (sameOn_resizeOuter received size front).mono fun i _ => by omega
  have turned : SameOn (fun i => 12 ≤ i ∧ i < 15) front (turnOuter received size front) :=
    resized.trans ((Request.sameOn_back4 front _).mono fun i _ => by omega)
  have span : ipv4Span (resizeOuter received size front) = ipv4Span front := by
    rw [ipv4Span, ipv4HeaderLength_of_sameOn resized, ipv4Span]
  have verifies := ipv4Header_verifies (ipv4Header_of_sameOn resized header) span
  -- All of the header lies in front of the inner frame, so the inner frame is not counted.
  have inside := (ipv4Header_of_sameOn turned header).inside
  have first : ipv4HeaderLength (turnOuter received size front ++ g) =
      ipv4HeaderLength (turnOuter received size front) := by
    rw [ipv4HeaderLength, byte_append_left (by rw [length_turnOuter]; omega), ipv4HeaderLength]
  rw [Ipv4HeaderVerifies, first, slice_append_left inside]
  exact verifies

/-- Every checksum of a forwarded frame holds: that of an outer IPv4 header over all of it, and
those of the answered frame, which is the one inside the tunnel if there is a tunnel. -/
theorem forwarded_checksums_hold (mac : Mac) (port : UInt16) (slot : Slot)
    (forwarded : (reflect mac port slot).verdict = .forward) :
    let before := slot.frame
    let after := (reflect mac port slot).cursor.frame
    (Tunnelled port before →
        Ipv4HeaderVerifies after ∧
          ChecksumsHold (before.drop (tunnelLength before)) (after.drop (tunnelLength before))) ∧
      (¬ Tunnelled port before → ChecksumsHold before after) := by
  dsimp only
  rcases reply_of_forward forwarded with ⟨tunnelled, r, made, answer⟩ | ⟨plain, r, made, answer⟩
  · rw [answer, drop_tunnelReply made.found]
    refine ⟨fun _ => ⟨?_, checksums_reply made⟩, fun plain => absurd tunnelled plain⟩
    exact outer_verifies (ipv4Header_front tunnelled) _ _ _
  · rw [answer]
    exact ⟨fun tunnelled => absurd tunnelled plain, fun _ => checksums_reply made⟩

theorem solicited_checksums_hold :
    let mac := Address.mac 2 0 0 0 0 1
    let after := (reflect mac 4789 (solicitedSlot 0 8)).cursor.frame
    (reflect mac 4789 (solicitedSlot 0 8)).verdict = .forward ∧
      Ipv4HeaderVerifies after ∧ Icmpv6Verifies (after.drop 50) := by
  have forwarded : (reflect (Address.mac 2 0 0 0 0 1) 4789 (solicitedSlot 0 8)).verdict =
      .forward := verdict_of_reflectable (by decide +kernel)
  have tunnelled : Tunnelled 4789 (solicitedSlot 0 8).frame := by decide +kernel
  have tunnel : tunnelLength (solicitedSlot 0 8).frame = 50 := by decide +kernel
  have found : (Headers.ipv6 .icmpv6).Found ((solicitedSlot 0 8).frame.drop 50) := by
    decide +kernel
  have holds := (forwarded_checksums_hold _ 4789 (solicitedSlot 0 8) forwarded).1 tunnelled
  rw [tunnel] at holds
  exact ⟨forwarded, holds.1, holds.2.icmpv6 found⟩

end Boomerang
