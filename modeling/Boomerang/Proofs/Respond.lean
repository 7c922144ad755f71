import Boomerang.Answer.Frame
import Boomerang.Proofs.Reply
import Boomerang.Proofs.Step
import Boomerang.Proofs.Walk

/-!
Running the responders. On a cursor whose walk found the headers of a request the responder finishes
with the reply in place of the view; on any other frame with these headers it gives up before the
first write. The headers are looked up again between the writes, so each write comes with the fact
that the bytes which decide them are kept.
-/

set_option autoImplicit false

namespace Boomerang

namespace Cursor

structure AtNetwork (c : Cursor) : Prop where
  room : c.l2 ≤ c.size
  l3 : c.l3 = some (c.l2 + 14)

structure AtMessage (c : Cursor) (start : Nat) : Prop extends AtNetwork c where
  l4 : c.l4 = some (c.l2 + start)

variable {c : Cursor} {g : Octets} {start : Nat} {t : Transport}

theorem room_withView (room : c.l2 ≤ c.size) (g : Octets) : c.l2 ≤ (c.withView g).size := by
  have front := length_front room
  rw [← length_frame, frame_withView, List.length_append]
  omega

theorem AtNetwork.withView (placed : c.AtNetwork) (g : Octets) : (c.withView g).AtNetwork :=
  ⟨room_withView placed.room g, placed.l3⟩

theorem AtMessage.withView (placed : c.AtMessage start) (g : Octets) :
    (c.withView g).AtMessage start :=
  ⟨placed.toAtNetwork.withView g, placed.l4⟩

theorem ether_withView (room : c.l2 ≤ c.size) (long : 14 ≤ g.length) :
    (c.withView g).ether = some (etherSpan.shift c.l2) :=
  ether_eq (by rwa [view_withView g room])

theorem arp_withView (placed : c.AtNetwork) (h : ArpPacket g) :
    (c.withView g).arp = some (arpSpan.shift c.l2) :=
  arp_eq placed.l3 (by rwa [view_withView g placed.room])

theorem ipv4_withView (placed : c.AtNetwork) (h : Ipv4Header g) :
    (c.withView g).ipv4 = some ((ipv4Span g).shift c.l2) := by
  have view := view_withView g placed.room
  rw [ipv4_eq (placed.withView g).l3 (by rwa [view]), view]
  rfl

theorem ipv6_withView (placed : c.AtNetwork) (h : Ipv6Header g) :
    (c.withView g).ipv6 = some (ipv6Span.shift c.l2) :=
  ipv6_eq (placed.withView g).l3 (by rwa [view_withView g placed.room])

theorem message4_withView (placed : c.AtMessage (14 + ipv4HeaderLength g))
    (found : (Headers.ipv4 t).Found g) :
    (c.withView g).message t = some ((ipv4Message g).shift c.l2) := by
  have view := view_withView g placed.room
  have moved := placed.withView g
  obtain ⟨datagram, named, fits⟩ := found
  have minimum := fits.minimum
  rw [← view] at datagram named
  refine message_eq_some_iff.2 ⟨moved.l4, ?_, ?_, ?_⟩
  · rw [nextProtocol_of_ipv4 moved.l3 datagram.toIpv4Header, named]
  · rw [datagramEnd_of_ipv4 moved.l3 datagram, view]
    rfl
  · simp only [Span.shift]
    omega

theorem message6_withView (placed : c.AtMessage 54) (found : (Headers.ipv6 t).Found g) :
    (c.withView g).message t = some ((ipv6Message g).shift c.l2) := by
  have view := view_withView g placed.room
  have moved := placed.withView g
  obtain ⟨datagram, named, fits⟩ := found
  have minimum := fits.minimum
  rw [← view] at datagram named
  refine message_eq_some_iff.2 ⟨moved.l4, ?_, ?_, ?_⟩
  · rw [nextProtocol_of_ipv6 moved.l3 datagram.toIpv6Header, named]
  · rw [datagramEnd_of_ipv6 moved.l3 datagram, view]
    rfl
  · simp only [Span.shift]
    omega

end Cursor

namespace Answer

open Octets Cursor Request

variable {c : Cursor} {g : Octets} {mac : Mac} {t : Transport}

/-! ## The way back -/

theorem turn4_done (placed : c.AtNetwork) (h : Ipv4Header g) :
    (do let ip ← find Cursor.ipv4
        swapIpv4Addresses ip
        swapEtherAddresses) (c.withView g) =
      .done () (c.withView ((g.turnIpv4 (ipv4Span g)).turnEther)) := by
  have frame : 14 ≤ (g.turnIpv4 (ipv4Span g)).length := by
    have := h.length
    rw [length_turnIpv4]
    omega
  rw [bind_done (find_done (ipv4_withView placed h)),
    bind_done (swapIpv4Addresses_view placed.room (long_ipv4Span h) (within_ipv4Span h)),
    swapEtherAddresses_view placed.room frame]

theorem turn6_done (placed : c.AtNetwork) (h : Ipv6Header g) :
    (do let ip ← find Cursor.ipv6
        swapIpv6Addresses ip
        swapEtherAddresses) (c.withView g) =
      .done () (c.withView ((g.turnIpv6 ipv6Span).turnEther)) := by
  have inside := h.inside
  have frame : 14 ≤ (g.turnIpv6 ipv6Span).length := by
    rw [length_turnIpv6]
    omega
  rw [bind_done (find_done (ipv6_withView placed h)),
    bind_done (swapIpv6Addresses_view placed.room (by decide) ⟨by decide, inside⟩),
    swapEtherAddresses_view placed.room frame]

/-- A reply of another length or origin has its Ethernet addresses written, not exchanged. -/
theorem readdress_done (room : c.l2 ≤ c.size) (long : 14 ≤ g.length) {dst src : Octets}
    (dstLength : dst.length = 6) (srcLength : src.length = 6) :
    (do let ether ← find Cursor.ether
        write ether 0 dst
        write ether 6 src) (c.withView g) =
      .done () (c.withView ((g.put 0 dst).put 6 src)) := by
  have toDst := write_view room (s := etherSpan) dst (show 0 + _ ≤ 14 by omega)
    ⟨by decide, long⟩
  have toSrc := write_view room (s := etherSpan) (g := g.put 0 dst) src (show 6 + _ ≤ 14 by omega)
    ⟨by decide, by rwa [length_put]⟩
  rw [bind_done (find_done (ether_withView room long)), bind_done toDst]
  exact toSrc

/-! ## Datagrams -/

theorem datagram4_done (placed : c.AtMessage (14 + ipv4HeaderLength g))
    (found : (Headers.ipv4 .udp).Found g) :
    datagram4 (c.withView g) = .done () (c.withView (datagram4Reply g)) := by
  have header := found.1.toIpv4Header
  have minimum := header.minimum
  have long := found.2.2.long
  have udp : (c.withView g).udp = _ := message4_withView placed found
  have ports := swap_view placed.room (show 0 + 2 ≤ (ipv4Message g).length by omega)
    (show 2 + 2 ≤ _ by omega) (within_ipv4Message found)
  have behind := le_start_ipv4Message header
  have kept := headKept_turnPorts (s := ipv4Message g) (by omega) g
  rw [datagram4, bind_done (find_done udp), bind_done ports]
  -- The IPv4 header is looked up again on the edited frame; the ports lie behind it.
  have back := turn4_done placed.toAtNetwork (kept.ipv4Header header)
  rw [kept.ipv4Span_eq] at back
  exact back

theorem datagram6_done (placed : c.AtMessage 54) (found : (Headers.ipv6 .udp).Found g) :
    datagram6 (c.withView g) = .done () (c.withView (datagram6Reply g)) := by
  have long := found.2.2.long
  have udp : (c.withView g).udp = _ := message6_withView placed found
  have ports := swap_view placed.room (show 0 + 2 ≤ (ipv6Message g).length by omega)
    (show 2 + 2 ≤ _ by omega) (within_ipv6Message found)
  have kept := headKept_turnPorts (s := ipv6Message g) (show 22 ≤ 54 by decide) g
  rw [datagram6, bind_done (find_done udp), bind_done ports]
  exact turn6_done placed.toAtNetwork (kept.ipv6Header found.1.toIpv6Header)

/-! ## Echo requests -/

theorem read_type {s : Span} (room : c.l2 ≤ c.size) (long : 8 ≤ s.length)
    (within : s.Within g.length) :
    read (s.shift c.l2) 0 1 (c.withView g) = .done [g.byte s.start] (c.withView g) := by
  have inside := within.inside
  have first : s.start < g.length := by
    simp only [Span.length] at long
    omega
  rw [read_view room (by omega) within, Nat.add_zero, slice_one first]

theorem echo4_done (placed : c.AtMessage (14 + ipv4HeaderLength g))
    (found : (Headers.ipv4 .icmp).Found g) (echo : g.byte (14 + ipv4HeaderLength g) = 8) :
    echo4 (c.withView g) = .done () (c.withView (echo4Reply g)) := by
  have room := placed.room
  have header := found.1.toIpv4Header
  have minimum := header.minimum
  have long := found.2.2.long
  have within := within_ipv4Message found
  have icmp : (c.withView g).icmp = _ := message4_withView placed found
  have type := read_type room long within
  have echo : [g.byte (ipv4Message g).start] = [8] := congrArg (fun b => [b]) echo
  have typed := write_view room [0] (show 0 + 1 ≤ (ipv4Message g).length by omega) within
  rw [Nat.add_zero] at typed
  have still : (ipv4Message g).Within (g.put (ipv4Message g).start [0]).length := by
    rwa [length_put]
  have filled := fun checksum =>
    write_view room (ofWord checksum) (show 2 + 2 ≤ (ipv4Message g).length by omega) still
  have behind := le_start_ipv4Message header
  have kept := headKept_fillIcmp (s := ipv4Message g) (by omega) g 0
  rw [echo4, bind_done (find_done icmp), bind_done type, bind_done (require_done (by simp [echo])),
    bind_done typed, bind_done (readAll_view room still),
    bind_done (filled _)]
  have back := turn4_done placed.toAtNetwork (kept.ipv4Header header)
  rw [kept.ipv4Span_eq] at back
  exact back

theorem echo4_dropped (placed : c.AtMessage (14 + ipv4HeaderLength g))
    (found : (Headers.ipv4 .icmp).Found g) (other : g.byte (14 + ipv4HeaderLength g) ≠ 8) :
    echo4 (c.withView g) = .dropped (c.withView g) := by
  have icmp : (c.withView g).icmp = _ := message4_withView placed found
  have type := read_type placed.room (found.2.2.long) (within_ipv4Message found)
  have other : ¬ [g.byte (ipv4Message g).start] = [8] :=
    fun same => other (List.singleton_inj.1 same)
  rw [echo4, bind_done (find_done icmp), bind_done type,
    bind_dropped (require_dropped (by simp [other]))]

theorem echo6_done (placed : c.AtMessage 54) (found : (Headers.ipv6 .icmpv6).Found g) :
    echo6 (c.withView g) = .done () (c.withView (echo6Reply g)) := by
  have room := placed.room
  have header := found.1.toIpv6Header
  have inside := header.inside
  have long := found.2.2.long
  have span : ipv6Span.Within g.length := ⟨by decide, inside⟩
  have turned : HeadKept g (g.turnIpv6 ipv6Span) :=
    (sameOn_turnIpv6 ipv6Span g).mono fun i head => by
      simp only [ipv6Span]
      omega
  -- The new checksum is taken between the addresses as they stand after the exchange.
  have spanTurned : ipv6Span.Within (g.turnIpv6 ipv6Span).length := by rwa [turned.length]
  have src := read_view room (show 8 + 16 ≤ ipv6Span.length by decide) spanTurned
  have dst := read_view room (show 24 + 16 ≤ ipv6Span.length by decide) spanTurned
  rw [slice_turnIpv6_src inside] at src
  rw [slice_turnIpv6_dst inside] at dst
  have icmpv6 : (c.withView (g.turnIpv6 ipv6Span)).icmpv6 = _ :=
    message6_withView placed (turned.found6 found (by decide))
  rw [turned.ipv6Message_eq] at icmpv6
  have within : (ipv6Message g).Within (g.turnIpv6 ipv6Span).length := by
    rw [turned.length]
    exact within_ipv6Message found
  have typed := write_view room [129] (show 0 + 1 ≤ (ipv6Message g).length by omega) within
  have filled := fun src dst => fillIcmpv6Checksum_view room src dst
    (show 4 ≤ (ipv6Message g).length by omega)
    (show Span.Within _ ((g.turnIpv6 ipv6Span).put ((ipv6Message g).start + 0) [129]).length by
      rwa [length_put])
  rw [echo6, bind_done (find_done (ipv6_withView placed.toAtNetwork header)),
    bind_done (swapIpv6Addresses_view room (by decide) span),
    bind_done (find_done (ipv6_withView placed.toAtNetwork (turned.ipv6Header header))),
    bind_done src, bind_done dst, bind_done (find_done icmpv6), bind_done typed,
    bind_done (filled _ _)]
  refine swapEtherAddresses_view room ?_
  rw [length_fillIcmpv6, length_put, length_turnIpv6]
  omega

/-! ## ARP -/

theorem slice_eq_arpRequestHead_iff (long : 42 ≤ g.length) :
    g.slice 14 8 = arpRequestHead ↔ ArpRequest g := by
  -- The program compares eight bytes at once, the fields of a request are words and bytes.
  have bytes : g.slice 14 8 = [g.byte 14, g.byte 15, g.byte 16, g.byte 17, g.byte 18, g.byte 19,
      g.byte 20, g.byte 21] := by
    repeat rw [slice_succ (by omega)]
    rw [slice_zero]
  rw [bytes, arpRequestHead]
  simp only [List.cons.injEq, and_true]
  constructor
  · rintro ⟨a, b, c, d, e, f, h, i⟩
    exact ⟨word_eq_iff.2 ⟨a, b⟩, word_eq_iff.2 ⟨c, d⟩, e, f, word_eq_iff.2 ⟨h, i⟩⟩
  · rintro ⟨hardware, protocol, e, f, operation⟩
    obtain ⟨a, b⟩ := word_eq_iff.1 hardware
    obtain ⟨c, d⟩ := word_eq_iff.1 protocol
    obtain ⟨h, i⟩ := word_eq_iff.1 operation
    exact ⟨a, b, c, d, e, f, h, i⟩

theorem within_arpSpan {x : Octets} (packet : ArpPacket g) (same : x.length = g.length) :
    arpSpan.Within x.length :=
  ⟨by decide, by rw [same]; exact packet.contained⟩

theorem read_arp (room : c.l2 ≤ c.size) (packet : ArpPacket g) {position count : Nat}
    (fits : position + count ≤ 28) :
    read (arpSpan.shift c.l2) position count (c.withView g) =
      .done (g.slice (14 + position) count) (c.withView g) :=
  read_view room fits (within_arpSpan packet rfl)

theorem arp_done (placed : c.AtNetwork) (packet : ArpPacket g) (asked : ArpRequest g) :
    arp mac (c.withView g) = .done () (c.withView (arpReply mac g)) := by
  have room := placed.room
  have long := packet.contained
  have head := read_arp room packet (show 0 + 8 ≤ 28 by decide)
  rw [(slice_eq_arpRequestHead_iff long).2 asked] at head
  have requester := read_arp room packet (show 8 + 6 ≤ 28 by decide)
  have sender := read_arp room packet (show 14 + 4 ≤ 28 by decide)
  have target := read_arp room packet (show 24 + 4 ≤ 28 by decide)
  -- All fields are read before the first write, so the writes may come in any order.
  have requesterLength : (g.slice (14 + 8) 6).length = 6 := length_slice (by omega)
  have senderLength : (g.slice (14 + 14) 4).length = 4 := length_slice (by omega)
  have targetLength : (g.slice (14 + 24) 4).length = 4 := length_slice (by omega)
  have hardware := mac.size_eq
  have writes : ∀ x : Octets, x.length = g.length → ∀ position value,
      position + value.length ≤ 28 → write (arpSpan.shift c.l2) position value (c.withView x) =
        .done () (c.withView (x.put (14 + position) value)) := by
    intro x same position value fits
    exact write_view room value fits (within_arpSpan packet same)
  rw [arp, bind_done (find_done (arp_withView placed packet)), bind_done head,
    bind_done (require_done (by decide)), bind_done requester, bind_done sender, bind_done target,
    bind_done (writes g rfl 6 (ofWord 2) (by decide)),
    bind_done (writes _ (by simp) 14 _ (by omega)),
    bind_done (writes _ (by simp) 24 _ (by omega)),
    bind_done (writes _ (by simp) 18 _ (by omega)),
    bind_done (writes _ (by simp) 8 mac.octets (by omega))]
  exact readdress_done room (by simp; omega) requesterLength hardware

theorem arp_dropped (mac : Mac) (placed : c.AtNetwork) (packet : ArpPacket g)
    (other : ¬ ArpRequest g) : arp mac (c.withView g) = .dropped (c.withView g) := by
  have head := read_arp placed.room packet (show 0 + 8 ≤ 28 by decide)
  have other : ¬ g.slice (14 + 0) 8 = arpRequestHead := fun same =>
    other ((slice_eq_arpRequestHead_iff packet.contained).1 same)
  rw [arp, bind_done (find_done (arp_withView placed packet)), bind_done head,
    bind_dropped (require_dropped (by simpa using other))]

end Answer

end Boomerang
