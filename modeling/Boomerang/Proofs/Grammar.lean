import Boomerang.Cursor.Walk
import Boomerang.Proofs.Octets

/-!
What a frame carries, said of its bytes alone. Positions count from the Ethernet header of the
frame, so the same conditions describe a frame on the wire and a frame inside a tunnel.
-/

set_option autoImplicit false

namespace Boomerang

def ipv4HeaderLength (g : Octets) : Nat := 4 * ((g.byte 14).toNat % 16)

def ipv4TotalLength (g : Octets) : Nat := (g.word 16).toNat

def ipv6PayloadLength (g : Octets) : Nat := (g.word 18).toNat

def udpLength (g : Octets) : Nat := (g.word (18 + ipv4HeaderLength g)).toNat

/-- A well-formed IPv4 header behind the Ethernet header. -/
structure Ipv4Header (g : Octets) : Prop where
  etherType : g.word 12 = 0x0800
  version : (g.byte 14).toNat / 16 = 4
  minimum : 20 ≤ ipv4HeaderLength g
  inside : 14 + ipv4HeaderLength g ≤ g.length

structure Ipv4Whole (g : Octets) : Prop where
  last : (g.word 20).toNat / 0x2000 % 2 = 0
  first : (g.word 20).toNat % 0x2000 = 0

/-- An unfragmented IPv4 datagram that the frame holds entirely. -/
structure Ipv4Datagram (g : Octets) : Prop extends Ipv4Header g, Ipv4Whole g where
  covers : ipv4HeaderLength g ≤ ipv4TotalLength g
  contained : 14 + ipv4TotalLength g ≤ g.length

structure Ipv6Header (g : Octets) : Prop where
  etherType : g.word 12 = 0x86dd
  version : (g.byte 14).toNat / 16 = 6
  inside : 54 ≤ g.length

/-- An IPv6 datagram that the frame holds entirely. -/
structure Ipv6Datagram (g : Octets) : Prop extends Ipv6Header g where
  contained : 54 + ipv6PayloadLength g ≤ g.length

structure ArpPacket (g : Octets) : Prop where
  etherType : g.word 12 = 0x0806
  contained : 42 ≤ g.length

/-! ## Where the headers stand -/

structure Span.Within (s : Span) (size : Nat) : Prop where
  ordered : s.start ≤ s.stop
  inside : s.stop ≤ size

theorem Span.Within.start_add_length {s : Span} {size : Nat} (within : s.Within size) :
    s.start + s.length ≤ size := by
  rw [Span.length, Nat.add_sub_cancel' within.ordered]
  exact within.inside

def Span.shift (s : Span) (n : Nat) : Span := ⟨n + s.start, n + s.stop⟩

@[simp] theorem Span.length_shift (s : Span) (n : Nat) : (s.shift n).length = s.length := by
  simp only [Span.length, Span.shift]
  omega

def etherSpan : Span := ⟨0, 14⟩

def arpSpan : Span := ⟨14, 42⟩

def ipv4Span (g : Octets) : Span := ⟨14, 14 + ipv4HeaderLength g⟩

def ipv6Span : Span := ⟨14, 54⟩

def ipv4Message (g : Octets) : Span := ⟨14 + ipv4HeaderLength g, 14 + ipv4TotalLength g⟩

def ipv6Message (g : Octets) : Span := ⟨54, 54 + ipv6PayloadLength g⟩

/-- Bytes of the transport header, TCP options included. -/
def Transport.headerLength (t : Transport) (data : Octets) (start : Nat) : Nat :=
  match t with
  | .tcp => Cursor.tcpHeaderLength data start
  | .udp | .icmp | .icmpv6 => 8

/-- Long enough for a header of the protocol; a TCP header also lies inside its segment. -/
structure Transport.Fits (t : Transport) (g : Octets) (s : Span) : Prop where
  minimum : s.start + t.minLength ≤ s.stop
  tcp : t = .tcp →
    20 ≤ Cursor.tcpHeaderLength g s.start ∧ Cursor.tcpHeaderLength g s.start ≤ s.length

/-- The frame carries the given headers, each well-formed and inside the one before it. -/
def Headers.Found (g : Octets) : Headers → Prop
  | .arp => ArpPacket g
  | .ipv4 t => Ipv4Datagram g ∧ g.byte 23 = t.number ∧ t.Fits g (ipv4Message g)
  | .ipv6 t => Ipv6Datagram g ∧ g.byte 20 = t.number ∧ t.Fits g (ipv6Message g)

/-- IPv4 and UDP to the given port: the headers around a tunnelled frame. -/
structure Tunnelled (port : UInt16) (g : Octets) : Prop extends Ipv4Header g, Ipv4Whole g where
  udp : g.byte 23 = 17
  contained : 14 + ipv4HeaderLength g + 8 ≤ g.length
  destination : g.word (14 + ipv4HeaderLength g + 2) = port

/-- Where the frame inside a tunnel starts: behind the UDP and the VXLAN header. -/
def tunnelLength (g : Octets) : Nat := 14 + ipv4HeaderLength g + 16

/-! ## Deciding -/

variable {g : Octets}

instance : Decidable (Ipv4Header g) :=
  decidable_of_iff (g.word 12 = 0x0800 ∧ (g.byte 14).toNat / 16 = 4 ∧ 20 ≤ ipv4HeaderLength g ∧
      14 + ipv4HeaderLength g ≤ g.length)
    ⟨fun ⟨a, b, c, d⟩ => ⟨a, b, c, d⟩, fun ⟨a, b, c, d⟩ => ⟨a, b, c, d⟩⟩

instance : Decidable (Ipv4Whole g) :=
  decidable_of_iff ((g.word 20).toNat / 0x2000 % 2 = 0 ∧ (g.word 20).toNat % 0x2000 = 0)
    ⟨fun ⟨a, b⟩ => ⟨a, b⟩, fun ⟨a, b⟩ => ⟨a, b⟩⟩

instance : Decidable (Ipv4Datagram g) :=
  decidable_of_iff (Ipv4Header g ∧ Ipv4Whole g ∧ ipv4HeaderLength g ≤ ipv4TotalLength g ∧
      14 + ipv4TotalLength g ≤ g.length)
    ⟨fun ⟨a, b, c, d⟩ => ⟨a, b, c, d⟩, fun ⟨a, b, c, d⟩ => ⟨a, b, c, d⟩⟩

instance : Decidable (Ipv6Header g) :=
  decidable_of_iff (g.word 12 = 0x86dd ∧ (g.byte 14).toNat / 16 = 6 ∧ 54 ≤ g.length)
    ⟨fun ⟨a, b, c⟩ => ⟨a, b, c⟩, fun ⟨a, b, c⟩ => ⟨a, b, c⟩⟩

instance : Decidable (Ipv6Datagram g) :=
  decidable_of_iff (Ipv6Header g ∧ 54 + ipv6PayloadLength g ≤ g.length)
    ⟨fun ⟨a, b⟩ => ⟨a, b⟩, fun ⟨a, b⟩ => ⟨a, b⟩⟩

instance : Decidable (ArpPacket g) :=
  decidable_of_iff (g.word 12 = 0x0806 ∧ 42 ≤ g.length)
    ⟨fun ⟨a, b⟩ => ⟨a, b⟩, fun ⟨a, b⟩ => ⟨a, b⟩⟩

instance (t : Transport) (s : Span) : Decidable (t.Fits g s) :=
  decidable_of_iff (s.start + t.minLength ≤ s.stop ∧
      (t = .tcp →
        20 ≤ Cursor.tcpHeaderLength g s.start ∧ Cursor.tcpHeaderLength g s.start ≤ s.length))
    ⟨fun ⟨a, b⟩ => ⟨a, b⟩, fun ⟨a, b⟩ => ⟨a, b⟩⟩

instance : (h : Headers) → Decidable (h.Found g)
  | .arp => inferInstanceAs (Decidable (ArpPacket g))
  | .ipv4 t =>
    inferInstanceAs (Decidable (Ipv4Datagram g ∧ g.byte 23 = t.number ∧ t.Fits g (ipv4Message g)))
  | .ipv6 t =>
    inferInstanceAs (Decidable (Ipv6Datagram g ∧ g.byte 20 = t.number ∧ t.Fits g (ipv6Message g)))

instance (port : UInt16) : Decidable (Tunnelled port g) :=
  decidable_of_iff (Ipv4Header g ∧ Ipv4Whole g ∧ g.byte 23 = 17 ∧
      14 + ipv4HeaderLength g + 8 ≤ g.length ∧ g.word (14 + ipv4HeaderLength g + 2) = port)
    ⟨fun ⟨a, b, c, d, e⟩ => ⟨a, b, c, d, e⟩, fun ⟨a, b, c, d, e⟩ => ⟨a, b, c, d, e⟩⟩

/-! ## Bounds -/

theorem ipv4HeaderLength_le (g : Octets) : ipv4HeaderLength g ≤ 60 := by
  unfold ipv4HeaderLength
  omega

theorem ipv4TotalLength_lt (g : Octets) : ipv4TotalLength g < 65536 := (g.word 16).toNat_lt

theorem ipv6PayloadLength_lt (g : Octets) : ipv6PayloadLength g < 65536 := (g.word 18).toNat_lt

theorem Ipv4Header.length (h : Ipv4Header g) : 34 ≤ g.length := by
  have := h.minimum
  have := h.inside
  omega

theorem length_ipv4Span (g : Octets) : (ipv4Span g).length = ipv4HeaderLength g :=
  Nat.add_sub_cancel_left _ _

theorem length_ipv6Message (g : Octets) : (ipv6Message g).length = ipv6PayloadLength g :=
  Nat.add_sub_cancel_left _ _

theorem long_ipv4Span (h : Ipv4Header g) : 20 ≤ (ipv4Span g).length := by
  rw [length_ipv4Span]
  exact h.minimum

theorem within_ipv4Span (h : Ipv4Header g) : (ipv4Span g).Within g.length where
  ordered := Nat.le_add_right _ _
  inside := h.inside

theorem within_ipv4Message {t : Transport} (found : (Headers.ipv4 t).Found g) :
    (ipv4Message g).Within g.length where
  ordered := Nat.le_trans (Nat.le_add_right _ _) found.2.2.minimum
  inside := found.1.contained

theorem within_ipv6Message {t : Transport} (found : (Headers.ipv6 t).Found g) :
    (ipv6Message g).Within g.length where
  ordered := Nat.le_trans (Nat.le_add_right _ _) found.2.2.minimum
  inside := found.1.contained

theorem Transport.Fits.long {t : Transport} {s : Span} (fits : t.Fits g s) : 8 ≤ s.length := by
  have minimum := fits.minimum
  have least : 8 ≤ t.minLength := by cases t <;> decide
  simp only [Span.length]
  omega

theorem length_of_found4 {t : Transport} (found : (Headers.ipv4 t).Found g) :
    14 + ipv4HeaderLength g + 8 ≤ g.length := by
  have message : 8 ≤ (ipv4Message g).stop - (ipv4Message g).start := found.2.2.long
  have start : (ipv4Message g).start = 14 + ipv4HeaderLength g := rfl
  have inside := (within_ipv4Message found).inside
  omega

theorem length_of_found6 {t : Transport} (found : (Headers.ipv6 t).Found g) :
    62 ≤ g.length := by
  have message : 8 ≤ (ipv6Message g).stop - (ipv6Message g).start := found.2.2.long
  have start : (ipv6Message g).start = 54 := rfl
  have inside := (within_ipv6Message found).inside
  omega

theorem isFragment_eq_false_iff (data : Octets) (l3 : Nat) :
    isFragment data l3 = false ↔
      (data.word (l3 + 6)).toNat / 0x2000 % 2 = 0 ∧ (data.word (l3 + 6)).toNat % 0x2000 = 0 := by
  simp only [isFragment, bne_eq_false_iff_eq]
  omega

/-! ## One kind of headers -/

theorem Transport.number_injective {t u : Transport} (same : t.number = u.number) : t = u := by
  revert same
  cases t <;> cases u <;> decide

theorem Headers.found_unique {h k : Headers} (one : h.Found g) (other : k.Found g) : h = k := by
  have four : ∀ {t}, (Headers.ipv4 t).Found g → g.word 12 = 0x0800 := fun found => found.1.etherType
  have six : ∀ {t}, (Headers.ipv6 t).Found g → g.word 12 = 0x86dd := fun found => found.1.etherType
  -- The EtherType tells the three kinds apart, the protocol number the transports of one kind.
  cases h with
  | arp =>
    cases k with
    | arp => rfl
    | ipv4 u => exact absurd (one.etherType.symm.trans (four other)) (by decide)
    | ipv6 u => exact absurd (one.etherType.symm.trans (six other)) (by decide)
  | ipv4 t =>
    cases k with
    | arp => exact absurd ((four one).symm.trans other.etherType) (by decide)
    | ipv4 u => rw [Transport.number_injective (one.2.1.symm.trans other.2.1)]
    | ipv6 u => exact absurd ((four one).symm.trans (six other)) (by decide)
  | ipv6 t =>
    cases k with
    | arp => exact absurd ((six one).symm.trans other.etherType) (by decide)
    | ipv4 u => exact absurd ((six one).symm.trans (four other)) (by decide)
    | ipv6 u => rw [Transport.number_injective (one.2.1.symm.trans other.2.1)]

/-! ## What an edit keeps -/

theorem ipv4HeaderLength_of_sameOn {before after : Octets}
    (same : Octets.SameOn (fun i => 12 ≤ i ∧ i < 15) before after) :
    ipv4HeaderLength after = ipv4HeaderLength before := by
  rw [ipv4HeaderLength, same.byte 14 (by omega), ipv4HeaderLength]

theorem ipv4Header_of_sameOn {before after : Octets}
    (same : Octets.SameOn (fun i => 12 ≤ i ∧ i < 15) before after) (h : Ipv4Header before) :
    Ipv4Header after where
  etherType := (same.word (by omega) (by omega)).trans h.etherType
  version := by rw [same.byte 14 (by omega)]; exact h.version
  minimum := by rw [ipv4HeaderLength_of_sameOn same]; exact h.minimum
  inside := by rw [ipv4HeaderLength_of_sameOn same, same.length]; exact h.inside

/-- The bytes between the Ethernet addresses and the first of the IPv6 addresses. They decide where
the headers of an IP frame end; only the protocol field of IPv4 lies behind them. -/
def HeadKept (before after : Octets) : Prop :=
  Octets.SameOn (fun i => 12 ≤ i ∧ i < 22) before after

namespace HeadKept

variable {before after : Octets}

theorem headerLength (kept : HeadKept before after) :
    ipv4HeaderLength after = ipv4HeaderLength before :=
  ipv4HeaderLength_of_sameOn (kept.mono fun i _ => by omega)

theorem totalLength (kept : HeadKept before after) :
    ipv4TotalLength after = ipv4TotalLength before := by
  rw [ipv4TotalLength, kept.word (by omega) (by omega), ipv4TotalLength]

theorem payloadLength (kept : HeadKept before after) :
    ipv6PayloadLength after = ipv6PayloadLength before := by
  rw [ipv6PayloadLength, kept.word (by omega) (by omega), ipv6PayloadLength]

theorem ipv4Header (kept : HeadKept before after) (h : Ipv4Header before) : Ipv4Header after :=
  ipv4Header_of_sameOn (kept.mono fun i _ => by omega) h

theorem ipv4Whole (kept : HeadKept before after) (h : Ipv4Whole before) : Ipv4Whole after where
  last := by rw [kept.word (by omega) (by omega)]; exact h.last
  first := by rw [kept.word (by omega) (by omega)]; exact h.first

theorem ipv4Datagram (kept : HeadKept before after) (h : Ipv4Datagram before) :
    Ipv4Datagram after where
  toIpv4Header := kept.ipv4Header h.toIpv4Header
  toIpv4Whole := kept.ipv4Whole h.toIpv4Whole
  covers := by rw [kept.headerLength, kept.totalLength]; exact h.covers
  contained := by rw [kept.totalLength, kept.length]; exact h.contained

theorem ipv6Header (kept : HeadKept before after) (h : Ipv6Header before) : Ipv6Header after where
  etherType := (kept.word (by omega) (by omega)).trans h.etherType
  version := by rw [kept.byte 14 (by omega)]; exact h.version
  inside := by rw [kept.length]; exact h.inside

theorem ipv6Datagram (kept : HeadKept before after) (h : Ipv6Datagram before) :
    Ipv6Datagram after where
  toIpv6Header := kept.ipv6Header h.toIpv6Header
  contained := by rw [kept.payloadLength, kept.length]; exact h.contained

theorem ipv4Span_eq (kept : HeadKept before after) : ipv4Span after = ipv4Span before := by
  rw [ipv4Span, kept.headerLength, ipv4Span]

theorem ipv4Message_eq (kept : HeadKept before after) : ipv4Message after = ipv4Message before := by
  rw [ipv4Message, kept.headerLength, kept.totalLength, ipv4Message]

theorem ipv6Message_eq (kept : HeadKept before after) : ipv6Message after = ipv6Message before := by
  rw [ipv6Message, kept.payloadLength, ipv6Message]

/-- Only a TCP header is looked at to see whether it fits. -/
theorem fits {t : Transport} {s : Span} (h : t.Fits before s) (other : t ≠ .tcp) :
    t.Fits after s :=
  ⟨h.minimum, fun isTcp => absurd isTcp other⟩

theorem found4 {t : Transport} (kept : HeadKept before after)
    (protocol : Octets.byte after 23 = Octets.byte before 23)
    (found : (Headers.ipv4 t).Found before) (other : t ≠ .tcp) : (Headers.ipv4 t).Found after := by
  obtain ⟨datagram, named, long⟩ := found
  refine ⟨kept.ipv4Datagram datagram, protocol.trans named, ?_⟩
  rw [kept.ipv4Message_eq]
  exact fits long other

theorem found6 {t : Transport} (kept : HeadKept before after)
    (found : (Headers.ipv6 t).Found before) (other : t ≠ .tcp) : (Headers.ipv6 t).Found after := by
  obtain ⟨datagram, named, long⟩ := found
  refine ⟨kept.ipv6Datagram datagram, (kept.byte 20 (by omega)).trans named, ?_⟩
  rw [kept.ipv6Message_eq]
  exact fits long other

end HeadKept

end Boomerang
