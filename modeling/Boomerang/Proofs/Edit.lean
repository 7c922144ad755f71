import Boomerang.Checksum
import Boomerang.Proofs.Grammar

/-!
The edits that answers are made of, as functions on a frame: exchanged addresses and ports, and
stored checksums. Every edit keeps the length; its lemma names the positions it keeps, and an edit
of the rear part of a joined string leaves the front part alone.
-/

set_option autoImplicit false

namespace Boomerang.Octets

variable {g front : Octets} {s : Span}

def turnEther (g : Octets) : Octets := g.exchange 0 6 6

/-- Exchanges the addresses of the IPv4 header at `s` and stores its new checksum. -/
def turnIpv4 (s : Span) (g : Octets) : Octets :=
  let turned := g.exchange (s.start + 12) (s.start + 16) 4
  turned.put (s.start + 10) (ofWord (Checksum.ipv4Header (turned.slice s.start s.length)))

def turnIpv6 (s : Span) (g : Octets) : Octets := g.exchange (s.start + 8) (s.start + 24) 16

def turnPorts (s : Span) (g : Octets) : Octets := g.exchange s.start (s.start + 2) 2

def fillIcmp (s : Span) (g : Octets) : Octets :=
  g.put (s.start + 2) (ofWord (Checksum.icmp (g.slice s.start s.length)))

def fillIcmpv6 (src dst : Octets) (s : Span) (g : Octets) : Octets :=
  g.put (s.start + 2) (ofWord (Checksum.icmpv6 src dst (g.slice s.start s.length)))

/-! ## What they keep -/

theorem sameOn_turnEther (g : Octets) : SameOn (fun i => 12 ≤ i) g (turnEther g) :=
  (sameOn_exchange g 0 6 6).mono fun i _ => by omega

theorem sameOn_turnIpv4 (s : Span) (g : Octets) :
    SameOn (fun i => i < s.start + 10 ∨ s.start + 20 ≤ i) g (turnIpv4 s g) := by
  have turned := sameOn_exchange g (s.start + 12) (s.start + 16) 4
  have filled := sameOn_put_ofWord (g.exchange (s.start + 12) (s.start + 16) 4) (s.start + 10)
    (Checksum.ipv4Header ((g.exchange (s.start + 12) (s.start + 16) 4).slice s.start s.length))
  exact (turned.mono fun i _ => by omega).trans (filled.mono fun i _ => by omega)

theorem sameOn_turnIpv6 (s : Span) (g : Octets) :
    SameOn (fun i => i < s.start + 8 ∨ s.start + 40 ≤ i) g (turnIpv6 s g) :=
  (sameOn_exchange g _ _ _).mono fun i _ => by omega

theorem sameOn_turnPorts (s : Span) (g : Octets) :
    SameOn (fun i => i < s.start ∨ s.start + 4 ≤ i) g (turnPorts s g) :=
  (sameOn_exchange g _ _ _).mono fun i _ => by omega

theorem sameOn_fillIcmp (s : Span) (g : Octets) :
    SameOn (fun i => i < s.start + 2 ∨ s.start + 4 ≤ i) g (fillIcmp s g) :=
  sameOn_put_ofWord g _ _

theorem sameOn_fillIcmpv6 (src dst : Octets) (s : Span) (g : Octets) :
    SameOn (fun i => i < s.start + 2 ∨ s.start + 4 ≤ i) g (fillIcmpv6 src dst s g) :=
  sameOn_put_ofWord g _ _

@[simp] theorem length_turnEther (g : Octets) : (turnEther g).length = g.length :=
  (sameOn_turnEther g).length

@[simp] theorem length_turnIpv4 (s : Span) (g : Octets) : (turnIpv4 s g).length = g.length :=
  (sameOn_turnIpv4 s g).length

@[simp] theorem length_turnIpv6 (s : Span) (g : Octets) : (turnIpv6 s g).length = g.length :=
  (sameOn_turnIpv6 s g).length

@[simp] theorem length_turnPorts (s : Span) (g : Octets) : (turnPorts s g).length = g.length :=
  (sameOn_turnPorts s g).length

@[simp] theorem length_fillIcmp (s : Span) (g : Octets) : (fillIcmp s g).length = g.length :=
  (sameOn_fillIcmp s g).length

@[simp] theorem length_fillIcmpv6 (src dst : Octets) (s : Span) (g : Octets) :
    (fillIcmpv6 src dst s g).length = g.length :=
  (sameOn_fillIcmpv6 src dst s g).length

theorem headKept_turnPorts (behind : 22 ≤ s.start) (g : Octets) : HeadKept g (turnPorts s g) :=
  (sameOn_turnPorts s g).mono fun i _ => by omega

theorem headKept_fillIcmp (behind : 22 ≤ s.start) (g : Octets) (type : UInt8) :
    HeadKept g (fillIcmp s (g.put s.start [type])) := by
  have typed : SameOn (fun i => 12 ≤ i ∧ i < 22) g (g.put s.start [type]) :=
    .put (.refl _ g) fun i _ => by omega
  exact typed.trans ((sameOn_fillIcmp s _).mono fun i _ => by omega)

theorem le_start_ipv4Message (h : Ipv4Header g) : 34 ≤ (ipv4Message g).start := by
  have := h.minimum
  simp only [ipv4Message]
  omega

/-! ## What they store -/

theorem slice_turnIpv4_src (inside : s.start + 20 ≤ g.length) :
    (turnIpv4 s g).slice (s.start + 12) 4 = g.slice (s.start + 16) 4 := by
  rw [turnIpv4, (sameOn_put_ofWord _ _ _).slice (fun i _ _ => by omega),
    slice_exchange_first (by omega) (by omega)]

theorem slice_turnIpv4_dst (inside : s.start + 20 ≤ g.length) :
    (turnIpv4 s g).slice (s.start + 16) 4 = g.slice (s.start + 12) 4 := by
  rw [turnIpv4, (sameOn_put_ofWord _ _ _).slice (fun i _ _ => by omega),
    slice_exchange_second (by omega) (by omega)]

theorem slice_turnIpv6_src (inside : s.start + 40 ≤ g.length) :
    (turnIpv6 s g).slice (s.start + 8) 16 = g.slice (s.start + 24) 16 :=
  slice_exchange_first (by omega) (by omega)

theorem slice_turnIpv6_dst (inside : s.start + 40 ≤ g.length) :
    (turnIpv6 s g).slice (s.start + 24) 16 = g.slice (s.start + 8) 16 :=
  slice_exchange_second (by omega) (by omega)

/-! ## In the rear part of a frame -/

theorem turnIpv4_append {n : Nat} (width : front.length = n) (s : Span) (g : Octets) :
    turnIpv4 (s.shift n) (front ++ g) = front ++ turnIpv4 s g := by
  simp only [turnIpv4, Span.length_shift]
  simp only [Span.shift, Nat.add_assoc, exchange_append_right width, slice_append_right width,
    put_append_right width]

end Boomerang.Octets
