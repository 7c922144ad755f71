import Boomerang.Proofs.Grammar

/-!
The view of a cursor is the frame from its Ethernet header on. Each accessor finds a header exactly
where the grammar places it in the view, shifted by the position of the Ethernet header.
-/

set_option autoImplicit false

namespace Boomerang

def Network.etherType : Network → UInt16
  | .arp => 0x0806
  | .ipv4 => 0x0800
  | .ipv6 => 0x86dd

theorem Network.ofEtherType?_eq_some_iff (w : UInt16) (n : Network) :
    Network.ofEtherType? w = some n ↔ w = n.etherType := by
  unfold Network.ofEtherType?
  constructor
  · intro found
    split at found
    · cases found; assumption
    · split at found
      · cases found; assumption
      · split at found
        · cases found; assumption
        · cases found
  · rintro rfl
    cases n <;> rfl

namespace Cursor

/-- The frame from the cursor's Ethernet header on. -/
def view (c : Cursor) : Octets := c.frame.drop c.l2

variable {c : Cursor}

theorem length_view (c : Cursor) : c.view.length = c.size - c.l2 := by
  rw [view, List.length_drop, length_frame]

theorem byte_view (c : Cursor) (i : Nat) : c.view.byte i = c.frame.byte (c.l2 + i) :=
  Octets.byte_drop c.frame c.l2 i

theorem word_view (c : Cursor) (i : Nat) : c.view.word i = c.frame.word (c.l2 + i) :=
  Octets.word_drop c.frame c.l2 i

theorem slice_view (c : Cursor) (start count : Nat) :
    c.view.slice start count = c.frame.slice (c.l2 + start) count :=
  Octets.slice_drop c.frame c.l2 start count

/-! ## Accessors -/

theorem ether_eq (long : 14 ≤ c.view.length) : c.ether = some (etherSpan.shift c.l2) := by
  rw [length_view] at long
  rw [ether, if_pos (by omega)]
  rfl

theorem etherType_eq (c : Cursor) :
    c.etherType = if 14 ≤ c.view.length then some (c.view.word 12) else none := by
  rw [etherType, ether, length_view, word_view]
  by_cases long : c.l2 + 14 ≤ c.size
  · rw [if_pos long, if_pos (by omega)]
    rfl
  · rw [if_neg long, if_neg (by omega)]
    rfl

theorem network_eq_some_iff {n : Network} :
    c.network = some n ↔ 14 ≤ c.view.length ∧ c.view.word 12 = n.etherType := by
  rw [network, etherType_eq, ← Network.ofEtherType?_eq_some_iff]
  by_cases long : 14 ≤ c.view.length <;> simp [long]

theorem network_of_ipv4 (h : Ipv4Header c.view) : c.network = some .ipv4 := by
  have := h.length
  exact network_eq_some_iff.2 ⟨by omega, h.etherType⟩

theorem network_of_ipv6 (h : Ipv6Header c.view) : c.network = some .ipv6 := by
  have := h.inside
  exact network_eq_some_iff.2 ⟨by omega, h.etherType⟩

/-- The IPv4 header behind the cursor's Ethernet header, whatever the EtherType says. -/
theorem ipv4HeaderAt_eq_some_iff {s : Span} :
    ipv4HeaderAt c.frame (c.l2 + 14) = some s ↔
      ((c.view.byte 14).toNat / 16 = 4 ∧ 20 ≤ ipv4HeaderLength c.view ∧
        14 + ipv4HeaderLength c.view ≤ c.view.length) ∧ (ipv4Span c.view).shift c.l2 = s := by
  rw [ipv4HeaderAt]
  simp only [ipv4HeaderLength, byte_view, length_view, length_frame, ipv4Span, Span.shift,
    Nat.add_assoc]
  rw [Option.ite_none_right_eq_some, Option.some.injEq]
  constructor
  · rintro ⟨⟨_, version, minimum, inside⟩, same⟩
    exact ⟨⟨version, minimum, by omega⟩, same⟩
  · rintro ⟨⟨version, minimum, inside⟩, same⟩
    exact ⟨⟨by omega, version, minimum, by omega⟩, same⟩

theorem arp_eq (l3 : c.l3 = some (c.l2 + 14)) (h : ArpPacket c.view) :
    c.arp = some (arpSpan.shift c.l2) := by
  have long := h.contained
  have size := length_view c
  have network : c.network = some .arp := network_eq_some_iff.2 ⟨by omega, h.etherType⟩
  rw [arp, l3, Option.bind_some, if_pos ⟨network, by omega⟩]
  rfl

theorem ipv4_eq_some_iff (l3 : c.l3 = some (c.l2 + 14)) {s : Span} :
    c.ipv4 = some s ↔ Ipv4Header c.view ∧ (ipv4Span c.view).shift c.l2 = s := by
  rw [ipv4, l3, Option.bind_some, Option.ite_none_right_eq_some, network_eq_some_iff,
    ipv4HeaderAt_eq_some_iff]
  constructor
  · rintro ⟨⟨_, etherType⟩, ⟨version, minimum, inside⟩, same⟩
    exact ⟨⟨etherType, version, minimum, inside⟩, same⟩
  · rintro ⟨h, same⟩
    have := h.length
    exact ⟨⟨by omega, h.etherType⟩, ⟨h.version, h.minimum, h.inside⟩, same⟩

theorem ipv4_eq (l3 : c.l3 = some (c.l2 + 14)) (h : Ipv4Header c.view) :
    c.ipv4 = some ((ipv4Span c.view).shift c.l2) :=
  (ipv4_eq_some_iff l3).2 ⟨h, rfl⟩

theorem ipv6_eq_some_iff (l3 : c.l3 = some (c.l2 + 14)) {s : Span} :
    c.ipv6 = some s ↔ Ipv6Header c.view ∧ ipv6Span.shift c.l2 = s := by
  have size := length_view c
  rw [ipv6, l3, Option.bind_some, Option.ite_none_right_eq_some, network_eq_some_iff, ← byte_view,
    Option.some.injEq]
  constructor
  · rintro ⟨⟨⟨_, etherType⟩, inside, version⟩, same⟩
    exact ⟨⟨etherType, version, by omega⟩, same⟩
  · rintro ⟨h, same⟩
    have := h.inside
    exact ⟨⟨⟨by omega, h.etherType⟩, by omega, h.version⟩, same⟩

theorem ipv6_eq (l3 : c.l3 = some (c.l2 + 14)) (h : Ipv6Header c.view) :
    c.ipv6 = some (ipv6Span.shift c.l2) :=
  (ipv6_eq_some_iff l3).2 ⟨h, rfl⟩

/-! ## Transport messages -/

theorem nextProtocol_of_ipv4 (l3 : c.l3 = some (c.l2 + 14)) (h : Ipv4Header c.view) :
    c.nextProtocol = some (c.view.byte 23) := by
  rw [nextProtocol, network_of_ipv4 h]
  simp only [ipv4_eq l3 h, Option.map_some, ipv4Span, Span.shift, byte_view, Nat.add_assoc]

theorem nextProtocol_of_ipv6 (l3 : c.l3 = some (c.l2 + 14)) (h : Ipv6Header c.view) :
    c.nextProtocol = some (c.view.byte 20) := by
  rw [nextProtocol, network_of_ipv6 h]
  simp only [ipv6_eq l3 h, Option.map_some, ipv6Span, Span.shift, byte_view, Nat.add_assoc]

theorem datagramEnd_eq_some_iff_of_ipv4 (l3 : c.l3 = some (c.l2 + 14)) (h : Ipv4Header c.view)
    {stop : Nat} :
    c.datagramEnd = some stop ↔
      (ipv4HeaderLength c.view ≤ ipv4TotalLength c.view ∧
        14 + ipv4TotalLength c.view ≤ c.view.length) ∧
        c.l2 + (14 + ipv4TotalLength c.view) = stop := by
  have long := h.length
  have size := length_view c
  have total : (c.frame.word (c.l2 + 14 + 2)).toNat = ipv4TotalLength c.view := by
    rw [ipv4TotalLength, word_view]
  simp only [datagramEnd, network_of_ipv4 h, ipv4_eq l3 h, Option.bind_some,
    Option.ite_none_right_eq_some, Option.some.injEq]
  simp only [ipv4Span, Span.shift, Span.length]
  rw [total]
  omega

theorem datagramEnd_of_ipv4 (l3 : c.l3 = some (c.l2 + 14)) (h : Ipv4Datagram c.view) :
    c.datagramEnd = some (c.l2 + (14 + ipv4TotalLength c.view)) :=
  (datagramEnd_eq_some_iff_of_ipv4 l3 h.toIpv4Header).2 ⟨⟨h.covers, h.contained⟩, rfl⟩

theorem datagramEnd_eq_some_iff_of_ipv6 (l3 : c.l3 = some (c.l2 + 14)) (h : Ipv6Header c.view)
    {stop : Nat} :
    c.datagramEnd = some stop ↔
      54 + ipv6PayloadLength c.view ≤ c.view.length ∧
        c.l2 + (54 + ipv6PayloadLength c.view) = stop := by
  have long := h.inside
  have size := length_view c
  have payload : (c.frame.word (c.l2 + 14 + 4)).toNat = ipv6PayloadLength c.view := by
    rw [ipv6PayloadLength, word_view]
  simp only [datagramEnd, network_of_ipv6 h, ipv6_eq l3 h, Option.bind_some,
    Option.ite_none_right_eq_some, Option.some.injEq]
  simp only [ipv6Span, Span.shift]
  rw [payload]
  omega

theorem datagramEnd_of_ipv6 (l3 : c.l3 = some (c.l2 + 14)) (h : Ipv6Datagram c.view) :
    c.datagramEnd = some (c.l2 + (54 + ipv6PayloadLength c.view)) :=
  (datagramEnd_eq_some_iff_of_ipv6 l3 h.toIpv6Header).2 ⟨h.contained, rfl⟩

theorem message_eq_some_iff {t : Transport} {s : Span} :
    c.message t = some s ↔
      c.l4 = some s.start ∧ c.nextProtocol = some t.number ∧ c.datagramEnd = some s.stop ∧
        s.start + t.minLength ≤ s.stop := by
  rw [message, Option.bind_eq_some_iff]
  constructor
  · rintro ⟨l4, at4, found⟩
    obtain ⟨named, found⟩ := Option.ite_none_right_eq_some.1 found
    obtain ⟨stop, ends, found⟩ := Option.bind_eq_some_iff.1 found
    obtain ⟨long, found⟩ := Option.ite_none_right_eq_some.1 found
    cases found
    exact ⟨at4, named, ends, long⟩
  · rintro ⟨at4, named, ends, long⟩
    refine ⟨s.start, at4, ?_⟩
    rw [if_pos named, ends, Option.bind_some, if_pos long]

/-- The IP header names one protocol, so that at most one message is found. -/
theorem message_eq_none {t u : Transport} {s : Span} (found : c.message t = some s)
    (other : u ≠ t) : c.message u = none := by
  cases again : c.message u with
  | none => rfl
  | some s' =>
    have named := (message_eq_some_iff.1 found).2.1
    have also := (message_eq_some_iff.1 again).2.1
    rw [named, Option.some.injEq] at also
    exact absurd (Transport.number_injective also).symm other

theorem tcp_eq_some_iff {s : Span} :
    c.tcp = some s ↔ c.message .tcp = some s ∧ 20 ≤ tcpHeaderLength c.frame s.start ∧
      tcpHeaderLength c.frame s.start ≤ s.length := by
  rw [tcp, Option.bind_eq_some_iff]
  constructor
  · rintro ⟨s', found, kept⟩
    obtain ⟨bounds, same⟩ := Option.ite_none_right_eq_some.1 kept
    cases same
    exact ⟨found, bounds⟩
  · rintro ⟨found, bounds⟩
    exact ⟨s, found, if_pos bounds⟩

theorem transport?_eq_some_iff {t : Transport} {payload : Nat} :
    c.transport? = some (t, payload) ↔
      ∃ s, c.message t = some s ∧
        (t = .tcp → 20 ≤ tcpHeaderLength c.frame s.start ∧
          tcpHeaderLength c.frame s.start ≤ s.length) ∧
        s.start + t.headerLength c.frame s.start = payload := by
  constructor
  · intro found
    unfold transport? at found
    split at found
    case h_1 s at4 =>
      obtain ⟨message, bounds⟩ := tcp_eq_some_iff.1 at4
      cases found
      exact ⟨s, message, fun _ => bounds, rfl⟩
    case h_2 s _ at4 =>
      cases found
      exact ⟨s, at4, nofun, rfl⟩
    case h_3 s _ _ at4 =>
      cases found
      exact ⟨s, at4, nofun, rfl⟩
    case h_4 s _ _ _ at4 =>
      cases found
      exact ⟨s, at4, nofun, rfl⟩
    case h_5 => cases found
  · rintro ⟨s, found, bounds, rfl⟩
    -- The protocols are tried in a fixed order, so all those before `t` have to be missing.
    have others : ∀ u, u ≠ t → c.message u = none := fun u => message_eq_none found
    have noTcp : t ≠ .tcp → c.tcp = none := by
      intro other
      rw [tcp, others _ other.symm, Option.bind_none]
    unfold transport?
    cases t with
    | tcp => rw [tcp_eq_some_iff.2 ⟨found, bounds rfl⟩]; rfl
    | udp => rw [noTcp (by decide), udp, found]; rfl
    | icmp => rw [noTcp (by decide), udp, others _ (by decide), icmp, found]; rfl
    | icmpv6 =>
      rw [noTcp (by decide), udp, others _ (by decide), icmp, others _ (by decide), icmpv6, found]
      rfl

end Cursor

end Boomerang
