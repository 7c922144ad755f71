import Boomerang.Proofs.View

/-!
A walk succeeds exactly on the headers that the view of the cursor carries, and then leaves every
position where the grammar puts it. A tunnel is entered exactly where the view carries its headers.
-/

set_option autoImplicit false

namespace Boomerang.Cursor

variable {c : Cursor}

/-! ## A complete walk -/

theorem isFragment_frame : isFragment c.frame (c.l2 + 14) = false ↔ Ipv4Whole c.view := by
  rw [isFragment_eq_false_iff, Nat.add_assoc, ← word_view]
  exact ⟨fun ⟨last, first⟩ => ⟨last, first⟩, fun ⟨last, first⟩ => ⟨last, first⟩⟩

theorem enterIpv4?_eq_some_iff (l3 : c.l3 = some (c.l2 + 14)) {d : Cursor} :
    c.enterIpv4? = some d ↔ Ipv4Header c.view ∧ Ipv4Whole c.view ∧
      { c with l4 := some (c.l2 + (14 + ipv4HeaderLength c.view)), payload := none } = d := by
  rw [enterIpv4?, Option.bind_eq_some_iff]
  constructor
  · rintro ⟨s, found, entered⟩
    obtain ⟨header, rfl⟩ := (ipv4_eq_some_iff l3).1 found
    obtain ⟨whole, same⟩ := Option.ite_none_left_eq_some.1 entered
    cases same
    exact ⟨header, isFragment_frame.1 (Bool.eq_false_iff.2 whole), rfl⟩
  · rintro ⟨header, whole, rfl⟩
    exact ⟨_, ipv4_eq l3 header, if_neg (Bool.eq_false_iff.1 (isFragment_frame.2 whole))⟩

theorem enterIpv6?_eq_some_iff (l3 : c.l3 = some (c.l2 + 14)) {d : Cursor} :
    c.enterIpv6? = some d ↔
      Ipv6Header c.view ∧ { c with l4 := some (c.l2 + 54), payload := none } = d := by
  rw [enterIpv6?, Option.map_eq_some_iff]
  constructor
  · rintro ⟨s, found, rfl⟩
    obtain ⟨header, rfl⟩ := (ipv6_eq_some_iff l3).1 found
    exact ⟨header, rfl⟩
  · rintro ⟨header, rfl⟩
    exact ⟨_, ipv6_eq l3 header, rfl⟩

def atMessage (c : Cursor) (t : Transport) (s : Span) : Cursor :=
  { c.enterNetwork with
    l4 := some (c.l2 + s.start)
    payload := some (c.l2 + (s.start + t.headerLength c.view s.start)) }

/-- Where a complete walk leaves the cursor. -/
def walked (c : Cursor) : Headers → Cursor
  | .arp => c.enterNetwork
  | .ipv4 t => c.atMessage t (ipv4Message c.view)
  | .ipv6 t => c.atMessage t (ipv6Message c.view)

theorem headerLength_frame (t : Transport) (start : Nat) :
    t.headerLength c.frame (c.l2 + start) = t.headerLength c.view start := by
  cases t with
  | tcp => simp only [Transport.headerLength, tcpHeaderLength, byte_view, Nat.add_assoc]
  | udp | icmp | icmpv6 => rfl

/-- With the transport header in place, the rest of the walk finds the one message that fits. -/
theorem enterPayload_of_fits {t : Transport} {s : Span} (l4 : c.l4 = some (c.l2 + s.start))
    (protocol : c.nextProtocol = some t.number) (stop : c.datagramEnd = some (c.l2 + s.stop))
    (fits : t.Fits c.view s) :
    c.enterPayload =
      (.ok t, { c with payload := some (c.l2 + (s.start + t.headerLength c.view s.start)) }) := by
  -- The cursor reads the TCP data offset in the whole frame, the grammar reads it in the view.
  have lengths := headerLength_frame (c := c) .tcp s.start
  have found : c.message t = some (s.shift c.l2) := by
    have := fits.minimum
    refine message_eq_some_iff.2 ⟨l4, protocol, stop, ?_⟩
    simp only [Span.shift]
    omega
  have header : c.transport? =
      some (t, c.l2 + (s.start + t.headerLength c.view s.start)) := by
    rw [transport?_eq_some_iff]
    refine ⟨_, found, fun isTcp => ?_, ?_⟩
    · obtain ⟨low, high⟩ := fits.tcp isTcp
      simp only [Transport.headerLength] at lengths
      rw [Span.length_shift]
      simp only [Span.shift]
      rw [lengths]
      exact ⟨low, high⟩
    · simp only [Span.shift, headerLength_frame, Nat.add_assoc]
  rw [enterPayload, header]

theorem parse_of_found {h : Headers} (found : h.Found c.view) : c.parse = (.ok h, c.walked h) := by
  have l3 : c.enterNetwork.l3 = some (c.enterNetwork.l2 + 14) := rfl
  cases h with
  | arp =>
    have long : 14 ≤ c.view.length := by have := found.contained; omega
    have network : c.enterNetwork.network = some .arp :=
      network_eq_some_iff.2 ⟨long, found.etherType⟩
    have packet : c.enterNetwork.arp = some (arpSpan.shift c.l2) := arp_eq l3 found
    simp only [parse, network, packet, Option.isSome_some, if_true]
    rfl
  | ipv4 t =>
    obtain ⟨datagram, named, fits⟩ := found
    have header := datagram.toIpv4Header
    have entered := (enterIpv4?_eq_some_iff l3).2 ⟨header, datagram.toIpv4Whole, rfl⟩
    have payload := enterPayload_of_fits (c := { c.enterNetwork with
        l4 := some (c.l2 + (14 + ipv4HeaderLength c.view)), payload := none })
      (t := t) (s := ipv4Message c.view) rfl
      (named ▸ nextProtocol_of_ipv4 rfl header) (datagramEnd_of_ipv4 rfl datagram) fits
    simp only [parse, network_of_ipv4 (c := c.enterNetwork) header, entered]
    exact congrArg (fun r : Except ParseError Transport × Cursor => (r.1.map Headers.ipv4, r.2))
      payload
  | ipv6 t =>
    obtain ⟨datagram, named, fits⟩ := found
    have header := datagram.toIpv6Header
    have entered := (enterIpv6?_eq_some_iff l3).2 ⟨header, rfl⟩
    have payload := enterPayload_of_fits (c := { c.enterNetwork with
        l4 := some (c.l2 + 54), payload := none })
      (t := t) (s := ipv6Message c.view) rfl
      (named ▸ nextProtocol_of_ipv6 rfl header) (datagramEnd_of_ipv6 rfl datagram) fits
    simp only [parse, network_of_ipv6 (c := c.enterNetwork) header, entered]
    exact congrArg (fun r : Except ParseError Transport × Cursor => (r.1.map Headers.ipv6, r.2))
      payload

/-- What a walk that reached the payload has seen of the message at `s`. -/
theorem fits_of_message {t : Transport} {s : Span} (found : c.message t = some (s.shift c.l2))
    (bounds : t = .tcp → 20 ≤ tcpHeaderLength c.frame (s.shift c.l2).start ∧
      tcpHeaderLength c.frame (s.shift c.l2).start ≤ (s.shift c.l2).length) : t.Fits c.view s where
  minimum := by
    have long := (message_eq_some_iff.1 found).2.2.2
    simp only [Span.shift] at long
    omega
  tcp isTcp := by
    have lengths := headerLength_frame (c := c) .tcp s.start
    simp only [Transport.headerLength] at lengths
    rw [Span.length_shift] at bounds
    rw [← lengths]
    exact bounds isTcp

theorem message_of_enterPayload {t : Transport} (ok : c.enterPayload.1 = .ok t) :
    ∃ s, c.message t = some s ∧
      (t = .tcp → 20 ≤ tcpHeaderLength c.frame s.start ∧
        tcpHeaderLength c.frame s.start ≤ s.length) := by
  unfold enterPayload at ok
  split at ok
  case h_1 u payload found =>
    cases ok
    obtain ⟨s, message, bounds, _⟩ := transport?_eq_some_iff.1 found
    exact ⟨s, message, bounds⟩
  case h_2 => cases ok

theorem eq_ok_of_map {α β : Type} {f : α → β} {r : Except ParseError α} {b : β}
    (ok : r.map f = .ok b) : ∃ a, r = .ok a ∧ f a = b := by
  cases r with
  | error e => cases ok
  | ok a => cases ok; exact ⟨a, rfl, rfl⟩

/-- The converse of `parse_of_found`: a walk finds only what the view carries. -/
theorem found_of_parse {h : Headers} (ok : c.parse.1 = .ok h) : h.Found c.view := by
  have l3 : c.enterNetwork.l3 = some (c.enterNetwork.l2 + 14) := rfl
  unfold parse at ok
  dsimp only at ok
  split at ok
  case h_1 network =>
    obtain ⟨long, etherType⟩ := network_eq_some_iff.1 network
    split at ok
    case isTrue present =>
      cases ok
      obtain ⟨s, found⟩ := Option.isSome_iff_exists.1 present
      rw [arp, l3, Option.bind_some] at found
      obtain ⟨⟨_, inside⟩, _⟩ := Option.ite_none_right_eq_some.1 found
      have size := length_view c
      have inside : c.l2 + 14 + 28 ≤ c.size := inside
      exact ⟨etherType, by omega⟩
    case isFalse => cases ok
  case h_2 network =>
    split at ok
    case h_1 => cases ok
    case h_2 d entered =>
      -- The header check stops at the header; what lies behind is checked by the message alone.
      obtain ⟨header, whole, rfl⟩ := (enterIpv4?_eq_some_iff l3).1 entered
      obtain ⟨t, inner, rfl⟩ := eq_ok_of_map ok
      obtain ⟨⟨start, stop⟩, found, bounds⟩ := message_of_enterPayload inner
      obtain ⟨at4, named, ends, _⟩ := message_eq_some_iff.1 found
      obtain ⟨⟨covers, contained⟩, rfl⟩ := (datagramEnd_eq_some_iff_of_ipv4 rfl header).1 ends
      obtain rfl := Option.some.inj at4
      have fits := fits_of_message (s := ipv4Message c.view) found bounds
      have protocol := (nextProtocol_of_ipv4 rfl header).symm.trans named
      exact ⟨⟨header, whole, covers, contained⟩, Option.some.inj protocol,
        fits⟩
  case h_3 network =>
    split at ok
    case h_1 => cases ok
    case h_2 d entered =>
      obtain ⟨header, rfl⟩ := (enterIpv6?_eq_some_iff l3).1 entered
      obtain ⟨t, inner, rfl⟩ := eq_ok_of_map ok
      obtain ⟨⟨start, stop⟩, found, bounds⟩ := message_of_enterPayload inner
      obtain ⟨at4, named, ends, _⟩ := message_eq_some_iff.1 found
      obtain ⟨contained, rfl⟩ := (datagramEnd_eq_some_iff_of_ipv6 rfl header).1 ends
      obtain rfl := Option.some.inj at4
      have fits := fits_of_message (s := ipv6Message c.view) found bounds
      have protocol := (nextProtocol_of_ipv6 rfl header).symm.trans named
      exact ⟨⟨header, contained⟩, Option.some.inj protocol,
        fits⟩
  case h_4 => cases ok

theorem parse_keeps (c : Cursor) :
    c.parse.2.slot = c.slot ∧ c.parse.2.l2 = c.l2 ∧ c.parse.2.outer = c.outer := by
  have entered : ∀ d : Cursor, d.enterPayload.2.slot = d.slot ∧ d.enterPayload.2.l2 = d.l2 ∧
      d.enterPayload.2.outer = d.outer := by
    intro d
    unfold enterPayload
    split <;> exact ⟨rfl, rfl, rfl⟩
  have l3 : c.enterNetwork.l3 = some (c.enterNetwork.l2 + 14) := rfl
  unfold parse
  dsimp only
  split
  case h_1 => exact ⟨rfl, rfl, rfl⟩
  case h_2 =>
    split
    case h_1 => exact ⟨rfl, rfl, rfl⟩
    case h_2 d at4 =>
      obtain ⟨_, _, rfl⟩ := (enterIpv4?_eq_some_iff l3).1 at4
      exact entered _
  case h_3 =>
    split
    case h_1 => exact ⟨rfl, rfl, rfl⟩
    case h_2 d at4 =>
      obtain ⟨_, rfl⟩ := (enterIpv6?_eq_some_iff l3).1 at4
      exact entered _
  case h_4 => exact ⟨rfl, rfl, rfl⟩

theorem parse_of_not_found (none : ∀ h : Headers, ¬ h.Found c.view) :
    c.parse.1 = .error .unparseable := by
  cases result : c.parse.1 with
  | error e => cases e; rfl
  | ok h => exact absurd (found_of_parse result) (none h)

/-! ## Tunnels -/

theorem outerHeaders_eq_some_iff {port : UInt16} {o : Outer} :
    c.outerHeaders port = some o ↔ Tunnelled port c.view ∧
      ⟨c.l2, c.l2 + 14, c.l2 + (14 + ipv4HeaderLength c.view),
        c.l2 + (14 + ipv4HeaderLength c.view) + 8⟩ = o := by
  have size := length_view c
  rw [outerHeaders, Option.ite_none_right_eq_some, network_eq_some_iff, Option.bind_eq_some_iff]
  constructor
  · rintro ⟨⟨_, etherType⟩, s, header, found⟩
    obtain ⟨⟨version, minimum, inside⟩, rfl⟩ := ipv4HeaderAt_eq_some_iff.1 header
    obtain ⟨⟨udp, whole, contained, destination⟩, same⟩ := Option.ite_none_right_eq_some.1 found
    simp only [ipv4Span, Span.shift] at udp whole contained destination same
    refine ⟨⟨⟨etherType, version, minimum, inside⟩, isFragment_frame.1 whole, ?_, by omega, ?_⟩,
      Option.some.inj same⟩
    · rw [byte_view, ← Nat.add_assoc c.l2 14 9]
      exact udp
    · rw [word_view, ← Nat.add_assoc]
      exact destination
  · rintro ⟨t, rfl⟩
    have long := t.length
    have contained := t.contained
    refine ⟨⟨by omega, t.etherType⟩, _,
      ipv4HeaderAt_eq_some_iff.2 ⟨⟨t.version, t.minimum, t.inside⟩, rfl⟩, ?_⟩
    refine Option.ite_none_right_eq_some.2 ⟨?_, rfl⟩
    simp only [ipv4Span, Span.shift]
    refine ⟨?_, isFragment_frame.2 t.toIpv4Whole, by omega, ?_⟩
    · rw [Nat.add_assoc, ← byte_view]
      exact t.udp
    · rw [Nat.add_assoc, ← word_view]
      exact t.destination

def inside (c : Cursor) : Cursor :=
  ⟨c.slot, c.l2 + tunnelLength c.view, none, none, none,
    some ⟨c.l2, c.l2 + 14, c.l2 + (14 + ipv4HeaderLength c.view),
      c.l2 + (14 + ipv4HeaderLength c.view) + 8⟩⟩

theorem view_inside (c : Cursor) : c.inside.view = c.view.drop (tunnelLength c.view) := by
  rw [view, view, List.drop_drop]
  rfl

variable {port : UInt16}

theorem decapsulate_of_not_tunnelled (plain : c.outer = none) (not : ¬ Tunnelled port c.view) :
    c.decapsulate port = (.ok false, c) := by
  have none : c.outerHeaders port = none := by
    cases found : c.outerHeaders port with
    | none => rfl
    | some o => exact absurd (outerHeaders_eq_some_iff.1 found).1 not
  simp only [decapsulate, plain, none, Option.isSome_none, Bool.false_eq_true, if_false]

theorem decapsulate_of_tunnelled (plain : c.outer = none) (tunnelled : Tunnelled port c.view) :
    c.decapsulate port =
      if c.inside.view.length < 14 then (.error .unparseable, c)
      else (c.inside.parse.1.map fun _ => true, c.inside.parse.2) := by
  have found := outerHeaders_eq_some_iff.2 ⟨tunnelled, rfl⟩
  have size := length_view c.inside
  simp only [decapsulate, plain, found, Option.isSome_none, Bool.false_eq_true, if_false]
  have start : c.inside.l2 = c.l2 + (14 + ipv4HeaderLength c.view) + 8 + 8 := by
    simp only [inside, tunnelLength]
    omega
  have total : c.inside.size = c.size := rfl
  -- The walk starts only if the frame has an Ethernet header behind the VXLAN header.
  by_cases short : c.inside.view.length < 14
  · rw [if_pos short, if_pos (by omega)]
  · rw [if_neg short, if_neg (by omega), ← start]
    rfl

theorem length_of_found {g : Octets} {h : Headers} (found : h.Found g) : 14 ≤ g.length := by
  cases h with
  | arp => have := found.contained; omega
  | ipv4 => have := found.1.length; omega
  | ipv6 => have := found.1.inside; omega

theorem decapsulate_of_found (plain : c.outer = none) (tunnelled : Tunnelled port c.view)
    {h : Headers} (found : h.Found c.inside.view) :
    c.decapsulate port = (.ok true, c.inside.walked h) := by
  have long := length_of_found found
  rw [decapsulate_of_tunnelled plain tunnelled, if_neg (by omega), parse_of_found found]
  rfl

theorem decapsulate_of_not_found (plain : c.outer = none) (tunnelled : Tunnelled port c.view)
    (none : ∀ h : Headers, ¬ h.Found c.inside.view) :
    (c.decapsulate port).1 = .error .unparseable ∧ (c.decapsulate port).2.slot = c.slot := by
  rw [decapsulate_of_tunnelled plain tunnelled]
  split
  · exact ⟨rfl, rfl⟩
  · rw [parse_of_not_found none]
    exact ⟨rfl, (parse_keeps c.inside).1⟩

end Boomerang.Cursor
