import Boomerang.Proofs.Frame

/-!
Where a walk leaves the cursor. A walk finds headers exactly where the grammar of the frame has
them; then every position is that of the header it names, and the accessors agree with the
positions. Walking again changes nothing.
-/

set_option autoImplicit false

namespace Boomerang.Cursor

variable {c d : Cursor} {t : Transport} {s : Span}

def transport (c : Cursor) : Transport → Option Span
  | .tcp => c.tcp
  | .udp => c.udp
  | .icmp => c.icmp
  | .icmpv6 => c.icmpv6

/-- The cursor stands at a message of `t` that reaches from `s.start` to the declared end `s.stop`
of its datagram, and at no other message. -/
structure StandsAt (c : Cursor) (t : Transport) (s : Span) : Prop where
  l3 : c.l3 = some (c.l2 + 14)
  l4 : c.l4 = some s.start
  payload : c.payload = some (s.start + t.headerLength c.frame s.start)
  datagramEnd : c.datagramEnd = some s.stop
  behindNetwork : c.l2 + 14 < s.start
  behindTransport : s.start < s.start + t.headerLength c.frame s.start
  ordered : s.start + t.headerLength c.frame s.start ≤ s.stop
  inside : s.stop ≤ c.size
  messageLength : c.messageLength = some (s.stop - s.start)
  transport : ∀ u, c.transport u = if u = t then some s else none

/-- The cursor stands where the headers `h` of its frame are. -/
def Stands (c : Cursor) : Headers → Prop
  | .arp => c.l3 = some (c.l2 + 14) ∧ c.l4 = none ∧ c.payload = none ∧ ∀ u, c.transport u = none
  | .ipv4 t => c.StandsAt t ((ipv4Message c.view).shift c.l2)
  | .ipv6 t => c.StandsAt t ((ipv6Message c.view).shift c.l2)

/-! ## Accessors -/

theorem transport_of_no_message {u : Transport} (missing : c.message u = none) :
    c.transport u = none := by
  cases u with
  | tcp => rw [transport, tcp, missing, Option.bind_none]
  | udp | icmp | icmpv6 => exact missing

theorem transport_of_message (found : c.message t = some s)
    (bounds : t = .tcp → 20 ≤ tcpHeaderLength c.frame s.start ∧
      tcpHeaderLength c.frame s.start ≤ s.length) (u : Transport) :
    c.transport u = if u = t then some s else none := by
  by_cases same : u = t
  case neg =>
    rw [if_neg same]
    exact transport_of_no_message (message_eq_none found same)
  case pos =>
    subst same
    rw [if_pos rfl]
    cases u with
    | tcp => exact tcp_eq_some_iff.2 ⟨found, bounds rfl⟩
    | udp | icmp | icmpv6 => exact found

theorem transport_of_no_l4 (missing : c.l4 = none) (u : Transport) : c.transport u = none := by
  apply transport_of_no_message
  rw [message, missing, Option.bind_none]

/-! ## Positions -/

theorem headerLength_of_fits (fits : t.Fits c.view s) :
    0 < t.headerLength c.view s.start ∧ t.headerLength c.view s.start ≤ s.length := by
  cases t with
  | tcp =>
    obtain ⟨low, high⟩ := fits.tcp rfl
    exact ⟨Nat.lt_of_lt_of_le (by decide) low, high⟩
  | udp | icmp | icmpv6 => exact ⟨(by decide : 0 < 8), fits.long⟩

theorem standsAt_of_message (l3 : c.l3 = some (c.l2 + 14)) (behind : 14 < s.start)
    (payload : c.payload = some (c.l2 + (s.start + t.headerLength c.view s.start)))
    (found : c.message t = some (s.shift c.l2)) (fits : t.Fits c.view s)
    (within : s.Within c.view.length) : c.StandsAt t (s.shift c.l2) := by
  obtain ⟨l4, _, stop, _⟩ := message_eq_some_iff.1 found
  obtain ⟨nonempty, short⟩ := headerLength_of_fits fits
  obtain ⟨ordered, inside⟩ := within
  have size := length_view c
  -- The cursor measures the header in the whole frame, the grammar in the view.
  have header : t.headerLength c.frame (s.shift c.l2).start = t.headerLength c.view s.start :=
    headerLength_frame t s.start
  have bounds : t = .tcp → 20 ≤ tcpHeaderLength c.frame (s.shift c.l2).start ∧
      tcpHeaderLength c.frame (s.shift c.l2).start ≤ (s.shift c.l2).length := by
    rintro rfl
    have measured : tcpHeaderLength c.frame (s.shift c.l2).start = tcpHeaderLength c.view s.start :=
      header
    rw [Span.length_shift, measured]
    exact fits.tcp rfl
  have length : s.length = s.stop - s.start := rfl
  have start : (s.shift c.l2).start = c.l2 + s.start := rfl
  have stopAt : (s.shift c.l2).stop = c.l2 + s.stop := rfl
  constructor
  case l3 => exact l3
  case l4 => exact l4
  case payload => rw [payload, header, start, Nat.add_assoc]
  case datagramEnd => exact stop
  case behindNetwork => omega
  case behindTransport => omega
  case ordered => omega
  case inside => omega
  case messageLength =>
    rw [messageLength, l4, Option.bind_some, stop, Option.bind_some, if_pos (by omega)]
  case transport => exact transport_of_message found bounds

theorem stands_walked {h : Headers} (found : h.Found c.view) : (c.walked h).Stands h := by
  have placed := placed_walked found
  have whole := withView_view (c.walked h)
  have view := view_walked c h
  cases h with
  | arp => exact ⟨rfl, rfl, rfl, transport_of_no_l4 rfl⟩
  | ipv4 t =>
    rw [← view] at found
    have minimum := found.1.minimum
    have message := message4_withView placed found
    rw [whole] at message
    exact standsAt_of_message placed.l3 (show 14 < 14 + _ by omega) rfl message found.2.2
      (within_ipv4Message found)
  | ipv6 t =>
    rw [← view] at found
    have message := message6_withView placed found
    rw [whole] at message
    exact standsAt_of_message placed.l3 (show 14 < 54 by decide) rfl message found.2.2
      (within_ipv6Message found)

/-! ## The walk -/

theorem parse_eq_ok_iff {h : Headers} : c.parse.1 = .ok h ↔ h.Found c.view := by
  constructor
  · exact found_of_parse
  · intro found
    rw [parse_of_found found]

/-- A walk starts anew: the positions behind the Ethernet header do not count. -/
theorem parse_congr (slot : d.slot = c.slot) (l2 : d.l2 = c.l2) (outer : d.outer = c.outer) :
    d.parse = c.parse := by
  have start : d.enterNetwork = c.enterNetwork := by
    simp only [enterNetwork, slot, l2, outer]
  unfold parse
  rw [start]

/-- A walk succeeds exactly on the headers that the frame has from the cursor's Ethernet header on,
names them, and leaves the cursor standing at them. It moves positions only, and another walk from
the same place ends the same way. -/
theorem parse_exact (c : Cursor) :
    (∀ h : Headers, c.parse.1 = .ok h ↔ h.Found c.view) ∧
      (∀ h : Headers, c.parse.1 = .ok h → c.parse.2.Stands h) ∧
      (c.parse.2.slot = c.slot ∧ c.parse.2.l2 = c.l2 ∧ c.parse.2.outer = c.outer) ∧
      c.parse.2.parse = c.parse := by
  obtain ⟨slot, l2, outer⟩ := parse_keeps c
  refine ⟨fun h => parse_eq_ok_iff, fun h ok => ?_, ⟨slot, l2, outer⟩, parse_congr slot l2 outer⟩
  have found : h.Found c.view := parse_eq_ok_iff.1 ok
  rw [parse_of_found found]
  exact stands_walked found

end Boomerang.Cursor
