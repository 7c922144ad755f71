import Boomerang.Proofs.Padding
import Boomerang.Proofs.Passage
import Boomerang.Proofs.Positions

/-!
A cursor in use. Its positions are kept while the bytes that they were read from are overwritten and
the frame is resized around them, in any order. They still fit together and lie in the frame, and so
does whatever is looked up: a position may grow stale, but no access made through it leaves the
frame, and no message ends behind its datagram.
-/

set_option autoImplicit false

namespace Boomerang

namespace Cursor

inductive Layer where
  | ether
  | arp
  | ipv4
  | ipv6
  | transport (t : Transport)
  | outerEther
  | outerIpv4
  | outerUdp
  | vxlan
  deriving DecidableEq, Repr

def layer (c : Cursor) : Layer → Option Span
  | .ether => c.ether
  | .arp => c.arp
  | .ipv4 => c.ipv4
  | .ipv6 => c.ipv6
  | .transport t => c.transport t
  | .outerEther => c.outerEther
  | .outerIpv4 => c.outerIpv4
  | .outerUdp => c.outerUdp
  | .vxlan => c.vxlan

/-- What can be done with a cursor. What is refused leaves it as it is. -/
inductive Step (c : Cursor) : Cursor → Prop
  | enterNetwork : Step c c.enterNetwork
  | enterIpv4 {d : Cursor} (entered : c.enterIpv4? = some d) : Step c d
  | enterIpv6 {d : Cursor} (entered : c.enterIpv6? = some d) : Step c d
  | enterPayload : Step c c.enterPayload.2
  | parse : Step c c.parse.2
  | decapsulate (port : UInt16) : Step c (c.decapsulate port).2
  | resize {length : Nat} {d : Cursor} (resized : c.resizeMessage? length = some d) : Step c d
  /-- Any bytes of a header that was looked up are overwritten, be it by one write or by many. -/
  | write {l : Layer} {s : Span} {position : Nat} {value : Octets} {d : Cursor}
      (found : c.layer l = some s)
      (written : Answer.write s position value c = .done () d) : Step c d

/-- The cursors that come of a frame. -/
inductive Reached (slot : Slot) : Cursor → Prop
  | start : Reached slot (ofSlot slot)
  | step {c d : Cursor} (before : Reached slot c) (step : Step c d) : Reached slot d

/-- The positions fit together, and the frame reaches as far as they say. -/
structure InBounds (c : Cursor) : Prop where
  network : ∀ l3, c.l3 = some l3 → l3 = c.l2 + 14
  message : ∀ l4, c.l4 = some l4 → ∃ l3, c.l3 = some l3 ∧ l3 + 20 ≤ l4 ∧ l4 ≤ c.size
  tunnel : ∀ o, c.outer = some o → o.l3 = o.l2 + 14 ∧ o.l3 + 20 ≤ o.l4 ∧ o.vxlan = o.l4 + 8 ∧
    c.l2 = o.vxlan + 8 ∧ c.l2 + 14 ≤ c.size

variable {c d : Cursor} {slot : Slot} {s : Span} {l : Layer} {t : Transport}

/-! ## Steps -/

theorem written_slot {position : Nat} {value : Octets}
    (written : Answer.write s position value c = .done () d) :
    ∃ slot, d = { c with slot } ∧ slot.length = c.slot.length := by
  unfold Answer.write at written
  split at written
  · split at written
    case h_1 slot overwritten =>
      cases written
      obtain ⟨_, same⟩ := Option.dite_none_right_eq_some.1 overwritten
      cases same
      exact ⟨_, rfl, rfl⟩
    · cases written
  · cases written

namespace InBounds

theorem ofSlot (slot : Slot) : (ofSlot slot).InBounds where
  network := nofun
  message := nofun
  tunnel := nofun

/-- Positions and the size of the frame count, not its bytes and not the payload. -/
theorem congr (bounds : c.InBounds) (l2 : d.l2 = c.l2) (l3 : d.l3 = c.l3) (l4 : d.l4 = c.l4)
    (outer : d.outer = c.outer) (size : d.size = c.size) : d.InBounds where
  network := by
    rw [l2, l3]
    exact bounds.network
  message := by
    rw [l3, l4, size]
    exact bounds.message
  tunnel := by
    rw [l2, outer, size]
    exact bounds.tunnel

theorem enterNetwork (bounds : c.InBounds) : c.enterNetwork.InBounds where
  network _ same := (Option.some.inj same).symm
  message := nofun
  tunnel := bounds.tunnel

theorem place (bounds : c.InBounds) {l3 l4 : Nat} (at3 : c.l3 = some l3) (long : l3 + 20 ≤ l4)
    (inside : l4 ≤ c.size) : InBounds { c with l4 := some l4, payload := none } where
  network := bounds.network
  message _ same := by
    cases same
    exact ⟨l3, at3, long, inside⟩
  tunnel := bounds.tunnel

theorem enterIpv4 (bounds : c.InBounds) (entered : c.enterIpv4? = some d) : d.InBounds := by
  obtain ⟨s, found, entered⟩ := Option.bind_eq_some_iff.1 entered
  obtain ⟨_, same⟩ := Option.ite_none_left_eq_some.1 entered
  cases same
  obtain ⟨long, ordered, inside⟩ := ipv4_inside found
  obtain ⟨l3, at3, found⟩ := Option.bind_eq_some_iff.1 found
  obtain ⟨_, found⟩ := Option.ite_none_right_eq_some.1 found
  obtain ⟨_, same⟩ := Option.ite_none_right_eq_some.1 found
  cases same
  have short : l3 + 20 ≤ l3 + 4 * ((c.frame.byte l3).toNat % 16) := by omega
  exact bounds.place at3 short inside

theorem enterIpv6 (bounds : c.InBounds) (entered : c.enterIpv6? = some d) : d.InBounds := by
  obtain ⟨s, found, rfl⟩ := Option.map_eq_some_iff.1 entered
  obtain ⟨_, _, inside⟩ := ipv6_inside found
  obtain ⟨l3, at3, found⟩ := Option.bind_eq_some_iff.1 found
  obtain ⟨_, same⟩ := Option.ite_none_right_eq_some.1 found
  cases same
  exact bounds.place at3 (show l3 + 20 ≤ l3 + 40 by omega) inside

theorem enterPayload (bounds : c.InBounds) : c.enterPayload.2.InBounds := by
  unfold Cursor.enterPayload
  split
  · exact bounds.congr rfl rfl rfl rfl rfl
  · exact bounds

theorem parse (bounds : c.InBounds) : c.parse.2.InBounds := by
  have entered := bounds.enterNetwork
  unfold Cursor.parse
  dsimp only
  split
  · exact entered
  · split
    · exact entered
    next found => exact (entered.enterIpv4 found).enterPayload
  · split
    · exact entered
    next found => exact (entered.enterIpv6 found).enterPayload
  · exact entered

theorem through {port : UInt16} {o : Outer} (found : c.outerHeaders port = some o)
    (room : o.vxlan + 8 + 14 ≤ c.size) :
    InBounds ⟨c.slot, o.vxlan + 8, none, none, none, some o⟩ where
  network := nofun
  message := nofun
  tunnel := by
    rintro _ ⟨⟩
    obtain ⟨_, found⟩ := Option.ite_none_right_eq_some.1 found
    obtain ⟨s, header, found⟩ := Option.bind_eq_some_iff.1 found
    obtain ⟨_, same⟩ := Option.ite_none_right_eq_some.1 found
    obtain ⟨⟨_, minimum, _⟩, placed⟩ := ipv4HeaderAt_eq_some_iff.1 header
    cases same
    cases placed
    have behind : c.l2 + 14 + 20 ≤ c.l2 + (14 + ipv4HeaderLength c.view) := by omega
    exact ⟨rfl, behind, rfl, rfl, room⟩

theorem decapsulate (bounds : c.InBounds) (port : UInt16) : (c.decapsulate port).2.InBounds := by
  unfold Cursor.decapsulate
  split
  · exact bounds
  split
  · exact bounds
  next o found =>
    dsimp only
    split
    · exact bounds
    next long => exact (through found (by omega)).parse

theorem resizeMessage?_eq_some_iff {length : Nat} (bounds : c.InBounds) :
    c.resizeMessage? length = some d ↔ ∃ l4, c.l4 = some l4 ∧
      ∃ fits : l4 + length ≤ c.slot.capacity,
        { c with slot := ⟨c.slot.area, l4 + length, fits⟩ } = d := by
  cases at4 : c.l4 with
  | none => simp [resizeMessage?, at4]
  | some l4 =>
    obtain ⟨l3, at3, behind, _⟩ := bounds.message l4 at4
    have start := bounds.network l3 at3
    obtain ⟨n, rfl⟩ := Nat.exists_eq_add_of_le (show c.l2 ≤ l4 by omega)
    rw [resizeMessage?_eq at4, Option.dite_none_right_eq_some]
    simp only [Cursor.resized, Option.some.injEq, exists_eq_left', Nat.add_assoc, at4]

theorem resize {length : Nat} (bounds : c.InBounds) (resized : c.resizeMessage? length = some d) :
    d.InBounds := by
  obtain ⟨l4, at4, fits, rfl⟩ := bounds.resizeMessage?_eq_some_iff.1 resized
  obtain ⟨l3, at3, behind, _⟩ := bounds.message l4 at4
  have start := bounds.network l3 at3
  have size : l4 ≤ l4 + length := Nat.le_add_right _ _
  constructor
  case network => exact bounds.network
  case message =>
    intro _ same
    cases at4.symm.trans same
    exact ⟨l3, at3, behind, size⟩
  case tunnel =>
    -- The message may be cut down to nothing, but it starts behind the frame's own headers.
    intro o outer
    obtain ⟨l3', l4', vxlan, l2, _⟩ := bounds.tunnel o outer
    exact ⟨l3', l4', vxlan, l2, show c.l2 + 14 ≤ l4 + length by omega⟩

theorem write {position : Nat} {value : Octets} (bounds : c.InBounds)
    (written : Answer.write s position value c = .done () d) : d.InBounds := by
  obtain ⟨slot, rfl, length⟩ := written_slot written
  exact bounds.congr rfl rfl rfl rfl length

theorem step (bounds : c.InBounds) (step : Step c d) : d.InBounds := by
  -- No case asks whether the bytes that a position was read from are still there.
  cases step with
  | enterNetwork => exact bounds.enterNetwork
  | enterIpv4 entered => exact bounds.enterIpv4 entered
  | enterIpv6 entered => exact bounds.enterIpv6 entered
  | enterPayload => exact bounds.enterPayload
  | parse => exact bounds.parse
  | decapsulate port => exact bounds.decapsulate port
  | resize resized => exact bounds.resize resized
  | write _ written => exact bounds.write written

theorem around {o : Outer} (bounds : c.InBounds) (outer : c.outer = some o) :
    o.l2 + 14 ≤ c.size ∧ o.l4 + 8 ≤ c.size ∧ o.vxlan + 8 ≤ c.size := by
  obtain ⟨l3, l4, vxlan, l2, room⟩ := bounds.tunnel o outer
  omega

end InBounds

theorem Reached.inBounds (reached : Reached slot c) : c.InBounds := by
  induction reached with
  | start => exact InBounds.ofSlot slot
  | step _ step bounds => exact bounds.step step

end Cursor

/-! ## Looking up -/

namespace Guarded

open Answer

/-- A header around the frame in a tunnel. Nothing is asked of its bytes. -/
def around (start : Outer → Nat) (width : Nat) : Answer Span := do
  let o ← find Cursor.outer
  slice (start o) (start o + width)

def outerIpv4 : Answer Span := do
  let o ← find Cursor.outer
  ipv4At o.l3

def layer : Cursor.Layer → Answer Span
  | .ether => ether
  | .arp => arp
  | .ipv4 => ipv4
  | .ipv6 => ipv6
  | .transport .tcp => tcp
  | .transport t => message t
  | .outerEther => around Outer.l2 14
  | .outerIpv4 => outerIpv4
  | .outerUdp => around Outer.l4 8
  | .vxlan => around Outer.vxlan 8

def ipv6Addresses : Answer (Octets × Octets) := do
  let ip ← ipv6
  let src ← read ip 8 16
  let dst ← read ip 24 16
  return (src, dst)

variable {c : Cursor}

theorem around_eq {start : Outer → Nat} {width : Nat}
    (inside : ∀ o, c.outer = some o → start o + width ≤ c.size) :
    around start width c =
      find (fun c => c.outer.map fun o => ⟨start o, start o + width⟩) c := by
  rw [around, find_bind, find]
  cases outer : c.outer with
  | none => rfl
  | some o => exact slice_done (Nat.le_add_right _ _) (inside o outer)

theorem outerIpv4_eq : outerIpv4 = find Cursor.outerIpv4 := by
  funext c
  rw [outerIpv4, find_bind, find, Cursor.outerIpv4]
  cases c.outer with
  | none => rfl
  | some o =>
    dsimp only
    rw [ipv4At_eq, find, Option.bind_some]

theorem ipv6Addresses_eq :
    ipv6Addresses = find fun c => c.ipv6.map fun s =>
      (c.frame.slice (s.start + 8) 16, c.frame.slice (s.start + 24) 16) := by
  funext c
  rw [ipv6Addresses, ipv6_eq, find_bind, find]
  cases found : c.ipv6 with
  | none => rfl
  | some s =>
    obtain ⟨width, within⟩ := Cursor.ipv6_inside found
    dsimp only
    rw [bind_done (read_done (by omega) within), bind_done (read_done (by omega) within)]
    rfl

theorem layer_eq (bounds : c.InBounds) (l : Cursor.Layer) : layer l c = find (·.layer l) c := by
  cases l with
  | ether => exact congrFun ether_eq c
  | arp => exact congrFun arp_eq c
  | ipv4 => exact congrFun ipv4_eq c
  | ipv6 => exact congrFun ipv6_eq c
  | transport t =>
    cases t with
    | tcp => exact congrFun tcp_eq c
    | udp => exact congrFun (message_eq .udp) c
    | icmp => exact congrFun (message_eq .icmp) c
    | icmpv6 => exact congrFun (message_eq .icmpv6) c
  | outerEther => exact around_eq fun o outer => (bounds.around outer).1
  | outerIpv4 => exact congrFun outerIpv4_eq c
  | outerUdp => exact around_eq fun o outer => (bounds.around outer).2.1
  | vxlan => exact around_eq fun o outer => (bounds.around outer).2.2

end Guarded

namespace Cursor

open Answer

variable {c : Cursor} {slot : Slot} {s : Span} {l : Layer} {t : Transport}

/-! ## What was looked up -/

theorem message_of_transport (found : c.transport t = some s) : c.message t = some s := by
  cases t with
  | tcp => exact (tcp_eq_some_iff.1 found).1
  | udp | icmp | icmpv6 => exact found

theorem declaredEnd_of_datagramEnd {stop : Nat} (l3 : c.l3 = some (c.l2 + 14))
    (ends : c.datagramEnd = some stop) :
    ∃ n, declaredEnd c.view = some n ∧ stop = c.l2 + n := by
  have header := ends
  unfold datagramEnd at header
  split at header
  · obtain ⟨_, found, _⟩ := Option.bind_eq_some_iff.1 header
    obtain ⟨header, _⟩ := (ipv4_eq_some_iff l3).1 found
    obtain ⟨_, same⟩ := (datagramEnd_eq_some_iff_of_ipv4 l3 header).1 ends
    exact ⟨_, declaredEnd_of_ipv4 header.etherType, same.symm⟩
  · obtain ⟨_, found, _⟩ := Option.bind_eq_some_iff.1 header
    obtain ⟨header, _⟩ := (ipv6_eq_some_iff l3).1 found
    obtain ⟨_, same⟩ := (datagramEnd_eq_some_iff_of_ipv6 l3 header).1 ends
    exact ⟨_, declaredEnd_of_ipv6 header.etherType, same.symm⟩
  · cases header
  · cases header

namespace InBounds

theorem inside (bounds : c.InBounds) (found : c.layer l = some s) : s.Within c.size := by
  cases l with
  | ether => exact (ether_inside found).2
  | arp => exact (arp_inside found).2
  | ipv4 => exact (ipv4_inside found).2
  | ipv6 => exact (ipv6_inside found).2
  | transport t => exact (message_inside (message_of_transport found)).2
  | outerEther =>
    obtain ⟨o, outer, rfl⟩ := Option.map_eq_some_iff.1 found
    exact ⟨Nat.le_add_right _ _, (bounds.around outer).1⟩
  | outerIpv4 =>
    obtain ⟨o, _, header⟩ := Option.bind_eq_some_iff.1 found
    exact (ipv4HeaderAt_inside header).2
  | outerUdp =>
    obtain ⟨o, outer, rfl⟩ := Option.map_eq_some_iff.1 found
    exact ⟨Nat.le_add_right _ _, (bounds.around outer).2.1⟩
  | vxlan =>
    obtain ⟨o, outer, rfl⟩ := Option.map_eq_some_iff.1 found
    exact ⟨Nat.le_add_right _ _, (bounds.around outer).2.2⟩

/-- The position of a message may be stale, but its end is read anew. -/
theorem ends (bounds : c.InBounds) (found : c.transport t = some s) :
    ∃ stop, declaredEnd c.view = some stop ∧ s.stop = c.l2 + stop := by
  obtain ⟨at4, _, stop, _⟩ := message_eq_some_iff.1 (message_of_transport found)
  obtain ⟨l3, at3, _⟩ := bounds.message _ at4
  cases bounds.network l3 at3
  exact declaredEnd_of_datagramEnd at3 stop

theorem enclosed (bounds : c.InBounds) : c.Enclosed := by
  intro o outer
  obtain ⟨ether, _, vxlan⟩ := bounds.around outer
  exact ⟨ether, vxlan⟩

end InBounds

/-- A cursor in use. Whatever bytes its frame holds by now, a header that is looked up lies in the
frame, a message ends with its datagram, and no access faults. -/
structure Safe (c : Cursor) : Prop extends c.InBounds where
  inside : ∀ l s, c.layer l = some s → s.Within c.size
  ends : ∀ t s, c.transport t = some s →
    ∃ stop, declaredEnd c.view = some stop ∧ s.stop = c.l2 + stop
  layer : ∀ l, Guarded.layer l c = find (fun d => d.layer l) c
  ipv6Addresses : Guarded.ipv6Addresses c = find (fun d => d.ipv6.map fun s =>
    (d.frame.slice (s.start + 8) 16, d.frame.slice (s.start + 24) 16)) c
  messageLength : Guarded.messageLength c = find Cursor.messageLength c
  summary : ∃ description, c.summary? = some description ∧ Guarded.summary c = .done description c
  write : ∀ l s position value, c.layer l = some s → position + value.length ≤ s.length →
    ∃ d, Answer.write s position value c = .done () d
  resize : ∀ length, Guarded.resize length c = match c.resizeMessage? length with
    | some d => .done () d
    | none => .dropped c
  /-- The frame is resized exactly where it has a message and the buffer has room. -/
  resized : ∀ length d, c.resizeMessage? length = some d ↔ ∃ l4, c.l4 = some l4 ∧
    ∃ fits : l4 + length ≤ c.slot.capacity,
      { c with slot := ⟨c.slot.area, l4 + length, fits⟩ } = d

theorem InBounds.safe (bounds : c.InBounds) : c.Safe where
  toInBounds := bounds
  inside _ _ found := bounds.inside found
  ends _ _ found := bounds.ends found
  layer := Guarded.layer_eq bounds
  ipv6Addresses := congrFun Guarded.ipv6Addresses_eq c
  messageLength := congrFun Guarded.messageLength_eq c
  summary := Guarded.summary_done bounds.enclosed
  write _ _ _ _ found fits := ⟨_, write_done fits (bounds.inside found)⟩
  resize length := congrFun (Guarded.resize_eq length) c
  resized _ _ := bounds.resizeMessage?_eq_some_iff

/-- In whatever order a cursor is walked, led out of a tunnel, resized and written through, and
whatever is written, it stays safe to use. -/
theorem safe_of_reached (reached : Reached slot c) : c.Safe :=
  reached.inBounds.safe

/-- The network header of a solicitation is spoilt. The position of the message has grown stale, and
the frame is resized around it all the same. -/
theorem safe_of_spoilt :
    let c := ((ofSlot (solicitedSlot 0 8)).decapsulate 4789).2
    let d := c.withFrame (c.frame.put 64 [0])
    Answer.write ⟨64, 104⟩ 0 [0] c = .done () d ∧ (d.l4 = some 104 ∧ d.transport .icmpv6 = none) ∧
      ∃ e, d.resizeMessage? 32 = some e ∧ e.Safe := by
  intro c d
  have led : Reached (solicitedSlot 0 8) c := .step .start (.decapsulate 4789)
  have header : c.layer .ipv6 = some ⟨64, 104⟩ := by decide +kernel
  have written : Answer.write ⟨64, 104⟩ 0 [0] c = .done () d :=
    write_done (by decide) (led.inBounds.inside header)
  have spoilt : Reached (solicitedSlot 0 8) d := led.step (.write header written)
  have stale : d.l4 = some 104 ∧ d.transport .icmpv6 = none := by decide +kernel
  have fits : 104 + 32 ≤ d.slot.capacity := by decide +kernel
  have resized := spoilt.inBounds.resizeMessage?_eq_some_iff.2 ⟨104, stale.1, fits, rfl⟩
  exact ⟨written, stale, _, resized, safe_of_reached (spoilt.step (.resize resized))⟩

end Cursor

end Boomerang
