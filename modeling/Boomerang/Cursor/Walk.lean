import Boomerang.Cursor.Basic

/-!
Walking a cursor over the header stack: one header at a time, from Ethernet to payload in one go
(`parse`), or through a VXLAN tunnel to the inner frame (`decapsulate`). A walk that fails keeps
the positions it reached.
-/

set_option autoImplicit false

namespace Boomerang

inductive ParseError where
  | unparseable
  deriving DecidableEq, Repr

def ParseError.message : ParseError → String
  | .unparseable => "unparseable packet"

inductive Headers where
  | arp
  | ipv4 (transport : Transport)
  | ipv6 (transport : Transport)
  deriving DecidableEq, Repr

namespace Cursor

/-- Places the network header right after the Ethernet header, whatever the EtherType says. -/
def enterNetwork (c : Cursor) : Cursor :=
  { c with l3 := some (c.l2 + 14), l4 := none, payload := none }

def enterIpv4? (c : Cursor) : Option Cursor :=
  c.ipv4.bind fun s =>
    if isFragment c.frame s.start then none else some { c with l4 := some s.stop, payload := none }

def enterIpv6? (c : Cursor) : Option Cursor :=
  c.ipv6.map fun s => { c with l4 := some s.stop, payload := none }

def transport? (c : Cursor) : Option (Transport × Nat) :=
  match c.tcp, c.udp, c.icmp, c.icmpv6 with
  | some s, _, _, _ => some (.tcp, s.start + tcpHeaderLength c.frame s.start)
  | none, some s, _, _ => some (.udp, s.start + 8)
  | none, none, some s, _ => some (.icmp, s.start + 8)
  | none, none, none, some s => some (.icmpv6, s.start + 8)
  | none, none, none, none => none

def enterPayload (c : Cursor) : Except ParseError Transport × Cursor :=
  match c.transport? with
  | some (t, payload) => (.ok t, { c with payload := some payload })
  | none => (.error .unparseable, c)

def parse (c : Cursor) : Except ParseError Headers × Cursor :=
  let c := c.enterNetwork
  match c.network with
  | some .arp => (if c.arp.isSome then .ok .arp else .error .unparseable, c)
  | some .ipv4 =>
    match c.enterIpv4? with
    | none => (.error .unparseable, c)
    | some c => let (result, c) := c.enterPayload; (result.map .ipv4, c)
  | some .ipv6 =>
    match c.enterIpv6? with
    | none => (.error .unparseable, c)
    | some c => let (result, c) := c.enterPayload; (result.map .ipv6, c)
  | none => (.error .unparseable, c)

/-- The headers of a UDP datagram over IPv4 to `port`, if the frame is one. -/
def outerHeaders (c : Cursor) (port : UInt16) : Option Outer :=
  if c.network = some .ipv4 then
    (ipv4HeaderAt c.frame (c.l2 + 14)).bind fun s =>
      if c.frame.byte (s.start + 9) = Transport.udp.number ∧ isFragment c.frame s.start = false ∧
          s.stop + 8 ≤ c.size ∧ c.frame.word (s.stop + 2) = port then
        some ⟨c.l2, c.l2 + 14, s.stop, s.stop + 8⟩
      else none
  else none

/-- Moves through a VXLAN tunnel to the inner frame and walks it. The result says whether the frame
was one of the tunnel's; an inner frame without room for an Ethernet header moves nothing. -/
def decapsulate (c : Cursor) (port : UInt16) : Except ParseError Bool × Cursor :=
  if c.outer.isSome then (.ok true, c)
  else
    match c.outerHeaders port with
    | none => (.ok false, c)
    | some outer =>
      let l2 := outer.vxlan + 8
      if c.size < l2 + 14 then (.error .unparseable, c)
      else
        let (result, c) := parse ⟨c.slot, l2, none, none, none, some outer⟩
        (result.map fun _ => true, c)

end Cursor

end Boomerang
