import Boomerang.Slot

/-!
A cursor over the headers of one frame. It keeps byte positions only; each accessor looks at the
bytes again and gives the span of its header, or nothing where the header is absent or malformed.
A transport span ends with the IP datagram, never in Ethernet padding.
-/

set_option autoImplicit false

namespace Boomerang

structure Outer where
  l2 : Nat
  l3 : Nat
  l4 : Nat
  vxlan : Nat
  deriving DecidableEq, Repr

structure Cursor where
  slot : Slot
  l2 : Nat
  l3 : Option Nat
  l4 : Option Nat
  payload : Option Nat
  outer : Option Outer
  deriving DecidableEq, Repr

inductive Network where
  | arp | ipv4 | ipv6
  deriving DecidableEq, Repr

def Network.ofEtherType? (number : UInt16) : Option Network :=
  if number = 0x0806 then some .arp
  else if number = 0x0800 then some .ipv4
  else if number = 0x86dd then some .ipv6
  else none

inductive Transport where
  | tcp | udp | icmp | icmpv6
  deriving DecidableEq, Repr

def Transport.number : Transport → UInt8
  | .tcp => 6
  | .udp => 17
  | .icmp => 1
  | .icmpv6 => 58

def Transport.minLength : Transport → Nat
  | .tcp => 20
  | .udp | .icmp | .icmpv6 => 8

/-- The span of a well-formed IPv4 header at `l3`, options included. -/
def ipv4HeaderAt (data : Octets) (l3 : Nat) : Option Span :=
  let first := (data.byte l3).toNat
  let length := 4 * (first % 16)
  if l3 + 20 ≤ data.length ∧ first / 16 = 4 ∧ 20 ≤ length ∧ l3 + length ≤ data.length then
    some ⟨l3, l3 + length⟩
  else none

/-- More fragments follow, or this one does not start the datagram. -/
def isFragment (data : Octets) (l3 : Nat) : Bool := (data.word (l3 + 6)).toNat % 0x4000 != 0

namespace Cursor

def ofSlot (slot : Slot) : Cursor := ⟨slot, 0, none, none, none, none⟩

def frame (c : Cursor) : Octets := c.slot.frame

def size (c : Cursor) : Nat := c.slot.length

@[simp] theorem length_frame (c : Cursor) : c.frame.length = c.size := c.slot.length_frame

def isOverlay (c : Cursor) : Bool := c.outer.isSome

def ether (c : Cursor) : Option Span :=
  if c.l2 + 14 ≤ c.size then some ⟨c.l2, c.l2 + 14⟩ else none

def etherType (c : Cursor) : Option UInt16 := c.ether.map fun s => c.frame.word (s.start + 12)

def network (c : Cursor) : Option Network := c.etherType.bind Network.ofEtherType?

def arp (c : Cursor) : Option Span :=
  c.l3.bind fun l3 =>
    if c.network = some .arp ∧ l3 + 28 ≤ c.size then some ⟨l3, l3 + 28⟩ else none

def ipv4 (c : Cursor) : Option Span :=
  c.l3.bind fun l3 => if c.network = some .ipv4 then ipv4HeaderAt c.frame l3 else none

def ipv6 (c : Cursor) : Option Span :=
  c.l3.bind fun l3 =>
    if c.network = some .ipv6 ∧ l3 + 40 ≤ c.size ∧ (c.frame.byte l3).toNat / 16 = 6 then
      some ⟨l3, l3 + 40⟩
    else none

/-- The end of the datagram that the IP header declares, if the frame holds it all. -/
def datagramEnd (c : Cursor) : Option Nat :=
  match c.network with
  | some .ipv4 =>
    c.ipv4.bind fun s =>
      let total := (c.frame.word (s.start + 2)).toNat
      if s.length ≤ total ∧ s.start + total ≤ c.size then some (s.start + total) else none
  | some .ipv6 =>
    c.ipv6.bind fun s =>
      let stop := s.stop + (c.frame.word (s.start + 4)).toNat
      if stop ≤ c.size then some stop else none
  | some .arp | none => none

def nextProtocol (c : Cursor) : Option UInt8 :=
  match c.network with
  | some .ipv4 => c.ipv4.map fun s => c.frame.byte (s.start + 9)
  | some .ipv6 => c.ipv6.map fun s => c.frame.byte (s.start + 6)
  | some .arp | none => none

/-- From the transport header to the declared end, if the IP header names protocol `t` and the
message is long enough for it. -/
def message (c : Cursor) (t : Transport) : Option Span :=
  c.l4.bind fun l4 =>
    if c.nextProtocol = some t.number then
      c.datagramEnd.bind fun stop =>
        if l4 + t.minLength ≤ stop then some ⟨l4, stop⟩ else none
    else none

def tcpHeaderLength (data : Octets) (start : Nat) : Nat := 4 * ((data.byte (start + 12)).toNat / 16)

def tcp (c : Cursor) : Option Span :=
  (c.message .tcp).bind fun s =>
    let length := tcpHeaderLength c.frame s.start
    if 20 ≤ length ∧ length ≤ s.length then some s else none

def udp (c : Cursor) : Option Span := c.message .udp

def icmp (c : Cursor) : Option Span := c.message .icmp

def icmpv6 (c : Cursor) : Option Span := c.message .icmpv6

def outerEther (c : Cursor) : Option Span := c.outer.map fun o => ⟨o.l2, o.l2 + 14⟩

def outerIpv4 (c : Cursor) : Option Span := c.outer.bind fun o => ipv4HeaderAt c.frame o.l3

def outerUdp (c : Cursor) : Option Span := c.outer.map fun o => ⟨o.l4, o.l4 + 8⟩

def vxlan (c : Cursor) : Option Span := c.outer.map fun o => ⟨o.vxlan, o.vxlan + 8⟩

def octets? (c : Cursor) (s : Span) : Option Octets := c.frame.slice? s.start s.length

def messageLength (c : Cursor) : Option Nat :=
  c.l4.bind fun l4 => c.datagramEnd.bind fun stop => if l4 ≤ stop then some (stop - l4) else none

/-- Makes the frame end `length` bytes after the start of the transport header, by taking in
tailroom or by cutting bytes off. The length fields of the headers are left to the caller. -/
def resizeMessage? (c : Cursor) (length : Nat) : Option Cursor :=
  c.l4.bind fun l4 =>
    let want := l4 + length
    let resized :=
      if c.size < want then c.slot.append? (want - c.size) else c.slot.trim? (c.size - want)
    resized.map fun slot => { c with slot }

end Cursor

def vxlanFlags? (header : Octets) : Option UInt8 := header[0]?

def vxlanNetwork? (header : Octets) : Option Nat := do
  let bytes ← header.slice? 4 3
  return 65536 * (bytes.byte 0).toNat + 256 * (bytes.byte 1).toNat + (bytes.byte 2).toNat

end Boomerang
