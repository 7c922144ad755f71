import Boomerang.Address
import Boomerang.Cursor.Basic

/-!
A one-line description of the headers under a cursor, outermost first, for packet traces.
-/

set_option autoImplicit false

namespace Boomerang

structure Summary.Tunnel where
  srcMac : Octets
  dstMac : Octets
  src : Octets
  dst : Octets
  network : Nat
  deriving DecidableEq, Repr

structure Summary.Ether where
  src : Octets
  dst : Octets
  etherType : UInt16
  deriving DecidableEq, Repr

inductive Summary.Network where
  | none
  | arp (operation : UInt16) (sender target : Octets)
  | ipv4 (src dst : Octets) (protocol ttl : UInt8)
  | ipv6 (src dst : Octets) (protocol ttl : UInt8)
  deriving DecidableEq, Repr

inductive Summary.Transport where
  | none
  | ports (protocol : String) (src dst : UInt16)
  | icmp (type code : UInt8)
  deriving DecidableEq, Repr

structure Summary where
  size : Nat
  tunnel : Option Summary.Tunnel
  ether : Option Summary.Ether
  network : Summary.Network
  transport : Summary.Transport
  deriving DecidableEq, Repr

namespace Summary

open Address

def Tunnel.text (t : Tunnel) : String :=
  " vxlan[" ++ macText t.srcMac ++ " > " ++ macText t.dstMac ++ " " ++ ipv4Text t.src ++ " > " ++
    ipv4Text t.dst ++ " vni=" ++ toString t.network ++ "]"

def Ether.text (e : Ether) : String :=
  " eth " ++ macText e.src ++ " > " ++ macText e.dst ++ " type=0x" ++ hexPadded 4 e.etherType.toNat

def Network.text : Network → String
  | .none => ""
  | .arp operation sender target =>
    " arp op=" ++ toString operation.toNat ++ " " ++ ipv4Text sender ++ " > " ++ ipv4Text target
  | .ipv4 src dst protocol ttl =>
    " ip " ++ ipv4Text src ++ " > " ++ ipv4Text dst ++ " proto=" ++ toString protocol.toNat ++
      " ttl=" ++ toString ttl.toNat
  | .ipv6 src dst protocol ttl =>
    " ip " ++ ipv6Text src ++ " > " ++ ipv6Text dst ++ " proto=" ++ toString protocol.toNat ++
      " ttl=" ++ toString ttl.toNat

def Transport.text : Transport → String
  | .none => ""
  | .ports protocol src dst =>
    " " ++ protocol ++ " " ++ toString src.toNat ++ " > " ++ toString dst.toNat
  | .icmp type code => " icmp type=" ++ toString type.toNat ++ " code=" ++ toString code.toNat

/-- A frame too short for its Ethernet header is a runt, and nothing inside it is described. -/
def text (s : Summary) : String :=
  let head := "len=" ++ toString s.size ++ (s.tunnel.map Tunnel.text).getD ""
  match s.ether with
  | none => head ++ " runt"
  | some ether => head ++ ether.text ++ s.network.text ++ s.transport.text

end Summary

namespace Cursor

def tunnelSummary? (c : Cursor) (o : Outer) : Option (Option Summary.Tunnel) := do
  let ether ← c.octets? ⟨o.l2, o.l2 + 14⟩
  match ipv4HeaderAt c.frame o.l3 with
  | none => return none
  | some ip =>
    let header ← c.octets? ip
    let vxlan ← c.octets? ⟨o.vxlan, o.vxlan + 8⟩
    let network ← vxlanNetwork? vxlan
    return some ⟨ether.slice 6 6, ether.slice 0 6, header.slice 12 4, header.slice 16 4, network⟩

def networkSummary (c : Cursor) : Summary.Network :=
  match c.arp, c.ipv4, c.ipv6 with
  | some s, _, _ =>
    let operation := c.frame.word (s.start + 6)
    if c.frame.byte (s.start + 4) = 6 ∧ c.frame.byte (s.start + 5) = 4 then
      .arp operation (c.frame.slice (s.start + 14) 4) (c.frame.slice (s.start + 24) 4)
    else .arp operation (Octets.zeros 4) (Octets.zeros 4)
  | none, some s, _ =>
    .ipv4 (c.frame.slice (s.start + 12) 4) (c.frame.slice (s.start + 16) 4)
      (c.frame.byte (s.start + 9)) (c.frame.byte (s.start + 8))
  | none, none, some s =>
    .ipv6 (c.frame.slice (s.start + 8) 16) (c.frame.slice (s.start + 24) 16)
      (c.frame.byte (s.start + 6)) (c.frame.byte (s.start + 7))
  | none, none, none => .none

def transportSummary (c : Cursor) : Summary.Transport :=
  let ports := fun protocol (s : Span) =>
    Summary.Transport.ports protocol (c.frame.word s.start) (c.frame.word (s.start + 2))
  let icmp := fun (s : Span) =>
    Summary.Transport.icmp (c.frame.byte s.start) (c.frame.byte (s.start + 1))
  match c.tcp, c.udp, c.icmp, c.icmpv6 with
  | some s, _, _, _ => ports "tcp" s
  | none, some s, _, _ => ports "udp" s
  | none, none, some s, _ => icmp s
  | none, none, none, some s => icmp s
  | none, none, none, none => .none

/-- The description of the frame; none only where the tunnel's headers reach past the frame. -/
def summary? (c : Cursor) : Option Summary := do
  let tunnel ← match c.outer with
    | none => pure none
    | some o => c.tunnelSummary? o
  let ether := c.ether.map fun s =>
    { src := c.frame.slice (s.start + 6) 6, dst := c.frame.slice s.start 6,
      etherType := c.frame.word (s.start + 12) : Summary.Ether }
  return ⟨c.size, tunnel, ether, c.networkSummary, c.transportSummary⟩

end Cursor

end Boomerang
