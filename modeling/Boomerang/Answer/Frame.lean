import Boomerang.Answer.Arp
import Boomerang.Answer.Neighbor

/-!
The answer to a whole frame. UDP datagrams go back with addresses and ports exchanged; their
checksum stays right because the sum does not depend on the order of its words. A frame out of a
tunnel is answered inside first, then its outer headers are turned around.
-/

set_option autoImplicit false

namespace Boomerang

namespace Answer

def datagram4 : Answer Unit := do
  let udp ← find Cursor.udp
  swap udp 0 2 2
  let ip ← find Cursor.ipv4
  swapIpv4Addresses ip
  swapEtherAddresses

def datagram6 : Answer Unit := do
  let udp ← find Cursor.udp
  swap udp 0 2 2
  let ip ← find Cursor.ipv6
  swapIpv6Addresses ip
  swapEtherAddresses

/-- Sends an answered inner frame back through its tunnel. If the frame no longer has its received
size, the outer lengths follow; the outer UDP checksum is left out. -/
def tunnel (received : Nat) : Answer Unit := do
  let size ← find fun c => some c.size
  let outer ← find Cursor.outer
  let udp ← find Cursor.outerUdp
  if size ≠ received then write udp 4 (Octets.ofWord (UInt16.ofNat (size - outer.l4)))
  write udp 6 [0, 0]
  let ip ← find Cursor.outerIpv4
  if size ≠ received then write ip 2 (Octets.ofWord (UInt16.ofNat (size - outer.l3)))
  swapIpv4Addresses ip
  let ether ← find Cursor.outerEther
  swap ether 0 6 6

def forHeaders (mac : Mac) : Headers → Answer Unit
  | .arp => arp mac
  | .ipv4 .icmp => echo4
  | .ipv4 .udp => datagram4
  | .ipv6 .icmpv6 => icmpv6 mac
  | .ipv6 .udp => datagram6
  | .ipv4 _ | .ipv6 _ => drop

def frame (mac : Mac) : Answer Unit := fun c =>
  match c.parse with
  | (.error _, c) => .dropped c
  | (.ok headers, c) =>
    bind (forHeaders mac headers)
      (fun _ => if c.isOverlay then tunnel c.size else pure ()) c

end Answer

structure Reflection where
  decapsulated : Except ParseError Bool
  verdict : Verdict
  cursor : Cursor

/-- Leaves a tunnel if there is one, then answers the frame. -/
def reflect (mac : Mac) (vxlanPort : UInt16) (slot : Slot) : Reflection :=
  let (decapsulated, c) := (Cursor.ofSlot slot).decapsulate vxlanPort
  match decapsulated with
  | .error _ => ⟨decapsulated, .drop, c⟩
  | .ok _ =>
    let (verdict, c) := (Answer.frame mac).run c
    ⟨decapsulated, verdict, c⟩

end Boomerang
