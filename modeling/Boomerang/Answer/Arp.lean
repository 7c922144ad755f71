import Boomerang.Address
import Boomerang.Answer.Basic

/-!
ARP: every Ethernet/IPv4 request is answered, and the requested address is claimed for the
responder's hardware address. Anything else is dropped.
-/

set_option autoImplicit false

namespace Boomerang.Answer

/-- Hardware type 1, protocol type 0x0800, address lengths 6 and 4, operation 1. -/
def arpRequestHead : Octets := [0, 1, 8, 0, 6, 4, 0, 1]

def arp (mac : Mac) : Answer Unit := do
  let packet ← find Cursor.arp
  let head ← read packet 0 8
  require (head = arpRequestHead)
  let requester ← read packet 8 6
  let sender ← read packet 14 4
  let target ← read packet 24 4
  write packet 6 (Octets.ofWord 2)
  write packet 14 target
  write packet 24 sender
  write packet 18 requester
  write packet 8 mac.octets
  let ether ← find Cursor.ether
  write ether 0 requester
  write ether 6 mac.octets

end Boomerang.Answer
