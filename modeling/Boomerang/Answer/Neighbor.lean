import Boomerang.Address
import Boomerang.Answer.Echo

/-!
Neighbor discovery: a solicitation becomes the advertisement of its target, with the responder's
hardware address in a target link-layer address option. The message is resized to exactly that
form; a frame without room for it is dropped as it came. A solicitation from the unspecified
address probes for duplicates and is answered to all nodes.
-/

set_option autoImplicit false

namespace Boomerang.Answer

/-- Header, target and one link-layer address option. -/
def advertisementLength : Nat := 32

def allNodes : Octets := [0xff, 2, 0, 0, 0, 0, 0, 0, 0, 0, 0, 0, 0, 0, 0, 1]

def allNodesMac : Octets := [0x33, 0x33, 0, 0, 0, 1]

/-- Where an advertisement goes, and its flags: solicited and override, or override alone. -/
def advertisementFor (solicitor solicitorMac : Octets) : Octets × Octets × UInt8 :=
  if solicitor = Octets.zeros 16 then (allNodes, allNodesMac, 0x20)
  else (solicitor, solicitorMac, 0x60)

def advertise (mac : Mac) : Answer Unit := do
  let length ← find Cursor.messageLength
  require (24 ≤ length)
  let solicitation ← find Cursor.icmpv6
  let code ← read solicitation 1 1
  let target ← read solicitation 8 16
  require (code = [0] ∧ target.byte 0 ≠ 0xff)
  let ip ← find Cursor.ipv6
  let ether ← find Cursor.ether
  let solicitor ← read ip 8 16
  let solicitorMac ← read ether 6 6
  let (dst, dstMac, flags) := advertisementFor solicitor solicitorMac
  (fun c =>
    match c.resizeMessage? advertisementLength with
    | some c => .done () c
    | none => .dropped c)
  let ip ← find Cursor.ipv6
  write ip 4 (Octets.ofWord (UInt16.ofNat advertisementLength))
  write ip 8 target
  write ip 24 dst
  write ip 7 [255]
  let ip ← find Cursor.ipv6
  let src ← read ip 8 16
  let dst ← read ip 24 16
  let message ← find Cursor.icmpv6
  write message 0 [136]
  write message 1 [0]
  write message 4 [flags]
  write message 5 [0, 0, 0]
  write message 24 [2]
  write message 25 [1]
  write message 26 mac.octets
  fillIcmpv6Checksum message src dst
  let ether ← find Cursor.ether
  write ether 0 dstMac
  write ether 6 mac.octets

def icmpv6 (mac : Mac) : Answer Unit := do
  let message ← find Cursor.icmpv6
  let type ← read message 0 1
  if type = [128] then echo6
  else if type = [135] then advertise mac
  else drop

end Boomerang.Answer
