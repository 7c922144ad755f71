import Boomerang.Answer.Basic

/-!
Echo requests of ICMP and ICMPv6 become replies. The checksum covers the message as far as the IP
header declares it, so that Ethernet padding never enters it.
-/

set_option autoImplicit false

namespace Boomerang.Answer

def echo4 : Answer Unit := do
  let message ← find Cursor.icmp
  let type ← read message 0 1
  require (type = [8])
  write message 0 [0]
  let bytes ← readAll message
  write message 2 (Octets.ofWord (Checksum.icmp bytes))
  let ip ← find Cursor.ipv4
  swapIpv4Addresses ip
  swapEtherAddresses

def fillIcmpv6Checksum (message : Span) (src dst : Octets) : Answer Unit := do
  let bytes ← readAll message
  write message 2 (Octets.ofWord (Checksum.icmpv6 src dst bytes))

def echo6 : Answer Unit := do
  let ip ← find Cursor.ipv6
  swapIpv6Addresses ip
  let ip ← find Cursor.ipv6
  let src ← read ip 8 16
  let dst ← read ip 24 16
  let message ← find Cursor.icmpv6
  write message 0 [129]
  fillIcmpv6Checksum message src dst
  swapEtherAddresses

end Boomerang.Answer
