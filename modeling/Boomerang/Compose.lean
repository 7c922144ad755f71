import Boomerang.Address
import Boomerang.Checksum
import Boomerang.Cursor.Basic

/-!
Builders of well-formed frames: ARP, ICMP, UDP, TCP, neighbor discovery and VXLAN encapsulation.
IPv4 headers carry don't-fragment, identification 0 and time to live 64. A builder gives nothing
where a payload exceeds the length field of its IP header.
-/

set_option autoImplicit false

namespace Boomerang.Compose

open Octets

/-- Addresses at both ends of a link, and at both ends of a network of addresses of `size` bytes. -/
structure Route (size : Nat) where
  srcMac : Mac
  dstMac : Mac
  src : Address size
  dst : Address size

def broadcast : Mac := Address.mac 255 255 255 255 255 255

def ether (src dst : Mac) (etherType : UInt16) (payload : Octets) : Octets :=
  dst.octets ++ src.octets ++ ofWord etherType ++ payload

def withChecksum (data : Octets) (field : Nat) (sum : UInt16) : Octets :=
  overwrite data field (ofWord sum)

def ipv4Header (src dst : Ipv4) (protocol : UInt8) (total : Nat) : Octets :=
  let header := [0x45, 0] ++ ofWord (UInt16.ofNat total) ++ [0, 0, 0x40, 0, 64, protocol, 0, 0] ++
    src.octets ++ dst.octets
  withChecksum header 10 (Checksum.ipv4Header header)

def ipv4 (route : Route 4) (protocol : UInt8) (message : Octets) : Option Octets :=
  if 20 + message.length < 65536 then
    some (ether route.srcMac route.dstMac 0x0800
      (ipv4Header route.src route.dst protocol (20 + message.length) ++ message))
  else none

def ipv6 (route : Route 16) (protocol hopLimit : UInt8) (message : Octets) : Option Octets :=
  if message.length < 65536 then
    some (ether route.srcMac route.dstMac 0x86dd
      ([0x60, 0, 0, 0] ++ ofWord (UInt16.ofNat message.length) ++ [protocol, hopLimit] ++
        route.src.octets ++ route.dst.octets ++ message))
  else none

def arp (operation : UInt16) (sender : Mac) (src target : Ipv4) : Octets :=
  ether sender broadcast 0x0806
    ([0, 1, 8, 0, 6, 4] ++ ofWord operation ++ sender.octets ++ src.octets ++ zeros 6 ++
      target.octets)

def arpRequest : Mac → Ipv4 → Ipv4 → Octets := arp 1

def arpReply : Mac → Ipv4 → Ipv4 → Octets := arp 2

def icmp (route : Route 4) (message : Octets) : Option Octets :=
  ipv4 route 1 (withChecksum message 2 (Checksum.icmp message))

def echoRequest4 (route : Route 4) (ident sequence : UInt16) (data : Octets) : Option Octets :=
  icmp route ([8, 0, 0, 0] ++ ofWord ident ++ ofWord sequence ++ data)

def icmpOfType (route : Route 4) (type : UInt8) : Option Octets :=
  icmp route [type, 0, 0, 0, 0, 0, 0, 0]

def datagram (srcPort dstPort : UInt16) (payload : Octets) : Octets :=
  ofWord srcPort ++ ofWord dstPort ++ ofWord (UInt16.ofNat (8 + payload.length)) ++ [0, 0] ++
    payload

def udp4 (route : Route 4) (srcPort dstPort : UInt16) (payload : Octets) : Option Octets :=
  let message := datagram srcPort dstPort payload
  ipv4 route 17
    (withChecksum message 6 (Checksum.udp4 route.src.octets route.dst.octets message))

def udp6 (route : Route 16) (srcPort dstPort : UInt16) (payload : Octets) : Option Octets :=
  let message := datagram srcPort dstPort payload
  ipv6 route 17 64
    (withChecksum message 6 (Checksum.udp6 route.src.octets route.dst.octets message))

def tcpSyn (route : Route 4) (srcPort dstPort : UInt16) : Option Octets :=
  ipv4 route 6 (ofWord srcPort ++ ofWord dstPort ++ zeros 8 ++ [0x50, 2] ++ zeros 6)

/-- Puts options behind the fixed IPv4 header and mends header length, total length and checksum. A
frame too short for the header, or options that are not whole words, give nothing. -/
def addIpv4Options (frame options : Octets) : Option Octets :=
  if options.length % 4 = 0 ∧ 34 ≤ frame.length then
    let words := (20 + options.length) / 4
    let total := UInt16.ofNat ((frame.word 16).toNat + options.length)
    let header := frame.slice 14 20 ++ options
    let header := overwrite header 0 [UInt8.ofNat words ||| 0x40]
    let header := overwrite header 2 (ofWord total)
    some (frame.take 14 ++ withChecksum header 10 (Checksum.ipv4Header header) ++ frame.drop 34)
  else none

def icmpv6 (route : Route 16) (hopLimit : UInt8) (message : Octets) : Option Octets :=
  ipv6 route 58 hopLimit
    (withChecksum message 2 (Checksum.icmpv6 route.src.octets route.dst.octets message))

def echoRequest6 (route : Route 16) (ident sequence : UInt16) (data : Octets) : Option Octets :=
  icmpv6 route 64 ([128, 0, 0, 0] ++ ofWord ident ++ ofWord sequence ++ data)

def solicitedNode (target : Ipv6) : Ipv6 :=
  ⟨[0xff, 2, 0, 0, 0, 0, 0, 0, 0, 0, 0, 1, 0xff, target.octets.byte 13, target.octets.byte 14,
    target.octets.byte 15], rfl⟩

/-- A solicitation for `target`, sent to its multicast group; it names its sender's hardware
address unless the sender has no address yet. -/
def neighborSolicitation (mac : Mac) (src target : Ipv6) : Option Octets :=
  let group := solicitedNode target
  let option := if src = Address.zero 16 then [] else [1, 1] ++ mac.octets
  let dstMac := Address.mac 0x33 0x33 (group.octets.byte 12) (group.octets.byte 13)
    (group.octets.byte 14) (group.octets.byte 15)
  icmpv6 ⟨mac, dstMac, src, group⟩ 255 ([135, 0, 0, 0, 0, 0, 0, 0] ++ target.octets ++ option)

def allRouters : Ipv6 := ⟨[0xff, 2, 0, 0, 0, 0, 0, 0, 0, 0, 0, 0, 0, 0, 0, 2], rfl⟩

def routerSolicitation (mac : Mac) (src : Ipv6) : Option Octets :=
  icmpv6 ⟨mac, Address.mac 0x33 0x33 0 0 0 2, src, allRouters⟩ 255
    ([133, 0, 0, 0, 0, 0, 0, 0, 1, 1] ++ mac.octets)

def vxlan (route : Route 4) (network : UInt32) (inner : Octets) : Option Octets :=
  ipv4 route 17
    (datagram 49152 4789 ([8, 0, 0, 0] ++ (ofNat32 network.toNat).drop 1 ++ [0] ++ inner))

end Boomerang.Compose
