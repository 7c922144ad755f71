import Boomerang.Proofs.EndAroundCarry
import Boomerang.Proofs.Layout

/-!
The messages that the builders put behind their IP headers. Each shows the fields it was built from
at the offsets of its protocol, and the checksum filled into it verifies.
-/

set_option autoImplicit false

namespace Boomerang

open Octets Checksum

namespace Compose

inductive Packet4 where
  | echo (route : Route 4) (ident sequence : UInt16) (data : Octets)
  | icmp (route : Route 4) (type : UInt8)
  | udp (route : Route 4) (srcPort dstPort : UInt16) (payload : Octets)
  | tcpSyn (route : Route 4) (srcPort dstPort : UInt16)

inductive Packet6 where
  | echo (route : Route 16) (ident sequence : UInt16) (data : Octets)
  | udp (route : Route 16) (srcPort dstPort : UInt16) (payload : Octets)
  | neighborSolicitation (mac : Mac) (src target : Ipv6)
  | routerSolicitation (mac : Mac) (src : Ipv6)

def Packet4.build : Packet4 → Option Octets
  | .echo route ident sequence data => echoRequest4 route ident sequence data
  | .icmp route type => icmpOfType route type
  | .udp route srcPort dstPort payload => udp4 route srcPort dstPort payload
  | .tcpSyn route srcPort dstPort => Compose.tcpSyn route srcPort dstPort

def Packet6.build : Packet6 → Option Octets
  | .echo route ident sequence data => echoRequest6 route ident sequence data
  | .udp route srcPort dstPort payload => udp6 route srcPort dstPort payload
  | .neighborSolicitation mac src target => Compose.neighborSolicitation mac src target
  | .routerSolicitation mac src => Compose.routerSolicitation mac src

end Compose

open Compose

/-! ## Fields -/

/-- An ICMP message of the given type; types other than echo have zero for the identifier and the
sequence number. -/
structure EchoFields (type : UInt8) (ident sequence : UInt16) (data message : Octets) : Prop where
  type : message.byte 0 = type
  code : message.byte 1 = 0
  ident : message.word 4 = ident
  sequence : message.word 6 = sequence
  data : message.drop 8 = data

structure DatagramFields (srcPort dstPort : UInt16) (payload message : Octets) : Prop where
  srcPort : message.word 0 = srcPort
  dstPort : message.word 2 = dstPort
  length : (message.word 4).toNat = 8 + payload.length
  checksum : message.word 6 ≠ 0
  payload : message.drop 8 = payload

structure SynFields (srcPort dstPort : UInt16) (message : Octets) : Prop where
  srcPort : message.word 0 = srcPort
  dstPort : message.word 2 = dstPort
  header : Cursor.tcpHeaderLength message 0 = 20
  flags : message.byte 13 = 2
  length : message.length = 20

def sourceOption (mac : Mac) : Octets := [1, 1] ++ mac.octets

/-- A sender without an address does not name its hardware address. -/
structure SolicitationFields (mac : Mac) (src target : Ipv6) (message : Octets) : Prop where
  type : message.byte 0 = 135
  code : message.byte 1 = 0
  target : message.slice 8 16 = target.octets
  options : message.drop 24 = if src = Address.zero 16 then [] else sourceOption mac

namespace Compose

variable {data : Octets} {field : Nat}

theorem withChecksum_eq_put (fits : field + 2 ≤ data.length) (sum : UInt16) :
    withChecksum data field sum = data.put field (ofWord sum) :=
  (put_eq_overwrite fits).symm

theorem length_withChecksum (fits : field + 2 ≤ data.length) (sum : UInt16) :
    (withChecksum data field sum).length = data.length :=
  length_overwrite fits

def echo (type : UInt8) (ident sequence : UInt16) (data : Octets) : Octets :=
  [type, 0, 0, 0] ++ ofWord ident ++ ofWord sequence ++ data

theorem length_echo (type : UInt8) (ident sequence : UInt16) (data : Octets) :
    (echo type ident sequence data).length = 8 + data.length := by
  simp only [echo, List.length_append, length_ofWord]
  rfl

theorem length_datagram (srcPort dstPort : UInt16) (payload : Octets) :
    (datagram srcPort dstPort payload).length = 8 + payload.length := by
  simp only [datagram, List.length_append, length_ofWord]
  rfl

theorem echoFields (type : UInt8) (ident sequence : UInt16) (data : Octets) (sum : UInt16) :
    EchoFields type ident sequence data
      (withChecksum (echo type ident sequence data) 2 sum) where
  type := rfl
  code := rfl
  ident := word_ofWord ident
  sequence := word_ofWord sequence
  data := rfl

theorem datagramFields (srcPort dstPort : UInt16) {payload : Octets} {sum : UInt16}
    (fits : 8 + payload.length < 65536) (given : sum ≠ 0) :
    DatagramFields srcPort dstPort payload
      (withChecksum (datagram srcPort dstPort payload) 6 sum) where
  srcPort := word_ofWord srcPort
  dstPort := word_ofWord dstPort
  length := by
    have length : (withChecksum (datagram srcPort dstPort payload) 6 sum).word 4 =
        UInt16.ofNat (8 + payload.length) := word_ofWord _
    rw [length, UInt16.toNat_ofNat', Nat.mod_eq_of_lt fits]
  checksum := by
    have checksum : (withChecksum (datagram srcPort dstPort payload) 6 sum).word 6 = sum :=
      word_ofWord sum
    rwa [checksum]
  payload := rfl

/-! ## Checksums -/

theorem fold_icmp (data : Octets) (long : 4 ≤ data.length) (short : data.length ≤ 65535) :
    fold (words (withChecksum data 2 (Checksum.icmp data))) = 0xffff := by
  rw [withChecksum_eq_put long]
  exact fold_stored_zero (by decide) long short

theorem fold_icmpv6 {src dst : Octets} (srcLength : src.length = 16) (dstLength : dst.length = 16)
    (long : 4 ≤ data.length) (short : data.length ≤ 65535) :
    fold (pseudo6 src dst 58 (UInt32.ofNat data.length) +
      words (withChecksum data 2 (Checksum.icmpv6 src dst data))) = 0xffff := by
  rw [withChecksum_eq_put long]
  exact fold_stored (by decide) long short
    (toNat_pseudo6_le (Nat.le_of_eq srcLength) (Nat.le_of_eq dstLength) _ _)

/-- A datagram verifies also where its checksum was sent in the other form of zero. -/
theorem fold_nonzero {base : UInt32} (long : 8 ≤ data.length) (short : data.length ≤ 65535)
    (small : base.toNat ≤ 65535 * 32768) :
    fold (base + words (withChecksum data 6
      (nonzero (finish (base + wordsExcept data 6))))) = 0xffff := by
  have stored := (verifies_behind rfl long short small).nonzero.stored
  rw [withChecksum_eq_put long]
  exact UInt16.toNat_inj.1 ((finish_eq_zero_iff _).1 stored)

theorem fold_udp4 {src dst : Octets} (srcLength : src.length = 4) (dstLength : dst.length = 4)
    (data : Octets) (long : 8 ≤ data.length) (short : data.length ≤ 65535) :
    fold (pseudo4 src dst 17 (UInt16.ofNat data.length) +
      words (withChecksum data 6 (Checksum.udp4 src dst data))) = 0xffff :=
  fold_nonzero long short (toNat_pseudo4_le srcLength dstLength _ _)

theorem fold_udp6 {src dst : Octets} (srcLength : src.length = 16) (dstLength : dst.length = 16)
    (long : 8 ≤ data.length) (short : data.length ≤ 65535) :
    fold (pseudo6 src dst 17 (UInt32.ofNat data.length) +
      words (withChecksum data 6 (Checksum.udp6 src dst data))) = 0xffff :=
  fold_nonzero long short
    (toNat_pseudo6_le (Nat.le_of_eq srcLength) (Nat.le_of_eq dstLength) _ _)

/-! ## Packets over IPv4 -/

namespace Packet4

def route : Packet4 → Route 4
  | .echo route .. | .icmp route _ | .udp route .. | .tcpSyn route .. => route

def transport : Packet4 → Transport
  | .echo .. | .icmp .. => .icmp
  | .udp .. => .udp
  | .tcpSyn .. => .tcp

def size : Packet4 → Nat
  | .echo _ _ _ data => 8 + data.length
  | .icmp .. => 8
  | .udp _ _ _ payload => 8 + payload.length
  | .tcpSyn .. => 20

def message : Packet4 → Octets
  | .echo _ ident sequence data =>
    let blank := Compose.echo 8 ident sequence data
    withChecksum blank 2 (Checksum.icmp blank)
  | .icmp _ type =>
    let blank := Compose.echo type 0 0 []
    withChecksum blank 2 (Checksum.icmp blank)
  | .udp route srcPort dstPort payload =>
    let blank := datagram srcPort dstPort payload
    withChecksum blank 6 (Checksum.udp4 route.src.octets route.dst.octets blank)
  | .tcpSyn _ srcPort dstPort =>
    ofWord srcPort ++ ofWord dstPort ++ zeros 8 ++ [0x50, 2] ++ zeros 6

def Fields : Packet4 → Octets → Prop
  | .echo _ ident sequence data => EchoFields 8 ident sequence data
  | .icmp _ type => EchoFields type 0 0 []
  | .udp _ srcPort dstPort payload => DatagramFields srcPort dstPort payload
  | .tcpSyn _ srcPort dstPort => SynFields srcPort dstPort

def Verifies (p : Packet4) (g : Octets) : Prop :=
  match p with
  | .echo .. | .icmp .. => IcmpVerifies g
  | .udp _ _ _ payload => udpSum4 g (8 + payload.length) = 0xffff
  | .tcpSyn .. => True

theorem build_eq (p : Packet4) :
    p.build = Compose.ipv4 p.route p.transport.number p.message := by
  cases p <;> rfl

theorem length_message (p : Packet4) : p.message.length = p.size := by
  cases p with
  | echo route ident sequence data =>
    have blank := length_echo 8 ident sequence data
    exact (length_withChecksum (by omega) _).trans blank
  | icmp route type => rfl
  | udp route srcPort dstPort payload =>
    have blank := length_datagram srcPort dstPort payload
    exact (length_withChecksum (by omega) _).trans blank
  | tcpSyn route srcPort dstPort => rfl

variable {p : Packet4}

theorem synFields (route : Route 4) (srcPort dstPort : UInt16) :
    SynFields srcPort dstPort (message (.tcpSyn route srcPort dstPort)) where
  srcPort := word_ofWord srcPort
  dstPort := word_ofWord dstPort
  header := by
    have offset : (message (.tcpSyn route srcPort dstPort)).byte (0 + 12) = 0x50 := rfl
    rw [Cursor.tcpHeaderLength, offset]
    decide
  flags := rfl
  length := rfl

theorem fields_message (fits : p.size < 65536) : p.Fields p.message := by
  cases p with
  | echo route ident sequence data => exact echoFields 8 ident sequence data _
  | icmp route type => exact echoFields type 0 0 [] _
  | udp route srcPort dstPort payload =>
    exact datagramFields srcPort dstPort fits (nonzero_ne_zero _)
  | tcpSyn route srcPort dstPort => exact synFields route srcPort dstPort

theorem fits_message (p : Packet4) : p.transport.Fits p.message ⟨0, p.message.length⟩ := by
  have length := p.length_message
  cases p with
  | tcpSyn route srcPort dstPort =>
    have segment := synFields route srcPort dstPort
    exact ⟨Nat.le_of_eq segment.length.symm, fun _ =>
      ⟨Nat.le_of_eq segment.header.symm, Nat.le_of_eq (segment.header.trans segment.length.symm)⟩⟩
  | echo | icmp | udp =>
    refine ⟨?_, nofun⟩
    rw [length]
    simp only [transport, Transport.minLength, size]
    omega

/-- In a frame, behind any header that describes it. -/
theorem verifies_frame {header : Octets} (fits : p.size < 65536)
    (describes : Ipv4Describes p.route p.transport p.message.length header) :
    p.Verifies (p.route.frame 0x0800 header p.message) := by
  have length := p.length_message
  cases p with
  | echo route ident sequence data =>
    have blank := length_echo 8 ident sequence data
    have fits : 8 + data.length < 65536 := fits
    exact icmpVerifies_frame4 describes (fold_icmp _ (by omega) (by omega))
  | icmp route type =>
    exact icmpVerifies_frame4 describes (fold_icmp (Compose.echo type 0 0 [])
      (by rw [length_echo]; decide) (by rw [length_echo]; decide))
  | udp route srcPort dstPort payload =>
    have blank := length_datagram srcPort dstPort payload
    have fits : 8 + payload.length < 65536 := fits
    have sum := udpSum4_frame4 describes
    have verifies := fold_udp4 route.src.size_eq route.dst.size_eq
      (datagram srcPort dstPort payload) (by omega) (by omega)
    have same : (datagram srcPort dstPort payload).length =
        (Packet4.udp route srcPort dstPort payload).message.length := blank.trans length.symm
    rw [same] at verifies
    rw [length] at sum verifies
    exact sum.trans verifies
  | tcpSyn => trivial

end Packet4

/-! ## Packets over IPv6 -/

namespace Packet6

def route : Packet6 → Route 16
  | .echo route .. | .udp route .. => route
  | .neighborSolicitation mac src target =>
    let group := solicitedNode target
    ⟨mac, Address.mac 0x33 0x33 (group.octets.byte 12) (group.octets.byte 13)
      (group.octets.byte 14) (group.octets.byte 15), src, group⟩
  | .routerSolicitation mac src => ⟨mac, Address.mac 0x33 0x33 0 0 0 2, src, allRouters⟩

def transport : Packet6 → Transport
  | .udp .. => .udp
  | .echo .. | .neighborSolicitation .. | .routerSolicitation .. => .icmpv6

def hopLimit : Packet6 → UInt8
  | .echo .. | .udp .. => 64
  | .neighborSolicitation .. | .routerSolicitation .. => 255

def size : Packet6 → Nat
  | .echo _ _ _ data => 8 + data.length
  | .udp _ _ _ payload => 8 + payload.length
  | .neighborSolicitation _ src _ => if src = Address.zero 16 then 24 else 32
  | .routerSolicitation .. => 16

def blank : Packet6 → Octets
  | .echo _ ident sequence data => Compose.echo 128 ident sequence data
  | .udp _ srcPort dstPort payload => datagram srcPort dstPort payload
  | .neighborSolicitation mac src target =>
    [135, 0, 0, 0, 0, 0, 0, 0] ++ target.octets ++
      if src = Address.zero 16 then [] else sourceOption mac
  | .routerSolicitation mac _ => [133, 0, 0, 0, 0, 0, 0, 0, 1, 1] ++ mac.octets

def message (p : Packet6) : Octets :=
  match p with
  | .udp route .. =>
    withChecksum p.blank 6 (Checksum.udp6 route.src.octets route.dst.octets p.blank)
  | .echo .. | .neighborSolicitation .. | .routerSolicitation .. =>
    withChecksum p.blank 2 (Checksum.icmpv6 p.route.src.octets p.route.dst.octets p.blank)

def Fields : Packet6 → Octets → Prop
  | .echo _ ident sequence data => EchoFields 128 ident sequence data
  | .udp _ srcPort dstPort payload => DatagramFields srcPort dstPort payload
  | .neighborSolicitation mac src target => SolicitationFields mac src target
  | .routerSolicitation mac _ => EchoFields 133 0 0 (sourceOption mac)

def Verifies (p : Packet6) (g : Octets) : Prop :=
  match p with
  | .udp _ _ _ payload => udpSum6 g (8 + payload.length) = 0xffff
  | .echo .. | .neighborSolicitation .. | .routerSolicitation .. => Icmpv6Verifies g

theorem build_eq (p : Packet6) :
    p.build = Compose.ipv6 p.route p.transport.number p.hopLimit p.message := by
  cases p <;> rfl

theorem length_blank (p : Packet6) : p.blank.length = p.size := by
  cases p with
  | echo route ident sequence data => exact length_echo 128 ident sequence data
  | udp route srcPort dstPort payload => exact length_datagram srcPort dstPort payload
  | neighborSolicitation mac src target =>
    have target := target.size_eq
    have mac := mac.size_eq
    simp only [blank, size]
    split <;> simp [sourceOption, target, mac]
  | routerSolicitation mac src =>
    have mac := mac.size_eq
    simp [blank, size, mac]

theorem long_blank (p : Packet6) : 8 ≤ p.blank.length := by
  rw [length_blank]
  cases p with
  | echo | udp => exact Nat.le_add_right _ _
  | neighborSolicitation mac src target =>
    simp only [size]
    split <;> decide
  | routerSolicitation mac src => exact (by decide : 8 ≤ 16)

theorem length_message (p : Packet6) : p.message.length = p.size := by
  have long := p.long_blank
  rw [← length_blank]
  cases p <;> exact length_withChecksum (by omega) _

variable {p : Packet6}

theorem fields_message (fits : p.size < 65536) : p.Fields p.message := by
  cases p with
  | echo route ident sequence data => exact echoFields 128 ident sequence data _
  | udp route srcPort dstPort payload =>
    exact datagramFields srcPort dstPort fits (nonzero_ne_zero _)
  | neighborSolicitation mac src target =>
    have behind : (message (.neighborSolicitation mac src target)).drop 8 = target.octets ++
        if src = Address.zero 16 then [] else sourceOption mac := rfl
    exact ⟨rfl, rfl, slice_of_drop behind target.size_eq, drop_of_drop behind target.size_eq⟩
  | routerSolicitation mac src => exact ⟨rfl, rfl, rfl, rfl, rfl⟩

theorem fits_message (p : Packet6) : p.transport.Fits p.message ⟨0, p.message.length⟩ := by
  have long := p.long_blank
  rw [length_blank, ← length_message] at long
  cases p <;> exact ⟨Nat.le_trans (Nat.le_of_eq (Nat.zero_add 8)) long, nofun⟩

theorem verifies_frame {header : Octets} (fits : p.size < 65536)
    (describes : Ipv6Describes p.route p.transport p.message.length header) :
    p.Verifies (p.route.frame 0x86dd header p.message) := by
  have long := p.long_blank
  have blank := p.length_blank
  have length := p.length_message
  have src := p.route.src.size_eq
  have dst := p.route.dst.size_eq
  cases p with
  | udp route srcPort dstPort payload =>
    have sum := udpSum6_frame6 describes
    have verifies := fold_udp6 src dst long (by omega)
    rw [blank] at verifies
    rw [length] at sum
    exact sum.trans verifies
  | echo | neighborSolicitation | routerSolicitation =>
    have verifies := fold_icmpv6 src dst (Nat.le_trans (by decide) long) (by omega)
    rw [blank, ← length] at verifies
    exact icmpv6Verifies_frame6 describes verifies

end Packet6

end Compose

end Boomerang
