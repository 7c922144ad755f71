import Boomerang.Compose
import Boomerang.Proofs.Integrity

/-!
Frames put together from their parts: an Ethernet header, an IP header that describes the message
behind it, and that message. The grammar finds each part where it was put, with or without IPv4
options, and a checksum that was computed over a part verifies in the frame.
-/

set_option autoImplicit false

namespace Boomerang

open Octets Checksum Compose

namespace Octets

theorem slice_whole {data : Octets} {count : Nat} (width : data.length = count) :
    data.slice 0 count = data := by
  rw [slice, List.drop_zero, List.take_of_length_le (Nat.le_of_eq width)]

theorem slice_front {front : Octets} {count : Nat} (width : front.length = count)
    (data : Octets) : (front ++ data).slice 0 count = front := by
  rw [slice_append_left (by omega), slice_whole width]

theorem slice_of_drop {data first second : Octets} {n count : Nat}
    (behind : data.drop n = first ++ second) (width : first.length = count) :
    data.slice n count = first := by
  rw [slice, behind, List.take_left' width]

theorem drop_of_drop {data first second : Octets} {n count : Nat}
    (behind : data.drop n = first ++ second) (width : first.length = count) :
    data.drop (n + count) = second := by
  rw [← List.drop_drop, behind, List.drop_left' width]

theorem slice_of_drop_last {data last : Octets} {n count : Nat} (behind : data.drop n = last)
    (width : last.length = count) : data.slice n count = last := by
  rw [slice, behind, List.take_of_length_le (Nat.le_of_eq width)]

end Octets

/-! ## Ethernet -/

section Ether

variable (src dst : Mac) (etherType : UInt16) (payload : Octets)

theorem length_etherFront : (dst.octets ++ src.octets ++ ofWord etherType).length = 14 := by
  simp [src.size_eq, dst.size_eq]

theorem length_ether : (ether src dst etherType payload).length = 14 + payload.length := by
  rw [ether, List.length_append, length_etherFront]

theorem slice_ether_dst : (ether src dst etherType payload).slice 0 6 = dst.octets := by
  rw [ether, List.append_assoc, List.append_assoc, slice_front dst.size_eq]

theorem slice_ether_src : (ether src dst etherType payload).slice 6 6 = src.octets := by
  rw [ether, List.append_assoc, List.append_assoc]
  exact (slice_append_right dst.size_eq _ 0 6).trans (slice_front src.size_eq _)

theorem etherType_ether : (ether src dst etherType payload).word 12 = etherType := by
  have addresses : (dst.octets ++ src.octets).length = 12 := by simp [src.size_eq, dst.size_eq]
  rw [ether, List.append_assoc]
  exact (word_append_right addresses _ 0).trans (word_ofWord etherType)

theorem byte_ether (i : Nat) : (ether src dst etherType payload).byte (14 + i) = payload.byte i :=
  byte_append_right (length_etherFront src dst etherType) payload i

theorem slice_ether (start count : Nat) :
    (ether src dst etherType payload).slice (14 + start) count = payload.slice start count :=
  slice_append_right (length_etherFront src dst etherType) payload start count

end Ether

namespace Compose.Route

variable {size : Nat} (route : Route size) (etherType : UInt16) {header : Octets}

def frame (header message : Octets) : Octets :=
  ether route.srcMac route.dstMac etherType (header ++ message)

theorem length_frame (header message : Octets) :
    (route.frame etherType header message).length = 14 + header.length + message.length := by
  rw [frame, length_ether, List.length_append, Nat.add_assoc]

theorem drop_frame_message (header message : Octets) (n : Nat) :
    (route.frame etherType header message).drop (14 + header.length + n) = message.drop n := by
  have front : (route.dstMac.octets ++ route.srcMac.octets ++ ofWord etherType ++ header).length =
      14 + header.length := by
    rw [List.length_append, length_etherFront]
  rw [← List.drop_drop, frame, ether, ← List.append_assoc, List.drop_left' front]

theorem slice_frame_message (header message : Octets) (start count : Nat) :
    (route.frame etherType header message).slice (14 + header.length + start) count =
      message.slice start count := by
  rw [slice, drop_frame_message, slice]

theorem slice_frame_header (header message : Octets) :
    (route.frame etherType header message).slice 14 header.length = header := by
  rw [frame, ether, slice, List.drop_left' (length_etherFront _ _ _), List.take_left' rfl]

theorem byte_frame_message (header message : Octets) (i : Nat) :
    (route.frame etherType header message).byte (14 + header.length + i) = message.byte i := by
  rw [frame, Nat.add_assoc, byte_ether, byte_append_right rfl]

variable (message : Octets) {i : Nat}

theorem byte_frame (inside : i < header.length) :
    (route.frame etherType header message).byte (14 + i) = header.byte i := by
  rw [frame, byte_ether, byte_append_left inside]

theorem word_frame (inside : i + 1 < header.length) :
    (route.frame etherType header message).word (14 + i) = header.word i :=
  word_congr (route.byte_frame etherType message (by omega))
    (route.byte_frame etherType message (i := i + 1) inside)

theorem slice_frame {start count : Nat} (inside : start + count ≤ header.length) :
    (route.frame etherType header message).slice (14 + start) count = header.slice start count := by
  rw [frame, slice_ether, slice_append_left inside]

/-- A message looks the same to a protocol behind whatever headers it stands. -/
theorem fits_frame {t : Transport} (header : Octets) {message : Octets}
    (fits : t.Fits message ⟨0, message.length⟩) :
    t.Fits (route.frame etherType header message)
      ⟨14 + header.length, 14 + header.length + message.length⟩ := by
  refine ⟨?_, fun isTcp => ?_⟩
  · have minimum : 0 + t.minLength ≤ message.length := fits.minimum
    dsimp only
    omega
  · obtain ⟨low, high⟩ := fits.tcp isTcp
    have same : Cursor.tcpHeaderLength (route.frame etherType header message) (14 + header.length) =
        Cursor.tcpHeaderLength message 0 := by
      rw [Cursor.tcpHeaderLength, byte_frame_message]
      rfl
    simp only [Span.length, same] at high ⊢
    exact ⟨low, by omega⟩

end Compose.Route

/-! ## IPv4 -/

/-- An IPv4 header, options included, in front of a message of `size` bytes. -/
structure Ipv4Describes (route : Route 4) (t : Transport) (size : Nat) (header : Octets) : Prop
    where
  whole : header.length % 4 = 0
  minimum : 20 ≤ header.length
  maximum : header.length ≤ 60
  first : (header.byte 0).toNat = 64 + header.length / 4
  total : (header.word 2).toNat = header.length + size
  fragment : header.word 6 = 0x4000
  protocol : header.byte 9 = t.number
  src : header.slice 12 4 = route.src.octets
  dst : header.slice 16 4 = route.dst.octets
  verifies : fold (words header) = 0xffff

section Ipv4

variable {route : Route 4} {t : Transport} {header message : Octets}
  (describes : Ipv4Describes route t message.length header)
include describes

theorem headerLength_frame4 : ipv4HeaderLength (route.frame 0x0800 header message) = header.length := by
  have minimum := describes.minimum
  have maximum := describes.maximum
  have whole := describes.whole
  have first : (route.frame 0x0800 header message).byte 14 = header.byte 0 :=
    route.byte_frame 0x0800 message (i := 0) (by omega)
  rw [ipv4HeaderLength, first, describes.first]
  omega

theorem totalLength_frame4 :
    ipv4TotalLength (route.frame 0x0800 header message) = header.length + message.length := by
  have minimum := describes.minimum
  have total : (route.frame 0x0800 header message).word 16 = header.word 2 :=
    route.word_frame 0x0800 message (i := 2) (by omega)
  rw [ipv4TotalLength, total, describes.total]

theorem ipv4Message_frame4 :
    ipv4Message (route.frame 0x0800 header message) =
      ⟨14 + header.length, 14 + header.length + message.length⟩ := by
  rw [ipv4Message, headerLength_frame4 describes, totalLength_frame4 describes, Nat.add_assoc]

theorem ipv4Datagram_frame4 : Ipv4Datagram (route.frame 0x0800 header message) := by
  have minimum := describes.minimum
  have maximum := describes.maximum
  have length := route.length_frame 0x0800 header message
  have headerLength := headerLength_frame4 describes
  have totalLength := totalLength_frame4 describes
  have first : (route.frame 0x0800 header message).byte 14 = header.byte 0 :=
    route.byte_frame 0x0800 message (i := 0) (by omega)
  have fragment : (route.frame 0x0800 header message).word 20 = header.word 6 :=
    route.word_frame 0x0800 message (i := 6) (by omega)
  refine ⟨⟨etherType_ether _ _ _ _, ?_, ?_, ?_⟩, ⟨?_, ?_⟩, ?_, ?_⟩
  · rw [first, describes.first]
    omega
  · omega
  · omega
  · rw [fragment, describes.fragment]
    decide
  · rw [fragment, describes.fragment]
    decide
  · omega
  · omega

theorem protocol_frame4 : (route.frame 0x0800 header message).byte 23 = t.number := by
  have minimum := describes.minimum
  exact (route.byte_frame 0x0800 message (i := 9) (by omega)).trans describes.protocol

theorem found_frame4 (fits : t.Fits message ⟨0, message.length⟩) :
    (Headers.ipv4 t).Found (route.frame 0x0800 header message) := by
  refine ⟨ipv4Datagram_frame4 describes, protocol_frame4 describes, ?_⟩
  rw [ipv4Message_frame4 describes]
  exact route.fits_frame 0x0800 header fits

/-- The frame goes through a tunnel if its message is a datagram to the tunnel's port. -/
theorem tunnelled_frame4 {port : UInt16} (udp : t = .udp) (long : 8 ≤ message.length)
    (destination : message.word 2 = port) : Tunnelled port (route.frame 0x0800 header message) := by
  have datagram := ipv4Datagram_frame4 describes
  have length := route.length_frame 0x0800 header message
  have headerLength := headerLength_frame4 describes
  refine ⟨datagram.toIpv4Header, datagram.toIpv4Whole, ?_, ?_, ?_⟩
  · rw [protocol_frame4 describes, udp]
    rfl
  · omega
  · rw [headerLength, ← destination]
    exact word_congr (route.byte_frame_message 0x0800 header message 2)
      (route.byte_frame_message 0x0800 header message 3)

theorem ipv4HeaderVerifies_frame4 : Ipv4HeaderVerifies (route.frame 0x0800 header message) := by
  rw [Ipv4HeaderVerifies, headerLength_frame4 describes, route.slice_frame_header]
  exact describes.verifies

theorem slice_ipv4Span_frame4 :
    (route.frame 0x0800 header message).slice 14
      (ipv4Span (route.frame 0x0800 header message)).length = header := by
  rw [length_ipv4Span, headerLength_frame4 describes, route.slice_frame_header]

theorem slice_ipv4Message_frame4 :
    (route.frame 0x0800 header message).slice
      (ipv4Message (route.frame 0x0800 header message)).start message.length = message := by
  rw [ipv4Message_frame4 describes]
  exact (route.slice_frame_message 0x0800 header message 0 _).trans (slice_whole rfl)

theorem length_ipv4Message_frame4 :
    (ipv4Message (route.frame 0x0800 header message)).length = message.length := by
  rw [ipv4Message_frame4 describes]
  exact Nat.add_sub_cancel_left _ _

theorem icmpVerifies_frame4 (verifies : fold (words message) = 0xffff) :
    IcmpVerifies (route.frame 0x0800 header message) := by
  rw [IcmpVerifies, length_ipv4Message_frame4 describes, slice_ipv4Message_frame4 describes]
  exact verifies

theorem udpSum4_frame4 :
    udpSum4 (route.frame 0x0800 header message) message.length =
      fold (pseudo4 route.src.octets route.dst.octets 17 (UInt16.ofNat message.length) +
        words message) := by
  have minimum := describes.minimum
  have src : (route.frame 0x0800 header message).slice 26 4 = route.src.octets :=
    (route.slice_frame 0x0800 message (show 12 + 4 ≤ header.length by omega)).trans describes.src
  have dst : (route.frame 0x0800 header message).slice 30 4 = route.dst.octets :=
    (route.slice_frame 0x0800 message (show 16 + 4 ≤ header.length by omega)).trans describes.dst
  rw [udpSum4, src, dst, slice_ipv4Message_frame4 describes]

end Ipv4

theorem length_ipv4Blank (src dst : Ipv4) (protocol : UInt8) (total : Nat) :
    ([0x45, 0] ++ ofWord (UInt16.ofNat total) ++ [0, 0, 0x40, 0, 64, protocol, 0, 0] ++
      src.octets ++ dst.octets).length = 20 := by
  simp [src.size_eq, dst.size_eq]

theorem length_ipv4Header (src dst : Ipv4) (protocol : UInt8) (total : Nat) :
    (Compose.ipv4Header src dst protocol total).length = 20 := by
  have blank := length_ipv4Blank src dst protocol total
  rw [Compose.ipv4Header, withChecksum, length_overwrite (by rw [length_ofWord]; omega), blank]

theorem describes_ipv4Header (route : Route 4) (t : Transport) {size : Nat}
    (fits : 20 + size < 65536) :
    Ipv4Describes route t size (Compose.ipv4Header route.src route.dst t.number (20 + size)) := by
  have src := route.src.size_eq
  have dst := route.dst.size_eq
  have blank := length_ipv4Blank route.src route.dst t.number (20 + size)
  have length := length_ipv4Header route.src route.dst t.number (20 + size)
  have total : (Compose.ipv4Header route.src route.dst t.number (20 + size)).word 2 =
      UInt16.ofNat (20 + size) := word_ofWord _
  -- The checksum stands in front of the addresses, which are joined on unchanged.
  have addresses : (Compose.ipv4Header route.src route.dst t.number (20 + size)).drop 12 =
      route.src.octets ++ route.dst.octets := rfl
  constructor
  case whole => omega
  case minimum => omega
  case maximum => omega
  case first =>
    rw [length]
    rfl
  case total => rw [total, UInt16.toNat_ofNat', Nat.mod_eq_of_lt fits, length]
  case fragment => rfl
  case protocol => rfl
  case src => exact slice_of_drop addresses src
  case dst => exact slice_of_drop_last (drop_of_drop addresses src) dst
  case verifies =>
    rw [Compose.ipv4Header, withChecksum, ← put_eq_overwrite (by rw [length_ofWord]; omega)]
    exact fold_stored_zero (by decide) (by omega) (by omega)

theorem ipv4_eq_frame (route : Route 4) (t : Transport) {message : Octets}
    (fits : 20 + message.length < 65536) :
    Compose.ipv4 route t.number message = some (route.frame 0x0800
      (Compose.ipv4Header route.src route.dst t.number (20 + message.length)) message) :=
  if_pos fits

/-! ### Options -/

def optioned (header options : Octets) : Octets :=
  let words := UInt8.ofNat ((20 + options.length) / 4)
  let total := UInt16.ofNat ((header.word 2).toNat + options.length)
  let mended := ((header ++ options).put 0 [words ||| 0x40]).put 2 (ofWord total)
  mended.put 10 (ofWord (Checksum.ipv4Header mended))

section Options

variable {header options : Octets}

theorem sameOn_optioned_header (header options : Octets) :
    SameOn (fun i => i = 1 ∨ 4 ≤ i ∧ i < 10 ∨ 12 ≤ i) (header ++ options)
      (optioned header options) := by
  unfold optioned
  refine .put (.put (.put (.refl _ _) ?_) ?_) ?_
  all_goals
    intro i kept
    simp only [length_ofWord, List.length_singleton]
    omega

theorem length_optioned_header (options : Octets) (short : header.length = 20) :
    (optioned header options).length = 20 + options.length := by
  rw [(sameOn_optioned_header header options).length, List.length_append, short]

theorem drop_optioned (short : header.length = 20) : (optioned header options).drop 20 = options := by
  have same : SameOn (fun _ => True) ((header ++ options).drop 20)
      ((optioned header options).drop 20) :=
    (sameOn_optioned_header header options).drop 20 fun i _ => by omega
  rw [same.eq fun _ _ => trivial, List.drop_left' short]

theorem toNat_version_or {n : Nat} (small : n < 16) : (UInt8.ofNat n ||| 0x40).toNat = 64 + n := by
  have all : ∀ k : Fin 16, (UInt8.ofNat k.val ||| 0x40).toNat = 64 + k.val := by decide
  exact all ⟨n, small⟩

theorem describes_optioned {route : Route 4} {t : Transport} {size : Nat}
    (describes : Ipv4Describes route t size header) (short : header.length = 20)
    (whole : options.length % 4 = 0) (few : options.length ≤ 40)
    (fits : 20 + options.length + size < 65536) :
    Ipv4Describes route t size (optioned header options) := by
  have length := length_optioned_header options short
  have joined : (header ++ options).length = 20 + options.length := by
    rw [List.length_append, short]
  have same := sameOn_optioned_header header options
  have one : ∀ b : UInt8, ([b] : Octets).length = 1 := fun _ => rfl
  constructor
  case whole => omega
  case minimum => omega
  case maximum => omega
  case first =>
    have first : (optioned header options).byte 0 =
        UInt8.ofNat ((20 + options.length) / 4) ||| 0x40 := by
      rw [optioned, byte_put_apart (by omega), byte_put_apart (by omega),
        byte_put_one _ (by omega)]
    rw [first, toNat_version_or (by omega), length]
  case total =>
    have total : (optioned header options).word 2 =
        UInt16.ofNat ((header.word 2).toNat + options.length) := by
      rw [optioned, (sameOn_put_ofWord _ 10 _).word (by omega) (by omega),
        word_put_same _ (by rw [length_put]; omega)]
    rw [total, describes.total, short, UInt16.toNat_ofNat', Nat.mod_eq_of_lt (by omega), length]
    omega
  case fragment =>
    rw [same.word (by omega) (by omega),
      word_congr (byte_append_left (by omega)) (byte_append_left (by omega)), describes.fragment]
  case protocol => rw [same.byte 9 (by omega), byte_append_left (by omega), describes.protocol]
  case src =>
    rw [same.slice fun i _ _ => by omega, slice_append_left (by omega), describes.src]
  case dst =>
    rw [same.slice fun i _ _ => by omega, slice_append_left (by omega), describes.dst]
  case verifies =>
    unfold optioned
    refine fold_stored_zero (by decide) ?_ ?_
    all_goals
      simp only [length_put, joined]
      omega

theorem addIpv4Options_frame {route : Route 4} (message : Octets) (short : header.length = 20)
    (whole : options.length % 4 = 0) :
    addIpv4Options (route.frame 0x0800 header message) options =
      some (route.frame 0x0800 (optioned header options) message) := by
  have length := route.length_frame 0x0800 header message
  have joined : (header ++ options).length = 20 + options.length := by
    rw [List.length_append, short]
  have total : (route.frame 0x0800 header message).word 16 = header.word 2 :=
    route.word_frame 0x0800 message (i := 2) (by omega)
  have fixed : (route.frame 0x0800 header message).slice 14 20 = header := by
    rw [← short, route.slice_frame_header]
  have front : (route.frame 0x0800 header message).take 14 =
      route.dstMac.octets ++ route.srcMac.octets ++ ofWord 0x0800 :=
    List.take_left' (length_etherFront _ _ _)
  have rest : (route.frame 0x0800 header message).drop 34 = message := by
    have start : 34 = 14 + header.length + 0 := by rw [short]
    rw [start, route.drop_frame_message, List.drop_zero]
  -- Every field lies in the fixed part, so that each write is one in place.
  have writes : ∀ (data value : Octets) (start : Nat), data.length = 20 + options.length →
      start + value.length ≤ 20 → overwrite data start value = data.put start value :=
    fun data value start same inside => (put_eq_overwrite (by omega)).symm
  rw [addIpv4Options, if_pos ⟨whole, by omega⟩, total, fixed, front, rest]
  dsimp only
  rw [writes _ _ 0 joined (by rw [List.length_singleton]; decide),
    writes _ _ 2 (by rw [length_put, joined]) (by rw [length_ofWord]; decide), withChecksum,
    writes _ _ 10 (by rw [length_put, length_put, joined]) (by rw [length_ofWord]; decide),
    Route.frame, ether, ← List.append_assoc]
  rfl

end Options

/-! ## IPv6 -/

structure Ipv6Describes (route : Route 16) (t : Transport) (size : Nat) (header : Octets) : Prop
    where
  length : header.length = 40
  version : (header.byte 0).toNat / 16 = 6
  payload : (header.word 4).toNat = size
  next : header.byte 6 = t.number
  src : header.slice 8 16 = route.src.octets
  dst : header.slice 24 16 = route.dst.octets

section Ipv6

variable {route : Route 16} {t : Transport} {header message : Octets}
  (describes : Ipv6Describes route t message.length header)
include describes

theorem payloadLength_frame6 :
    ipv6PayloadLength (route.frame 0x86dd header message) = message.length := by
  have length := describes.length
  have payload : (route.frame 0x86dd header message).word 18 = header.word 4 :=
    route.word_frame 0x86dd message (i := 4) (by omega)
  rw [ipv6PayloadLength, payload, describes.payload]

theorem ipv6Message_frame6 :
    ipv6Message (route.frame 0x86dd header message) =
      ⟨14 + header.length, 14 + header.length + message.length⟩ := by
  rw [ipv6Message, payloadLength_frame6 describes, describes.length]

theorem ipv6Datagram_frame6 : Ipv6Datagram (route.frame 0x86dd header message) := by
  have width := describes.length
  have length := route.length_frame 0x86dd header message
  have payloadLength := payloadLength_frame6 describes
  have first : (route.frame 0x86dd header message).byte 14 = header.byte 0 :=
    route.byte_frame 0x86dd message (i := 0) (by omega)
  refine ⟨⟨etherType_ether _ _ _ _, ?_, ?_⟩, ?_⟩
  · rw [first, describes.version]
  · omega
  · omega

theorem found_frame6 (fits : t.Fits message ⟨0, message.length⟩) :
    (Headers.ipv6 t).Found (route.frame 0x86dd header message) := by
  have length := describes.length
  have next : (route.frame 0x86dd header message).byte 20 = header.byte 6 :=
    route.byte_frame 0x86dd message (i := 6) (by omega)
  refine ⟨ipv6Datagram_frame6 describes, next.trans describes.next, ?_⟩
  rw [ipv6Message_frame6 describes]
  exact route.fits_frame 0x86dd header fits

theorem addresses_frame6 :
    (route.frame 0x86dd header message).slice 22 16 = route.src.octets ∧
      (route.frame 0x86dd header message).slice 38 16 = route.dst.octets := by
  have length := describes.length
  exact ⟨(route.slice_frame 0x86dd message (show 8 + 16 ≤ header.length by omega)).trans
      describes.src,
    (route.slice_frame 0x86dd message (show 24 + 16 ≤ header.length by omega)).trans describes.dst⟩

theorem slice_ipv6Span_frame6 :
    (route.frame 0x86dd header message).slice 14 ipv6Span.length = header := by
  have length : ipv6Span.length = header.length := describes.length.symm
  rw [length, route.slice_frame_header]

theorem slice_message_frame6 :
    (route.frame 0x86dd header message).slice 54 message.length = message := by
  have start : 54 = 14 + header.length + 0 := by rw [describes.length]
  rw [start, route.slice_frame_message, slice_whole rfl]

theorem icmpv6Verifies_frame6
    (verifies : fold (pseudo6 route.src.octets route.dst.octets 58 (UInt32.ofNat message.length) +
      words message) = 0xffff) : Icmpv6Verifies (route.frame 0x86dd header message) := by
  obtain ⟨src, dst⟩ := addresses_frame6 describes
  rw [Icmpv6Verifies, src, dst, payloadLength_frame6 describes, slice_message_frame6 describes]
  exact verifies

theorem udpSum6_frame6 :
    udpSum6 (route.frame 0x86dd header message) message.length =
      fold (pseudo6 route.src.octets route.dst.octets 17 (UInt32.ofNat message.length) +
        words message) := by
  obtain ⟨src, dst⟩ := addresses_frame6 describes
  have start : (ipv6Message (route.frame 0x86dd header message)).start = 54 := rfl
  rw [udpSum6, src, dst, start, slice_message_frame6 describes]

end Ipv6

def ipv6Header (route : Route 16) (protocol hopLimit : UInt8) (size : Nat) : Octets :=
  [0x60, 0, 0, 0] ++ ofWord (UInt16.ofNat size) ++ [protocol, hopLimit] ++ route.src.octets ++
    route.dst.octets

theorem describes_ipv6Header (route : Route 16) (t : Transport) (hopLimit : UInt8) {size : Nat}
    (fits : size < 65536) : Ipv6Describes route t size (ipv6Header route t.number hopLimit size) := by
  have src := route.src.size_eq
  have dst := route.dst.size_eq
  have payload : (ipv6Header route t.number hopLimit size).word 4 = UInt16.ofNat size := word_ofWord _
  have addresses : (ipv6Header route t.number hopLimit size).drop 8 =
      route.src.octets ++ route.dst.octets := rfl
  constructor
  case length => simp [ipv6Header, src, dst]
  case version =>
    have first : (ipv6Header route t.number hopLimit size).byte 0 = 0x60 := rfl
    rw [first]
    decide
  case payload => rw [payload, UInt16.toNat_ofNat', Nat.mod_eq_of_lt fits]
  case next => rfl
  case src => exact slice_of_drop addresses src
  case dst => exact slice_of_drop_last (drop_of_drop addresses src) dst

theorem ipv6_eq_frame (route : Route 16) (t : Transport) (hopLimit : UInt8) {message : Octets}
    (fits : message.length < 65536) :
    Compose.ipv6 route t.number hopLimit message = some (route.frame 0x86dd
      (ipv6Header route t.number hopLimit message.length) message) :=
  if_pos fits

end Boomerang
