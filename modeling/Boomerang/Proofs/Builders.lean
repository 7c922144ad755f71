import Boomerang.Proofs.Packets
import Boomerang.Proofs.Positions
import Boomerang.Proofs.Reflect

/-!
The frame builders and the walk are inverse. A walk over a frame that was built finds the headers it
was built with, and each accessor shows the arguments of the builder again; IPv4 options only move
the message. A tunnel around a frame is left again at an exact copy of that frame.
-/

set_option autoImplicit false

namespace Boomerang

open Octets Checksum Compose

/-! ## Reading a header -/

namespace Cursor

def bytes? (c : Cursor) (accessor : Cursor → Option Span) : Option Octets :=
  (accessor c).bind c.octets?

/-- The accessor finds a header, and its bytes are as described. -/
def Reads (c : Cursor) (accessor : Cursor → Option Span) (shows : Octets → Prop) : Prop :=
  ∃ header, c.bytes? accessor = some header ∧ shows header

variable {c : Cursor} (accessor : Cursor → Option Span) {s : Span} {shows : Octets → Prop}

theorem bytes?_of_span {start count : Nat} (found : accessor c = some ⟨start, start + count⟩)
    (inside : start + count ≤ c.size) : c.bytes? accessor = some (c.frame.slice start count) := by
  have length : Span.length ⟨start, start + count⟩ = count := Nat.add_sub_cancel_left _ _
  rw [bytes?, found, Option.bind_some, octets?, length, slice?, length_frame, if_pos inside]

theorem reads_of_view (room : c.l2 ≤ c.size) (found : accessor c = some (s.shift c.l2))
    (within : s.Within c.view.length) (shown : shows (c.view.slice s.start s.length)) :
    c.Reads accessor shows := by
  obtain ⟨ordered, inside⟩ := within
  have size := length_view c
  have span : s.shift c.l2 = ⟨c.l2 + s.start, c.l2 + s.start + s.length⟩ := by
    simp only [Span.shift, Span.length, Span.mk.injEq, true_and]
    omega
  rw [span] at found
  refine ⟨_, bytes?_of_span accessor found ?_, ?_⟩
  · simp only [Span.length]
    omega
  · rwa [← slice_view]

end Cursor

open Cursor

/-! ## Fields -/

structure EtherFields (src dst : Mac) (header : Octets) : Prop where
  dst : header.slice 0 6 = dst.octets
  src : header.slice 6 6 = src.octets

structure ArpFields (operation : UInt16) (sender : Mac) (src target : Ipv4) (packet : Octets) :
    Prop where
  hardware : packet.word 0 = 1
  protocol : packet.word 2 = 0x0800
  hardwareSize : packet.byte 4 = 6
  protocolSize : packet.byte 5 = 4
  operation : packet.word 6 = operation
  sender : packet.slice 8 6 = sender.octets
  src : packet.slice 14 4 = src.octets
  unknown : packet.slice 18 6 = zeros 6
  target : packet.slice 24 4 = target.octets

structure Ipv4Fields (route : Route 4) (options header : Octets) : Prop where
  src : header.slice 12 4 = route.src.octets
  dst : header.slice 16 4 = route.dst.octets
  options : header.drop 20 = options

structure Ipv6Fields (route : Route 16) (header : Octets) : Prop where
  src : header.slice 8 16 = route.src.octets
  dst : header.slice 24 16 = route.dst.octets

structure ShowsArp (operation : UInt16) (sender : Mac) (src target : Ipv4) (c : Cursor) : Prop
    where
  l4 : c.l4 = none
  ether : c.Reads Cursor.ether (EtherFields sender broadcast)
  arp : c.Reads Cursor.arp (ArpFields operation sender src target)

/-- What the cursor at an IPv4 packet shows; the message stands behind the options. -/
structure Compose.Packet4.Shown (p : Packet4) (options : Octets) (c : Cursor) : Prop where
  l4 : c.l4 = some (34 + options.length)
  ether : c.Reads Cursor.ether (EtherFields p.route.srcMac p.route.dstMac)
  ipv4 : c.Reads Cursor.ipv4 (Ipv4Fields p.route options)
  message : c.Reads (·.transport p.transport) p.Fields
  header : Ipv4HeaderVerifies c.frame
  checksum : p.Verifies c.frame

structure Compose.Packet6.Shown (p : Packet6) (c : Cursor) : Prop where
  l4 : c.l4 = some 54
  ether : c.Reads Cursor.ether (EtherFields p.route.srcMac p.route.dstMac)
  ipv6 : c.Reads Cursor.ipv6 (Ipv6Fields p.route)
  message : c.Reads (·.transport p.transport) p.Fields
  checksum : p.Verifies c.frame

/-! ## Walking over a built frame -/

/-- In any slot that is large enough, a walk over `g` finds `h` and leaves the cursor as described. -/
def Parses (g : Octets) (h : Headers) (shown : Cursor → Prop) : Prop :=
  ∀ slot : Slot, g.length ≤ slot.capacity → ∃ held, slot.hold? g = some held ∧
    (ofSlot held).parse.1 = .ok h ∧ shown (ofSlot held).parse.2

/-- A cursor at the headers `h` of the frame `g`. -/
structure AtFrame (c : Cursor) (g : Octets) (h : Headers) : Prop where
  frame : c.frame = g
  l2 : c.l2 = 0
  stands : c.Stands h

theorem held_of_room {slot : Slot} {g : Octets} (room : g.length ≤ slot.capacity) :
    ∃ held, slot.hold? g = some held ∧ held.frame = g := by
  obtain ⟨held, holds⟩ := Option.isSome_iff_exists.1 ((slot.hold?_isSome_iff g).2 room)
  exact ⟨held, holds, Slot.frame_of_hold? holds⟩

theorem parses_of_found {g : Octets} {h : Headers} {shown : Cursor → Prop} (found : h.Found g)
    (shows : ∀ c : Cursor, AtFrame c g h → shown c) : Parses g h shown := by
  intro slot room
  obtain ⟨held, holds, frame⟩ := held_of_room room
  have view : (ofSlot held).view = g := frame
  rw [← view] at found
  have walk := parse_of_found found
  obtain ⟨sameSlot, l2, _⟩ := walked_keeps (ofSlot held) h
  refine ⟨held, holds, by rw [walk], ?_⟩
  rw [walk]
  exact shows _ ⟨(congrArg Slot.frame sameSlot).trans frame, l2, stands_walked found⟩

section AtFrame

variable {c : Cursor} {g : Octets} {h : Headers} (there : AtFrame c g h)
include there

theorem AtFrame.view : c.view = g := by
  rw [Cursor.view, there.l2, List.drop_zero, there.frame]

theorem AtFrame.reads {accessor : Cursor → Option Span} {s : Span} {shows : Octets → Prop}
    (found : accessor c = some (s.shift c.l2)) (within : s.Within g.length)
    (shown : shows (g.slice s.start s.length)) : c.Reads accessor shows := by
  have view := there.view
  refine reads_of_view accessor (by rw [there.l2]; exact Nat.zero_le _) found ?_ ?_
  · rwa [view]
  · rwa [view]

end AtFrame

theorem etherFields_ether (src dst : Mac) (etherType : UInt16) (payload : Octets) :
    EtherFields src dst ((Compose.ether src dst etherType payload).slice 0 14) where
  dst := (slice_slice (by decide)).trans (slice_ether_dst _ _ _ _)
  src := (slice_slice (by decide)).trans (slice_ether_src _ _ _ _)

theorem AtFrame.reads_ether {c : Cursor} {h : Headers} {src dst : Mac} {etherType : UInt16}
    {payload : Octets} (there : AtFrame c (Compose.ether src dst etherType payload) h) :
    c.Reads Cursor.ether (EtherFields src dst) := by
  have length := length_ether src dst etherType payload
  have long : 14 ≤ (Compose.ether src dst etherType payload).length := by omega
  refine there.reads (s := etherSpan) (ether_eq (by rwa [there.view])) ⟨by decide, long⟩ ?_
  exact etherFields_ether src dst etherType payload

/-! ## ARP -/

section Arp

variable (operation : UInt16) (sender : Mac) (src target : Ipv4)

def arpPacket : Octets :=
  [0, 1, 8, 0, 6, 4] ++ ofWord operation ++ sender.octets ++ src.octets ++ zeros 6 ++ target.octets

theorem length_arpPacket : (arpPacket operation sender src target).length = 28 := by
  simp [arpPacket, sender.size_eq, src.size_eq, target.size_eq]

theorem arpFields_arpPacket :
    ArpFields operation sender src target (arpPacket operation sender src target) := by
  have behind : (arpPacket operation sender src target).drop 8 =
      sender.octets ++ (src.octets ++ (zeros 6 ++ target.octets)) := by
    simp only [← List.append_assoc]
    rfl
  have afterSender := drop_of_drop behind sender.size_eq
  have afterSrc := drop_of_drop afterSender src.size_eq
  have afterUnknown := drop_of_drop afterSrc (length_zeros 6)
  exact {
    hardware := rfl
    protocol := rfl
    hardwareSize := rfl
    protocolSize := rfl
    operation := word_ofWord operation
    sender := slice_of_drop behind sender.size_eq
    src := slice_of_drop afterSender src.size_eq
    unknown := slice_of_drop afterSrc (length_zeros 6)
    target := slice_of_drop_last afterUnknown target.size_eq }

theorem parses_arp :
    Parses (Compose.arp operation sender src target) .arp
      (ShowsArp operation sender src target) := by
  have width := length_arpPacket operation sender src target
  have length := length_ether sender broadcast 0x0806 (arpPacket operation sender src target)
  have long : 42 ≤ (Compose.arp operation sender src target).length :=
    Nat.le_of_eq (length.trans (congrArg (14 + ·) width)).symm
  have found : ArpPacket (Compose.arp operation sender src target) :=
    ⟨etherType_ether sender broadcast 0x0806 _, long⟩
  refine parses_of_found found fun c there => ?_
  obtain ⟨l3, l4, _⟩ := there.stands
  have packet : (Compose.arp operation sender src target).slice 14 28 =
      arpPacket operation sender src target :=
    (slice_ether sender broadcast 0x0806 _ 0 28).trans (slice_whole width)
  constructor
  case l4 => exact l4
  case ether => exact there.reads_ether
  case arp =>
    refine there.reads (s := arpSpan) (arp_eq l3 (by rwa [there.view])) ⟨by decide, long⟩ ?_
    have start : arpSpan.start = 14 := rfl
    have span : arpSpan.length = 28 := rfl
    rw [start, span, packet]
    exact arpFields_arpPacket operation sender src target

end Arp

/-! ## IPv4 -/

/-- `shows` holds of the options and of the frame, both without options and after any options are
put behind its IPv4 header for which the two length fields have room. -/
structure WithOptions (size : Nat) (shows : Octets → Octets → Prop) (g : Octets) : Prop where
  plain : shows [] g
  optioned : ∀ options : Octets, options.length % 4 = 0 → options.length ≤ 40 →
    20 + options.length + size < 65536 →
      ∃ longer, addIpv4Options g options = some longer ∧ shows options longer

/-- What holds of a message behind any header that describes it holds of the frame that is built,
with or without options. -/
theorem ipv4_withOptions {route : Route 4} {t : Transport} {message : Octets}
    {shows : Octets → Octets → Prop} (fits : 20 + message.length < 65536)
    (each : ∀ header options : Octets, Ipv4Describes route t message.length header →
      header.length = 20 + options.length → header.drop 20 = options →
      shows options (route.frame 0x0800 header message)) :
    ∃ g, Compose.ipv4 route t.number message = some g ∧
      WithOptions message.length shows g := by
  have short := length_ipv4Header route.src route.dst t.number (20 + message.length)
  have describes := describes_ipv4Header route t fits
  refine ⟨_, ipv4_eq_frame route t fits, ?_, ?_⟩
  · exact each _ [] describes short (List.drop_eq_nil_of_le (Nat.le_of_eq short))
  · intro options whole few room
    exact ⟨_, addIpv4Options_frame message short whole,
      each _ options (describes_optioned describes short whole few room)
        (length_optioned_header options short) (drop_optioned short)⟩

theorem Compose.Packet4.parses_frame {p : Packet4} {header options : Octets}
    (fits : p.size < 65536)
    (describes : Ipv4Describes p.route p.transport p.message.length header)
    (width : header.length = 20 + options.length) (rest : header.drop 20 = options) :
    Parses (p.route.frame 0x0800 header p.message) (.ipv4 p.transport) (p.Shown options) := by
  have found := found_frame4 describes p.fits_message
  refine parses_of_found found fun c there => ?_
  have stands : c.StandsAt p.transport ((ipv4Message c.view).shift c.l2) := there.stands
  have view := there.view
  have message := ipv4Message_frame4 describes
  rw [view] at stands
  constructor
  case l4 =>
    rw [stands.l4, there.l2, message, width]
    simp only [Span.shift, Option.some.injEq]
    omega
  case ether => exact there.reads_ether
  case ipv4 =>
    have header4 := found.1.toIpv4Header
    have at4 := ipv4_eq stands.l3 (by rwa [view])
    rw [view] at at4
    refine there.reads at4 (within_ipv4Span header4) ?_
    have start : (ipv4Span (p.route.frame 0x0800 header p.message)).start = 14 := rfl
    rw [start, slice_ipv4Span_frame4 describes]
    exact ⟨describes.src, describes.dst, rest⟩
  case message =>
    have at4 := stands.transport p.transport
    rw [if_pos rfl] at at4
    refine there.reads at4 (within_ipv4Message found) ?_
    rw [length_ipv4Message_frame4 describes, slice_ipv4Message_frame4 describes]
    exact p.fields_message fits
  case header =>
    rw [there.frame]
    exact ipv4HeaderVerifies_frame4 describes
  case checksum =>
    rw [there.frame]
    exact p.verifies_frame fits describes

/-! ## IPv6 -/

theorem Compose.Packet6.parses_frame {p : Packet6} {header : Octets} (fits : p.size < 65536)
    (describes : Ipv6Describes p.route p.transport p.message.length header) :
    Parses (p.route.frame 0x86dd header p.message) (.ipv6 p.transport) p.Shown := by
  have found := found_frame6 describes p.fits_message
  refine parses_of_found found fun c there => ?_
  have stands : c.StandsAt p.transport ((ipv6Message c.view).shift c.l2) := there.stands
  have view := there.view
  rw [view] at stands
  constructor
  case l4 =>
    rw [stands.l4, there.l2]
    rfl
  case ether => exact there.reads_ether
  case ipv6 =>
    have header6 := found.1.toIpv6Header
    refine there.reads (ipv6_eq stands.l3 (by rwa [view])) ⟨by decide, header6.inside⟩ ?_
    have start : ipv6Span.start = 14 := rfl
    rw [start, slice_ipv6Span_frame6 describes]
    exact ⟨describes.src, describes.dst⟩
  case message =>
    have at6 := stands.transport p.transport
    rw [if_pos rfl] at at6
    refine there.reads at6 (within_ipv6Message found) ?_
    have start : (ipv6Message (p.route.frame 0x86dd header p.message)).start = 54 := rfl
    rw [start, length_ipv6Message, payloadLength_frame6 describes, slice_message_frame6 describes]
    exact p.fields_message fits
  case checksum =>
    rw [there.frame]
    exact p.verifies_frame fits describes

/-! ## Tunnels -/

section Vxlan

variable (network : UInt32) (inner : Octets)

def vxlanMessage : Octets :=
  datagram 49152 4789 ([8, 0, 0, 0] ++ (ofNat32 network.toNat).drop 1 ++ [0] ++ inner)

theorem length_vxlanMessage : (vxlanMessage network inner).length = 16 + inner.length := by
  rw [vxlanMessage, length_datagram]
  simp only [List.length_append, List.length_drop, length_ofNat32, List.length_cons,
    List.length_nil]
  omega

theorem vxlanNetwork?_header :
    vxlanNetwork? ((vxlanMessage network inner).slice 8 8) =
      some (network.toNat % 16777216) := by
  have header : (vxlanMessage network inner).slice 8 8 =
      [8, 0, 0, 0] ++ (ofNat32 network.toNat).drop 1 ++ [0] := rfl
  have bytes : ((vxlanMessage network inner).slice 8 8).slice? 4 3 =
      some ((ofNat32 network.toNat).drop 1) := by
    rw [header]
    rfl
  rw [vxlanNetwork?, bytes]
  simp only [Option.bind_eq_bind, Option.bind_some, Option.pure_def, Option.some.injEq, ofNat32,
    List.drop_succ_cons, List.drop_zero, byte, List.getD_cons_zero, List.getD_cons_succ,
    UInt8.toNat_ofNat']
  omega

/-- The cursor has left the tunnel, and stands at the start of the inner frame. -/
structure Unwrapped (start : Nat) (c : Cursor) : Prop where
  l2 : c.l2 = start
  inner : c.view = inner
  vxlan : c.Reads Cursor.vxlan fun header =>
    vxlanFlags? header = some 8 ∧ vxlanNetwork? header = some (network.toNat % 16777216)

/-- In any slot that is large enough, a decapsulation of `g` succeeds exactly if a walk over the
inner frame alone does, and then ends at that frame. -/
def Unwraps (start : Nat) (g : Octets) : Prop :=
  ∀ slot : Slot, g.length ≤ slot.capacity → ∃ held, slot.hold? g = some held ∧
    (∀ alone : Slot, alone.frame = inner →
      (((ofSlot held).decapsulate 4789).1 = .ok true ↔ ∃ h, (ofSlot alone).parse.1 = .ok h)) ∧
    (((ofSlot held).decapsulate 4789).1 = .ok true →
      Unwrapped network inner start ((ofSlot held).decapsulate 4789).2)

end Vxlan

theorem drop_tunnel (route : Route 4) (network : UInt32) (inner header : Octets) :
    (route.frame 0x0800 header (vxlanMessage network inner)).drop (30 + header.length) = inner := by
  have start : 30 + header.length = 14 + header.length + 16 := by omega
  rw [start, route.drop_frame_message]
  rfl

section Frame

variable {route : Route 4} {network : UInt32} {inner header : Octets}
  (describes : Ipv4Describes route .udp (vxlanMessage network inner).length header)
include describes

theorem tunnelLength_frame :
    tunnelLength (route.frame 0x0800 header (vxlanMessage network inner)) = 30 + header.length := by
  rw [tunnelLength, headerLength_frame4 describes]
  omega

theorem tunnelled_vxlan :
    Tunnelled 4789 (route.frame 0x0800 header (vxlanMessage network inner)) := by
  have length := length_vxlanMessage network inner
  exact tunnelled_frame4 describes rfl (by omega) (word_ofWord 4789)

theorem unwrapped_walked {c : Cursor} (l2 : c.l2 = 0)
    (frame : c.frame = route.frame 0x0800 header (vxlanMessage network inner)) (h : Headers) :
    Unwrapped network inner (30 + header.length) (c.inside.walked h) := by
  obtain ⟨sameSlot, sameL2, outer⟩ := walked_keeps c.inside h
  have view : c.view = route.frame 0x0800 header (vxlanMessage network inner) := by
    rw [Cursor.view, l2, List.drop_zero, frame]
  have length := route.length_frame 0x0800 header (vxlanMessage network inner)
  have size : (c.inside.walked h).size = c.size := congrArg Slot.length sameSlot
  have whole := length_vxlanMessage network inner
  constructor
  case l2 =>
    rw [sameL2]
    simp only [inside, view, tunnelLength_frame describes, l2, Nat.zero_add]
  case inner =>
    rw [view_walked, view_inside, view, tunnelLength_frame describes, drop_tunnel]
  case vxlan =>
    have placed : (c.inside.walked h).vxlan =
        some ⟨14 + header.length + 8, 14 + header.length + 8 + 8⟩ := by
      rw [Cursor.vxlan, outer]
      simp only [inside, view, headerLength_frame4 describes, l2, Nat.zero_add, Option.map_some]
    have bytes := bytes?_of_span Cursor.vxlan placed (by
      rw [size, ← Cursor.length_frame, frame]
      omega)
    have same : (c.inside.walked h).frame =
        route.frame 0x0800 header (vxlanMessage network inner) :=
      (congrArg Slot.frame sameSlot).trans frame
    rw [same, route.slice_frame_message] at bytes
    exact ⟨_, bytes, rfl, vxlanNetwork?_header network inner⟩

theorem unwraps_frame :
    Unwraps network inner (30 + header.length)
      (route.frame 0x0800 header (vxlanMessage network inner)) := by
  intro slot room
  obtain ⟨held, holds, frame⟩ := held_of_room room
  have view : (ofSlot held).view = route.frame 0x0800 header (vxlanMessage network inner) := frame
  have inside : (ofSlot held).inside.view = inner := by
    rw [view_inside, view, tunnelLength_frame describes, drop_tunnel]
  have tunnelled : Tunnelled 4789 (ofSlot held).view := by
    rw [view]
    exact tunnelled_vxlan describes
  refine ⟨held, holds, ?_⟩
  by_cases walkable : ∃ h : Headers, h.Found inner
  case pos =>
    obtain ⟨h, found⟩ := walkable
    have left := decapsulate_of_found (c := ofSlot held) rfl tunnelled (by rwa [inside])
    rw [left]
    refine ⟨fun alone same => iff_of_true rfl ⟨h, ?_⟩, fun _ => ?_⟩
    · exact parse_eq_ok_iff.2 (by rwa [view_ofSlot, same])
    · exact unwrapped_walked describes (c := ofSlot held) rfl frame h
  case neg =>
    have failed := (decapsulate_of_not_found (c := ofSlot held) rfl tunnelled
      (by rw [inside]; exact not_exists.1 walkable)).1
    rw [failed]
    refine ⟨fun alone same => iff_of_false nofun ?_, nofun⟩
    rintro ⟨h, ok⟩
    have found := parse_eq_ok_iff.1 ok
    rw [view_ofSlot, same] at found
    exact walkable ⟨h, found⟩

end Frame

/-! ## All builders -/

/-- Every frame whose lengths fit its length fields is built, and read back as it was built: ARP
packets, IPv4 packets with and without options, IPv6 packets, and frames around an inner frame. -/
theorem builders_read_back :
    (∀ (sender : Mac) (src target : Ipv4),
      Parses (arpRequest sender src target) .arp (ShowsArp 1 sender src target) ∧
      Parses (arpReply sender src target) .arp (ShowsArp 2 sender src target)) ∧
    (∀ p : Packet4, 20 + p.size < 65536 → ∃ g, p.build = some g ∧
      WithOptions p.size (fun options f => Parses f (.ipv4 p.transport) (p.Shown options)) g) ∧
    (∀ p : Packet6, p.size < 65536 → ∃ g, p.build = some g ∧
      Parses g (.ipv6 p.transport) p.Shown) ∧
    (∀ (route : Route 4) (network : UInt32) (inner : Octets), 36 + inner.length < 65536 →
      ∃ g, vxlan route network inner = some g ∧
        WithOptions (16 + inner.length) (fun options f => Ipv4HeaderVerifies f ∧
          Unwraps network inner (50 + options.length) f) g) := by
  refine ⟨?arp, ?ipv4, ?ipv6, ?vxlan⟩
  case arp =>
    intro sender src target
    exact ⟨parses_arp 1 sender src target, parses_arp 2 sender src target⟩
  case ipv4 =>
    intro p fits
    have length := p.length_message
    rw [p.build_eq, ← length]
    exact ipv4_withOptions (by omega) fun header options describes width rest =>
      p.parses_frame (by omega) describes width rest
  case ipv6 =>
    intro p fits
    have length := p.length_message
    refine ⟨_, p.build_eq.trans (ipv6_eq_frame p.route p.transport p.hopLimit (by omega)), ?_⟩
    exact p.parses_frame fits (describes_ipv6Header p.route p.transport p.hopLimit (by omega))
  case vxlan =>
    intro route network inner fits
    have length := length_vxlanMessage network inner
    have built : vxlan route network inner =
        Compose.ipv4 route Transport.udp.number (vxlanMessage network inner) := rfl
    rw [built, ← length]
    refine ipv4_withOptions (by omega) fun header options describes width _ => ?_
    have unwraps := unwraps_frame describes
    have start : 30 + header.length = 50 + options.length := by omega
    rw [start] at unwraps
    exact ⟨ipv4HeaderVerifies_frame4 describes, unwraps⟩

end Boomerang
