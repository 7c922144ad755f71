import Boomerang.Proofs.OuterLengths

/-!
Bytes behind the datagram never reach an answer. A frame is answered as the frame that ends with its
datagram would be, and its padding is put back behind the reply; an advertisement has none. What the
buffer held behind the frame is therefore never seen either.
-/

set_option autoImplicit false

namespace Boomerang

open Octets Cursor

/-- Where the ARP packet or the IP datagram of a frame ends, as its header says. -/
def declaredEnd (g : Octets) : Option Nat :=
  match Network.ofEtherType? (g.word 12) with
  | some .arp => some 42
  | some .ipv4 => some (14 + ipv4TotalLength g)
  | some .ipv6 => some (54 + ipv6PayloadLength g)
  | none => none

theorem declaredEnd_of_arp {g : Octets} (type : g.word 12 = 0x0806) : declaredEnd g = some 42 := by
  rw [declaredEnd, type]
  rfl

theorem declaredEnd_of_ipv4 {g : Octets} (type : g.word 12 = 0x0800) :
    declaredEnd g = some (14 + ipv4TotalLength g) := by
  rw [declaredEnd, type]
  rfl

theorem declaredEnd_of_ipv6 {g : Octets} (type : g.word 12 = 0x86dd) :
    declaredEnd g = some (54 + ipv6PayloadLength g) := by
  rw [declaredEnd, type]
  rfl

theorem declaredEnd_of_sameOn {before after : Octets}
    (same : SameOn (fun i => 12 ≤ i ∧ i < 20) before after) :
    declaredEnd after = declaredEnd before := by
  rw [declaredEnd, ipv4TotalLength, ipv6PayloadLength, same.word (by omega) (by omega),
    same.word (by omega) (by omega), same.word (by omega) (by omega), declaredEnd, ipv4TotalLength,
    ipv6PayloadLength]

/-! ## Headers in front of padding -/

section Append

variable {p : Octets} (a : Octets)

theorem Octets.word_append_left {i : Nat} (inside : i + 1 < p.length) :
    (p ++ a).word i = p.word i :=
  word_congr (byte_append_left (by omega)) (byte_append_left inside)

theorem ipv4HeaderLength_append (long : 14 < p.length) :
    ipv4HeaderLength (p ++ a) = ipv4HeaderLength p := by
  rw [ipv4HeaderLength, byte_append_left long, ipv4HeaderLength]

theorem ipv4TotalLength_append (long : 17 < p.length) :
    ipv4TotalLength (p ++ a) = ipv4TotalLength p := by
  rw [ipv4TotalLength, word_append_left a long, ipv4TotalLength]

theorem ipv6PayloadLength_append (long : 19 < p.length) :
    ipv6PayloadLength (p ++ a) = ipv6PayloadLength p := by
  rw [ipv6PayloadLength, word_append_left a long, ipv6PayloadLength]

theorem ipv4Span_append (long : 14 < p.length) : ipv4Span (p ++ a) = ipv4Span p := by
  rw [ipv4Span, ipv4HeaderLength_append a long, ipv4Span]

theorem ipv4Message_append (long : 17 < p.length) : ipv4Message (p ++ a) = ipv4Message p := by
  rw [ipv4Message, ipv4HeaderLength_append a (by omega), ipv4TotalLength_append a long, ipv4Message]

theorem ipv6Message_append (long : 19 < p.length) : ipv6Message (p ++ a) = ipv6Message p := by
  rw [ipv6Message, ipv6PayloadLength_append a long, ipv6Message]

theorem arpPacket_append_iff (long : 42 ≤ p.length) : ArpPacket (p ++ a) ↔ ArpPacket p := by
  have total : (p ++ a).length = p.length + a.length := List.length_append
  have type := word_append_left a (show 12 + 1 < p.length by omega)
  constructor
  · intro packet
    exact ⟨type.symm.trans packet.etherType, long⟩
  · intro packet
    exact ⟨type.trans packet.etherType, by omega⟩

/-- The datagram ends where the padding starts, so its last byte is as far as anything looks. -/
theorem fits_append_iff {t : Transport} {s : Span} (stop : s.stop = p.length) :
    t.Fits (p ++ a) s ↔ t.Fits p s := by
  have header : ∀ {x : Octets}, t.Fits x s → t = .tcp → s.start + 12 < p.length := by
    rintro x fits rfl
    have minimum : s.start + 20 ≤ s.stop := fits.minimum
    omega
  constructor
  · intro fits
    refine ⟨fits.minimum, fun isTcp => ?_⟩
    have bounds := fits.tcp isTcp
    rwa [tcpHeaderLength, byte_append_left (header fits isTcp)] at bounds
  · intro fits
    refine ⟨fits.minimum, fun isTcp => ?_⟩
    have bounds := fits.tcp isTcp
    rwa [tcpHeaderLength, byte_append_left (header fits isTcp)]

theorem ipv4Datagram_append_iff (long : 34 ≤ p.length)
    (declared : 14 + ipv4TotalLength p = p.length) : Ipv4Datagram (p ++ a) ↔ Ipv4Datagram p := by
  have whole : (p ++ a).length = p.length + a.length := List.length_append
  have header := ipv4HeaderLength_append a (show 14 < p.length by omega)
  have total := ipv4TotalLength_append a (show 17 < p.length by omega)
  have type := word_append_left a (show 12 + 1 < p.length by omega)
  have fragment := word_append_left a (show 20 + 1 < p.length by omega)
  have first : (p ++ a).byte 14 = p.byte 14 := byte_append_left (by omega)
  constructor
  · rintro ⟨⟨etherType, version, minimum, _⟩, ⟨last, start⟩, covers, _⟩
    rw [type] at etherType
    rw [first] at version
    rw [header] at minimum
    rw [fragment] at last start
    rw [header, total] at covers
    exact ⟨⟨etherType, version, minimum, by omega⟩, ⟨last, start⟩, covers, by omega⟩
  · rintro ⟨⟨etherType, version, minimum, inside⟩, ⟨last, start⟩, covers, contained⟩
    rw [← type] at etherType
    rw [← first] at version
    rw [← header] at minimum
    rw [← fragment] at last start
    rw [← header, ← total] at covers
    exact ⟨⟨etherType, version, minimum, by omega⟩, ⟨last, start⟩, covers, by omega⟩

theorem ipv6Datagram_append_iff (long : 54 ≤ p.length)
    (declared : 54 + ipv6PayloadLength p = p.length) : Ipv6Datagram (p ++ a) ↔ Ipv6Datagram p := by
  have whole : (p ++ a).length = p.length + a.length := List.length_append
  have payload := ipv6PayloadLength_append a (show 19 < p.length by omega)
  have type := word_append_left a (show 12 + 1 < p.length by omega)
  have first : (p ++ a).byte 14 = p.byte 14 := byte_append_left (by omega)
  constructor
  · rintro ⟨⟨etherType, version, _⟩, _⟩
    exact ⟨⟨type.symm.trans etherType, first ▸ version, long⟩, by omega⟩
  · rintro ⟨⟨etherType, version, _⟩, _⟩
    exact ⟨⟨type.trans etherType, first.symm ▸ version, by omega⟩, by omega⟩

variable (declared : declaredEnd (p ++ a) = some p.length)
include declared

theorem ends_of_ipv4 (type : (p ++ a).word 12 = 0x0800) :
    14 + ipv4TotalLength (p ++ a) = p.length :=
  Option.some.inj ((declaredEnd_of_ipv4 type).symm.trans declared)

theorem ends_of_ipv6 (type : (p ++ a).word 12 = 0x86dd) :
    54 + ipv6PayloadLength (p ++ a) = p.length :=
  Option.some.inj ((declaredEnd_of_ipv6 type).symm.trans declared)

theorem found4_append_iff {t : Transport} (long : 34 ≤ p.length)
    (type : (p ++ a).word 12 = 0x0800) :
    (Headers.ipv4 t).Found (p ++ a) ↔ (Headers.ipv4 t).Found p := by
  have stop := ends_of_ipv4 a declared type
  rw [ipv4TotalLength_append a (by omega)] at stop
  have protocol : (p ++ a).byte 23 = p.byte 23 := byte_append_left (by omega)
  rw [Headers.Found, Headers.Found, ipv4Datagram_append_iff a long stop, protocol,
    ipv4Message_append a (by omega), fits_append_iff a stop]

theorem found6_append_iff {t : Transport} (long : 54 ≤ p.length)
    (type : (p ++ a).word 12 = 0x86dd) :
    (Headers.ipv6 t).Found (p ++ a) ↔ (Headers.ipv6 t).Found p := by
  have stop := ends_of_ipv6 a declared type
  rw [ipv6PayloadLength_append a (by omega)] at stop
  have protocol : (p ++ a).byte 20 = p.byte 20 := byte_append_left (by omega)
  rw [Headers.Found, Headers.Found, ipv6Datagram_append_iff a long stop, protocol,
    ipv6Message_append a (by omega), fits_append_iff a stop]

theorem found_append_iff {h : Headers} : h.Found (p ++ a) ↔ h.Found p := by
  -- Padding can hold no part of a header: what it would belong to ends before it.
  cases h with
  | arp =>
    constructor
    · intro found
      have stop := Option.some.inj ((declaredEnd_of_arp found.etherType).symm.trans declared)
      exact (arpPacket_append_iff a (Nat.le_of_eq stop)).1 found
    · intro found
      exact (arpPacket_append_iff a found.contained).2 found
  | ipv4 t =>
    constructor
    · intro found
      have type := found.1.etherType
      have stop := ends_of_ipv4 a declared type
      have minimum := found.1.minimum
      have covers := found.1.covers
      exact (found4_append_iff a declared (by omega) type).1 found
    · intro found
      have long := found.1.length
      have type := (word_append_left a (by omega)).trans found.1.etherType
      exact (found4_append_iff a declared long type).2 found
  | ipv6 t =>
    constructor
    · intro found
      have type := found.1.etherType
      have stop := ends_of_ipv6 a declared type
      exact (found6_append_iff a declared (by omega) type).1 found
    · intro found
      have long := found.1.inside
      have type := (word_append_left a (by omega)).trans found.1.etherType
      exact (found6_append_iff a declared long type).2 found

end Append

/-! ## Requests in front of padding -/

namespace Request

variable {p : Octets} {a : Octets} {mac : Mac} {capacity : Nat} {r : Request}

theorem arpRequest_append_iff (long : 42 ≤ p.length) : ArpRequest (p ++ a) ↔ ArpRequest p := by
  have word : ∀ i < 30, (p ++ a).word i = p.word i := fun i low => word_append_left a (by omega)
  have byte : ∀ i < 30, (p ++ a).byte i = p.byte i := fun i low => byte_append_left (by omega)
  constructor
  · rintro ⟨hardware, protocol, hardwareLength, protocolLength, operation⟩
    rw [word _ (by decide)] at hardware protocol operation
    rw [byte _ (by decide)] at hardwareLength protocolLength
    exact ⟨hardware, protocol, hardwareLength, protocolLength, operation⟩
  · rintro ⟨hardware, protocol, hardwareLength, protocolLength, operation⟩
    rw [← word _ (by decide)] at hardware protocol operation
    rw [← byte _ (by decide)] at hardwareLength protocolLength
    exact ⟨hardware, protocol, hardwareLength, protocolLength, operation⟩

theorem solicitation_append_iff (long : 62 ≤ p.length)
    (declared : 54 + ipv6PayloadLength p = p.length) :
    Solicitation (p ++ a) ↔ Solicitation p := by
  have payload := ipv6PayloadLength_append a (show 19 < p.length by omega)
  have type : (p ++ a).byte 54 = p.byte 54 := byte_append_left (by omega)
  have code : (p ++ a).byte 55 = p.byte 55 := byte_append_left (by omega)
  have target : 24 ≤ ipv6PayloadLength p → (p ++ a).byte 62 = p.byte 62 := fun _ =>
    byte_append_left (by omega)
  constructor
  · rintro ⟨solicits, long, zero, unicast⟩
    rw [payload] at long
    exact ⟨type ▸ solicits, long, code ▸ zero, target long ▸ unicast⟩
  · rintro ⟨solicits, long, zero, unicast⟩
    exact ⟨type.trans solicits, payload ▸ long, code.trans zero, (target long).symm ▸ unicast⟩

theorem made_append_iff (declared : declaredEnd (p ++ a) = some p.length) :
    r.Made (p ++ a) capacity ↔ r.Made p capacity := by
  have asked : r.headers.Found p → (r.Asked (p ++ a) capacity ↔ r.Asked p capacity) := by
    intro found
    cases r with
    | arp => exact arpRequest_append_iff found.contained
    | datagram4 | datagram6 => exact Iff.rfl
    | echo4 =>
      have long := length_of_found4 found
      rw [Asked, Asked, ipv4HeaderLength_append a (by omega), byte_append_left (by omega)]
    | echo6 =>
      have long := length_of_found6 found
      rw [Asked, Asked, byte_append_left (by omega)]
    | solicitation =>
      have long := length_of_found6 found
      have type := (word_append_left a (by omega)).trans found.1.etherType
      have ends := ends_of_ipv6 a declared type
      rw [ipv6PayloadLength_append a (by omega)] at ends
      rw [Asked, Asked, solicitation_append_iff long ends]
  constructor
  · rintro ⟨found, request⟩
    rw [found_append_iff a declared] at found
    exact ⟨found, (asked found).1 request⟩
  · rintro ⟨found, request⟩
    exact ⟨(found_append_iff a declared).2 found, (asked found).2 request⟩

end Request

/-! ## Replies in front of padding -/

namespace Octets

variable {p a : Octets} {s : Span}

theorem turnEther_append_left (long : 12 ≤ p.length) : (p ++ a).turnEther = p.turnEther ++ a :=
  exchange_append_left (by decide) long

theorem back4_append_left (long : 20 ≤ s.length) (within : s.Within p.length) :
    ((p ++ a).turnIpv4 s).turnEther = (p.turnIpv4 s).turnEther ++ a := by
  have inside := within.inside
  simp only [Span.length] at long
  rw [turnIpv4_append_left (by simpa only [Span.length]) within,
    turnEther_append_left (by rw [length_turnIpv4]; omega)]

theorem turnIpv6_append_left (long : 54 ≤ p.length) :
    (p ++ a).turnIpv6 ipv6Span = p.turnIpv6 ipv6Span ++ a :=
  exchange_append_left (by decide) (show 14 + 24 + 16 ≤ p.length by omega)

theorem back6_append_left (long : 54 ≤ p.length) :
    ((p ++ a).turnIpv6 ipv6Span).turnEther = (p.turnIpv6 ipv6Span).turnEther ++ a := by
  rw [turnIpv6_append_left long, turnEther_append_left (by rw [length_turnIpv6]; omega)]

theorem turnPorts_append_left (long : 4 ≤ s.length) (within : s.Within p.length) :
    (p ++ a).turnPorts s = p.turnPorts s ++ a := by
  have inside := within.inside
  simp only [Span.length] at long
  exact exchange_append_left (by omega) (by omega)

theorem fillIcmp_append_left (long : 4 ≤ s.length) (within : s.Within p.length) :
    (p ++ a).fillIcmp s = p.fillIcmp s ++ a := by
  have inside := within.inside
  simp only [Span.length] at long
  rw [fillIcmp, slice_append_left (by simp only [Span.length]; omega),
    put_append_left (by rw [length_ofWord]; omega), fillIcmp]

theorem fillIcmpv6_append_left (src dst : Octets) (long : 4 ≤ s.length)
    (within : s.Within p.length) :
    fillIcmpv6 src dst s (p ++ a) = fillIcmpv6 src dst s p ++ a := by
  have inside := within.inside
  simp only [Span.length] at long
  rw [fillIcmpv6, slice_append_left (by simp only [Span.length]; omega),
    put_append_left (by rw [length_ofWord]; omega), fillIcmpv6]

end Octets

namespace Request

variable {p a : Octets} {mac : Mac} {capacity : Nat} {r : Request}

theorem arpReply_append (packet : ArpPacket p) :
    arpReply mac (p ++ a) = arpReply mac p ++ a := by
  have long := packet.contained
  have requester : (p.slice 22 6).length = 6 := length_slice (by omega)
  have sender : (p.slice 28 4).length = 4 := length_slice (by omega)
  have target : (p.slice 38 4).length = 4 := length_slice (by omega)
  have hardware := mac.size_eq
  unfold arpReply
  simp (disch := omega) only [slice_append_left]
  simp (disch := simp only [length_put, length_ofWord]; omega) only [put_append_left]

theorem advertisement_append (long : 78 ≤ p.length) :
    advertisement mac (p ++ a) = advertisement mac p := by
  unfold advertisement described addressed solicitor
  simp (disch := omega) only [slice_append_left]

theorem datagram4Reply_append (found : (Headers.ipv4 .udp).Found p) :
    datagram4Reply (p ++ a) = datagram4Reply p ++ a := by
  have header := found.1.toIpv4Header
  have long := header.length
  have message := found.2.2.long
  rw [datagram4Reply, ipv4Message_append a (by omega), ipv4Span_append a (by omega),
    turnPorts_append_left (by omega) (within_ipv4Message found),
    back4_append_left (long_ipv4Span header)
      (by rw [length_turnPorts]; exact within_ipv4Span header), datagram4Reply]

theorem echo4Reply_append (found : (Headers.ipv4 .icmp).Found p) :
    echo4Reply (p ++ a) = echo4Reply p ++ a := by
  have header := found.1.toIpv4Header
  have long := header.length
  have message := found.2.2.long
  have within := within_ipv4Message found
  have ordered := within.ordered
  have inside := within.inside
  have start : (ipv4Message p).start = 14 + ipv4HeaderLength p := rfl
  simp only [Span.length] at message
  rw [echo4Reply, ipv4HeaderLength_append a (by omega), ipv4Message_append a (by omega),
    ipv4Span_append a (by omega), put_append_left (by rw [List.length_singleton]; omega)]
  rw [fillIcmp_append_left (by simp only [Span.length]; omega) (by rwa [length_put]),
    back4_append_left (long_ipv4Span header)
      (by rw [length_fillIcmp, length_put]; exact within_ipv4Span header), echo4Reply]

theorem datagram6Reply_append (found : (Headers.ipv6 .udp).Found p) :
    datagram6Reply (p ++ a) = datagram6Reply p ++ a := by
  have long := found.1.inside
  have message := found.2.2.long
  rw [datagram6Reply, ipv6Message_append a (by omega),
    turnPorts_append_left (by omega) (within_ipv6Message found),
    back6_append_left (by rwa [length_turnPorts]), datagram6Reply]

theorem echo6Reply_append (found : (Headers.ipv6 .icmpv6).Found p) :
    echo6Reply (p ++ a) = echo6Reply p ++ a := by
  have long := found.1.inside
  have message := found.2.2.long
  have within := within_ipv6Message found
  have inside := found.1.contained
  have length := length_ipv6Message p
  rw [echo6Reply, slice_append_left (by omega), slice_append_left (by omega),
    ipv6Message_append a (by omega), turnIpv6_append_left long,
    put_append_left (by rw [length_turnIpv6, List.length_singleton]; omega)]
  rw [fillIcmpv6_append_left _ _ (by omega) (by rwa [length_put, length_turnIpv6]),
    turnEther_append_left (by rw [length_fillIcmpv6, length_put, length_turnIpv6]; omega),
    echo6Reply]

/-- The reply to a datagram, with the padding behind it unless it is an advertisement. -/
theorem reply_append (mac : Mac) (made : r.Made p capacity) :
    r.reply mac (p ++ a) = r.reply mac p ++ if r = .solicitation then [] else a := by
  have found := made.found
  cases r with
  | arp => exact arpReply_append found
  | datagram4 => exact datagram4Reply_append found
  | echo4 => exact echo4Reply_append found
  | datagram6 => exact datagram6Reply_append found
  | echo6 => exact echo6Reply_append found
  | solicitation =>
    rw [if_pos rfl, List.append_nil]
    exact advertisement_append (length_of_solicitation made)

theorem declaredEnd_reply (made : r.Made p capacity) :
    declaredEnd (r.reply mac p) = if r = .solicitation then some 86 else declaredEnd p := by
  have found := made.found
  cases r with
  | arp => exact declaredEnd_of_sameOn ((sameOn_arpReply mac found).mono fun i => .inl)
  | datagram4 =>
    exact declaredEnd_of_sameOn
      ((sameOn_datagram4Reply found.1.toIpv4Header).mono fun i _ => by omega)
  | echo4 =>
    exact declaredEnd_of_sameOn ((sameOn_echo4Reply found.1.toIpv4Header).mono fun i _ => by omega)
  | datagram6 =>
    exact declaredEnd_of_sameOn ((sameOn_datagram6Reply p).mono fun i _ => by omega)
  | echo6 => exact declaredEnd_of_sameOn ((sameOn_echo6Reply p).mono fun i _ => by omega)
  | solicitation =>
    have replied : (Headers.ipv6 .icmpv6).Found (advertisement mac p) := found_reply made
    have type := replied.1.etherType
    rw [reply, declaredEnd_of_ipv6 type, payloadLength_advertisement made, if_pos rfl]

end Request

/-! ## Two frames -/

/-- The header of the frame declares this end of its datagram, and the frame holds all of it. -/
structure EndsAt (stop : Nat) (f : Octets) : Prop where
  declared : declaredEnd f = some stop
  inside : stop ≤ f.length

/-- Buffers of one size whose frames agree as far as their datagrams go. -/
structure AgreeTo (stop : Nat) (s t : Slot) : Prop where
  capacity : s.capacity = t.capacity
  one : EndsAt stop s.frame
  other : EndsAt stop t.frame
  datagram : s.frame.take stop = t.frame.take stop

def Advertised (before : Octets) (answer : Verdict × Cursor) : Prop :=
  answer.1 = .forward ∧ (Headers.ipv6 .icmpv6).Found before ∧ before.byte 54 = 135

/-- What stands behind the datagram of an answer, which ends at `now` and ended at `stop` before. -/
structure Behind (stop now : Nat) (before : Octets) (answer : Verdict × Cursor) : Prop where
  padding : ¬ Advertised before answer → now = stop ∧ answer.2.frame.drop now = before.drop stop
  nothing : Advertised before answer → answer.2.frame.length = now

variable {s t : Slot} {stop : Nat} {core pad : Octets} {r : Request} {mac : Mac} {capacity : Nat}

theorem advertised_iff {c : Cursor} (made : r.Made core capacity) :
    Advertised core (.forward, c) ↔ r = .solicitation := by
  constructor
  · rintro ⟨_, found, type⟩
    have same := Headers.found_unique made.found found
    have asked := made.asked
    cases r with
    | solicitation => rfl
    | echo6 => exact absurd (type.symm.trans asked) (by decide)
    | arp | datagram4 | echo4 | datagram6 => cases same
  · rintro rfl
    exact ⟨rfl, made.found, made.asked.1.type⟩

/-- The answer to a frame that makes a request, datagram by datagram. -/
structure Answered (mac : Mac) (core pad : Octets) (r : Request) (answer : Verdict × Cursor) :
    Prop where
  verdict : answer.1 = .forward
  frame : answer.2.frame = r.reply mac core ++ if r = .solicitation then [] else pad
  ends : EndsAt (r.reply mac core).length answer.2.frame
  behind : Behind core.length (r.reply mac core).length (core ++ pad) answer

theorem answered_of_made (mac : Mac) (frame : s.frame = core ++ pad)
    (declared : declaredEnd (core ++ pad) = some core.length) (made : r.Made core s.capacity) :
    Answered mac core pad r ((Answer.frame mac).run (ofSlot s)) := by
  have padded := (Request.made_append_iff declared).2 made
  have length : (r.reply mac core).length = _ := Request.length_reply made
  obtain ⟨d, ran, replied⟩ := run_of_made mac (frame ▸ padded)
  rw [frame, Request.reply_append mac made] at replied
  rw [ran]
  refine ⟨rfl, replied, ⟨?_, ?_⟩, ⟨fun other => ?_, fun advertised => ?_⟩⟩
  · rw [replied, ← Request.reply_append mac made, Request.declaredEnd_reply padded, length]
    split
    · rfl
    · exact declared
  · rw [replied, List.length_append]
    exact Nat.le_add_right _ _
  · rw [advertised_iff padded] at other
    rw [if_neg other] at replied length
    refine ⟨length, ?_⟩
    rw [replied, List.drop_left, List.drop_left]
  · rw [advertised_iff padded] at advertised
    rw [replied, if_pos advertised, List.append_nil]

theorem run_of_not_requests (mac : Mac) (frame : s.frame = core ++ pad)
    (declared : declaredEnd (core ++ pad) = some core.length)
    (none : ¬ Requests core s.capacity) :
    ∃ d, (Answer.frame mac).run (ofSlot s) = (.drop, d) ∧ d.frame = s.frame := by
  have padded : ¬ Requests s.frame s.capacity := by
    rintro ⟨r, made⟩
    rw [frame, Request.made_append_iff declared] at made
    exact none ⟨r, made⟩
  obtain ⟨d, ran, kept⟩ := run_of_not_made mac (c := ofSlot s) padded
  exact ⟨d, ran, congrArg Slot.frame kept⟩

theorem behind_of_dropped {f : Octets} {d : Cursor} (kept : d.frame = f) :
    Behind stop stop f (.drop, d) where
  padding _ := ⟨rfl, by rw [kept]⟩
  nothing advertised := nomatch advertised.1

/-- Frames that agree as far as their datagrams go are answered alike as far as the answers go, and
behind that each keeps its own padding. What their buffers held behind them decides nothing. -/
theorem padding_unobserved (mac : Mac) (agree : AgreeTo stop s t) :
    let one := (Answer.frame mac).run (ofSlot s)
    let other := (Answer.frame mac).run (ofSlot t)
    one.1 = other.1 ∧ one.1 ≠ .fault ∧
      (∃ now, EndsAt now one.2.frame ∧ EndsAt now other.2.frame ∧
        one.2.frame.take now = other.2.frame.take now ∧
        Behind stop now s.frame one ∧ Behind stop now t.frame other) ∧
      (s.frame = t.frame → one.2.frame = other.2.frame) := by
  obtain ⟨capacity, ends, endsToo, datagram⟩ := agree
  obtain ⟨core, front⟩ : ∃ core, s.frame.take stop = core := ⟨_, rfl⟩
  obtain ⟨pad, rear⟩ : ∃ pad, s.frame.drop stop = pad := ⟨_, rfl⟩
  obtain ⟨padToo, rearToo⟩ : ∃ pad, t.frame.drop stop = pad := ⟨_, rfl⟩
  have width : core.length = stop := by
    rw [← front, List.length_take, Nat.min_eq_left ends.inside]
  have frame : s.frame = core ++ pad := by rw [← front, ← rear, List.take_append_drop]
  have frameToo : t.frame = core ++ padToo := by
    rw [← front, ← rearToo, datagram, List.take_append_drop]
  have declared : declaredEnd (core ++ pad) = some core.length := by
    rw [← frame, width, ends.declared]
  have declaredToo : declaredEnd (core ++ padToo) = some core.length := by
    rw [← frameToo, width, endsToo.declared]
  intro one other
  -- Whether there is a request is settled by the datagram, which the two frames share.
  by_cases request : Requests core s.capacity
  case pos =>
    obtain ⟨r, made⟩ := request
    have answered : Answered mac core pad r one := answered_of_made mac frame declared made
    have answeredToo : Answered mac core padToo r other :=
      answered_of_made mac frameToo declaredToo (capacity ▸ made)
    have behind := answered.behind
    have behindToo := answeredToo.behind
    rw [width, ← frame] at behind
    rw [width, ← frameToo] at behindToo
    refine ⟨answered.verdict.trans answeredToo.verdict.symm, ?_,
      ⟨_, answered.ends, answeredToo.ends, ?_, behind, behindToo⟩, fun same => ?_⟩
    · rw [answered.verdict]
      nofun
    · rw [answered.frame, answeredToo.frame, List.take_left, List.take_left]
    · rw [frame, frameToo] at same
      rw [answered.frame, answeredToo.frame, List.append_cancel_left same]
  case neg =>
    obtain ⟨c, ran, kept⟩ := run_of_not_requests mac frame declared request
    obtain ⟨d, ranToo, keptToo⟩ :=
      run_of_not_requests mac frameToo declaredToo (capacity ▸ request)
    have oneIs : one = (.drop, c) := ran
    have otherIs : other = (.drop, d) := ranToo
    rw [oneIs, otherIs, kept, keptToo]
    exact ⟨rfl, nofun, ⟨stop, ends, endsToo, datagram, behind_of_dropped kept,
      behind_of_dropped keptToo⟩, id⟩

theorem advertisements_alike :
    let mac := Address.mac 2 0 0 0 0 1
    let solicitation := (solicitedSlot 0 8).frame.drop 50
    let s : Slot := ⟨solicitation ++ List.replicate 8 0xaa, 78, by decide +kernel⟩
    let t : Slot := ⟨solicitation ++ List.replicate 8 0x55, 82, by decide +kernel⟩
    let one := (Answer.frame mac).run (ofSlot s)
    let other := (Answer.frame mac).run (ofSlot t)
    AgreeTo 78 s t ∧ one.1 = .forward ∧ other.1 = .forward ∧ one.2.frame = other.2.frame := by
  intro mac solicitation s t one other
  have agree : AgreeTo 78 s t :=
    ⟨by decide +kernel, ⟨by decide +kernel, by decide +kernel⟩,
      ⟨by decide +kernel, by decide +kernel⟩, by decide +kernel⟩
  have made : Request.solicitation.Made s.frame s.capacity := by decide +kernel
  have madeToo : Request.solicitation.Made t.frame t.capacity := by decide +kernel
  obtain ⟨_, ran, _⟩ := run_of_made mac made
  have forwarded : one.1 = .forward := congrArg Prod.fst ran
  obtain ⟨same, _, ⟨now, _, _, datagram, behind, behindToo⟩, _⟩ := padding_unobserved mac agree
  have forwardedToo : other.1 = .forward := same.symm.trans forwarded
  have long := behind.nothing ⟨forwarded, made.found, made.asked.1.type⟩
  have longToo := behindToo.nothing ⟨forwardedToo, madeToo.found, madeToo.asked.1.type⟩
  rw [List.take_of_length_le (Nat.le_of_eq long),
    List.take_of_length_le (Nat.le_of_eq longToo)] at datagram
  exact ⟨agree, forwarded, forwardedToo, datagram⟩

end Boomerang
