import Boomerang.Proofs.Transparency

/-!
Answers are never answered. The answer to anything but a UDP datagram has the headers of its request
but asks for nothing, and a tunnel leads back into itself, so two reflectors that face each other
fall silent at once.
-/

set_option autoImplicit false

namespace Boomerang

open Cursor Octets

namespace Request

variable {g : Octets} {mac : Mac} {capacity room : Nat} {r : Request}

/-! ## What a reply asks for -/

theorem operation_arpReply (mac : Mac) (packet : ArpPacket g) : (arpReply mac g).word 20 = 2 := by
  have long := packet.contained
  have requester : (g.slice 22 6).length = 6 := length_slice (by omega)
  have sender : (g.slice 28 4).length = 4 := length_slice (by omega)
  have target : (g.slice 38 4).length = 4 := length_slice (by omega)
  have hardware := mac.size_eq
  -- The operation is written first; everything after it is an address.
  have addresses : SameOn (fun i => 20 ≤ i ∧ i < 22) (g.put 20 (ofWord 2)) (arpReply mac g) := by
    unfold arpReply
    refine .put (.put (.put (.put (.put (.put (.refl _ _) ?_) ?_) ?_) ?_) ?_) ?_
    all_goals
      intro i kept
      omega
  rw [addresses.word (by omega) (by omega)]
  exact word_put_same 2 (by omega)

theorem type_echo4Reply (found : (Headers.ipv4 .icmp).Found g) :
    (echo4Reply g).byte (14 + ipv4HeaderLength g) = 0 := by
  have minimum := found.1.minimum
  have long := length_of_found4 found
  have start : (ipv4Message g).start = 14 + ipv4HeaderLength g := rfl
  rw [echo4Reply, (sameOn_back4 g _).byte _ (Or.inr (by omega)),
    (sameOn_fillIcmp _ _).byte _ (Or.inl (by omega)), byte_put_one 0 (by omega)]

theorem type_echo6Reply (found : (Headers.ipv6 .icmpv6).Found g) :
    (echo6Reply g).byte 54 = 129 := by
  have long := length_of_found6 found
  have start : (ipv6Message g).start = 54 := rfl
  rw [echo6Reply, (sameOn_turnEther _).byte 54 (by decide),
    (sameOn_fillIcmpv6 _ _ _ _).byte 54 (Or.inl (by omega)),
    byte_put_one 129 (by rw [length_turnIpv6]; omega)]

theorem type_advertisement (mac : Mac) (long : 78 ≤ g.length) :
    (advertisement mac g).byte 54 = 136 :=
  ((sameOn_announced mac long).byte 54 (by decide)).trans
    (type_described (length_optioned mac long))

theorem not_requests_reply (made : r.Made g capacity) (four : r ≠ .datagram4)
    (six : r ≠ .datagram6) : ¬ Requests (r.reply mac g) room := by
  rintro ⟨q, again⟩
  have found := made.found
  -- The headers are those of the request, so the message behind them has to be another one.
  have same := Headers.found_unique again.found (found_reply made)
  have asked := again.asked
  cases r with
  | datagram4 => exact four rfl
  | datagram6 => exact six rfl
  | arp =>
    cases q with
    | arp => exact absurd ((operation_arpReply mac found).symm.trans asked.operation) (by decide)
    | datagram4 | echo4 | datagram6 | echo6 | solicitation => cases same
  | echo4 =>
    cases q with
    | echo4 =>
      have head : HeadKept g (echo4Reply g) :=
        (sameOn_echo4Reply found.1.toIpv4Header).mono fun i _ => by omega
      have type : (echo4Reply g).byte (14 + ipv4HeaderLength (echo4Reply g)) = 8 := asked
      rw [head.headerLength, type_echo4Reply found] at type
      exact absurd type (by decide)
    | arp | datagram4 | datagram6 | echo6 | solicitation => cases same
  | echo6 =>
    have type := type_echo6Reply found
    cases q with
    | echo6 => exact absurd (type.symm.trans asked) (by decide)
    | solicitation => exact absurd (type.symm.trans asked.1.type) (by decide)
    | arp | datagram4 | echo4 | datagram6 => cases same
  | solicitation =>
    have type := type_advertisement mac (length_of_solicitation made)
    cases q with
    | echo6 => exact absurd (type.symm.trans asked) (by decide)
    | solicitation => exact absurd (type.symm.trans asked.1.type) (by decide)
    | arp | datagram4 | echo4 | datagram6 => cases same

theorem not_tunnelled_reply {port : UInt16} (made : r.Made g capacity) (four : r ≠ .datagram4) :
    ¬ Tunnelled port (r.reply mac g) := by
  intro tunnelled
  have found : r.headers.Found (r.reply mac g) := found_reply made
  cases r with
  | datagram4 => exact four rfl
  | arp => exact absurd (tunnelled.etherType.symm.trans found.etherType) (by decide)
  | echo4 => exact absurd (tunnelled.udp.symm.trans found.2.1) (by decide)
  | datagram6 | echo6 | solicitation =>
    exact absurd (tunnelled.etherType.symm.trans found.1.etherType) (by decide)

end Request

/-! ## Tunnels lead back -/

section Tunnel

variable {port : UInt16} {f : Octets} {h : Headers} (tunnelled : Tunnelled port f)
  (found : h.Found (f.drop (tunnelLength f)))
include tunnelled found

/-- What tells a tunnel is left as it was when the frame goes back through it. -/
theorem byte_tunnelReply (mac : Mac) (r : Request) {i : Nat}
    (kept : 12 ≤ i ∧ i < 16 ∨ 18 ≤ i ∧ i < 24 ∨ 34 ≤ i ∧ i < 18 + ipv4HeaderLength f) :
    (r.tunnelReply mac f).byte i = f.byte i := by
  have minimum := tunnelled.minimum
  have width := length_front_of_found found
  have header := ipv4HeaderLength_front f
  have tunnel : tunnelLength f = 14 + ipv4HeaderLength f + 16 := rfl
  rw [Request.tunnelReply, byte_append_left (by rw [length_turnOuter]; omega), turnOuter,
    (Request.sameOn_back4 _ _).byte i (by omega), (sameOn_resizeOuter _ _ _).byte i (by omega),
    byte_take (by omega)]

theorem headerLength_tunnelReply (mac : Mac) (r : Request) :
    ipv4HeaderLength (r.tunnelReply mac f) = ipv4HeaderLength f := by
  rw [ipv4HeaderLength, byte_tunnelReply tunnelled found mac r (by omega), ipv4HeaderLength]

theorem tunnelLength_tunnelReply (mac : Mac) (r : Request) :
    tunnelLength (r.tunnelReply mac f) = tunnelLength f :=
  congrArg (fun n => 14 + n + 16) (headerLength_tunnelReply tunnelled found mac r)

theorem tunnelled_tunnelReply (mac : Mac) (r : Request) :
    Tunnelled port (r.tunnelReply mac f) := by
  have minimum := tunnelled.minimum
  have length := length_tunnelReply_eq found mac r
  have tunnel : tunnelLength f = 14 + ipv4HeaderLength f + 16 := rfl
  have header := headerLength_tunnelReply tunnelled found mac r
  have byte := fun {i} => byte_tunnelReply tunnelled found mac r (i := i)
  have word : ∀ {i}, 12 ≤ i ∧ i < 15 ∨ 18 ≤ i ∧ i < 23 ∨ 34 ≤ i ∧ i < 17 + ipv4HeaderLength f →
      (r.tunnelReply mac f).word i = f.word i := fun kept =>
    word_congr (byte (by omega)) (byte (by omega))
  refine ⟨⟨?_, ?_, ?_, ?_⟩, ⟨?_, ?_⟩, ?_, ?_, ?_⟩
  · rw [word (by omega), tunnelled.etherType]
  · rw [byte (by omega), tunnelled.version]
  · rwa [header]
  · omega
  · rw [word (by omega), tunnelled.last]
  · rw [word (by omega), tunnelled.first]
  · rw [byte (by omega), tunnelled.udp]
  · omega
  · rw [header, word (by omega), tunnelled.destination]

end Tunnel

/-! ## The second time -/

/-- The headers by which a received frame is answered, those inside its tunnel if it has one. -/
def answeredHeaders (port : UInt16) (slot : Slot) : Except ParseError Headers :=
  ((ofSlot slot).decapsulate port).2.parse.1

variable {port : UInt16} {slot : Slot} {h : Headers}

theorem answeredHeaders_of_plain (plain : ¬ Tunnelled port slot.frame)
    (found : h.Found slot.frame) : answeredHeaders port slot = .ok h := by
  rw [answeredHeaders, decapsulate_of_not_tunnelled (c := ofSlot slot) rfl plain,
    parse_of_found (c := ofSlot slot) found]

theorem answeredHeaders_of_tunnelled (tunnelled : Tunnelled port slot.frame)
    (found : h.Found (slot.frame.drop (tunnelLength slot.frame))) :
    answeredHeaders port slot = .ok h := by
  have view := (entered_eq slot h).2.2.2
  rw [answeredHeaders, decapsulate_of_found (c := ofSlot slot) rfl tunnelled
    (by rw [view_inside]; exact found), parse_of_found (by rw [view]; exact found)]

/-- A forwarded frame is dropped when it is received again, by whichever reflector, unless it is a
UDP datagram, which any reflector returns. -/
theorem answers_unanswered (mac other : Mac) {port : UInt16} {slot back : Slot}
    (forwarded : (reflect mac port slot).verdict = .forward)
    (four : answeredHeaders port slot ≠ .ok (.ipv4 .udp))
    (six : answeredHeaders port slot ≠ .ok (.ipv6 .udp))
    (again : back.frame = (reflect mac port slot).cursor.frame) :
    (reflect other port back).verdict = .drop := by
  refine (reflect_of_not_reflectable ?_).1
  rcases reply_of_forward forwarded with ⟨tunnelled, r, made, reply⟩ | ⟨plain, r, made, reply⟩
  · have headers := answeredHeaders_of_tunnelled tunnelled made.found
    have not4 : r ≠ .datagram4 := by rintro rfl; exact four headers
    have not6 : r ≠ .datagram6 := by rintro rfl; exact six headers
    rw [again, reply, Reflectable, if_pos (tunnelled_tunnelReply tunnelled made.found mac r),
      tunnelLength_tunnelReply tunnelled made.found, drop_tunnelReply made.found]
    exact Request.not_requests_reply made not4 not6
  · have headers := answeredHeaders_of_plain plain made.found
    have not4 : r ≠ .datagram4 := by rintro rfl; exact four headers
    have not6 : r ≠ .datagram6 := by rintro rfl; exact six headers
    rw [again, reply, Reflectable, if_neg (Request.not_tunnelled_reply made not4)]
    exact Request.not_requests_reply made not4 not6

theorem advertisement_unanswered :
    let mac := Address.mac 2 0 0 0 0 1
    let other := Address.mac 2 0 0 0 0 2
    let answer := reflect mac 4789 (solicitedSlot 0 8)
    answer.verdict = .forward ∧ answeredHeaders 4789 (solicitedSlot 0 8) = .ok (.ipv6 .icmpv6) ∧
      (reflect other 4789 answer.cursor.slot).verdict = .drop := by
  intro mac other answer
  have forwarded : answer.verdict = .forward := verdict_of_reflectable (by decide +kernel)
  have headers : answeredHeaders 4789 (solicitedSlot 0 8) = .ok (.ipv6 .icmpv6) :=
    answeredHeaders_of_tunnelled (by decide +kernel) (by decide +kernel)
  have four : answeredHeaders 4789 (solicitedSlot 0 8) ≠ .ok (.ipv4 .udp) := by
    rw [headers]
    nofun
  have six : answeredHeaders 4789 (solicitedSlot 0 8) ≠ .ok (.ipv6 .udp) := by
    rw [headers]
    nofun
  have again : answer.cursor.slot.frame = answer.cursor.frame := by rw [Cursor.frame]
  exact ⟨forwarded, headers, answers_unanswered mac other forwarded four six again⟩

end Boomerang
