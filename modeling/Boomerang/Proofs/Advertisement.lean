import Boomerang.Proofs.Padding
import Boomerang.Proofs.Silence

/-!
The advertisement that answers a solicitation, byte by byte. Its length and its content depend on
the fields of the solicitation alone, on none of its options and on nothing behind it.
-/

set_option autoImplicit false

namespace Boomerang

open Octets Cursor

/-- How the advertisement `after` of the hardware address `mac` follows from its solicitation. -/
structure Advertises (mac : Mac) (before after : Octets) : Prop where
  length : after.length = 86
  etherSrc : after.slice 6 6 = mac.octets
  /-- EtherType, version, traffic class and flow label; next header. -/
  kept : ∀ i, 12 ≤ i ∧ i < 18 ∨ i = 20 → after.byte i = before.byte i
  payloadLength : ipv6PayloadLength after = 32
  hopLimit : after.byte 21 = 255
  src : after.slice 22 16 = before.slice 62 16
  type : after.byte 54 = 136
  code : after.byte 55 = 0
  checksum : after.word 56 =
    Checksum.icmpv6 (after.slice 22 16) (after.slice 38 16) (after.slice 54 32)
  reserved : after.slice 59 3 = [0, 0, 0]
  target : after.slice 62 16 = before.slice 62 16
  option : after.slice 78 8 = 2 :: 1 :: mac.octets
  /-- Solicited and override, to the solicitor. -/
  solicited : before.slice 22 16 ≠ zeros 16 →
    after.slice 0 6 = before.slice 6 6 ∧ after.slice 38 16 = before.slice 22 16 ∧
      after.byte 58 = 0x60
  /-- Override alone, to all nodes. -/
  probed : before.slice 22 16 = zeros 16 →
    after.slice 0 6 = [0x33, 0x33, 0, 0, 0, 1] ∧
      after.slice 38 16 = [0xff, 2, 0, 0, 0, 0, 0, 0, 0, 0, 0, 0, 0, 0, 0, 1] ∧
      after.byte 58 = 0x20

namespace Request

variable {g : Octets} {mac : Mac}

theorem solicitor_of_solicited (known : g.slice 22 16 ≠ zeros 16) :
    solicitor g = (g.slice 22 16, g.slice 6 6, 0x60) := by
  rw [solicitor, Answer.advertisementFor, if_neg known]

theorem solicitor_of_probed (unspecified : g.slice 22 16 = zeros 16) :
    solicitor g = (Answer.allNodes, Answer.allNodesMac, 0x20) := by
  rw [solicitor, Answer.advertisementFor, if_pos unspecified]

section

variable (mac) (long : 78 ≤ g.length)
include long

theorem sameOn_optioned : SameOn (fun i => 62 ≤ i) (optioned mac g) (advertisement mac g) :=
  ((sameOn_addressed long _).mono fun i _ => by omega).trans
    ((sameOn_advertisement mac long).mono fun i _ => by omega)

theorem target_advertisement : (advertisement mac g).slice 62 16 = g.slice 62 16 := by
  have first : (g.slice 0 78).length = 78 := length_slice (by omega)
  rw [(sameOn_optioned mac long).slice fun i _ _ => by omega, optioned,
    slice_append_left (by omega), slice_slice (by decide)]

theorem option_advertisement : (advertisement mac g).slice 78 8 = linkOption mac := by
  have first : (g.slice 0 78).length = 78 := length_slice (by omega)
  rw [(sameOn_optioned mac long).slice fun i _ _ => by omega, optioned,
    slice_append_right first (linkOption mac) 0 8]
  exact List.take_of_length_le (Nat.le_of_eq (length_linkOption mac))

theorem byte_advertisement {i : Nat} (fixed : 12 ≤ i ∧ i < 18 ∨ i = 20) :
    (advertisement mac g).byte i = g.byte i := by
  rw [(sameOn_advertisement mac long).byte i (by omega),
    (sameOn_addressed long _).byte i (by omega), optioned, byte_front long _ (by omega)]

theorem hopLimit_advertisement : (advertisement mac g).byte 21 = 255 := by
  have width := length_optioned mac long
  rw [(sameOn_advertisement mac long).byte 21 (by omega), addressed,
    byte_put_one 255 (by simp only [length_put, width]; decide)]

theorem src_advertisement : (advertisement mac g).slice 22 16 = g.slice 62 16 := by
  rw [(sameOn_advertisement mac long).slice fun i _ _ => by omega,
    src_addressed long (length_optioned mac long)]

theorem dst_advertisement : (advertisement mac g).slice 38 16 = (solicitor g).1 := by
  rw [(sameOn_advertisement mac long).slice fun i _ _ => by omega,
    dst_addressed long (length_optioned mac long)]

/-- The checksum counts the message with the header it stands behind. -/
theorem checksum_advertisement :
    (advertisement mac g).word 56 =
      Checksum.icmpv6 ((advertisement mac g).slice 22 16) ((advertisement mac g).slice 38 16)
        ((advertisement mac g).slice 54 32) := by
  have width : (described g (optioned mac g)).length = 86 := by
    rw [length_described, length_optioned mac long]
  have start : (⟨54, 86⟩ : Span).start = 54 := rfl
  have span : (⟨54, 86⟩ : Span).length = 32 := rfl
  have stored := word_fillIcmpv6 (g.slice 62 16) (solicitor g).1 (s := ⟨54, 86⟩)
    (g := described g (optioned mac g)) (by decide) (by rw [width]; decide)
  have filled : SameOn (fun i => 12 ≤ i)
      (fillIcmpv6 (g.slice 62 16) (solicitor g).1 ⟨54, 86⟩ (described g (optioned mac g)))
      (advertisement mac g) := by
    rw [advertisement_eq long]
    exact sameOn_readdressed (by omega) _
  rw [src_advertisement mac long, dst_advertisement mac long, filled.word (by omega) (by omega),
    filled.slice fun i _ _ => by omega]
  exact stored

theorem ether_advertisement :
    (advertisement mac g).slice 0 6 = (solicitor g).2.1 ∧
      (advertisement mac g).slice 6 6 = mac.octets := by
  have hardware := mac.size_eq
  have dst := length_solicitorMac (g := g) (by omega)
  have width := length_optioned mac long
  constructor <;>
    simp (disch := first | omega | (simp [width, dst, hardware])) only
      [advertisement_eq long, slice_put_apart, slice_put_same]

theorem advertises_advertisement : Advertises mac g (advertisement mac g) := by
  have width := length_optioned mac long
  have announced := sameOn_announced mac long
  obtain ⟨etherDst, etherSrc⟩ := ether_advertisement mac long
  have dst := dst_advertisement mac long
  have flags : (advertisement mac g).byte 58 = (solicitor g).2.2 :=
    (announced.byte 58 (by decide)).trans (flags_described width)
  refine {
    length := ?length
    etherSrc := etherSrc
    kept := fun i => byte_advertisement mac long
    payloadLength := ?payloadLength
    hopLimit := hopLimit_advertisement mac long
    src := src_advertisement mac long
    type := type_advertisement mac long
    code := (announced.byte 55 (by decide)).trans (code_described width)
    checksum := checksum_advertisement mac long
    reserved := (announced.slice fun i _ _ => by omega).trans (reserved_described width)
    target := target_advertisement mac long
    option := option_advertisement mac long
    solicited := ?solicited
    probed := ?probed }
  case length =>
    rw [announced.length, length_described, width]
  case payloadLength =>
    rw [(headKept_advertisement mac long).payloadLength, payloadLength_addressed long width]
  case solicited =>
    intro known
    rw [etherDst, dst, flags, solicitor_of_solicited known]
    exact ⟨rfl, rfl, rfl⟩
  case probed =>
    intro unspecified
    rw [etherDst, dst, flags, solicitor_of_probed unspecified]
    exact ⟨rfl, rfl, rfl⟩

end

end Request

/-- A solicitation that is forwarded is the advertisement of its target by then, however long it was
and whatever stood behind it. -/
theorem advertisement_content (mac : Mac) {slot : Slot}
    (advertised : Advertised slot.frame ((Answer.frame mac).run (ofSlot slot))) :
    Advertises mac slot.frame ((Answer.frame mac).run (ofSlot slot)).2.frame := by
  obtain ⟨r, made, replied⟩ := reply_of_run_forward advertised.1
  rcases ran : (Answer.frame mac).run (ofSlot slot) with ⟨verdict, c⟩
  rw [ran] at advertised replied
  obtain rfl : verdict = .forward := advertised.1
  obtain rfl : r = .solicitation := (advertised_iff made).1 advertised
  have frame : c.frame = Request.advertisement mac slot.frame := replied
  rw [frame]
  exact Request.advertises_advertisement mac (Request.length_of_solicitation made)

def neighborSlot : Slot :=
  Slot.ofFrame ([0x33, 0x33, 0xff, 0, 0, 1, 2, 0, 0, 0, 0, 9, 0x86, 0xdd] ++
    [0x60, 0, 0, 0, 0, 24, 58, 255] ++ 0xfe :: 0x80 :: zeros 13 ++ [9] ++
    0xff :: 2 :: zeros 9 ++ [1, 0xff, 0, 0, 1] ++ [135, 0, 0xab, 0xcd, 0, 0, 0, 0] ++
    0xfe :: 0x80 :: zeros 13 ++ [1] ++ zeros 3) 8

theorem neighbor_advertised :
    let mac := Address.mac 2 0 0 0 0 1
    let answer := (Answer.frame mac).run (ofSlot neighborSlot)
    Advertised neighborSlot.frame answer ∧ Advertises mac neighborSlot.frame answer.2.frame := by
  intro mac answer
  have made : Request.solicitation.Made neighborSlot.frame neighborSlot.capacity := by
    decide +kernel
  obtain ⟨_, ran, _⟩ := run_of_made mac made
  have advertised : Advertised neighborSlot.frame answer :=
    ⟨congrArg Prod.fst ran, made.found, made.asked.1.type⟩
  exact ⟨advertised, advertisement_content mac advertised⟩

end Boomerang
