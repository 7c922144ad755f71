import Boomerang.Proofs.Reflect
import Boomerang.Proofs.Returned

/-!
A tunnel makes no difference to the frame inside it: that frame is answered as if it had been
received alone. The headers in front of it are turned around if it is forwarded, and only then.
-/

set_option autoImplicit false

namespace Boomerang

open Octets Cursor

/-- The headers `before` an inner frame and what they are `after` it was answered. The whole frame
had `received` bytes and has `size` bytes now. -/
structure OuterTurned (received size : Nat) (before after : Octets) : Prop where
  length : after.length = before.length
  etherDst : after.slice 0 6 = before.slice 6 6
  etherSrc : after.slice 6 6 = before.slice 0 6
  src : after.slice 26 4 = before.slice 30 4
  dst : after.slice 30 4 = before.slice 26 4
  headerChecksum : after.word 24 = Checksum.ipv4Header (after.slice 14 (ipv4HeaderLength before))
  udpChecksum : after.word (20 + ipv4HeaderLength before) = 0
  totalLength : ipv4TotalLength after =
    if size ≠ received then size - 14 else ipv4TotalLength before
  udpLength : udpLength after =
    if size ≠ received then size - (14 + ipv4HeaderLength before) else udpLength before
  /-- EtherType, version, type of service; identification, fragments, time to live and protocol;
  options and UDP ports; VXLAN header. -/
  rest : ∀ i, 12 ≤ i ∧ i < 16 ∨ 18 ≤ i ∧ i < 24 ∨ 34 ≤ i ∧ i < 18 + ipv4HeaderLength before ∨
    22 + ipv4HeaderLength before ≤ i → after.byte i = before.byte i

variable {front : Octets} {received size : Nat}

theorem word_putIf {data : Octets} {changed : Prop} [Decidable changed] {start : Nat} (w : UInt16)
    (fits : start + 2 ≤ data.length) :
    (data.putIf changed start (ofWord w)).word start = if changed then w else data.word start := by
  rw [putIf]
  split
  · exact word_put_same w fits
  · rfl

theorem toNat_length_field {n : Nat} {changed : Prop} [Decidable changed]
    (small : changed → n < 65536) (old : UInt16) :
    (if changed then UInt16.ofNat n else old).toNat = if changed then n else old.toNat := by
  split
  case isTrue moved => rw [UInt16.toNat_ofNat', Nat.mod_eq_of_lt (small moved)]
  case isFalse => rfl

theorem udpChecksum_resizeOuter (received size : Nat)
    (width : front.length = tunnelLength front) :
    (resizeOuter received size front).word (20 + ipv4HeaderLength front) = 0 := by
  have place : 14 + ipv4HeaderLength front + 6 = 20 + ipv4HeaderLength front := by omega
  rw [tunnelLength] at width
  rw [resizeOuter, (sameOn_putIf _ _ _ _).word (by rw [length_ofWord]; omega)
    (by rw [length_ofWord]; omega), place]
  exact word_put_same 0 (by rw [length_putIf]; omega)

theorem totalLength_resizeOuter (received : Nat) (header : Ipv4Header front)
    (small : size ≠ received → size < 65536) :
    ipv4TotalLength (resizeOuter received size front) =
      if size ≠ received then size - 14 else ipv4TotalLength front := by
  have long := header.length
  have zeros : ([0, 0] : Octets).length = 2 := rfl
  rw [ipv4TotalLength, resizeOuter, word_putIf _ (by simp; omega),
    (sameOn_put _ _ _).word (by omega) (by omega),
    (sameOn_putIf _ _ _ _).word (by omega) (by omega),
    toNat_length_field (fun moved => Nat.lt_of_le_of_lt (Nat.sub_le _ _) (small moved)),
    ipv4TotalLength]

theorem udpLength_resizeOuter (received : Nat) (width : front.length = tunnelLength front)
    (small : size ≠ received → size < 65536) :
    ((resizeOuter received size front).word (18 + ipv4HeaderLength front)).toNat =
      if size ≠ received then size - (14 + ipv4HeaderLength front) else udpLength front := by
  have place : 14 + ipv4HeaderLength front + 4 = 18 + ipv4HeaderLength front := by omega
  have zeros : ([0, 0] : Octets).length = 2 := rfl
  rw [tunnelLength] at width
  rw [resizeOuter, (sameOn_putIf _ _ _ _).word (by rw [length_ofWord]; omega)
    (by rw [length_ofWord]; omega), (sameOn_put _ _ _).word (by omega) (by omega), place,
    word_putIf _ (by omega),
    toNat_length_field (fun moved => Nat.lt_of_le_of_lt (Nat.sub_le _ _) (small moved)), udpLength]

theorem sameOn_turnOuter (received size : Nat) (front : Octets) :
    SameOn (fun i => 12 ≤ i ∧ i < 16) front (turnOuter received size front) :=
  ((sameOn_resizeOuter received size front).mono fun i _ => by omega).trans
    ((Request.sameOn_back4 front _).mono fun i _ => by omega)

theorem headerLength_turnOuter (received size : Nat) (front : Octets) :
    ipv4HeaderLength (turnOuter received size front) = ipv4HeaderLength front :=
  ipv4HeaderLength_of_sameOn ((sameOn_turnOuter received size front).mono fun i _ => by omega)

theorem outerTurned_turnOuter (received : Nat) (header : Ipv4Header front)
    (width : front.length = tunnelLength front) (small : size ≠ received → size < 65536) :
    OuterTurned received size front (turnOuter received size front) := by
  have minimum := header.minimum
  have resized := sameOn_resizeOuter received size front
  have back := Request.sameOn_back4 front (resizeOuter received size front)
  have returned : Ipv4Returned front (turnOuter received size front) :=
    ipv4Returned_back header (resized.mono fun i _ => by omega)
  constructor
  case length => exact length_turnOuter received size front
  case etherDst => exact returned.ether.atFirst
  case etherSrc => exact returned.ether.atSecond
  case src => exact returned.addresses.atFirst
  case dst => exact returned.addresses.atSecond
  case headerChecksum => exact returned.headerChecksum
  case udpChecksum =>
    rw [turnOuter, back.word (by omega) (by omega)]
    exact udpChecksum_resizeOuter received size width
  case totalLength =>
    rw [ipv4TotalLength, turnOuter, back.word (by omega) (by omega)]
    exact totalLength_resizeOuter received header small
  case udpLength =>
    rw [udpLength, headerLength_turnOuter, turnOuter, back.word (by omega) (by omega)]
    exact udpLength_resizeOuter received width small
  case rest =>
    intro i kept
    exact (back.byte i (by omega)).trans (resized.byte i (by omega))

/-! ## Inside and alone -/

variable {port : UInt16} {s t : Slot} {c : Cursor}

theorem entered_of_decapsulate (left : (ofSlot s).decapsulate port = (.ok true, c)) :
    Tunnelled port s.frame ∧ ∃ h : Headers, h.Found (s.frame.drop (tunnelLength s.frame)) ∧
      c = (ofSlot s).inside.walked h := by
  by_cases tunnelled : Tunnelled port s.frame
  case neg =>
    rw [decapsulate_of_not_tunnelled (c := ofSlot s) rfl tunnelled] at left
    cases left
  case pos =>
    refine ⟨tunnelled, ?_⟩
    by_cases any : ∃ h : Headers, h.Found (s.frame.drop (tunnelLength s.frame))
    case neg =>
      have failed := (decapsulate_of_not_found (c := ofSlot s) rfl tunnelled
        (by rw [view_inside]; exact fun h found => any ⟨h, found⟩)).1
      rw [left] at failed
      cases failed
    case pos =>
      obtain ⟨h, found⟩ := any
      rw [decapsulate_of_found (c := ofSlot s) rfl tunnelled
        (by rw [view_inside]; exact found)] at left
      cases left
      exact ⟨h, found, rfl⟩

/-- How the answer to the frame inside a tunnel, `inner`, compares with the answer `alone` to the
same frame outside of one. `l2` is where the frame starts in the received one. -/
structure Transparent (l2 : Nat) (received : Octets) (inner alone : Verdict × Cursor) : Prop where
  verdict : inner.1 = alone.1
  decided : inner.1 ≠ .fault
  frame : inner.2.frame.drop l2 = alone.2.frame
  dropped : inner.1 = .drop → inner.2.frame.take l2 = received.take l2
  forwarded : inner.1 = .forward →
    OuterTurned received.length inner.2.frame.length (received.take l2) (inner.2.frame.take l2)

theorem small_of_resized (mac : Mac) {f : Octets} {capacity : Nat} {r : Request}
    (made : r.Made (f.drop (tunnelLength f)) capacity)
    (changed : (r.tunnelReply mac f).length ≠ f.length) :
    (r.tunnelReply mac f).length < 65536 := by
  have width := length_front_of_found made.found
  rw [List.length_take] at width
  have most := ipv4HeaderLength_le f
  have tunnel : tunnelLength f = 14 + ipv4HeaderLength f + 16 := rfl
  rw [length_tunnelReply_eq made.found, Request.length_reply made] at changed ⊢
  split at changed
  -- At most 14 + 60 + 16 bytes in front of an advertisement of 86.
  · rw [if_pos ‹_›]
    omega
  · rw [List.length_drop] at changed
    omega

/-- The frame inside a tunnel is answered as it is answered alone, in a buffer with as much room
behind it. -/
theorem tunnel_transparent (mac : Mac)
    (left : (ofSlot s).decapsulate port = (.ok true, c)) (same : t.frame = s.frame.drop c.l2)
    (room : t.tailroom = s.tailroom) :
    Transparent c.l2 s.frame ((Answer.frame mac).run c) ((Answer.frame mac).run (ofSlot t)) := by
  obtain ⟨tunnelled, h, found, rfl⟩ := entered_of_decapsulate left
  have width := length_front_of_found found
  obtain ⟨_, l2, _, _⟩ := entered_eq s h
  rw [l2] at same ⊢
  have capacity : t.capacity = s.capacity - tunnelLength s.frame := by
    have inner := t.length_add_tailroom
    have outer := s.length_add_tailroom
    have length : t.frame.length = s.frame.length - tunnelLength s.frame := by
      rw [same, List.length_drop]
    rw [List.length_take] at width
    rw [Slot.length_frame] at width length
    rw [Slot.length_frame] at length
    omega
  -- Both runs are decided by the same frame and the same room, so they are split together.
  by_cases request : Requests t.frame t.capacity
  case neg =>
    obtain ⟨e, ranAlone, keptAlone⟩ := run_of_not_made mac (c := ofSlot t) request
    rw [same, capacity] at request
    obtain ⟨d, ran, kept⟩ := run_entered_of_not_made mac request h
    have frame : d.frame = s.frame := congrArg Slot.frame kept
    have frameAlone : e.frame = t.frame := congrArg Slot.frame keptAlone
    rw [ran, ranAlone]
    exact ⟨rfl, nofun, by rw [frame, frameAlone, same], fun _ => by rw [frame], nofun⟩
  case pos =>
    obtain ⟨r, made⟩ := request
    obtain ⟨e, ranAlone, replied⟩ := run_of_made mac made
    rw [same, capacity] at made
    obtain ⟨d, ran, back⟩ := run_entered_of_made mac tunnelled made h
    rw [ran, ranAlone]
    refine ⟨rfl, nofun, ?_, nofun, fun _ => ?_⟩
    · rw [back, replied, same, drop_tunnelReply found]
    · have length := tunnelLength_front s.frame
      rw [back, take_tunnelReply found]
      exact outerTurned_turnOuter s.frame.length (ipv4Header_front tunnelled)
        (width.trans length.symm) (small_of_resized mac made)

theorem solicitation_transparent :
    let mac := Address.mac 2 0 0 0 0 1
    let whole := solicitedSlot 0 8
    let alone := Slot.ofFrame (whole.frame.drop 50) 8
    let inside := (ofSlot whole).inside.walked (.ipv6 .icmpv6)
    (ofSlot whole).decapsulate 4789 = (.ok true, inside) ∧ alone.tailroom = whole.tailroom ∧
      Transparent inside.l2 whole.frame ((Answer.frame mac).run inside)
        ((Answer.frame mac).run (ofSlot alone)) := by
  have left : (ofSlot (solicitedSlot 0 8)).decapsulate 4789 =
      (.ok true, (ofSlot (solicitedSlot 0 8)).inside.walked (.ipv6 .icmpv6)) :=
    decapsulate_of_found rfl (by decide +kernel) (by decide +kernel)
  have room : (Slot.ofFrame ((solicitedSlot 0 8).frame.drop 50) 8).tailroom =
      (solicitedSlot 0 8).tailroom := by decide +kernel
  exact ⟨left, room, tunnel_transparent _ left (by decide +kernel) room⟩

end Boomerang
