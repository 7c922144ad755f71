import Boomerang.Proofs.Frame

/-!
The way back through a tunnel. All edits lie in front of the inner frame, in the Ethernet, IPv4 and
UDP headers around it, so they are edits of the front part alone; none of them can fail.
-/

set_option autoImplicit false

namespace Boomerang

namespace Octets

variable {front : Octets}

def putIf (data : Octets) (changed : Prop) [Decidable changed] (start : Nat) (value : Octets) :
    Octets :=
  if changed then data.put start value else data

theorem sameOn_putIf (data : Octets) (changed : Prop) [Decidable changed] (start : Nat)
    (value : Octets) :
    SameOn (fun i => i < start ∨ start + value.length ≤ i) data
      (data.putIf changed start value) := by
  rw [putIf]
  split
  · exact sameOn_put data start value
  · exact .refl _ _

@[simp] theorem length_putIf (data : Octets) (changed : Prop) [Decidable changed] (start : Nat)
    (value : Octets) : (data.putIf changed start value).length = data.length :=
  (sameOn_putIf data changed start value).length

/-- Lengths that follow the length `size` of the whole frame, if it is not the received one, and no
UDP checksum. -/
def resizeOuter (received size : Nat) (front : Octets) : Octets :=
  let l4 := 14 + ipv4HeaderLength front
  let measured := front.putIf (size ≠ received) (l4 + 4) (ofWord (UInt16.ofNat (size - l4)))
  (measured.put (l4 + 6) [0, 0]).putIf (size ≠ received) 16 (ofWord (UInt16.ofNat (size - 14)))

def turnOuter (received size : Nat) (front : Octets) : Octets :=
  ((resizeOuter received size front).turnIpv4 (ipv4Span front)).turnEther

theorem sameOn_resizeOuter (received size : Nat) (front : Octets) :
    SameOn (fun i => i < 16 ∨ 18 ≤ i ∧ i < 18 + ipv4HeaderLength front ∨
        22 + ipv4HeaderLength front ≤ i) front (resizeOuter received size front) := by
  have zeros : ([0, 0] : Octets).length = 2 := rfl
  refine .trans (.put ((sameOn_putIf front _ _ _).mono fun i kept => ?_) fun i kept => ?_)
    ((sameOn_putIf _ _ _ _).mono fun i kept => ?_)
  · rw [length_ofWord]
    omega
  · omega
  · rw [length_ofWord]
    omega

@[simp] theorem length_resizeOuter (received size : Nat) (front : Octets) :
    (resizeOuter received size front).length = front.length :=
  (sameOn_resizeOuter received size front).length

@[simp] theorem length_turnOuter (received size : Nat) (front : Octets) :
    (turnOuter received size front).length = front.length := by
  rw [turnOuter, length_turnEther, length_turnIpv4, length_resizeOuter]

theorem turnIpv4_append_left {s : Span} (long : 20 ≤ s.length) (within : s.Within front.length)
    (g : Octets) : turnIpv4 s (front ++ g) = turnIpv4 s front ++ g := by
  obtain ⟨ordered, inside⟩ := within
  simp only [Span.length] at long
  have turned : (front.exchange (s.start + 12) (s.start + 16) 4).length = front.length :=
    length_exchange front _ _ _
  rw [turnIpv4, exchange_append_left (by omega) (by omega), slice_append_left
    (by rw [turned, Span.length]; omega), put_append_left (by rw [turned, length_ofWord]; omega),
    turnIpv4]

end Octets

namespace Answer

open Octets Cursor

variable {c : Cursor} {front g : Octets} {s : Span} {position count : Nat}

/-! ### On the front of the frame -/

theorem within_append (within : s.Within front.length) :
    s.Within (c.withFrame (front ++ g)).size := by
  refine ⟨within.ordered, Nat.le_trans within.inside ?_⟩
  rw [size_withFrame, List.length_append]
  exact Nat.le_add_right _ _

theorem write_front (value : Octets) (fits : position + value.length ≤ s.length)
    (within : s.Within front.length) :
    write s position value (c.withFrame (front ++ g)) =
      .done () (c.withFrame (front.put (s.start + position) value ++ g)) := by
  have ordered := within.ordered
  have inside := within.inside
  have room : s.start + position + value.length ≤ front.length := by
    simp only [Span.length] at fits
    omega
  rw [write_done fits (within_append within), frame_withFrame, put_append_left room,
    withFrame_withFrame]

theorem write_front_if (changed : Prop) [Decidable changed] (next : Unit → Answer Unit)
    (value : Octets) (fits : position + value.length ≤ s.length)
    (within : s.Within front.length) :
    (if changed then write s position value >>= next else next ()) (c.withFrame (front ++ g)) =
      next () (c.withFrame (front.putIf changed (s.start + position) value ++ g)) := by
  by_cases moved : changed
  · rw [if_pos moved, putIf, if_pos moved, bind_done (write_front value fits within)]
  · rw [if_neg moved, putIf, if_neg moved]

theorem swapIpv4Addresses_front (long : 20 ≤ s.length) (within : s.Within front.length) :
    swapIpv4Addresses s (c.withFrame (front ++ g)) =
      .done () (c.withFrame (front.turnIpv4 s ++ g)) := by
  rw [swapIpv4Addresses_done long (within_append within), frame_withFrame,
    turnIpv4_append_left long within, withFrame_withFrame]

theorem swapEther_front (long : 14 ≤ front.length) :
    swap etherSpan 0 6 6 (c.withFrame (front ++ g)) =
      .done () (c.withFrame (front.turnEther ++ g)) := by
  have within : etherSpan.Within front.length := ⟨by decide, long⟩
  rw [swap_done (by decide) (by decide) (within_append within), frame_withFrame,
    withFrame_withFrame]
  exact congrArg (fun f => Outcome.done () (c.withFrame f))
    (exchange_append_left (by decide) (show 6 + 6 ≤ front.length by omega))

/-! ## The outer headers -/

def outerAt (front : Octets) : Outer :=
  ⟨0, 14, 14 + ipv4HeaderLength front, 14 + ipv4HeaderLength front + 8⟩

def udpSpan (front : Octets) : Span :=
  ⟨14 + ipv4HeaderLength front, 14 + ipv4HeaderLength front + 8⟩

theorem length_udpSpan (front : Octets) : (udpSpan front).length = 8 := Nat.add_sub_cancel_left _ _

theorem outerIpv4_withFrame {x : Octets} (outer : c.outer = some (outerAt front))
    (header : Ipv4Header front) (length : x.length = front.length)
    (first : x.byte 14 = front.byte 14) :
    (c.withFrame (x ++ g)).outerIpv4 = some (ipv4Span front) := by
  have long := header.length
  have inside := header.inside
  have total : (x ++ g).length = x.length + g.length := List.length_append
  have placed : (c.withFrame (x ++ g)).outer = some (outerAt front) := outer
  have byte : (x ++ g).byte 14 = front.byte 14 := by rw [byte_append_left (by omega), first]
  rw [Cursor.outerIpv4, placed, Option.bind_some, frame_withFrame]
  simp only [outerAt, ipv4HeaderAt, byte]
  refine if_pos ⟨by omega, header.version, header.minimum, ?_⟩
  exact Nat.le_trans inside (by omega)

theorem within_udpSpan (width : front.length = tunnelLength front) :
    (udpSpan front).Within front.length := by
  refine ⟨Nat.le_add_right _ _, ?_⟩
  rw [width, tunnelLength]
  exact Nat.add_le_add_left (by decide) _

theorem outerUdp_eq (outer : c.outer = some (outerAt front)) :
    c.outerUdp = some (udpSpan front) := by
  rw [outerUdp, outer]
  rfl

theorem outerEther_withFrame (outer : c.outer = some (outerAt front)) (f : Octets) :
    (c.withFrame f).outerEther = some etherSpan := by
  have placed : (c.withFrame f).outer = some (outerAt front) := outer
  rw [outerEther, placed]
  rfl

/-- No write to the UDP header touches the byte that gives the length of the IPv4 header. -/
theorem byte_measured (changed : Prop) [Decidable changed] (value : Octets) :
    ((front.putIf changed ((udpSpan front).start + 4) value).put ((udpSpan front).start + 6)
      [0, 0]).byte 14 = front.byte 14 := by
  have start : (udpSpan front).start = 14 + ipv4HeaderLength front := rfl
  rw [(sameOn_put _ _ _).byte 14 (Or.inl (by omega)),
    (sameOn_putIf _ _ _ _).byte 14 (Or.inl (by omega))]

theorem tunnel_done (received : Nat) (outer : c.outer = some (outerAt front))
    (header : Ipv4Header front) (width : front.length = tunnelLength front)
    (frame : c.frame = front ++ g) :
    tunnel received c = .done () (c.withFrame (turnOuter received c.size front ++ g)) := by
  have room := header.length
  have whole : c.withFrame (front ++ g) = c := by rw [← frame, withFrame_frame]
  have size : find (fun d : Cursor => some d.size) c = .done c.size c := rfl
  have long := long_ipv4Span header
  have ipWithin : ∀ x : Octets, x.length = front.length → (ipv4Span front).Within x.length := by
    intro x same
    rw [same]
    exact within_ipv4Span header
  have udpLong := length_udpSpan front
  have udpWithin : ∀ x : Octets, x.length = front.length → (udpSpan front).Within x.length := by
    intro x same
    rw [same]
    exact within_udpSpan width
  unfold tunnel
  rw [bind_done size, bind_done (find_done outer), bind_done (find_done (outerUdp_eq outer))]
  -- The size of the frame is read once, before the edits; from here on it is just a number.
  generalize c.size = n
  rw [← whole]
  refine (write_front_if _ _ _ (by rw [udpLong, length_ofWord]; decide) (udpWithin _ rfl)).trans ?_
  dsimp only
  rw [bind_done (write_front _ (by rw [udpLong]; decide) (udpWithin _ (by simp))),
    bind_done (find_done (outerIpv4_withFrame outer header (by simp) (byte_measured _ _)))]
  refine (write_front_if _ _ _ (by rw [length_ofWord]; omega) (ipWithin _ (by simp))).trans ?_
  rw [bind_done (swapIpv4Addresses_front long (ipWithin _ (by simp))),
    bind_done (find_done (outerEther_withFrame outer _)), swapEther_front (by simp; omega), whole]
  rfl

end Answer

end Boomerang
