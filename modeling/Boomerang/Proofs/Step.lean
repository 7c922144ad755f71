import Boomerang.Answer.Echo
import Boomerang.Proofs.Edit
import Boomerang.Proofs.View

/-!
Running the steps of an answer. A step that stays inside its header finishes, and leaves the cursor
with an edited frame: `withFrame` replaces all of the frame and `withView` the part from the
cursor's Ethernet header on, so that a run of steps is a run of edits.
-/

set_option autoImplicit false

namespace Boomerang

namespace Slot

/-- The slot with another frame, in front of the same tailroom. -/
def withFrame (s : Slot) (f : Octets) : Slot := ⟨f ++ s.area.drop s.length, f.length, by simp⟩

variable (s : Slot) (f : Octets)

@[simp] theorem frame_withFrame : (s.withFrame f).frame = f := by
  simp [Slot.frame, withFrame]

@[simp] theorem withFrame_withFrame (f' : Octets) :
    (s.withFrame f).withFrame f' = s.withFrame f' := by
  simp [withFrame]

@[simp] theorem withFrame_frame : s.withFrame s.frame = s := by
  obtain ⟨area, length, length_le⟩ := s
  simp only [withFrame, Slot.frame, List.take_append_drop, List.length_take,
    Nat.min_eq_left length_le]

theorem overwrite?_eq {s : Slot} {start : Nat} {value : Octets}
    (fits : start + value.length ≤ s.length) :
    s.overwrite? start value = some (s.withFrame (s.frame.put start value)) := by
  have inside : start + value.length ≤ s.frame.length := by rwa [length_frame]
  have bound : start + value.length ≤ s.area.length := Nat.le_trans fits s.length_le
  have same : s.area.overwrite start value = s.frame.put start value ++ s.area.drop s.length := by
    rw [← Octets.put_append_left inside, Slot.frame, List.take_append_drop,
      Octets.put_eq_overwrite bound]
  simp only [overwrite?, dif_pos fits, withFrame, ← same, Octets.length_put, length_frame]

end Slot

namespace Cursor

def withFrame (c : Cursor) (f : Octets) : Cursor := { c with slot := c.slot.withFrame f }

/-- The cursor with another frame from its Ethernet header on. -/
def withView (c : Cursor) (g : Octets) : Cursor := c.withFrame (c.frame.take c.l2 ++ g)

variable (c : Cursor) (f g : Octets)

@[simp] theorem frame_withFrame : (c.withFrame f).frame = f := c.slot.frame_withFrame f

@[simp] theorem size_withFrame : (c.withFrame f).size = f.length := rfl

@[simp] theorem withFrame_withFrame (f' : Octets) :
    (c.withFrame f).withFrame f' = c.withFrame f' := by
  simp [withFrame]

@[simp] theorem withFrame_frame : c.withFrame c.frame = c := by
  simp [withFrame, Cursor.frame]

theorem frame_withView : (c.withView g).frame = c.frame.take c.l2 ++ g := c.frame_withFrame _

@[simp] theorem withView_view : c.withView c.view = c := by
  rw [withView, view, List.take_append_drop, withFrame_frame]

variable {c}

theorem length_front (room : c.l2 ≤ c.size) : (c.frame.take c.l2).length = c.l2 := by
  rw [List.length_take, length_frame, Nat.min_eq_left room]

theorem view_withView (room : c.l2 ≤ c.size) : (c.withView g).view = g := by
  have front := length_front room
  rw [view, frame_withView]
  exact List.drop_left' front

theorem withView_withView (room : c.l2 ≤ c.size) (g' : Octets) :
    (c.withView g).withView g' = c.withView g' := by
  have front : (c.withView g).frame.take c.l2 = c.frame.take c.l2 := by
    rw [frame_withView]
    exact List.take_left' (length_front room)
  have l2 : (c.withView g).l2 = c.l2 := rfl
  rw [withView, l2, front, withView, withFrame_withFrame, withView]

end Cursor

namespace Answer

variable {α β : Type} {c d : Cursor} {s : Span} {position count : Nat}

theorem bind_done {step : Answer α} {next : α → Answer β} {value : α}
    (done : step c = .done value d) : (step >>= next) c = next value d := by
  rw [bind_apply, done]

theorem bind_dropped {step : Answer α} {next : α → Answer β} (dropped : step c = .dropped d) :
    (step >>= next) c = .dropped d := by
  rw [bind_apply, dropped]

theorem find_done {view : Cursor → Option α} {value : α} (found : view c = some value) :
    find view c = .done value c := by
  rw [find, found]

theorem require_done {condition : Bool} (holds : condition = true) :
    require condition c = .done () c := by
  rw [require, if_pos holds]

theorem require_dropped {condition : Bool} (fails : ¬ condition = true) :
    require condition c = .dropped c := by
  rw [require, if_neg fails]

/-! ### On the whole frame -/

theorem read_done (fits : position + count ≤ s.length) (within : s.Within c.size) :
    read s position count c = .done (c.frame.slice (s.start + position) count) c := by
  obtain ⟨ordered, inside⟩ := within
  have room : s.start + position + count ≤ c.frame.length := by
    rw [Cursor.length_frame]
    simp only [Span.length] at fits
    omega
  rw [read, if_pos fits, Octets.slice?, if_pos room]

theorem write_done {value : Octets} (fits : position + value.length ≤ s.length)
    (within : s.Within c.size) :
    write s position value c =
      .done () (c.withFrame (c.frame.put (s.start + position) value)) := by
  obtain ⟨ordered, inside⟩ := within
  have room : s.start + position + value.length ≤ c.slot.length := by
    have size : c.size = c.slot.length := rfl
    simp only [Span.length] at fits
    omega
  rw [write, if_pos fits, Slot.overwrite?_eq room]
  rfl

theorem swap_done {first second : Nat} (fitsFirst : first + count ≤ s.length)
    (fits : second + count ≤ s.length) (within : s.Within c.size) :
    swap s first second count c =
      .done () (c.withFrame (c.frame.exchange (s.start + first) (s.start + second) count)) := by
  have one := Octets.length_slice_eq c.frame (s.start + first) count
  have two := Octets.length_slice_eq c.frame (s.start + second) count
  have still : s.Within (c.withFrame (c.frame.put (s.start + first)
      (c.frame.slice (s.start + second) count))).size := by
    rwa [Cursor.size_withFrame, Octets.length_put, Cursor.length_frame]
  -- Both fields are read before the first of them is written.
  rw [swap, bind_done (read_done fitsFirst within), bind_done (read_done fits within),
    bind_done (write_done (by omega) within), write_done (by omega) still,
    Cursor.frame_withFrame, Cursor.withFrame_withFrame, Octets.exchange]

theorem swapIpv4Addresses_done (long : 20 ≤ s.length) (within : s.Within c.size) :
    swapIpv4Addresses s c = .done () (c.withFrame (c.frame.turnIpv4 s)) := by
  have still : s.Within (c.withFrame (c.frame.exchange (s.start + 12) (s.start + 16) 4)).size := by
    rwa [Cursor.size_withFrame, Octets.length_exchange, Cursor.length_frame]
  rw [swapIpv4Addresses, bind_done (swap_done (by omega) (by omega) within), readAll,
    bind_done (read_done (by omega) still), write_done (by rw [Octets.length_ofWord]; omega) still,
    Cursor.frame_withFrame, Cursor.withFrame_withFrame]
  rfl

/-! ### On the view -/

section View

variable {g : Octets} (room : c.l2 ≤ c.size)
include room

theorem within_withView (within : s.Within g.length) :
    (s.shift c.l2).Within (c.withView g).size := by
  obtain ⟨ordered, inside⟩ := within
  have front := Cursor.length_front room
  refine ⟨Nat.add_le_add_left ordered _, ?_⟩
  rw [← Cursor.length_frame, Cursor.frame_withView, List.length_append, front]
  exact Nat.add_le_add_left inside _

theorem read_view (fits : position + count ≤ s.length) (within : s.Within g.length) :
    read (s.shift c.l2) position count (c.withView g) =
      .done (g.slice (s.start + position) count) (c.withView g) := by
  rw [read_done (by rwa [Span.length_shift]) (within_withView room within), Cursor.frame_withView]
  simp only [Span.shift, Nat.add_assoc, Octets.slice_append_right (Cursor.length_front room)]

theorem readAll_view (within : s.Within g.length) :
    readAll (s.shift c.l2) (c.withView g) =
      .done (g.slice s.start s.length) (c.withView g) := by
  rw [readAll, Span.length_shift,
    read_view room (Nat.le_of_eq (Nat.zero_add _)) within, Nat.add_zero]

theorem write_view (value : Octets) (fits : position + value.length ≤ s.length)
    (within : s.Within g.length) :
    write (s.shift c.l2) position value (c.withView g) =
      .done () (c.withView (g.put (s.start + position) value)) := by
  rw [write_done (by rwa [Span.length_shift]) (within_withView room within), Cursor.frame_withView]
  simp only [Span.shift, Nat.add_assoc, Octets.put_append_right (Cursor.length_front room)]
  rw [Cursor.withView, Cursor.withFrame_withFrame, Cursor.withView]

theorem swap_view {first second : Nat} (fitsFirst : first + count ≤ s.length)
    (fits : second + count ≤ s.length) (within : s.Within g.length) :
    swap (s.shift c.l2) first second count (c.withView g) =
      .done () (c.withView (g.exchange (s.start + first) (s.start + second) count)) := by
  rw [swap_done (by rwa [Span.length_shift]) (by rwa [Span.length_shift])
    (within_withView room within), Cursor.frame_withView]
  simp only [Span.shift, Nat.add_assoc, Octets.exchange_append_right (Cursor.length_front room)]
  rw [Cursor.withView, Cursor.withFrame_withFrame, Cursor.withView]

theorem swapIpv4Addresses_view (long : 20 ≤ s.length) (within : s.Within g.length) :
    swapIpv4Addresses (s.shift c.l2) (c.withView g) =
      .done () (c.withView (g.turnIpv4 s)) := by
  rw [swapIpv4Addresses_done (by rwa [Span.length_shift]) (within_withView room within),
    Cursor.frame_withView, Octets.turnIpv4_append (Cursor.length_front room), Cursor.withView,
    Cursor.withFrame_withFrame, Cursor.withView]

theorem swapIpv6Addresses_view (long : 40 ≤ s.length) (within : s.Within g.length) :
    swapIpv6Addresses (s.shift c.l2) (c.withView g) =
      .done () (c.withView (g.turnIpv6 s)) :=
  swap_view room (by omega) (by omega) within

theorem swapEtherAddresses_view (long : 14 ≤ g.length) :
    swapEtherAddresses (c.withView g) = .done () (c.withView g.turnEther) := by
  have view := Cursor.view_withView g room
  have found : (c.withView g).ether = some (etherSpan.shift c.l2) :=
    Cursor.ether_eq (by rwa [view])
  rw [swapEtherAddresses, bind_done (find_done found),
    swap_view room (by decide) (by decide) ⟨by decide, long⟩]
  rfl

theorem fillIcmpv6Checksum_view (src dst : Octets) (long : 4 ≤ s.length)
    (within : s.Within g.length) :
    fillIcmpv6Checksum (s.shift c.l2) src dst (c.withView g) =
      .done () (c.withView (Octets.fillIcmpv6 src dst s g)) := by
  rw [fillIcmpv6Checksum, bind_done (readAll_view room within),
    write_view room _ (by rw [Octets.length_ofWord]; omega) within]
  rfl

end View

end Answer

end Boomerang
