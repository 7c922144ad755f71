import Boomerang.Octets

/-!
The bytes that one packet buffer can use. The frame stands at the front of the area; what follows
it is tailroom, whose bytes keep their values until the frame grows over them.
-/

set_option autoImplicit false

namespace Boomerang

structure Slot where
  area : Octets
  length : Nat
  length_le : length ≤ area.length
  deriving DecidableEq, Repr

namespace Slot

def frame (s : Slot) : Octets := s.area.take s.length

def capacity (s : Slot) : Nat := s.area.length

def tailroom (s : Slot) : Nat := s.capacity - s.length

def ofArea (area : Octets) : Slot := ⟨area, 0, Nat.zero_le _⟩

def ofFrame (frame : Octets) (room : Nat) : Slot :=
  ⟨frame ++ Octets.zeros room, frame.length, by simp⟩

/-- The frame takes in `n` bytes of tailroom with whatever they hold. -/
def append? (s : Slot) (n : Nat) : Option Slot :=
  if h : n ≤ s.tailroom then
    some ⟨s.area, s.length + n, by have := s.length_le; unfold tailroom capacity at h; omega⟩
  else none

def trim? (s : Slot) (n : Nat) : Option Slot :=
  if n ≤ s.length then
    some ⟨s.area, s.length - n, by have := s.length_le; omega⟩
  else none

def setLength? (s : Slot) (n : Nat) : Option Slot :=
  if h : n ≤ s.capacity then some ⟨s.area, n, h⟩ else none

def overwrite? (s : Slot) (start : Nat) (value : Octets) : Option Slot :=
  if h : start + value.length ≤ s.length then
    some ⟨Octets.overwrite s.area start value, s.length, by
      have := s.length_le
      rw [Octets.length_overwrite (by omega)]; exact this⟩
  else none

/-- Overwrites bytes anywhere in the area; the frame's length stays. -/
def fill? (s : Slot) (start : Nat) (value : Octets) : Option Slot :=
  if h : start + value.length ≤ s.capacity then
    some ⟨Octets.overwrite s.area start value, s.length, by
      rw [Octets.length_overwrite h]; exact s.length_le⟩
  else none

def hold? (s : Slot) (frame : Octets) : Option Slot :=
  if h : frame.length ≤ s.capacity then
    some ⟨Octets.overwrite s.area 0 frame, frame.length, by
      rw [Octets.length_overwrite (by rw [Nat.zero_add]; exact h)]; exact h⟩
  else none

@[simp] theorem length_frame (s : Slot) : s.frame.length = s.length := by
  have := s.length_le
  simp only [frame, List.length_take]; omega

theorem length_add_tailroom (s : Slot) : s.length + s.tailroom = s.capacity := by
  have := s.length_le
  simp only [tailroom, capacity]; omega

theorem hold?_isSome_iff (s : Slot) (frame : Octets) :
    (s.hold? frame).isSome ↔ frame.length ≤ s.capacity := by
  unfold hold?; split <;> simp_all

theorem frame_of_hold? {s t : Slot} {frame : Octets} (h : s.hold? frame = some t) :
    t.frame = frame := by
  unfold hold? at h
  split at h
  · cases h; simp [Slot.frame, Octets.overwrite]
  · simp at h

end Slot

end Boomerang
