/-!
Strings of octets, read and overwritten at byte positions. Words are big-endian. Reading a word
past the end gives zeros, so every reader states its own bounds first; `slice?` and `overwrite?`
check theirs.
-/

set_option autoImplicit false

namespace Boomerang

abbrev Octets := List UInt8

structure Span where
  start : Nat
  stop : Nat
  deriving DecidableEq, Repr

def Span.length (s : Span) : Nat := s.stop - s.start

namespace Octets

def byte (data : Octets) (i : Nat) : UInt8 := data.getD i 0

def word (data : Octets) (i : Nat) : UInt16 :=
  UInt16.ofNat (256 * (byte data i).toNat + (byte data (i + 1)).toNat)

def ofWord (w : UInt16) : Octets := [UInt8.ofNat (w.toNat / 256), UInt8.ofNat w.toNat]

def ofNat32 (n : Nat) : Octets :=
  [UInt8.ofNat (n / 16777216), UInt8.ofNat (n / 65536), UInt8.ofNat (n / 256), UInt8.ofNat n]

def slice (data : Octets) (start count : Nat) : Octets := (data.drop start).take count

def slice? (data : Octets) (start count : Nat) : Option Octets :=
  if start + count ≤ data.length then some (slice data start count) else none

def overwrite (data : Octets) (start : Nat) (value : Octets) : Octets :=
  data.take start ++ value ++ data.drop (start + value.length)

/-- Overwriting keeps the length; it is refused where the value would stick out. -/
def overwrite? (data : Octets) (start : Nat) (value : Octets) : Option Octets :=
  if start + value.length ≤ data.length then some (overwrite data start value) else none

def zeros (n : Nat) : Octets := List.replicate n 0

@[simp] theorem length_ofWord (w : UInt16) : (ofWord w).length = 2 := rfl

@[simp] theorem length_ofNat32 (n : Nat) : (ofNat32 n).length = 4 := rfl

@[simp] theorem length_zeros (n : Nat) : (zeros n).length = n := by simp [zeros]

theorem length_slice {data : Octets} {start count : Nat} (h : start + count ≤ data.length) :
    (slice data start count).length = count := by
  simp only [slice, List.length_take, List.length_drop]; omega

theorem length_overwrite {data value : Octets} {start : Nat}
    (h : start + value.length ≤ data.length) :
    (overwrite data start value).length = data.length := by
  simp only [overwrite, List.length_append, List.length_take, List.length_drop]; omega

/-- An overwritten string shows the new value inside its range and the old bytes elsewhere. -/
theorem getElem?_overwrite {data value : Octets} {start : Nat}
    (h : start + value.length ≤ data.length) (i : Nat) :
    (overwrite data start value)[i]? =
      if start ≤ i ∧ i < start + value.length then value[i - start]? else data[i]? := by
  unfold overwrite
  have hs : (data.take start).length = start := by simp only [List.length_take]; omega
  by_cases h1 : i < start
  · rw [if_neg (by omega), List.append_assoc, List.getElem?_append_left (by omega),
      List.getElem?_take_of_lt h1]
  · rw [List.append_assoc, List.getElem?_append_right (by omega), hs]
    by_cases h2 : i < start + value.length
    · rw [if_pos ⟨by omega, h2⟩, List.getElem?_append_left (by omega)]
    · rw [if_neg (by omega), List.getElem?_append_right (by omega), List.getElem?_drop]
      congr 1; omega

theorem toNat_word (data : Octets) (i : Nat) :
    (word data i).toNat = 256 * (byte data i).toNat + (byte data (i + 1)).toNat := by
  have h1 := (byte data i).toNat_lt
  have h2 := (byte data (i + 1)).toNat_lt
  simp only [word, UInt16.toNat_ofNat']; omega

theorem word_ofWord (w : UInt16) : word (ofWord w) 0 = w := by
  have h := w.toNat_lt
  apply UInt16.toNat_inj.1
  rw [toNat_word]
  simp only [byte, ofWord, List.getD_cons_zero, List.getD_cons_succ, UInt8.toNat_ofNat']; omega

end Octets

end Boomerang
