import Boomerang.Octets

/-!
Byte strings that were cut, joined or overwritten. `SameOn kept` relates two strings of one length
that agree at every kept position; edits in place are described by the positions they keep and by
the slices they replace.
-/

set_option autoImplicit false

namespace Boomerang.Octets

variable {data front value : Octets}

theorem byte_eq_getElem? (data : Octets) (i : Nat) : byte data i = data[i]?.getD 0 := by
  simp only [byte, List.getD_eq_getElem?_getD]

theorem byte_drop (data : Octets) (n i : Nat) : byte (data.drop n) i = byte data (n + i) := by
  simp only [byte_eq_getElem?, List.getElem?_drop]

theorem byte_take {n i : Nat} (inside : i < n) : byte (data.take n) i = byte data i := by
  simp only [byte_eq_getElem?, List.getElem?_take_of_lt inside]

theorem byte_slice {start count i : Nat} (inside : i < count) :
    byte (slice data start count) i = byte data (start + i) := by
  rw [slice, byte_take inside, byte_drop]

theorem byte_append_left {i : Nat} (inside : i < front.length) :
    byte (front ++ data) i = byte front i := by
  simp only [byte_eq_getElem?, List.getElem?_append_left inside]

theorem byte_append_right {n : Nat} (width : front.length = n) (data : Octets) (i : Nat) :
    byte (front ++ data) (n + i) = byte data i := by
  subst width
  rw [byte_eq_getElem?, List.getElem?_append_right (Nat.le_add_right _ _), Nat.add_sub_cancel_left,
    byte_eq_getElem?]

theorem byte_overwrite {start : Nat} (fits : start + value.length ≤ data.length) (i : Nat) :
    byte (overwrite data start value) i =
      if start ≤ i ∧ i < start + value.length then byte value (i - start) else byte data i := by
  rw [byte_eq_getElem?, getElem?_overwrite fits]
  split <;> rw [byte_eq_getElem?]

theorem eq_of_byte {other : Octets} (length : data.length = other.length)
    (same : ∀ i < data.length, byte data i = byte other i) : data = other := by
  apply List.ext_getElem length
  intro i left right
  have bytes := same i left
  rwa [byte_eq_getElem?, byte_eq_getElem?, List.getElem?_eq_getElem left,
    List.getElem?_eq_getElem right] at bytes

theorem length_slice_eq (data : Octets) (start count : Nat) :
    (slice data start count).length = min count (data.length - start) := by
  simp only [slice, List.length_take, List.length_drop]

theorem slice_drop (data : Octets) (n start count : Nat) :
    slice (data.drop n) start count = slice data (n + start) count := by
  rw [slice, List.drop_drop, slice]

theorem slice_append_right {n : Nat} (width : front.length = n) (data : Octets)
    (start count : Nat) : slice (front ++ data) (n + start) count = slice data start count := by
  subst width
  rw [slice, List.drop_append, List.drop_eq_nil_of_le (by omega), List.nil_append,
    Nat.add_sub_cancel_left, slice]

theorem slice_append_left {start count : Nat} (inside : start + count ≤ front.length) :
    slice (front ++ data) start count = slice front start count := by
  rw [slice, List.drop_append_of_le_length (by omega),
    List.take_append_of_le_length (by rw [List.length_drop]; omega), slice]

theorem slice_slice {start count first width : Nat} (inside : first + width ≤ count) :
    slice (slice data start count) first width = slice data (start + first) width := by
  rw [slice, slice, List.drop_take, List.take_take, List.drop_drop, Nat.min_eq_left (by omega),
    slice]

theorem slice_of_take {n start count : Nat} (inside : start + count ≤ n) :
    slice (data.take n) start count = slice data start count := by
  rw [slice, List.drop_take, List.take_take, Nat.min_eq_left (by omega), slice]

theorem word_drop (data : Octets) (n i : Nat) : word (data.drop n) i = word data (n + i) := by
  rw [word, byte_drop, byte_drop, word, Nat.add_assoc]

theorem word_take {n i : Nat} (inside : i + 1 < n) : word (data.take n) i = word data i := by
  rw [word, byte_take (by omega), byte_take inside, word]

theorem word_congr {other : Octets} {i j : Nat} (high : byte data i = byte other j)
    (low : byte data (i + 1) = byte other (j + 1)) : word data i = word other j := by
  rw [word, high, low, word]

theorem word_append_right {n : Nat} (width : front.length = n) (data : Octets) (i : Nat) :
    word (front ++ data) (n + i) = word data i :=
  word_congr (byte_append_right width data i) (byte_append_right width data (i + 1))

theorem slice_zero (data : Octets) (start : Nat) : slice data start 0 = [] := List.take_zero

theorem slice_succ {start count : Nat} (inside : start < data.length) :
    slice data start (count + 1) = byte data start :: slice data (start + 1) count := by
  have first : byte data start = data[start] := by
    rw [byte_eq_getElem?, List.getElem?_eq_getElem inside, Option.getD_some]
  rw [slice, List.drop_eq_getElem_cons inside, List.take_succ_cons, slice, first]

theorem slice_one {start : Nat} (inside : start < data.length) :
    slice data start 1 = [byte data start] := by
  rw [slice_succ inside, slice_zero]

theorem word_eq_iff {i : Nat} {w : UInt16} :
    word data i = w ↔
      byte data i = UInt8.ofNat (w.toNat / 256) ∧ byte data (i + 1) = UInt8.ofNat w.toNat := by
  have high := (byte data i).toNat_lt
  have low := (byte data (i + 1)).toNat_lt
  have bound := w.toNat_lt
  rw [← UInt16.toNat_inj, ← UInt8.toNat_inj, ← UInt8.toNat_inj, toNat_word, UInt8.toNat_ofNat',
    UInt8.toNat_ofNat']
  omega

/-! ## Edits in place -/

/-- Two strings of one length agree at every kept position. -/
structure SameOn (kept : Nat → Prop) (before after : Octets) : Prop where
  length : after.length = before.length
  byte : ∀ i, kept i → Octets.byte after i = Octets.byte before i

namespace SameOn

variable {kept : Nat → Prop} {before between after : Octets}

theorem refl (kept : Nat → Prop) (data : Octets) : SameOn kept data data :=
  ⟨rfl, fun _ _ => rfl⟩

theorem trans (first : SameOn kept before between) (second : SameOn kept between after) :
    SameOn kept before after :=
  ⟨second.length.trans first.length, fun i k => (second.byte i k).trans (first.byte i k)⟩

theorem mono {fewer : Nat → Prop} (same : SameOn kept before after)
    (sub : ∀ i, fewer i → kept i) : SameOn fewer before after :=
  ⟨same.length, fun i k => same.byte i (sub i k)⟩

theorem or {others : Nat → Prop} (same : SameOn kept before after)
    (also : SameOn others before after) : SameOn (fun i => kept i ∨ others i) before after :=
  ⟨same.length, fun i k => k.elim (same.byte i) (also.byte i)⟩

theorem eq (same : SameOn kept before after) (all : ∀ i < before.length, kept i) :
    after = before :=
  eq_of_byte same.length fun i inside => same.byte i (all i (same.length ▸ inside))

theorem word (same : SameOn kept before after) {i : Nat} (high : kept i) (low : kept (i + 1)) :
    Octets.word after i = Octets.word before i :=
  word_congr (same.byte i high) (same.byte (i + 1) low)

theorem slice (same : SameOn kept before after) {start count : Nat}
    (all : ∀ i, start ≤ i → i < start + count → kept i) :
    Octets.slice after start count = Octets.slice before start count := by
  apply eq_of_byte
  · rw [length_slice_eq, length_slice_eq, same.length]
  · intro i bound
    rw [length_slice_eq] at bound
    rw [byte_slice (by omega), byte_slice (by omega), same.byte _ (all _ (by omega) (by omega))]

theorem take (same : SameOn kept before after) (n : Nat) :
    SameOn kept (before.take n) (after.take n) := by
  refine ⟨by rw [List.length_take, List.length_take, same.length], fun i k => ?_⟩
  by_cases inside : i < n
  · rw [byte_take inside, byte_take inside, same.byte i k]
  · rw [byte_eq_getElem?, byte_eq_getElem?, List.getElem?_take, List.getElem?_take, if_neg inside,
      if_neg inside]

theorem drop (same : SameOn kept before after) (n : Nat) {fewer : Nat → Prop}
    (sub : ∀ i, fewer i → kept (n + i)) : SameOn fewer (before.drop n) (after.drop n) := by
  refine ⟨by rw [List.length_drop, List.length_drop, same.length], fun i k => ?_⟩
  rw [byte_drop, byte_drop, same.byte _ (sub i k)]

theorem of_slice (length : after.length = before.length) {start count : Nat}
    (equal : Octets.slice after start count = Octets.slice before start count) :
    SameOn (fun i => start ≤ i ∧ i < start + count) before after := by
  refine ⟨length, ?_⟩
  rintro i ⟨low, high⟩
  have place : start + (i - start) = i := by omega
  have byte := congrArg (Octets.byte · (i - start)) equal
  simp only [byte_slice (show i - start < count by omega), place] at byte
  exact byte

end SameOn

/-- Overwrites in place; where the value would stick out nothing changes. -/
def put (data : Octets) (start : Nat) (value : Octets) : Octets :=
  (overwrite? data start value).getD data

theorem put_eq_overwrite {start : Nat} (fits : start + value.length ≤ data.length) :
    put data start value = overwrite data start value := by
  rw [put, overwrite?, if_pos fits, Option.getD_some]

theorem put_of_not_fits {start : Nat} (not : ¬ start + value.length ≤ data.length) :
    put data start value = data := by
  rw [put, overwrite?, if_neg not, Option.getD_none]

theorem sameOn_put (data : Octets) (start : Nat) (value : Octets) :
    SameOn (fun i => i < start ∨ start + value.length ≤ i) data (put data start value) := by
  by_cases fits : start + value.length ≤ data.length
  · rw [put_eq_overwrite fits]
    exact ⟨length_overwrite fits, fun i kept => by rw [byte_overwrite fits, if_neg (by omega)]⟩
  · rw [put_of_not_fits fits]
    exact .refl _ _

theorem sameOn_put_ofWord (data : Octets) (start : Nat) (w : UInt16) :
    SameOn (fun i => i < start ∨ start + 2 ≤ i) data (put data start (ofWord w)) :=
  sameOn_put data start (ofWord w)

/-- One more write, off the kept positions. -/
theorem SameOn.put {kept : Nat → Prop} {before after : Octets} (same : SameOn kept before after)
    {start : Nat} {value : Octets} (off : ∀ i, kept i → i < start ∨ start + value.length ≤ i) :
    SameOn kept before (after.put start value) :=
  same.trans ((sameOn_put after start value).mono off)

@[simp] theorem length_put (data : Octets) (start : Nat) (value : Octets) :
    (put data start value).length = data.length :=
  (sameOn_put data start value).length

theorem byte_put {start : Nat} (fits : start + value.length ≤ data.length) (i : Nat) :
    byte (put data start value) i =
      if start ≤ i ∧ i < start + value.length then byte value (i - start) else byte data i := by
  rw [put_eq_overwrite fits, byte_overwrite fits]

theorem slice_put_same {start count : Nat} (fits : start + value.length ≤ data.length)
    (all : count = value.length) : slice (put data start value) start count = value := by
  subst all
  apply eq_of_byte
  · rw [length_slice_eq, length_put]; omega
  · intro i bound
    rw [length_slice_eq, length_put] at bound
    rw [byte_slice (by omega), byte_put fits, if_pos (by omega), Nat.add_sub_cancel_left]

theorem slice_put_apart {start count k : Nat}
    (apart : start + count ≤ k ∨ k + value.length ≤ start) :
    slice (put data k value) start count = slice data start count :=
  (sameOn_put data k value).slice fun i _ _ => by omega

/-- A slice around the overwritten range is the old slice, overwritten. -/
theorem slice_put_inside {start count k : Nat} (low : start ≤ k)
    (high : k + value.length ≤ start + count) (fits : start + count ≤ data.length) :
    slice (put data k value) start count = put (slice data start count) (k - start) value := by
  have inner : (slice data start count).length = count := length_slice fits
  apply eq_of_byte
  · rw [length_slice_eq, length_put, length_put, inner]; omega
  · intro i bound
    rw [length_slice_eq, length_put] at bound
    rw [byte_slice (by omega), byte_put (by omega), byte_put (by omega), byte_slice (by omega)]
    -- The value stands at `k` in the string and at `k - start` in the slice.
    by_cases inside : k ≤ start + i ∧ start + i < k + value.length
    · rw [if_pos inside, if_pos (by omega)]
      congr 1
      omega
    · rw [if_neg inside, if_neg (by omega)]

theorem byte_put_one {start : Nat} (b : UInt8) (inside : start < data.length) :
    byte (put data start [b]) start = b := by
  rw [byte_put inside, if_pos ⟨Nat.le_refl _, Nat.lt_succ_self _⟩, Nat.sub_self]
  rfl

theorem byte_put_apart {start i : Nat} (apart : i < start ∨ start + value.length ≤ i) :
    byte (put data start value) i = byte data i :=
  (sameOn_put data start value).byte i apart

theorem word_put_same {start : Nat} (w : UInt16) (fits : start + 2 ≤ data.length) :
    word (put data start (ofWord w)) start = w := by
  have room : start + (ofWord w).length ≤ data.length := fits
  have width : (ofWord w).length = 2 := rfl
  refine Eq.trans (word_congr (j := 0) ?_ ?_) (word_ofWord w)
  · rw [byte_put room, if_pos (by omega), Nat.sub_self]
  · rw [byte_put room, if_pos (by omega), Nat.add_sub_cancel_left]

theorem SameOn.put_both {kept : Nat → Prop} {before after : Octets}
    (same : SameOn kept before after) (start : Nat) (value : Octets) :
    SameOn kept (before.put start value) (after.put start value) := by
  refine ⟨by rw [length_put, length_put, same.length], fun i k => ?_⟩
  by_cases fits : start + value.length ≤ before.length
  · rw [byte_put (same.length ▸ fits), byte_put fits]
    split
    · rfl
    · exact same.byte i k
  · rw [put_of_not_fits (same.length ▸ fits), put_of_not_fits fits]
    exact same.byte i k

theorem SameOn.put_one_eq {before after : Octets} {i : Nat}
    (same : SameOn (fun j => j ≠ i) before after) (b : UInt8) (inside : i < before.length) :
    after.put i [b] = before.put i [b] := by
  have written : SameOn (fun j => j = i) (before.put i [b]) (after.put i [b]) := by
    refine ⟨by rw [length_put, length_put, same.length], ?_⟩
    rintro _ rfl
    rw [byte_put_one b (same.length ▸ inside), byte_put_one b inside]
  exact (written.or (same.put_both i [b])).eq fun j _ => Decidable.em (j = i)

theorem SameOn.eq_put {before after : Octets} {start : Nat}
    (same : SameOn (fun i => i < start ∨ start + 2 ≤ i) before after)
    (fits : start + 2 ≤ before.length) :
    after = before.put start (ofWord (Octets.word after start)) := by
  obtain ⟨high, low⟩ := word_eq_iff.1 (rfl : Octets.word after start = Octets.word after start)
  apply eq_of_byte (same.length.trans (length_put _ _ _).symm)
  intro i _
  rw [byte_put fits]
  by_cases inside : start ≤ i ∧ i < start + (ofWord (Octets.word after start)).length
  case neg =>
    rw [if_neg inside]
    rw [length_ofWord] at inside
    exact same.byte i (by omega)
  case pos =>
    rw [if_pos inside]
    rw [length_ofWord] at inside
    obtain rfl | rfl : i = start ∨ i = start + 1 := by omega
    · rw [Nat.sub_self]
      exact high
    · rw [Nat.add_sub_cancel_left]
      exact low

theorem put_append_right {n : Nat} (width : front.length = n) (data value : Octets) (k : Nat) :
    put (front ++ data) (n + k) value = front ++ put data k value := by
  subst width
  have total : (front ++ data).length = front.length + data.length := List.length_append
  by_cases fits : k + value.length ≤ data.length
  · have tail : (front ++ data).drop (front.length + k + value.length) =
        data.drop (k + value.length) := by
      rw [Nat.add_assoc, List.drop_append, List.drop_eq_nil_of_le (by omega), List.nil_append,
        Nat.add_sub_cancel_left]
    rw [put_eq_overwrite (by omega), put_eq_overwrite fits, overwrite, tail,
      List.take_length_add_append, overwrite, List.append_assoc, List.append_assoc,
      List.append_assoc]
  -- What sticks out of the rear part sticks out of the whole string.
  · rw [put_of_not_fits (by omega), put_of_not_fits fits]

theorem put_append_left {k : Nat} (inside : k + value.length ≤ front.length) :
    put (front ++ data) k value = put front k value ++ data := by
  have total : (front ++ data).length = front.length + data.length := List.length_append
  rw [put_eq_overwrite (by omega), put_eq_overwrite inside, overwrite,
    List.take_append_of_le_length (by omega), List.drop_append_of_le_length inside, overwrite,
    List.append_assoc, List.append_assoc, List.append_assoc]

theorem put_put {start middle : Nat} {next : Octets} (behind : middle = start + value.length)
    (fits : middle + next.length ≤ data.length) :
    put (put data start value) middle next = put data start (value ++ next) := by
  have total : (value ++ next).length = value.length + next.length := List.length_append
  subst behind
  apply eq_of_byte
  · rw [length_put, length_put, length_put]
  · intro i _
    rw [byte_put (by rw [length_put]; omega), byte_put (by omega), byte_put (by omega)]
    -- A position is in the first value, in the second or outside of both.
    by_cases first : start ≤ i ∧ i < start + value.length
    · rw [if_neg (by omega), if_pos first, if_pos (by omega), byte_append_left (by omega)]
    · rw [if_neg first]
      by_cases second : start + value.length ≤ i ∧ i < start + value.length + next.length
      · rw [if_pos second, if_pos (by omega)]
        have place : i - start = value.length + (i - (start + value.length)) := by omega
        rw [place, byte_append_right rfl]
      · rw [if_neg second, if_neg (by omega)]

theorem put_all (width : value.length = data.length) : put data 0 value = value := by
  rw [put_eq_overwrite (by omega), overwrite, List.take_zero, List.nil_append, Nat.zero_add,
    List.drop_eq_nil_of_le (by omega), List.append_nil]

/-! ## Exchanged fields -/

def exchange (data : Octets) (first second count : Nat) : Octets :=
  put (put data first (slice data second count)) second (slice data first count)

variable {first second count : Nat}

theorem sameOn_exchange (data : Octets) (first second count : Nat) :
    SameOn (fun i => (i < first ∨ first + count ≤ i) ∧ (i < second ∨ second + count ≤ i)) data
      (exchange data first second count) := by
  have one := length_slice_eq data second count
  have two := length_slice_eq data first count
  have inner := sameOn_put data first (slice data second count)
  have outer := sameOn_put (put data first (slice data second count)) second
    (slice data first count)
  exact (inner.mono fun i kept => by omega).trans (outer.mono fun i kept => by omega)

@[simp] theorem length_exchange (data : Octets) (first second count : Nat) :
    (exchange data first second count).length = data.length :=
  (sameOn_exchange data first second count).length

theorem slice_exchange_first (apart : first + count ≤ second)
    (fits : second + count ≤ data.length) :
    slice (exchange data first second count) first count = slice data second count := by
  have one : (slice data second count).length = count := length_slice fits
  rw [exchange, (sameOn_put _ _ _).slice (fun i _ _ => by omega),
    slice_put_same (by omega) one.symm]

theorem slice_exchange_second (fits : second + count ≤ data.length)
    (before : first + count ≤ data.length) :
    slice (exchange data first second count) second count = slice data first count := by
  have two : (slice data first count).length = count := length_slice before
  rw [exchange, slice_put_same (by rw [length_put]; omega) two.symm]

/-- Two fields of `count` bytes changed places. -/
structure Exchanged (first second count : Nat) (before after : Octets) : Prop where
  atFirst : after.slice first count = before.slice second count
  atSecond : after.slice second count = before.slice first count

theorem exchanged_exchange (apart : first + count ≤ second)
    (fits : second + count ≤ data.length) :
    Exchanged first second count data (exchange data first second count) :=
  ⟨slice_exchange_first apart fits, slice_exchange_second fits (by omega)⟩

namespace Exchanged

variable {before between after : Octets} {kept : Nat → Prop}

/-- Edits beside both fields do not matter, neither before the exchange nor after it. -/
theorem of_before (same : SameOn kept before between)
    (fields : Exchanged first second count between after)
    (one : ∀ i, first ≤ i → i < first + count → kept i)
    (other : ∀ i, second ≤ i → i < second + count → kept i) :
    Exchanged first second count before after :=
  ⟨fields.atFirst.trans (same.slice other), fields.atSecond.trans (same.slice one)⟩

theorem of_after (fields : Exchanged first second count before between)
    (same : SameOn kept between after) (one : ∀ i, first ≤ i → i < first + count → kept i)
    (other : ∀ i, second ≤ i → i < second + count → kept i) :
    Exchanged first second count before after :=
  ⟨(same.slice one).trans fields.atFirst, (same.slice other).trans fields.atSecond⟩

theorem twice (once : Exchanged first second count before between)
    (again : Exchanged first second count between after) (length : after.length = before.length) :
    SameOn (fun i => first ≤ i ∧ i < first + count ∨ second ≤ i ∧ i < second + count)
      before after :=
  (SameOn.of_slice length (again.atFirst.trans once.atSecond)).or
    (SameOn.of_slice length (again.atSecond.trans once.atFirst))

end Exchanged

theorem slice_exchange_inside {start n : Nat} (firstInside : first + count ≤ n)
    (secondInside : second + count ≤ n) (fits : start + n ≤ data.length) :
    slice (exchange data (start + first) (start + second) count) start n =
      exchange (slice data start n) first second count := by
  have one : (slice data (start + second) count).length = count := length_slice (by omega)
  have two : (slice data (start + first) count).length = count := length_slice (by omega)
  rw [exchange, slice_put_inside (Nat.le_add_right _ _) (by omega) (by rwa [length_put]),
    slice_put_inside (Nat.le_add_right _ _) (by omega) fits, Nat.add_sub_cancel_left,
    Nat.add_sub_cancel_left, exchange, slice_slice secondInside, slice_slice firstInside]

theorem exchange_append_right {n : Nat} (width : front.length = n) (data : Octets)
    (first second count : Nat) :
    exchange (front ++ data) (n + first) (n + second) count =
      front ++ exchange data first second count := by
  simp only [exchange, slice_append_right width, put_append_right width]

theorem exchange_append_left (apart : first + count ≤ second)
    (fits : second + count ≤ front.length) :
    exchange (front ++ data) first second count = exchange front first second count ++ data := by
  have one : (slice front second count).length = count := length_slice fits
  have two : (slice front first count).length = count := length_slice (by omega)
  rw [exchange, slice_append_left fits, slice_append_left (by omega), put_append_left (by omega),
    put_append_left (by rw [length_put]; omega), exchange]

end Boomerang.Octets
