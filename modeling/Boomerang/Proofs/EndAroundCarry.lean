import Mathlib.Logic.Function.Iterate
import Boomerang.Proofs.Checksum

/-!
The checksum as end-around-carry addition. Folding a partial sum once, at the end, gives what adding
the words one by one gives, each carry brought around. A message verifies with the computed checksum
in its field, and with one other value at most: the other form of zero.
-/

set_option autoImplicit false

namespace Boomerang.Checksum

open Octets

/-! ## One word after the other -/

def bigEndian : Octets → List UInt16
  | [] => []
  | [last] => [UInt16.ofNat (256 * last.toNat)]
  | hi :: lo :: rest => UInt16.ofNat (256 * hi.toNat + lo.toNat) :: bigEndian rest

/-- One's-complement addition: a carry out of the top comes back in at the bottom. -/
def endAround (a b : UInt16) : UInt16 :=
  if a.toNat + b.toNat < 65536 then a + b else a + b + 1

def endAroundSum (data : Octets) : UInt16 := (bigEndian data).foldl endAround 0

theorem toNat_endAround (a b : UInt16) :
    (endAround a b).toNat =
      if a.toNat + b.toNat < 65536 then a.toNat + b.toNat else a.toNat + b.toNat - 65535 := by
  have := a.toNat_lt
  have := b.toNat_lt
  unfold endAround
  split
  · rw [UInt16.toNat_add]
    omega
  · simp only [UInt16.toNat_add, UInt16.reduceToNat]
    omega

theorem toNat_add_ofNat {sum : UInt32} {n : Nat} (room : sum.toNat + n < 4294967296) :
    (sum + UInt32.ofNat n).toNat = sum.toNat + n := by
  rw [UInt32.toNat_add, UInt32.toNat_ofNat']
  omega

theorem fold_add {sum : UInt32} {w : UInt16} (room : sum.toNat + w.toNat < 4294967296) :
    fold (sum + UInt32.ofNat w.toNat) = endAround (fold sum) w := by
  have := w.toNat_lt
  apply UInt16.toNat_inj.1
  rw [toNat_endAround, toNat_fold, toNat_fold, toNat_add_ofNat room]
  by_cases zero : sum.toNat = 0
  case pos =>
    rw [if_pos zero]
    split <;> split <;> omega
  case neg =>
    rw [if_neg zero, if_neg (by omega)]
    split <;> omega

theorem fold_add_total {data : Octets} {sum : UInt32}
    (room : sum.toNat + total data < 4294967296) :
    fold (sum + UInt32.ofNat (total data)) = (bigEndian data).foldl endAround (fold sum) := by
  -- On the words of the string: those summed up so far leave room for all that follow.
  induction data using bigEndian.induct generalizing sum with
  | case1 => exact congrArg fold (UInt32.add_zero sum)
  | case2 last =>
    have word : total [last] = (UInt16.ofNat (256 * last.toNat)).toNat := by
      have := last.toNat_lt
      rw [total, UInt16.toNat_ofNat']
      omega
    rw [word] at room ⊢
    exact fold_add room
  | case3 hi lo rest ih =>
    have word : total (hi :: lo :: rest) =
        (UInt16.ofNat (256 * hi.toNat + lo.toNat)).toNat + total rest := by
      have := hi.toNat_lt
      have := lo.toNat_lt
      rw [total, UInt16.toNat_ofNat']
      omega
    rw [bigEndian, List.foldl_cons]
    rw [word] at room ⊢
    generalize UInt16.ofNat (256 * hi.toNat + lo.toNat) = w at room ⊢
    have front : (sum + UInt32.ofNat w.toNat).toNat = sum.toNat + w.toNat :=
      toNat_add_ofNat (by omega)
    rw [UInt32.ofNat_add, ← UInt32.add_assoc, ih (by omega), fold_add (by omega)]

theorem internet_eq {data : Octets} (short : data.length ≤ 131074) :
    internet data = ~~~ endAroundSum data := by
  have bound := total_le data
  have zero : fold 0 = 0 := UInt16.toNat_inj.1 (toNat_fold 0)
  have folded : fold (0 + UInt32.ofNat (total data)) = (bigEndian data).foldl endAround (fold 0) := by
    apply fold_add_total
    simp only [UInt32.reduceToNat]
    omega
  rw [UInt32.zero_add, ← words_eq_ofNat_total, zero] at folded
  rw [internet, finish, folded, endAroundSum]

/-! ## The rounds of folding -/

def carryBack (sum : UInt32) : UInt32 := UInt32.ofNat (sum.toNat / 65536 + sum.toNat % 65536)

/-- Folding stops after the given number of rounds, as soon as no carry is left. -/
structure Settles (sum : UInt32) (rounds : Nat) : Prop where
  before : ∀ n < rounds, 65535 < (carryBack^[n] sum).toNat
  after : (carryBack^[rounds] sum).toNat ≤ 65535
  result : fold sum = UInt16.ofNat (carryBack^[rounds] sum).toNat

theorem toNat_carryBack (sum : UInt32) :
    (carryBack sum).toNat = sum.toNat / 65536 + sum.toNat % 65536 := by
  have := sum.toNat_lt
  rw [carryBack, UInt32.toNat_ofNat']
  omega

theorem settles_of_small {sum : UInt32} (small : sum.toNat ≤ 65535) : Settles sum 0 where
  before n early := absurd early (Nat.not_lt_zero n)
  after := small
  result := by
    rw [fold, dif_neg (Nat.not_lt.2 small)]
    rfl

theorem Settles.succ {sum : UInt32} {rounds : Nat} (large : 65535 < sum.toNat)
    (next : Settles (carryBack sum) rounds) : Settles sum (rounds + 1) where
  before n early := by
    cases n with
    | zero => exact large
    | succ n => exact next.before n (Nat.lt_of_succ_lt_succ early)
  after := next.after
  result := by
    rw [fold, dif_pos large]
    exact next.result

/-- The carries of a partial sum are one word, and theirs is one bit. -/
theorem settles (sum : UInt32) : ∃ rounds ≤ 2, Settles sum rounds := by
  have bound := sum.toNat_lt
  have first := toNat_carryBack sum
  have second := toNat_carryBack (carryBack sum)
  by_cases none : sum.toNat ≤ 65535
  · exact ⟨0, by omega, settles_of_small none⟩
  · by_cases one : (carryBack sum).toNat ≤ 65535
    · exact ⟨1, by omega, (settles_of_small one).succ (by omega)⟩
    · have two : (carryBack (carryBack sum)).toNat ≤ 65535 := by omega
      exact ⟨2, Nat.le_refl 2, ((settles_of_small two).succ (by omega)).succ (by omega)⟩

/-! ## Which values verify -/

/-- Zero in one of its two forms. -/
def IsZero (c : UInt16) : Prop := c = 0 ∨ c = 0xffff

/-- `c` counts as the `computed` checksum of what adds up to `rest`: it is that value, or both are
zero and there is something to sum up. -/
def CountsAs (rest : UInt32) (computed c : UInt16) : Prop :=
  c = computed ∨ IsZero computed ∧ IsZero c ∧ rest ≠ 0

instance (c : UInt16) : Decidable (IsZero c) := inferInstanceAs (Decidable (c = 0 ∨ c = 0xffff))

instance (rest : UInt32) (computed c : UInt16) : Decidable (CountsAs rest computed c) :=
  inferInstanceAs (Decidable (c = computed ∨ IsZero computed ∧ IsZero c ∧ rest ≠ 0))

theorem isZero_iff (c : UInt16) : IsZero c ↔ c.toNat = 0 ∨ c.toNat = 65535 := by
  simp only [IsZero, ← UInt16.toNat_inj, UInt16.reduceToNat]

theorem finish_eq_zero_iff (sum : UInt32) : finish sum = 0 ↔ (fold sum).toNat = 65535 := by
  have := (fold sum).toNat_lt
  simp only [← UInt16.toNat_inj, toNat_finish, UInt16.reduceToNat]
  omega

/-- The sum with `c` has to be a nonzero multiple of 65535. One remainder does that, but 0 and 65535
are the same remainder. -/
theorem finish_add_eq_zero_iff {rest : UInt32} (room : rest.toNat + 65535 < 4294967296)
    (c : UInt16) :
    finish (rest + UInt32.ofNat c.toNat) = 0 ↔ CountsAs rest (finish rest) c := by
  have := c.toNat_lt
  have folded := toNat_fold rest
  have something : rest ≠ 0 ↔ rest.toNat ≠ 0 := not_congr UInt32.toNat_inj.symm
  rw [finish_eq_zero_iff, toNat_fold, toNat_add_ofNat (by omega), CountsAs, isZero_iff, isZero_iff,
    something, ← UInt16.toNat_inj, toNat_finish]
  by_cases zero : rest.toNat = 0
  case pos =>
    rw [if_pos zero] at folded
    split <;> omega
  case neg =>
    rw [if_neg zero] at folded
    rw [if_neg (by omega)]
    omega

theorem countsAs_iff_isZero {rest : UInt32} {computed : UInt16} (zero : IsZero computed)
    (something : rest ≠ 0) (c : UInt16) : CountsAs rest computed c ↔ IsZero c := by
  constructor
  · rintro (rfl | ⟨_, other, _⟩)
    · exact zero
    · exact other
  · intro other
    exact .inr ⟨zero, other, something⟩

theorem countsAs_nonzero_iff (rest : UInt32) (c : UInt16) :
    CountsAs rest (nonzero (finish rest)) c ↔ CountsAs rest (finish rest) c := by
  by_cases zero : finish rest = 0
  case neg => rw [nonzero, if_neg zero]
  case pos =>
    -- Nothing at all would not fold to all ones.
    have something : rest ≠ 0 := by
      rintro rfl
      exact absurd zero (by decide +kernel)
    have sent : nonzero (finish rest) = 0xffff := if_pos zero
    rw [countsAs_iff_isZero (.inr sent) something, countsAs_iff_isZero (.inl zero) something]

theorem toNat_pseudo4_le {src dst : Octets} (srcLength : src.length = 4) (dstLength : dst.length = 4)
    (protocol : UInt8) (length : UInt16) :
    (pseudo4 src dst protocol length).toNat ≤ 65535 * 32768 := by
  have srcBound := total_le src
  have dstBound := total_le dst
  rw [← toNat_words (by omega)] at srcBound dstBound
  have addresses := toNat_add_le (words src) (words dst)
  have next := toNat_ofNat_le protocol.toNat
  have last := toNat_ofNat_le length.toNat
  have := protocol.toNat_lt
  have := length.toNat_lt
  refine Nat.le_trans (toNat_add_le _ _) ?_
  refine Nat.le_trans (Nat.add_le_add_right (toNat_add_le _ _) _) ?_
  omega

/-! ## Stored checksums -/

/-- What a receiver makes of values in the checksum field of a message, where all but the field adds
up to `rest` and the sender computes `computed`. -/
structure Verifies (check : Octets → UInt16) (message : Octets) (field : Nat) (rest : UInt32)
    (computed : UInt16) : Prop where
  stored : check (message.put field (ofWord computed)) = 0
  exact : ∀ c, check (message.put field (ofWord c)) = 0 ↔ CountsAs rest computed c

section

variable {base : UInt32} {message : Octets} {field : Nat}

/-- The computed value is among those that count as it. -/
theorem Verifies.of_exact {check : Octets → UInt16} {rest : UInt32} {computed : UInt16}
    (exact : ∀ c, check (message.put field (ofWord c)) = 0 ↔ CountsAs rest computed c) :
    Verifies check message field rest computed :=
  ⟨(exact computed).2 (.inl rfl), exact⟩

theorem finish_put_eq_zero_iff (even : field % 2 = 0) (fits : field + 2 ≤ message.length)
    (short : message.length ≤ 65535) (small : base.toNat ≤ 65535 * 32768) (c : UInt16) :
    finish (base + words (message.put field (ofWord c))) = 0 ↔
      CountsAs (base + wordsExcept message field) (finish (base + wordsExcept message field)) c := by
  have rest := toNat_wordsExcept_le even fits short
  have sum := toNat_add_le base (wordsExcept message field)
  rw [words_put_ofWord even fits, ← UInt32.add_assoc, finish_add_eq_zero_iff (by omega)]

theorem verifies_alone (even : field % 2 = 0) (fits : field + 2 ≤ message.length)
    (short : message.length ≤ 65535) :
    Verifies internet message field (wordsExcept message field)
      (finish (wordsExcept message field)) := by
  apply Verifies.of_exact
  intro c
  have small : (0 : UInt32).toNat ≤ 65535 * 32768 := by decide
  have counts := finish_put_eq_zero_iff even fits short small c
  rwa [UInt32.zero_add, UInt32.zero_add] at counts

theorem verifies_behind (even : field % 2 = 0) (fits : field + 2 ≤ message.length)
    (short : message.length ≤ 65535) (small : base.toNat ≤ 65535 * 32768) :
    Verifies (fun m => finish (base + words m)) message field (base + wordsExcept message field)
      (finish (base + wordsExcept message field)) :=
  .of_exact fun c => finish_put_eq_zero_iff even fits short small c

theorem Verifies.nonzero {check : Octets → UInt16} {rest : UInt32}
    (verifies : Verifies check message field rest (finish rest)) :
    Verifies check message field rest (nonzero (finish rest)) :=
  .of_exact fun c => (verifies.exact c).trans (countsAs_nonzero_iff rest c).symm

end

/-- Partial sums do not wrap, folding them ends within two rounds, and the checksum is the
complemented end-around-carry sum. In a message of any kind exactly those values verify that count
as the computed one. -/
theorem checksums_exact :
    (∀ data : Octets, data.length ≤ 131074 →
      (words data).toNat = total data ∧ internet data = ~~~ endAroundSum data) ∧
    (∀ sum : UInt32, (∃ rounds ≤ 2, Settles sum rounds) ∧
      (fold sum).toNat = if sum.toNat = 0 then 0 else (sum.toNat - 1) % 65535 + 1) ∧
    (∀ header : Octets, 12 ≤ header.length → header.length ≤ 65535 →
      Verifies internet header 10 (wordsExcept header 10) (ipv4Header header)) ∧
    (∀ message : Octets, 4 ≤ message.length → message.length ≤ 65535 →
      Verifies internet message 2 (wordsExcept message 2) (icmp message)) ∧
    (∀ src dst message : Octets, src.length = 16 → dst.length = 16 →
      4 ≤ message.length → message.length ≤ 65535 →
      let base := pseudo6 src dst 58 (UInt32.ofNat message.length)
      Verifies (fun m => finish (base + words m)) message 2 (base + wordsExcept message 2)
        (icmpv6 src dst message)) ∧
    (∀ src dst datagram : Octets, src.length = 4 → dst.length = 4 →
      8 ≤ datagram.length → datagram.length ≤ 65535 →
      let base := pseudo4 src dst 17 (UInt16.ofNat datagram.length)
      Verifies (fun m => finish (base + words m)) datagram 6 (base + wordsExcept datagram 6)
        (udp4 src dst datagram)) ∧
    (∀ src dst datagram : Octets, src.length = 16 → dst.length = 16 →
      8 ≤ datagram.length → datagram.length ≤ 65535 →
      let base := pseudo6 src dst 17 (UInt32.ofNat datagram.length)
      Verifies (fun m => finish (base + words m)) datagram 6 (base + wordsExcept datagram 6)
        (udp6 src dst datagram)) := by
  refine ⟨?sums, ?folds, ?ipv4Header, ?icmp, ?icmpv6, ?udp4, ?udp6⟩
  case sums =>
    intro data short
    exact ⟨toNat_words short, internet_eq short⟩
  case folds =>
    intro sum
    exact ⟨settles sum, toNat_fold sum⟩
  case ipv4Header =>
    intro header long short
    exact verifies_alone rfl long short
  case icmp =>
    intro message long short
    exact verifies_alone rfl long short
  case icmpv6 =>
    intro src dst message srcLength dstLength long short
    have small := toNat_pseudo6_le (Nat.le_of_eq srcLength) (Nat.le_of_eq dstLength) 58
      (UInt32.ofNat message.length)
    exact verifies_behind rfl long short small
  case udp4 =>
    intro src dst datagram srcLength dstLength long short
    have small := toNat_pseudo4_le srcLength dstLength 17 (UInt16.ofNat datagram.length)
    exact (verifies_behind rfl long short small).nonzero
  case udp6 =>
    intro src dst datagram srcLength dstLength long short
    have small := toNat_pseudo6_le (Nat.le_of_eq srcLength) (Nat.le_of_eq dstLength) 17
      (UInt32.ofNat datagram.length)
    exact (verifies_behind rfl long short small).nonzero

theorem checksums_exact_zero :
    let blank : Octets := zeros 20
    let marked : Octets := [0xff, 0xff] ++ zeros 18
    internet (blank.put 10 (ofWord 0xffff)) = 0 ∧ internet (blank.put 10 (ofWord 0)) ≠ 0 ∧
      internet (marked.put 10 (ofWord 0xffff)) = 0 ∧ internet (marked.put 10 (ofWord 0)) = 0 := by
  intro blank marked
  obtain ⟨_, _, headers, _⟩ := checksums_exact
  have exactBlank := (headers blank (by decide) (by decide)).exact
  have exactMarked := (headers marked (by decide) (by decide)).exact
  refine ⟨(exactBlank _).2 ?_, mt (exactBlank _).1 ?_, (exactMarked _).2 ?_, (exactMarked _).2 ?_⟩
  all_goals decide +kernel

end Boomerang.Checksum
