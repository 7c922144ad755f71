import Boomerang.Checksum
import Boomerang.Proofs.Octets

/-!
The arithmetic behind the checksum: partial sums do not wrap on messages of datagram size, folding
is reduction modulo 65535 with 65535 in place of a nonzero multiple, and a message with its computed
checksum stored sums up to all ones. Moving whole words about leaves the sum alone.
-/

set_option autoImplicit false

namespace Boomerang.Checksum

open Octets

def total : Octets → Nat
  | [] => 0
  | [last] => 256 * last.toNat
  | hi :: lo :: rest => 256 * hi.toNat + lo.toNat + total rest

theorem words_eq_ofNat_total (data : Octets) : words data = UInt32.ofNat (total data) := by
  fun_induction total data with
  | case1 => rfl
  | case2 last => exact words_singleton last
  | case3 hi lo rest ih => rw [words_cons_cons, ih, ← UInt32.ofNat_add]

theorem total_le (data : Octets) : total data ≤ 65535 * ((data.length + 1) / 2) := by
  fun_induction total data with
  | case1 => simp
  | case2 last =>
    have := last.toNat_lt
    simp only [List.length_singleton]
    omega
  | case3 hi lo rest ih =>
    have := hi.toNat_lt
    have := lo.toNat_lt
    simp only [List.length_cons]
    omega

/-- No sum of up to 65537 words wraps. -/
theorem toNat_words {data : Octets} (short : data.length ≤ 131074) :
    (words data).toNat = total data := by
  have bound := total_le data
  rw [words_eq_ofNat_total, UInt32.toNat_ofNat', Nat.mod_eq_of_lt (by omega)]

theorem words_append {front : Octets} (even : front.length % 2 = 0) (back : Octets) :
    words (front ++ back) = words front + words back := by
  -- Two bytes at a time; after an odd number of them the words of `back` would be split.
  induction front using total.induct with
  | case1 => rw [List.nil_append, words_nil, UInt32.zero_add]
  | case2 last => simp at even
  | case3 hi lo rest ih =>
    simp only [List.length_cons] at even
    rw [List.cons_append, List.cons_append, words_cons_cons, ih (by omega), words_cons_cons,
      UInt32.add_assoc]

theorem words_ofWord (w : UInt16) : words (ofWord w) = UInt32.ofNat w.toNat := by
  have := w.toNat_lt
  rw [ofWord, words_cons_cons, words_nil, UInt32.add_zero]
  congr 1
  simp only [UInt8.toNat_ofNat']
  omega

/-! ## Folding -/

theorem toNat_fold (sum : UInt32) :
    (fold sum).toNat = if sum.toNat = 0 then 0 else (sum.toNat - 1) % 65535 + 1 := by
  fun_induction fold sum with
  | case1 sum large ih =>
    -- A step takes a multiple of 65535 away from the sum and never reaches zero.
    have := sum.toNat_lt
    rw [ih, UInt32.toNat_ofNat', Nat.mod_eq_of_lt (by omega), if_neg (by omega), if_neg (by omega)]
    omega
  | case2 sum small =>
    rw [UInt16.toNat_ofNat', Nat.mod_eq_of_lt (by omega)]
    split <;> omega

theorem toNat_finish (sum : UInt32) : (finish sum).toNat = 65535 - (fold sum).toNat := by
  rw [finish, UInt16.toNat_not]
  rfl

theorem fold_add_finish {sum : UInt32} (room : sum.toNat + 65535 < 4294967296) :
    fold (sum + UInt32.ofNat (finish sum).toNat) = 0xffff := by
  have folded := toNat_fold sum
  have bound := (fold sum).toNat_lt
  have added : (sum + UInt32.ofNat (finish sum).toNat).toNat =
      sum.toNat + (65535 - (fold sum).toNat) := by
    rw [UInt32.toNat_add, UInt32.toNat_ofNat', toNat_finish]
    omega
  apply UInt16.toNat_inj.1
  rw [toNat_fold, added]
  split at folded <;> split <;> simp only [UInt16.reduceToNat] <;> omega

/-! ## A stored checksum verifies -/

theorem words_put_ofWord {data : Octets} {field : Nat} (even : field % 2 = 0)
    (fits : field + 2 ≤ data.length) (w : UInt16) :
    words (put data field (ofWord w)) = wordsExcept data field + UInt32.ofNat w.toNat := by
  have head : (data.take field).length = field := by
    rw [List.length_take]; omega
  have width : (ofWord w).length = 2 := length_ofWord w
  rw [put_eq_overwrite (by omega), overwrite, List.append_assoc, words_append (by omega),
    words_append (by omega), words_ofWord, width, wordsExcept, UInt32.add_comm (UInt32.ofNat _),
    UInt32.add_assoc]

theorem wordsExcept_put {data value : Octets} {field : Nat} (width : value.length = 2)
    (fits : field + 2 ≤ data.length) :
    wordsExcept (put data field value) field = wordsExcept data field := by
  have head : (data.take field).length = field := by
    rw [List.length_take]; omega
  have front : (data.take field ++ value).length = field + 2 := by
    rw [List.length_append, head, width]
  rw [put_eq_overwrite (by omega), overwrite, width, wordsExcept, List.drop_left' front,
    List.append_assoc, List.take_left' head, wordsExcept]

/-- A checksum that does not count its own field, stored there, is the checksum of the message as it
then stands. -/
theorem word_stored {sum : Octets → UInt16} {data : Octets} {s : Span} {field : Nat}
    (blind : ∀ message w, field + 2 ≤ message.length →
      sum (message.put field (ofWord w)) = sum message)
    (room : field + 2 ≤ s.length) (fits : s.start + s.length ≤ data.length) :
    let stored := data.put (s.start + field) (ofWord (sum (data.slice s.start s.length)))
    stored.word (s.start + field) = sum (stored.slice s.start s.length) := by
  intro stored
  have whole : (data.slice s.start s.length).length = s.length := length_slice fits
  have within : stored.slice s.start s.length =
      (data.slice s.start s.length).put field (ofWord (sum (data.slice s.start s.length))) := by
    rw [slice_put_inside (Nat.le_add_right _ _) (by rw [length_ofWord]; omega) fits,
      Nat.add_sub_cancel_left]
  rw [within, blind _ _ (by omega)]
  exact word_put_same _ (by omega)

theorem ipv4Header_put {header : Octets} (w : UInt16) (long : 12 ≤ header.length) :
    ipv4Header (header.put 10 (ofWord w)) = ipv4Header header := by
  rw [ipv4Header, wordsExcept_put rfl long, ipv4Header]

theorem icmp_put {message : Octets} (w : UInt16) (long : 4 ≤ message.length) :
    icmp (message.put 2 (ofWord w)) = icmp message := by
  rw [icmp, wordsExcept_put rfl long, icmp]

theorem icmpv6_put {message : Octets} (src dst : Octets) (w : UInt16)
    (long : 4 ≤ message.length) :
    icmpv6 src dst (message.put 2 (ofWord w)) = icmpv6 src dst message := by
  rw [icmpv6, wordsExcept_put rfl long, length_put, icmpv6]

theorem toNat_wordsExcept_le {data : Octets} {field : Nat} (even : field % 2 = 0)
    (fits : field + 2 ≤ data.length) (short : data.length ≤ 65535) :
    (wordsExcept data field).toNat ≤ 65535 * 32768 := by
  have head : (data.take field).length = field := by
    rw [List.length_take]; omega
  have tail : (data.drop (field + 2)).length = data.length - (field + 2) := List.length_drop
  -- Without the field at most 65533 bytes are left, in two strings of whole words.
  have headBound := total_le (data.take field)
  have tailBound := total_le (data.drop (field + 2))
  rw [wordsExcept, UInt32.toNat_add, toNat_words (by omega), toNat_words (by omega)]
  exact Nat.le_trans (Nat.mod_le _ _) (by omega)

/-- Storing the checksum of a message makes the sum over the message and what is counted in front
of it (`base`, the sum of a pseudo-header or zero) all ones. -/
theorem fold_stored {base : UInt32} {data : Octets} {field : Nat} (even : field % 2 = 0)
    (fits : field + 2 ≤ data.length) (short : data.length ≤ 65535)
    (small : base.toNat ≤ 65535 * 32768) :
    fold (base + words (put data field (ofWord (finish (base + wordsExcept data field))))) =
      0xffff := by
  have rest := toNat_wordsExcept_le even fits short
  -- The checksum is counted last; what it is added to has room for it below 2 ^ 32.
  rw [words_put_ofWord even fits, ← UInt32.add_assoc]
  apply fold_add_finish
  rw [UInt32.toNat_add, Nat.mod_eq_of_lt (by omega)]
  omega

theorem fold_stored_zero {data : Octets} {field : Nat} (even : field % 2 = 0)
    (fits : field + 2 ≤ data.length) (short : data.length ≤ 65535) :
    fold (words (put data field (ofWord (finish (wordsExcept data field))))) = 0xffff := by
  have small : (0 : UInt32).toNat ≤ 65535 * 32768 := by decide
  simpa only [UInt32.zero_add] using fold_stored even fits short small

theorem toNat_add_le (a b : UInt32) : (a + b).toNat ≤ a.toNat + b.toNat := by
  rw [UInt32.toNat_add]
  exact Nat.mod_le _ _

theorem toNat_ofNat_le (n : Nat) : (UInt32.ofNat n).toNat ≤ n := by
  rw [UInt32.toNat_ofNat']
  exact Nat.mod_le _ _

theorem toNat_pseudo6_le {src dst : Octets} (srcLength : src.length ≤ 16)
    (dstLength : dst.length ≤ 16) (protocol : UInt8) (length : UInt32) :
    (pseudo6 src dst protocol length).toNat ≤ 65535 * 32768 := by
  have srcBound := total_le src
  have dstBound := total_le dst
  rw [← toNat_words (by omega)] at srcBound dstBound
  have addresses := toNat_add_le (words src) (words dst)
  have high := toNat_ofNat_le (length.toNat / 65536)
  have low := toNat_ofNat_le (length.toNat % 65536)
  have next := toNat_ofNat_le protocol.toNat
  have := protocol.toNat_lt
  have := length.toNat_lt
  refine Nat.le_trans (toNat_add_le _ _) ?_
  refine Nat.le_trans (Nat.add_le_add_right (toNat_add_le _ _) _) ?_
  refine Nat.le_trans (Nat.add_le_add_right (Nat.add_le_add_right (toNat_add_le _ _) _) _) ?_
  omega

/-! ## Sums that do not change -/

theorem pseudo4_comm (src dst : Octets) (protocol : UInt8) (length : UInt16) :
    pseudo4 src dst protocol length = pseudo4 dst src protocol length := by
  rw [pseudo4, UInt32.add_comm (words src), pseudo4]

theorem pseudo6_comm (src dst : Octets) (protocol : UInt8) (length : UInt32) :
    pseudo6 src dst protocol length = pseudo6 dst src protocol length := by
  rw [pseudo6, UInt32.add_comm (words src), pseudo6]

theorem words_exchange_ports {data : Octets} (long : 4 ≤ data.length) :
    words (exchange data 0 2 2) = words data := by
  match data, long with
  | a :: b :: c :: d :: rest, _ =>
    have swapped : exchange (a :: b :: c :: d :: rest) 0 2 2 = c :: d :: a :: b :: rest := rfl
    rw [swapped]
    simp only [words_cons_cons]
    rw [← UInt32.add_assoc, ← UInt32.add_assoc, UInt32.add_comm (UInt32.ofNat (256 * c.toNat + _))]

end Boomerang.Checksum
