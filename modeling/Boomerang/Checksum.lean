import Boomerang.Octets

/-!
Internet checksum arithmetic (RFC 1071). A partial sum is a 32-bit number that adds up big-endian
16-bit words; it is folded and complemented once, at the end. `pseudo4` and `pseudo6` are the sums
of the pseudo-headers in front of IPv4 and IPv6 messages.
-/

set_option autoImplicit false

namespace Boomerang.Checksum

open Octets

def wordsFrom (sum : UInt32) : Octets → UInt32
  | [] => sum
  | [last] => sum + UInt32.ofNat (256 * last.toNat)
  | hi :: lo :: rest => wordsFrom (sum + UInt32.ofNat (256 * hi.toNat + lo.toNat)) rest

def words (data : Octets) : UInt32 := wordsFrom 0 data

theorem wordsFrom_eq (sum : UInt32) (data : Octets) : wordsFrom sum data = sum + words data := by
  suffices h : ∀ a b : UInt32, wordsFrom (a + b) data = a + wordsFrom b data by
    simpa [words] using h sum 0
  intro a b
  fun_induction wordsFrom b data with
  | case1 => rfl
  | case2 => simp [wordsFrom, UInt32.add_assoc]
  | case3 b hi lo rest ih => rw [wordsFrom, UInt32.add_assoc, ih]

@[simp] theorem words_nil : words [] = 0 := rfl

theorem words_singleton (last : UInt8) : words [last] = UInt32.ofNat (256 * last.toNat) := by
  simp [words, wordsFrom]

theorem words_cons_cons (hi lo : UInt8) (rest : Octets) :
    words (hi :: lo :: rest) = UInt32.ofNat (256 * hi.toNat + lo.toNat) + words rest := by
  rw [words, wordsFrom, wordsFrom_eq, UInt32.zero_add]

/-- Carries are added back into the low sixteen bits until none is left. -/
def fold (sum : UInt32) : UInt16 :=
  if h : 65535 < sum.toNat then fold (UInt32.ofNat (sum.toNat / 65536 + sum.toNat % 65536))
  else UInt16.ofNat sum.toNat
termination_by sum.toNat
decreasing_by
  have := sum.toNat_lt
  have : 1 ≤ sum.toNat / 65536 := by omega
  rw [UInt32.toNat_ofNat', Nat.mod_eq_of_lt (by omega)]; omega

def finish (sum : UInt32) : UInt16 := ~~~ fold sum

def internet (data : Octets) : UInt16 := finish (words data)

/-- The sum of `data` with the two bytes at `field` counted as zero. -/
def wordsExcept (data : Octets) (field : Nat) : UInt32 :=
  words (data.take field) + words (data.drop (field + 2))

def ipv4Header (header : Octets) : UInt16 := finish (wordsExcept header 10)

def pseudo4 (src dst : Octets) (protocol : UInt8) (length : UInt16) : UInt32 :=
  words src + words dst + UInt32.ofNat protocol.toNat + UInt32.ofNat length.toNat

def pseudo6 (src dst : Octets) (protocol : UInt8) (length : UInt32) : UInt32 :=
  words src + words dst + UInt32.ofNat (length.toNat / 65536) + UInt32.ofNat (length.toNat % 65536)
    + UInt32.ofNat protocol.toNat

def icmp (message : Octets) : UInt16 := finish (wordsExcept message 2)

def icmpv6 (src dst message : Octets) : UInt16 :=
  finish (pseudo6 src dst 58 (UInt32.ofNat message.length) + wordsExcept message 2)

/-- Zero on the wire means that a UDP datagram has no checksum, so a computed zero is sent as its
other form. -/
def nonzero (sum : UInt16) : UInt16 := if sum = 0 then 0xffff else sum

def udp4 (src dst datagram : Octets) : UInt16 :=
  nonzero (finish (pseudo4 src dst 17 (UInt16.ofNat datagram.length) + wordsExcept datagram 6))

def udp6 (src dst datagram : Octets) : UInt16 :=
  nonzero (finish (pseudo6 src dst 17 (UInt32.ofNat datagram.length) + wordsExcept datagram 6))

theorem nonzero_ne_zero (sum : UInt16) : nonzero sum ≠ 0 := by
  unfold nonzero; split
  · decide
  · assumption

end Boomerang.Checksum
