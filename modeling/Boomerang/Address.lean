import Boomerang.Octets

/-!
Hardware and network addresses: a fixed number of octets, and their text. IPv6 text replaces the
first longest run of at least two zero groups by `::` and shows the last four octets of an
IPv4-mapped address in dotted form.
-/

set_option autoImplicit false

namespace Boomerang

structure Address (size : Nat) where
  octets : Octets
  size_eq : octets.length = size
  deriving DecidableEq, Repr

abbrev Mac := Address 6
abbrev Ipv4 := Address 4
abbrev Ipv6 := Address 16

namespace Address

def ofOctets? (size : Nat) (octets : Octets) : Option (Address size) :=
  if h : octets.length = size then some ⟨octets, h⟩ else none

def mac (a b c d e f : UInt8) : Mac := ⟨[a, b, c, d, e, f], rfl⟩

def zero (size : Nat) : Address size := ⟨Octets.zeros size, by simp⟩

def hex (n : Nat) : String := String.ofList (Nat.toDigits 16 n)

def hexPadded (width n : Nat) : String :=
  let digits := Nat.toDigits 16 n
  String.ofList (List.replicate (width - digits.length) '0' ++ digits)

/-- Two hexadecimal digits for each octet, joined by hyphens. -/
def macText (octets : Octets) : String :=
  "-".intercalate (octets.map fun b => hexPadded 2 b.toNat)

def ipv4Text (octets : Octets) : String :=
  ".".intercalate (octets.map fun b => toString b.toNat)

def groups : Octets → List Nat
  | hi :: lo :: rest => (256 * hi.toNat + lo.toNat) :: groups rest
  | _ => []

def zeroRun : List Nat → Nat
  | 0 :: rest => zeroRun rest + 1
  | _ => 0

/-- Start and length of the first longest run of zeros; positions count from `start`. -/
def longestZeroRun (start : Nat) : List Nat → Nat × Nat
  | [] => (start, 0)
  | group :: rest =>
    let later := longestZeroRun (start + 1) rest
    let here := zeroRun (group :: rest)
    if later.2 ≤ here then (start, here) else later

def ipv6Text (octets : Octets) : String :=
  if octets.take 12 = [0, 0, 0, 0, 0, 0, 0, 0, 0, 0, 255, 255] then
    "::ffff:" ++ ipv4Text (octets.drop 12)
  else
    let all := groups octets
    let join := fun part => ":".intercalate (part.map hex)
    let run := longestZeroRun 0 all
    if 2 ≤ run.2 then join (all.take run.1) ++ "::" ++ join (all.drop (run.1 + run.2)) else join all

end Address

end Boomerang
