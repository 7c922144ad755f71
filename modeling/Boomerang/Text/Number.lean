/-!
Integers in text: digits of a base, after a plus sign or, for signed numbers, a minus sign.
Nothing else may stand there, and the value has to be in range.
-/

set_option autoImplicit false

namespace Boomerang.Text

def digit? (base : Nat) (c : Char) : Option Nat :=
  let value :=
    if '0' ≤ c ∧ c ≤ '9' then some (c.toNat - 48)
    else if 'a' ≤ c ∧ c ≤ 'f' then some (c.toNat - 87)
    else if 'A' ≤ c ∧ c ≤ 'F' then some (c.toNat - 55)
    else none
  value.filter (· < base)

/-- The value of a text of digits, after those read into `high`. -/
def digitsFrom? (base high : Nat) : List Char → Option Nat
  | [] => some high
  | c :: rest => (digit? base c).bind fun d => digitsFrom? base (base * high + d) rest

def digits? (base : Nat) : List Char → Option Nat
  | [] => none
  | cs => digitsFrom? base 0 cs

def natural? (base limit : Nat) (cs : List Char) : Option Nat :=
  let value := match cs with
    | '+' :: rest => digits? base rest
    | _ => digits? base cs
  value.filter (· < limit)

/-- A signed decimal number of `bits` bits. -/
def integer? (bits : Nat) (cs : List Char) : Option Int :=
  let value : Option Int := match cs with
    | '-' :: rest => (digits? 10 rest).map fun n => -(n : Int)
    | '+' :: rest => (digits? 10 rest).map fun n => (n : Int)
    | _ => (digits? 10 cs).map fun n => (n : Int)
  let limit : Nat := 1 <<< (bits - 1)
  value.filter fun n => decide (-Int.ofNat limit ≤ n ∧ n < Int.ofNat limit)

def limit64 : Nat := UInt64.size

end Boomerang.Text
