/-!
Decimal numbers in text, with a sign, a fraction and an exponent as far as there are any. The names
of infinity and of no number count as well.
-/

set_option autoImplicit false

namespace Boomerang.Text.Decimal

def isDigit (c : Char) : Bool := '0' ≤ c && c ≤ '9'

def unsigned : List Char → List Char
  | '+' :: cs => cs
  | '-' :: cs => cs
  | cs => cs

def names : List String := ["inf", "infinity", "nan"]

def isExponent : List Char → Bool
  | [] => true
  | c :: cs => (c = 'e' || c = 'E') && !(unsigned cs).isEmpty && (unsigned cs).all isDigit

/-- A digit before or after the point, and then perhaps an exponent. -/
def isPlain (cs : List Char) : Bool :=
  let whole := cs.takeWhile isDigit
  match cs.drop whole.length with
  | '.' :: rest =>
    let fraction := rest.takeWhile isDigit
    !(whole.isEmpty && fraction.isEmpty) && isExponent (rest.drop fraction.length)
  | rest => !whole.isEmpty && isExponent rest

end Decimal

def isDecimal (cs : List Char) : Bool :=
  Decimal.names.contains (String.ofList ((Decimal.unsigned cs).map Char.toLower)) ||
    Decimal.isPlain (Decimal.unsigned cs)

end Boomerang.Text
