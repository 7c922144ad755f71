import Boomerang.Address
import Boomerang.Text.Number
import Boomerang.Text.Split

/-!
Hardware addresses as users write them: six groups of two characters, separated by single colons or
hyphens in any mix. A group is a number in base sixteen, and like any number it may have a plus
sign.
-/

set_option autoImplicit false

namespace Boomerang.Mac

def isSeparator (c : Char) : Bool := c = ':' || c = '-'

def group? (cs : List Char) : Option UInt8 :=
  if cs.length = 2 then (Text.natural? 16 256 cs).map UInt8.ofNat else none

def ofText? (s : String) : Option Mac :=
  ((Text.pieces isSeparator s.toList).mapM group?).bind (Address.ofOctets? 6)

end Boomerang.Mac
