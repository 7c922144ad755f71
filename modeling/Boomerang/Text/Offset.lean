/-!
Parts of a text by offsets, which count the octets that its characters take in UTF-8.
-/

set_option autoImplicit false

namespace Boomerang.Text

def width : List Char → Nat
  | [] => 0
  | c :: cs => c.utf8Size + width cs

/-- The text before and after an offset, which has to lie between two characters or at an end. -/
def splitAt? : Nat → List Char → Option (List Char × List Char)
  | 0, cs => some ([], cs)
  | _ + 1, [] => none
  | n + 1, c :: cs =>
    if c.utf8Size ≤ n + 1 then
      (splitAt? (n + 1 - c.utf8Size) cs).map fun (before, after) => (c :: before, after)
    else none

def sliceFrom? (start : Nat) (cs : List Char) : Option (List Char) := (splitAt? start cs).map Prod.snd

def slice? (start stop : Nat) (cs : List Char) : Option (List Char) :=
  ((sliceFrom? start cs).bind (splitAt? (stop - start))).map Prod.fst

end Boomerang.Text
