import Boomerang.Octets

/-!
Text in octets, and back.
-/

set_option autoImplicit false

namespace Boomerang.Text

def decode? (data : Octets) : Option String := String.fromUTF8? ⟨data.toArray⟩

def encode (s : String) : Octets := s.toUTF8.toList

end Boomerang.Text
