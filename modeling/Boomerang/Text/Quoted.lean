import Boomerang.Text.GraphemeExtend
import Boomerang.Text.Unprintable

/-!
Text in double quotes, as messages show what they were given. Quote, backslash and the usual
controls are escaped by a backslash; other characters that would not show by themselves are written
by their number.
-/

set_option autoImplicit false

namespace Boomerang.Text

def hexDigits (n : Nat) : List Char := Nat.toDigits 16 n

/-- The fillers of Hangul are letters without a shape. -/
def isFiller (c : Char) : Bool :=
  c.toNat = 0x115f || c.toNat = 0x1160 || c.toNat = 0x3164 || c.toNat = 0xffa0

/-- The halfwidth voicing marks extend the character before them, but have a width of their own. -/
def isVoicingMark (c : Char) : Bool := c.toNat = 0xff9e || c.toNat = 0xff9f

def isHidden (c : Char) : Bool :=
  (isGraphemeExtend c && !isVoicingMark c) || isFiller c || isUnprintable c

def quotedChar (c : Char) : List Char :=
  if c = '"' then ['\\', '"']
  else if c = '\\' then ['\\', '\\']
  else if c = '\n' then ['\\', 'n']
  else if c = '\r' then ['\\', 'r']
  else if c = '\t' then ['\\', 't']
  else if c = '\x00' then ['\\', '0']
  else if isHidden c then ['\\', 'u', '\x7b'] ++ hexDigits c.toNat ++ ['\x7d']
  else [c]

def quoted (s : String) : String := String.ofList ('"' :: s.toList.flatMap quotedChar ++ ['"'])

end Boomerang.Text
