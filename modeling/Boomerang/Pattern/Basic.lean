import Boomerang.Text.Blank
import Boomerang.Text.Number

/-!
Patterns: regular expressions for the values of fields. Here nothing is matched with them; what
counts is which texts are patterns. Properties of characters beyond ASCII cannot be used in them,
and they only match well-formed text.
-/

set_option autoImplicit false

namespace Boomerang.Pattern

structure Switches where
  caseless : Bool := false
  unicode : Bool := true
  spaced : Bool := false
  deriving DecidableEq, Repr

def dropSpace (inComment : Bool) : List Char → List Char
  | [] => []
  | c :: cs =>
    if inComment then dropSpace (c ≠ '\n') cs
    else if Text.isBlank c then dropSpace false cs
    else if c = '#' then dropSpace true cs
    else c :: cs

def Switches.skip (s : Switches) (cs : List Char) : List Char :=
  if s.spaced then dropSpace false cs else cs

/-- The smallest parts of a pattern. A character is kept with whether it was written by the number
of one octet; a shorthand is one of the classes for digits, blanks and words. -/
inductive Atom where
  | char (c : Char) (byOctet : Bool)
  | any
  | edge
  | boundary
  | shorthand (negated : Bool)
  deriving DecidableEq, Repr

namespace Atom

/-- Ignoring cases takes properties of characters, and so do the shorthands and the boundaries of
words unless octets are matched. Then again nothing may match a part of a character. -/
def isAllowed (s : Switches) : Atom → Bool
  | .char c byOctet => if s.unicode then !s.caseless else !byOctet || c.toNat < 0x80
  | .any => s.unicode
  | .edge => true
  | .boundary => !s.unicode
  | .shorthand negated => !s.unicode && !negated

/-- Sets hold characters and shorthands, and sets of octets only those of ASCII. -/
def isMember (s : Switches) : Atom → Bool
  | .char c _ => if s.unicode then !s.caseless else c.toNat < 0x80
  | .shorthand negated => !s.unicode && !negated
  | _ => false

end Atom

def codeLength? (c : Char) : Option Nat :=
  if c = 'x' then some 2 else if c = 'u' then some 4 else if c = 'U' then some 8 else none

def code? (s : Switches) (high : Nat) : Nat → List Char → Option (Nat × List Char)
  | 0, cs => some (high, cs)
  | n + 1, cs =>
    match s.skip cs with
    | [] => none
    | c :: rest => (Text.digit? 16 c).bind fun d => code? s (16 * high + d) n rest

def isEscapable (c : Char) : Bool := c.toNat < 0x80 && !c.isAlphanum && c ≠ '<' && c ≠ '>'

def special? (c : Char) : Option Atom :=
  if c = 'a' then some (.char '\x07' false)
  else if c = 'f' then some (.char '\x0c' false)
  else if c = 't' then some (.char '\t' false)
  else if c = 'n' then some (.char '\n' false)
  else if c = 'r' then some (.char '\r' false)
  else if c = 'v' then some (.char '\x0b' false)
  else if c = 'A' || c = 'z' then some .edge
  else if c = 'b' || c = 'B' || c = '<' || c = '>' then some .boundary
  else if c = 'd' || c = 's' || c = 'w' then some (.shorthand false)
  else if c = 'D' || c = 'S' || c = 'W' then some (.shorthand true)
  else none

def escape? (s : Switches) : List Char → Option (Atom × List Char)
  | [] => none
  | c :: rest =>
    match codeLength? c with
    | some length =>
      (code? s 0 length rest).bind fun (n, rest) =>
        if n.isValidChar then some (.char (Char.ofNat n) (c = 'x'), rest) else none
    | none =>
      if isEscapable c then some (.char c false, rest)
      else (special? c).map fun atom => (atom, rest)

/-- Parts in a row: how many there are, how deep the deepest of them is, and how deep the last one
is if it may be repeated. -/
structure Row where
  count : Nat
  depth : Nat
  last : Option Nat
  deriving DecidableEq, Repr

namespace Row

def empty : Row := ⟨0, 0, none⟩

def push (r : Row) (depth : Nat) : Row := ⟨r.count + 1, max r.depth depth, some depth⟩

def pushSwitches (r : Row) : Row := ⟨r.count + 1, r.depth, none⟩

def repeat? (r : Row) : Option Row :=
  r.last.map fun depth => ⟨r.count, max r.depth (depth + 1), some (depth + 1)⟩

def total (r : Row) : Nat := if r.count < 2 then r.depth else r.depth + 1

def joined (before : Option Nat) (r : Row) : Nat :=
  match before with
  | none => r.total
  | some depth => max depth r.total + 1

end Row

end Boomerang.Pattern
