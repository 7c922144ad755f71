import Boomerang.Pattern.Basic

/-!
Sets of characters in brackets. They may hold each other, and two operands in one pair of brackets
may be joined by an operator.
-/

set_option autoImplicit false

namespace Boomerang.Pattern

/-- A set whose brackets are still open: its members, the depth of what stands before its last
operator, and whether nothing but hyphens was read of it. -/
structure OpenSet where
  negated : Bool
  fresh : Bool
  row : Row
  before : Option Nat
  deriving DecidableEq, Repr

namespace OpenSet

def start (negated : Bool) : OpenSet := ⟨negated, true, .empty, none⟩

def push (set : OpenSet) (depth : Nat) : OpenSet :=
  { set with fresh := false, row := set.row.push depth }

def pushFirst (set : OpenSet) (c : Char) : OpenSet :=
  { set with fresh := c = '-', row := set.row.push 0 }

def operate (set : OpenSet) : OpenSet :=
  { set with fresh := false, row := .empty, before := some (Row.joined set.before set.row) }

def depth (set : OpenSet) : Nat := Row.joined set.before set.row + 1

end OpenSet

def setNames : List String :=
  ["alnum", "alpha", "ascii", "blank", "cntrl", "digit", "graph", "lower", "print", "punct",
    "space", "upper", "word", "xdigit"]

def setName? (cs : List Char) : Option (List Char) :=
  let name := cs.takeWhile (· ≠ ':')
  match cs.drop name.length with
  | ':' :: ']' :: rest => if setNames.contains (String.ofList name) then some rest else none
  | _ => none

def namedSet? : List Char → Option (Bool × List Char)
  | ':' :: '^' :: rest => (setName? rest).map fun rest => (true, rest)
  | ':' :: rest => (setName? rest).map fun rest => (false, rest)
  | _ => none

def isAllowedName (s : Switches) (negated : Bool) : Bool := if s.unicode then !s.caseless else !negated

/-- The character that decides whether a hyphen makes a range. At most the start of one comment is
passed over on the way to it. -/
def ahead? (s : Switches) (cs : List Char) : Option Char :=
  if s.spaced then
    match cs.dropWhile Text.isBlank with
    | '#' :: rest => (rest.dropWhile Text.isBlank).head?
    | rest => rest.head?
  else cs.head?

def bound? (s : Switches) : List Char → Option (Atom × List Char)
  | [] => none
  | '\\' :: rest => escape? s rest
  | c :: rest => some (.char c false, rest)

def isRange (s : Switches) (first last : Atom) : Bool :=
  match first, last with
  | .char a _, .char b _ => a ≤ b && first.isMember s && last.isMember s
  | _, _ => false

def member? (s : Switches) (cs : List Char) : Option (List Char) :=
  (bound? s cs).bind fun (first, rest) =>
    let alone := if first.isMember s then some rest else none
    match s.skip rest with
    | '-' :: after =>
      if ahead? s after = some ']' || ahead? s after = some '-' then alone
      else (bound? s (s.skip after)).bind fun (last, rest) =>
        if isRange s first last then some rest else none
    | _ => alone

def openSet (s : Switches) (cs : List Char) : OpenSet × List Char :=
  match s.skip cs with
  | '^' :: rest => (.start true, rest)
  | rest => (.start false, rest)

/-- Reads on in a set that lies in others, up to the bracket that closes the outermost one. Gives
the depth of that one, and the rest of the text. -/
def setFrom? (s : Switches) : Nat → OpenSet → List OpenSet → List Char → Option (Nat × List Char)
  | 0, _, _, _ => none
  | fuel + 1, set, outer, cs =>
    match s.skip cs with
    | [] => none
    | c :: rest =>
      if set.fresh && (c = '-' || (c = ']' && set.row.count = 0)) then
        if (Atom.char c false).isMember s then setFrom? s fuel (set.pushFirst c) outer rest else none
      else if c = ']' then
        if set.negated && !s.unicode then none
        else
          match outer with
          | [] => some (set.depth, rest)
          | parent :: outer => setFrom? s fuel (parent.push set.depth) outer rest
      else if c = '[' then
        match namedSet? rest with
        | some (negated, rest) =>
          if isAllowedName s negated then setFrom? s fuel (set.push 0) outer rest else none
        | none =>
          let (inner, rest) := openSet s rest
          setFrom? s fuel inner (set :: outer) rest
      else if (c = '&' || c = '-' || c = '~') && rest.head? = some c then
        setFrom? s fuel set.operate outer rest.tail
      else (member? s (c :: rest)).bind fun rest => setFrom? s fuel (set.push 0) outer rest

def set? (s : Switches) (cs : List Char) : Option (Nat × List Char) :=
  let (set, rest) := openSet s cs
  setFrom? s (rest.length + 1) set [] rest

end Boomerang.Pattern
