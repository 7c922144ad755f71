import Boomerang.Pattern.Set
import Boomerang.Text.Alphabetic
import Boomerang.Text.Numeric

/-!
Which texts are patterns. The reader goes through the text once; groups that are still open wait on
a stack. A number of repetitions in braces is never complete, since a closing brace ends the field
that the pattern belongs to; so an opening brace has to be escaped.
-/

set_option autoImplicit false

namespace Boomerang.Pattern

/-- Where the reader stands: the switches, the row that is being read, the depth of the alternatives
before it, the names of groups so far, and the groups that are open, each with what to go back to. -/
structure Progress where
  switches : Switches
  row : Row
  before : Option Nat
  names : List (List Char)
  outer : List (Switches × Row × Option Nat)

namespace Progress

def start : Progress := ⟨{}, .empty, none, [], []⟩

def push (p : Progress) (depth : Nat) : Progress := { p with row := p.row.push depth }

def depth (p : Progress) : Nat := Row.joined p.before p.row

def enter (p : Progress) (s : Switches) : Progress :=
  { p with switches := s, row := .empty, before := none,
           outer := (p.switches, p.row, p.before) :: p.outer }

def leave? (p : Progress) : Option Progress :=
  match p.outer with
  | [] => none
  | (s, row, before) :: outer =>
    some { p with switches := s, row := row.push (p.depth + 1), before := before, outer := outer }

def alternate (p : Progress) : Progress :=
  { p with row := .empty, before := some (max (p.before.getD 0) p.row.total) }

end Progress

def switchLetters : List Char := ['i', 'm', 's', 'U', 'u', 'R', 'x']

/-- Letters switch on before a hyphen and off after it. None may come twice, and the hyphen may
not come last. -/
def isSwitching (letters : List Char) : Bool :=
  letters.all (fun c => c = '-' || switchLetters.contains c) && decide letters.Nodup &&
    letters.getLast? ≠ some '-'

def Switches.switched (s : Switches) (letters : List Char) : Switches :=
  let on := letters.takeWhile (· ≠ '-')
  let off := letters.drop on.length
  let value := fun (letter : Char) (old : Bool) =>
    on.contains letter || (old && !off.contains letter)
  ⟨value 'i' s.caseless, value 'u' s.unicode, value 'x' s.spaced⟩

def isGroupName : List Char → Bool
  | [] => false
  | c :: cs =>
    (c = '_' || Text.isAlphabetic c) && cs.all fun c =>
      c = '_' || c = '.' || c = '[' || c = ']' || Text.isAlphabetic c || Text.isNumeric c

namespace Progress

def enterNamed? (p : Progress) (cs : List Char) : Option (Progress × List Char) :=
  let name := cs.takeWhile (· ≠ '>')
  match cs.drop name.length with
  | '>' :: rest =>
    if isGroupName name && !p.names.contains name then
      some ({ p.enter p.switches with names := name :: p.names }, rest)
    else none
  | _ => none

def switch? (p : Progress) (cs : List Char) : Option (Progress × List Char) :=
  let letters := cs.takeWhile fun c => c ≠ ':' && c ≠ ')'
  let s := p.switches.switched letters
  if isSwitching letters then
    match cs.drop letters.length with
    | ':' :: rest => some (p.enter s, rest)
    | ')' :: rest =>
      if letters.isEmpty then none
      else some ({ p with switches := s, row := p.row.pushSwitches }, rest)
    | _ => none
  else none

def group? (p : Progress) (cs : List Char) : Option (Progress × List Char) :=
  match p.switches.skip cs with
  | '?' :: 'P' :: '<' :: rest => p.enterNamed? rest
  | '?' :: '<' :: rest => p.enterNamed? rest
  | '?' :: rest => p.switch? rest
  | rest => some (p.enter p.switches, rest)

def repeat? (p : Progress) (cs : List Char) : Option (Progress × List Char) :=
  p.row.repeat?.map fun row => ({ p with row := row }, if cs.head? = some '?' then cs.tail else cs)

def atom? (p : Progress) (atom : Atom) : Option Progress :=
  if atom.isAllowed p.switches then some (p.push 0) else none

def step? (p : Progress) (c : Char) (rest : List Char) : Option (Progress × List Char) :=
  if c = '(' then p.group? rest
  else if c = ')' then p.leave?.map fun p => (p, rest)
  else if c = '|' then some (p.alternate, rest)
  else if c = '[' then (set? p.switches rest).map fun (depth, rest) => (p.push depth, rest)
  else if c = '?' || c = '*' || c = '+' then p.repeat? rest
  else if c = '\x7b' then none
  else if c = '\\' then
    (escape? p.switches rest).bind fun (atom, rest) => (p.atom? atom).map fun p => (p, rest)
  else if c = '.' then (p.atom? .any).map fun p => (p, rest)
  else if c = '^' || c = '$' then (p.atom? .edge).map fun p => (p, rest)
  else (p.atom? (.char c false)).map fun p => (p, rest)

/-- Reads to the end of the text; every step takes at least one character of it. -/
def readFrom? : Nat → Progress → List Char → Option Progress
  | 0, _, _ => none
  | fuel + 1, p, cs =>
    match p.switches.skip cs with
    | [] => some p
    | c :: rest => (p.step? c rest).bind fun (p, rest) => readFrom? fuel p rest

end Progress

def maxDepth : Nat := 250

def isPattern (cs : List Char) : Bool :=
  match Progress.readFrom? (cs.length + 1) .start cs with
  | some p => p.outer.isEmpty && p.depth ≤ maxDepth
  | none => false

end Boomerang.Pattern
