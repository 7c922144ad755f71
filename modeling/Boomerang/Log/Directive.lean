import Boomerang.Log
import Boomerang.Pattern.Reader
import Boomerang.Text.Decimal
import Boomerang.Text.Offset
import Boomerang.Text.Split

/-!
Directives of a log filter: how much is written, for all events, for a target, or for events with a
certain field.

A directive is read without the blanks around it, but its parts are cut out of the text with them, at
the same offsets. So blanks before a directive shift its parts, and an offset can come to lie within
a character.
-/

set_option autoImplicit false

namespace Boomerang.Log

abbrev Verbosity := Fin 6

def Level.verbosity : Level → Verbosity
  | .error => 1
  | .warn => 2
  | .info => 3
  | .debug => 4

/-- Covers the events of all targets that begin with `target` if they have the field. Directives for
spans, or for values of fields in them, never cover anything, because no event lies in a span. -/
structure Directive where
  target : List Char
  field : Option (List Char)
  forSpans : Bool
  verbosity : Verbosity
  deriving DecidableEq, Repr

inductive Flaw where
  | malformed
  | torn
  deriving DecidableEq, Repr

namespace Verbosity

def everything : Verbosity := 5

def names : List (String × Verbosity) :=
  [("off", 0), ("error", 1), ("warn", 2), ("info", 3), ("debug", 4), ("trace", 5)]

def ofText? (cs : List Char) : Option Verbosity :=
  match Text.natural? 10 Text.limit64 cs with
  | some n => if h : n < 6 then some ⟨n, h⟩ else none
  | none => names.lookup (String.ofList (cs.map Char.toLower))

/-- The verbosity after an equals sign, from an offset on; none written there means everything. -/
def ofRest (text : List Char) (start : Nat) : Except Flaw Verbosity :=
  match Text.sliceFrom? start text with
  | none => .error .torn
  | some [] => .ok everything
  | some cs =>
    match ofText? cs with
    | some v => .ok v
    | none => .error .malformed

end Verbosity

namespace Directive

/-- A directive begins with a letter or a digit of any script, with one of three marks, or with a
bracket. -/
def isFirst (c : Char) : Bool :=
  c = '-' || c = ':' || c = '_' || Text.isAlphabetic c || Text.isNumeric c

def cut (text : List Char) (start stop : Nat) : Except Flaw (List Char) :=
  match Text.slice? start stop text with
  | some cs => .ok cs
  | none => .error .torn

def isValue (cs : List Char) : Bool := Text.isDecimal cs || Pattern.isPattern cs

/-- The name of a field, and whether it comes with a value, after an equals sign. What follows a
second equals sign is left out. -/
def field? (cs : List Char) : Option (List Char × Bool) :=
  match cs, Text.pieces (fun c => c = '=') cs with
  | [], _ => none
  | _, name :: value :: _ => if isValue value then some (name, true) else none
  | _, _ => some (cs, false)

def afterBrackets (text : List Char) (stop : Nat) : List Char → Except Flaw Verbosity
  | [] => .ok Verbosity.everything
  | '=' :: _ => Verbosity.ofRest text (stop + 1)
  | _ => .error .malformed

def braces (text target : List Char) (forSpans : Bool) (start : Nat) (cs : List Char) :
    Except Flaw Directive := do
  let shown := cs.takeWhile (· ≠ '\x7d')
  let stop := start + Text.width shown
  match cs.drop shown.length with
  | '\x7d' :: rest =>
    match field? (← cut text start stop), rest with
    | some (name, hasValue), ']' :: rest =>
      let v ← afterBrackets text (stop + 2) rest
      return ⟨target, some name, forSpans || hasValue, v⟩
    | _, _ => .error .malformed
  | _ => .error .malformed

def brackets (text target : List Char) (start : Nat) (cs : List Char) : Except Flaw Directive := do
  let shown := cs.takeWhile fun c => c ≠ ']' && c ≠ '\x7b'
  let stop := start + Text.width shown
  match cs.drop shown.length with
  | ']' :: rest =>
    let _ ← cut text start stop
    let v ← afterBrackets text (stop + 1) rest
    return ⟨target, none, true, v⟩
  | '\x7b' :: rest =>
    let span ← cut text start stop
    braces text target (!span.isEmpty) (stop + 1) rest
  | _ => .error .malformed

def ofWord (text : List Char) : Directive :=
  match Verbosity.ofText? text with
  | some v => ⟨[], none, false, v⟩
  | none => ⟨text, none, false, Verbosity.everything⟩

def ofText (text : List Char) : Except Flaw Directive := do
  match Text.trim text with
  | [] => .error .malformed
  | '[' :: rest => brackets text [] 1 rest
  | c :: rest =>
    let shown := (c :: rest).takeWhile fun c => c ≠ '=' && c ≠ '['
    let stop := Text.width shown
    if !isFirst c then .error .malformed
    else
      match (c :: rest).drop shown.length with
      | '=' :: _ =>
        let target ← cut text 0 stop
        let v ← Verbosity.ofRest text (stop + 1)
        return ⟨target, none, false, v⟩
      | '[' :: rest =>
        let target ← cut text 0 stop
        brackets text target (stop + 1) rest
      | _ => return ofWord text

def covers (d : Directive) (target : String) (e : Event) : Bool :=
  !d.forSpans && d.target.isPrefixOf target.toList &&
    d.field.all fun field => ("message" :: e.fields.map Prod.fst).contains (String.ofList field)

/-- Longer targets are more specific, with equal targets those with a field, and of two fields the
one whose name comes later in the order of characters. -/
def noMoreSpecific (a b : Directive) : Bool :=
  a.target.length < b.target.length ||
    (a.target.length = b.target.length &&
      match a.field, b.field with
      | none, _ => true
      | some _, none => false
      | some x, some y => !decide (y < x))

end Directive

end Boomerang.Log
