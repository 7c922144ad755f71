import Boomerang.Text.Number

/-!
The tokens of a document. The scanner goes through the text once, character by character; its mode
says where it stands. Between tokens it skips the four blanks of the format, and it refuses control
characters and halves of surrogate pairs in strings.
-/

set_option autoImplicit false

namespace Boomerang.Document

inductive Token where
  | openBracket
  | closeBracket
  | openBrace
  | closeBrace
  | comma
  | colon
  | null
  | bool (value : Bool)
  | integer (value : Int)
  | text (value : String)
  deriving DecidableEq, Repr

namespace Token

def digits? : List Char → Option Nat
  | ['0'] => some 0
  | '0' :: _ => none
  | cs => Text.digits? 10 cs

def integer? : List Char → Option Int
  | '-' :: cs => ((digits? cs).filter (· != 0)).map fun n => -(n : Int)
  | cs => (digits? cs).map fun n => (n : Int)

/-- Literals and numbers. Minus zero and whatever has a fraction or an exponent are no integers. -/
def ofWord? (cs : List Char) : Option Token :=
  if cs = ['n', 'u', 'l', 'l'] then some .null
  else if cs = ['t', 'r', 'u', 'e'] then some (.bool true)
  else if cs = ['f', 'a', 'l', 's', 'e'] then some (.bool false)
  else (integer? cs).map .integer

def ofMark? (c : Char) : Option Token :=
  if c = '[' then some .openBracket
  else if c = ']' then some .closeBracket
  else if c = '\x7b' then some .openBrace
  else if c = '\x7d' then some .closeBrace
  else if c = ',' then some .comma
  else if c = ':' then some .colon
  else none

def isBlank (c : Char) : Bool := c = ' ' || c = '\t' || c = '\n' || c = '\r'

/-- Where the scanner stands. What was read of a word or string is kept in reverse; `high` is the
first half of a surrogate pair whose second half has to follow. -/
inductive Mode where
  | between
  | word (done : List Char)
  | string (done : List Char) (high : Option Nat)
  | escape (done : List Char) (high : Option Nat)
  | unit (done : List Char) (high : Option Nat) (digits : List Char)

def isHigh (unit : Nat) : Bool := 0xd800 ≤ unit && unit < 0xdc00

def isLow (unit : Nat) : Bool := 0xdc00 ≤ unit && unit < 0xe000

def paired (high low : Nat) : Char :=
  Char.ofNat (0x10000 + (high - 0xd800) * 0x400 + (low - 0xdc00))

def Mode.afterUnit? (done : List Char) (high : Option Nat) (unit : Nat) : Option Mode :=
  match high with
  | some first => if isLow unit then some (.string (paired first unit :: done) none) else none
  | none =>
    if isHigh unit then some (.string done (some unit))
    else if isLow unit then none
    else some (.string (Char.ofNat unit :: done) none)

def escaped? (c : Char) : Option Char :=
  if c = '"' then some '"'
  else if c = '\\' then some '\\'
  else if c = '/' then some '/'
  else if c = 'b' then some '\x08'
  else if c = 'f' then some '\x0c'
  else if c = 'n' then some '\n'
  else if c = 'r' then some '\r'
  else if c = 't' then some '\t'
  else none

def Mode.begin (c : Char) : Mode × List Token :=
  if isBlank c then (.between, [])
  else if c = '"' then (.string [] none, [])
  else
    match ofMark? c with
    | some t => (.between, [t])
    | none => (.word [c], [])

/-- Reads one character, which completes the tokens given. -/
def Mode.step? (m : Mode) (c : Char) : Option (Mode × List Token) :=
  match m with
  | .between => some (Mode.begin c)
  | .word done =>
    if isBlank c || c = '"' || (ofMark? c).isSome then
      (ofWord? done.reverse).map fun t => ((Mode.begin c).1, t :: (Mode.begin c).2)
    else some (.word (c :: done), [])
  | .string done high =>
    if c = '\\' then some (.escape done high, [])
    else if high.isSome || c.toNat < 0x20 then none
    else if c = '"' then some (.between, [.text (String.ofList done.reverse)])
    else some (.string (c :: done) none, [])
  | .escape done high =>
    if c = 'u' then some (.unit done high [], [])
    else if high.isSome then none
    else (escaped? c).map fun e => (.string (e :: done) none, [])
  | .unit done high digits =>
    if digits.length < 3 then some (.unit done high (digits ++ [c]), [])
    else (Text.digits? 16 (digits ++ [c])).bind fun unit =>
      (Mode.afterUnit? done high unit).map fun m => (m, [])

def Mode.finish? : Mode → Option (List Token)
  | .between => some []
  | .word done => (ofWord? done.reverse).map fun t => [t]
  | _ => none

def scanFrom? (m : Mode) (done : List Token) : List Char → Option (List Token)
  | [] => m.finish?.map fun last => done.reverse ++ last
  | c :: rest =>
    match m.step? c with
    | none => none
    | some (m, tokens) => scanFrom? m (tokens.reverse ++ done) rest

def scan? (cs : List Char) : Option (List Token) := scanFrom? .between [] cs

end Token

end Boomerang.Document
