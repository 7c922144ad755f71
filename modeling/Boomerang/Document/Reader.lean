import Boomerang.Document.Basic
import Boomerang.Document.Token

/-!
Documents from their text. The tokens are taken one after the other; containers that are still open
wait on a stack, which has a limited height.
-/

set_option autoImplicit false

namespace Boomerang.Document

inductive Open where
  | array (items : List Document)
  | object (members : List (String × Document)) (key : String)

inductive Expecting where
  | value
  | valueOrClose
  | key (members : List (String × Document))
  | keyOrClose
  | colon (members : List (String × Document)) (key : String)
  | next (complete : Document)

structure Partial where
  stack : List Open
  expecting : Expecting

namespace Partial

/-- At most this many containers may lie in each other. -/
def maxDepth : Nat := 127

def start : Partial := ⟨[], .value⟩

def value? (stack : List Open) (t : Token) : Option Partial :=
  match t with
  | .null => some ⟨stack, .next .null⟩
  | .bool value => some ⟨stack, .next (.bool value)⟩
  | .integer value => some ⟨stack, .next (.integer value)⟩
  | .text value => some ⟨stack, .next (.text value)⟩
  | .openBracket =>
    if stack.length < maxDepth then some ⟨.array [] :: stack, .valueOrClose⟩ else none
  | .openBrace => if stack.length < maxDepth then some ⟨stack, .keyOrClose⟩ else none
  | _ => none

def key? (stack : List Open) (members : List (String × Document)) (t : Token) : Option Partial :=
  match t with
  | .text key => some ⟨stack, .colon members key⟩
  | _ => none

def step? (p : Partial) (t : Token) : Option Partial :=
  match p.expecting with
  | .value => value? p.stack t
  | .valueOrClose =>
    if t = .closeBracket then some ⟨p.stack.tail, .next (.array [])⟩ else value? p.stack t
  | .key members => key? p.stack members t
  | .keyOrClose => if t = .closeBrace then some ⟨p.stack, .next (.object [])⟩ else key? p.stack [] t
  | .colon members key => if t = .colon then some ⟨.object members key :: p.stack, .value⟩ else none
  | .next d =>
    match p.stack, t with
    | .array items :: rest, .comma => some ⟨.array (d :: items) :: rest, .value⟩
    | .array items :: rest, .closeBracket => some ⟨rest, .next (.array (d :: items).reverse)⟩
    | .object members key :: rest, .comma => some ⟨rest, .key ((key, d) :: members)⟩
    | .object members key :: rest, .closeBrace =>
      some ⟨rest, .next (.object ((key, d) :: members).reverse)⟩
    | _, _ => none

def finished? (p : Partial) : Option Document :=
  match p.stack, p.expecting with
  | [], .next d => some d
  | _, _ => none

end Partial

def ofTokens? (tokens : List Token) : Option Document :=
  (tokens.foldlM Partial.step? Partial.start).bind Partial.finished?

def ofText? (s : String) : Option Document := (Token.scan? s.toList).bind ofTokens?

end Boomerang.Document
