import Boomerang.Text.Number

/-!
JSON documents as settings use them: their numbers are integers. A record is written as an object
with some of its fields, or as an array of its first fields in order; it is read as the list of the
fields that it gives.
-/

set_option autoImplicit false

namespace Boomerang

inductive Document where
  | null
  | bool (value : Bool)
  | integer (value : Int)
  | text (value : String)
  | array (items : List Document)
  | object (members : List (String × Document))

namespace Document

def bool? : Document → Option Bool
  | .bool value => some value
  | _ => none

def text? : Document → Option String
  | .text value => some value
  | _ => none

/-- An integer that is at least zero and below a limit. -/
def natural? (limit : Nat) : Document → Option Nat
  | .integer value => if 0 ≤ value ∧ value < limit then some value.toNat else none
  | _ => none

def int32? : Document → Option Int32
  | .integer value =>
    if Int32.minValue.toInt ≤ value ∧ value ≤ Int32.maxValue.toInt then some (Int32.ofInt value)
    else none
  | _ => none

def optional? {α : Type} (read : Document → Option α) : Document → Option (Option α)
  | .null => some none
  | d => (read d).map some

def list? {α : Type} (read : Document → Option α) : Document → Option (List α)
  | .array items => items.mapM read
  | _ => none

/-- The fields that a record gives. No field may be unknown or given twice. -/
def record? (fields : List String) : Document → Option (List (String × Document))
  | .object members =>
    let names := members.map Prod.fst
    if names.Nodup ∧ names ⊆ fields then some members else none
  | .array items => if items.length ≤ fields.length then some (fields.zip items) else none
  | _ => none

def given? {α : Type} (given : List (String × Document)) (name : String)
    (read : Document → Option α) : Option (Option α) :=
  match given.lookup name with
  | some d => (read d).map some
  | none => some none

def field? {α : Type} (given : List (String × Document)) (name : String)
    (read : Document → Option α) (default : Option α) : Option α :=
  match given.lookup name with
  | some d => read d
  | none => default

end Document

end Boomerang
