import Boomerang.Log.Directive

/-!
Which events are written. A filter is a list of directives separated by commas. The most specific
directive that covers an event decides, and an event that none covers is not written.
-/

set_option autoImplicit false

namespace Boomerang.Log

abbrev Filter := List Directive

namespace Filter

def default : Filter := [⟨[], none, false, Level.verbosity .info⟩]

/-- Empty directives are skipped; without any, nothing is written. The first directive with a flaw
decides on the flaw. -/
def ofText (s : String) : Except Flaw Filter :=
  ((Text.pieces (fun c => c = ',') s.toList).filter fun piece => !piece.isEmpty).mapM
    Directive.ofText

def ofSetting? (setting : Option String) : Option Filter :=
  match setting.map ofText with
  | some (.ok filter) => some filter
  | some (.error .torn) => none
  | _ => some default

/-- The directive that decides on an event; of equally specific ones the last. -/
def deciding? (f : Filter) (target : String) (e : Event) : Option Directive :=
  (f.filter fun d => d.covers target e).foldl (fun best d =>
    match best with
    | none => some d
    | some b => if b.noMoreSpecific d then some d else best) none

def writes (f : Filter) (target : String) (e : Event) : Bool :=
  match f.deciding? target e with
  | none => false
  | some d => e.level.verbosity ≤ d.verbosity

end Filter

end Boomerang.Log
