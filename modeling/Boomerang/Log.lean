/-!
Log events: a level, a message and named values, in the order in which they are written.
-/

set_option autoImplicit false

namespace Boomerang.Log

inductive Level where
  | debug | info | warn | error
  deriving DecidableEq, Repr

def Level.text : Level → String
  | .debug => "DEBUG"
  | .info => "INFO"
  | .warn => "WARN"
  | .error => "ERROR"

structure Event where
  level : Level
  message : String
  fields : List (String × String)
  deriving DecidableEq, Repr

def Event.line (e : Event) : String :=
  " ".intercalate
    (e.level.text :: e.message :: e.fields.map fun (name, value) => name ++ "=" ++ value)

end Boomerang.Log
