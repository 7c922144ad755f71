import Boomerang.Command.Option
import Boomerang.Text.Split

/-!
Reading the arguments of a command line. A value follows its option as the next argument or in the
same one. A value in the next argument is looked at only when the following option, or the end, is
reached, so a mistake found on the way is reported in its place.
-/

set_option autoImplicit false

namespace Boomerang.Command

inductive Refusal where
  | usage (error : UsageError)
  | notice (notice : Notice)
  deriving DecidableEq, Repr

structure Pending where
  setting : Setting
  value : Option String
  deriving DecidableEq, Repr

/-- What was read so far; after a double hyphen no option can follow. -/
structure Progress where
  flags : Flags
  pending : Option Pending
  trailing : Bool
  deriving DecidableEq, Repr

namespace Progress

def start : Progress := ⟨Flags.empty, none, false⟩

def put (flags : Flags) (setting : Setting) (value : String) : Except Refusal Flags :=
  match flags.set setting value with
  | .ok flags => .ok flags
  | .error e => .error (.usage e)

def settled (p : Progress) : Except Refusal Flags :=
  match p.pending with
  | none => .ok p.flags
  | some ⟨_, none⟩ => .error (.usage .missingValue)
  | some ⟨setting, some value⟩ => put p.flags setting value

def take (p : Progress) (choice : Choice) (attached : Option String) : Except Refusal Progress :=
  match choice, attached with
  | .setting setting, some value => do
    let flags ← put (← p.settled) setting value
    return { p with flags, pending := none }
  | .setting setting, none => do
    let flags ← p.settled
    return { p with flags, pending := some ⟨setting, none⟩ }
  | _, some _ => .error (.usage .needlessValue)
  | .switch switch, none => do
    let flags ← p.settled
    if flags.isOn switch then throw (.usage .repeated)
    return { p with flags := flags.turnOn switch, pending := none }
  | .notice notice, none => do
    let _ ← p.settled
    throw (.notice notice)

def long (p : Progress) (cs : List Char) : Except Refusal Progress :=
  let (name, value) := match Text.cut? '=' cs with
    | some (name, value) => (name, some (String.ofList value))
    | none => (cs, none)
  match longNames.lookup (String.ofList name) with
  | some choice => p.take choice value
  | none => .error (.usage .unknownArgument)

/-- What follows the letter of an option, as its value; an equals sign may stand before it. -/
def attached : List Char → Option String
  | [] => none
  | '=' :: rest => some (String.ofList rest)
  | rest => some (String.ofList rest)

def short (p : Progress) : List Char → Except Refusal Progress
  | [] => .ok p
  | c :: rest =>
    match shortNames.lookup c with
    | none => .error (.usage .unknownArgument)
    | some (.setting setting) => p.take (.setting setting) (attached rest)
    | some choice => do (← p.take choice none).short rest

/-- An argument that is no option: the value that the last option waits for, or a mistake. -/
def plain (p : Progress) (argument : String) : Except Refusal Progress :=
  match p.pending with
  | some ⟨setting, none⟩ => .ok { p with pending := some ⟨setting, some argument⟩ }
  | _ => .error (.usage .unknownArgument)

def step (p : Progress) (argument : String) : Except Refusal Progress :=
  if p.trailing then .error (.usage .unknownArgument)
  else
    match argument.toList with
    | ['-', '-'] => .ok { p with trailing := true }
    | '-' :: '-' :: cs => p.long cs
    | ['-'] => p.plain argument
    | '-' :: cs => p.short cs
    | _ => p.plain argument

end Progress

def Flags.ofArguments (arguments : List String) : Except Refusal Flags := do
  (← arguments.foldlM Progress.step Progress.start).settled

end Boomerang.Command
