import Boomerang.Checksum
import Boomerang.Cursor.Walk

/-!
Steps that turn a received frame into its answer, in place. A step may give up: the frame is then
dropped as it stands. It faults when it reads or writes outside the header it works on, which no
step does on a frame that was parsed first.
-/

set_option autoImplicit false

namespace Boomerang

inductive Verdict where
  | forward
  | drop
  | fault
  deriving DecidableEq, Repr

/-- How a step ends, with the cursor as it left it. -/
inductive Answer.Outcome (α : Type) where
  | done (value : α) (cursor : Cursor)
  | dropped (cursor : Cursor)
  | faulted (cursor : Cursor)

def Answer (α : Type) : Type := Cursor → Answer.Outcome α

namespace Answer

variable {α β : Type}

def pure (value : α) : Answer α := fun c => .done value c

def bind (step : Answer α) (next : α → Answer β) : Answer β := fun c =>
  match step c with
  | .done value c => next value c
  | .dropped c => .dropped c
  | .faulted c => .faulted c

instance : Monad Answer where
  pure := Answer.pure
  bind := Answer.bind

@[simp] theorem pure_apply (value : α) (c : Cursor) :
    (Pure.pure value : Answer α) c = .done value c := rfl

theorem bind_apply (step : Answer α) (next : α → Answer β) (c : Cursor) :
    (step >>= next) c =
      match step c with
      | .done value c => next value c
      | .dropped c => .dropped c
      | .faulted c => .faulted c := rfl

def drop : Answer α := fun c => .dropped c

def require (condition : Bool) : Answer Unit := fun c =>
  if condition then .done () c else .dropped c

def find (view : Cursor → Option α) : Answer α := fun c =>
  match view c with
  | some value => .done value c
  | none => .dropped c

def read (s : Span) (position count : Nat) : Answer Octets := fun c =>
  if position + count ≤ s.length then
    match c.frame.slice? (s.start + position) count with
    | some value => .done value c
    | none => .faulted c
  else .faulted c

def write (s : Span) (position : Nat) (value : Octets) : Answer Unit := fun c =>
  if position + value.length ≤ s.length then
    match c.slot.overwrite? (s.start + position) value with
    | some slot => .done () { c with slot }
    | none => .faulted c
  else .faulted c

def swap (s : Span) (first second count : Nat) : Answer Unit := do
  let a ← read s first count
  let b ← read s second count
  write s first b
  write s second a

def readAll (s : Span) : Answer Octets := read s 0 s.length

def swapEtherAddresses : Answer Unit := do
  let ether ← find Cursor.ether
  swap ether 0 6 6

/-- Exchanges the addresses of an IPv4 header and stores its new checksum. -/
def swapIpv4Addresses (ip : Span) : Answer Unit := do
  swap ip 12 16 4
  let header ← readAll ip
  write ip 10 (Octets.ofWord (Checksum.ipv4Header header))

def swapIpv6Addresses (ip : Span) : Answer Unit := swap ip 8 24 16

/-- The verdict of a finished step, and the cursor it left. -/
def run (step : Answer Unit) (c : Cursor) : Verdict × Cursor :=
  match step c with
  | .done _ c => (.forward, c)
  | .dropped c => (.drop, c)
  | .faulted c => (.fault, c)

end Answer

end Boomerang
