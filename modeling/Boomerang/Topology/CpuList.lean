import Boomerang.Text.Blank
import Boomerang.Text.Number
import Boomerang.Text.Quoted
import Boomerang.Text.Split

/-!
Lists of CPUs in text: single CPUs and ranges, separated by commas. Items may overlap, repeat each
other and stand in any order; blanks around them and empty items count for nothing. The list read
is ascending and names each CPU once.
-/

set_option autoImplicit false

namespace Boomerang

inductive CpuError where
  | invalidList (text : String)
  | outOfRange (cpu : Nat)
  deriving DecidableEq, Repr

def CpuError.message : CpuError → String
  | .invalidList text => "invalid CPU list " ++ Text.quoted text
  | .outOfRange cpu => "CPU " ++ toString cpu ++ " is outside the supported CPU set"

namespace CpuList

def cpu? (cs : List Char) : Option Nat := Text.natural? 10 Text.limit64 cs

def range? (first last : Nat) : Option (List Nat) :=
  if first ≤ last then some (List.range' first (last + 1 - first)) else none

def item? (cs : List Char) : Option (List Nat) :=
  match Text.cut? '-' cs with
  | some (first, last) =>
    (cpu? (Text.trim first)).bind fun first =>
      (cpu? (Text.trim last)).bind fun last => range? first last
  | none => (cpu? cs).map fun cpu => [cpu]

def isSeparator (c : Char) : Bool := c = ','

/-- The items that are not blank, without blanks at their ends. -/
def items (cs : List Char) : List (List Char) :=
  ((Text.pieces isSeparator (Text.trim cs)).map Text.trim).filter fun item => !item.isEmpty

def dropRepeats : List Nat → List Nat
  | a :: b :: rest => if a = b then dropRepeats (b :: rest) else a :: dropRepeats (b :: rest)
  | cpus => cpus

def sorted (cpus : List Nat) : List Nat := cpus.mergeSort fun a b => decide (a ≤ b)

def ofText (s : String) : Except CpuError (List Nat) :=
  match (items s.toList).mapM item? with
  | some cpus => .ok (dropRepeats (sorted cpus.flatten))
  | none => .error (.invalidList s)

@[simp] theorem mem_dropRepeats {cpu : Nat} (cpus : List Nat) :
    cpu ∈ dropRepeats cpus ↔ cpu ∈ cpus := by
  fun_induction dropRepeats cpus with
  | case1 a rest ih => simp [ih]
  | case2 a b rest h ih => simp [ih]
  | case3 => rfl

@[simp] theorem mem_sorted {cpu : Nat} (cpus : List Nat) : cpu ∈ sorted cpus ↔ cpu ∈ cpus :=
  List.mem_mergeSort

theorem pairwise_sorted (cpus : List Nat) : (sorted cpus).Pairwise (· ≤ ·) := by
  have h := @List.pairwise_mergeSort Nat (fun a b => decide (a ≤ b))
    (by simp only [decide_eq_true_eq]; omega)
    (by simp only [Bool.or_eq_true, decide_eq_true_eq]; omega) cpus
  simpa [sorted] using h

theorem pairwise_dropRepeats {cpus : List Nat} (h : cpus.Pairwise (· ≤ ·)) :
    (dropRepeats cpus).Pairwise (· < ·) := by
  fun_induction dropRepeats cpus with
  | case1 a rest ih => exact ih h.tail
  | case2 a b rest hab ih =>
    refine List.Pairwise.cons ?_ (ih h.tail)
    intro c hc
    rw [mem_dropRepeats] at hc
    have hb := List.rel_of_pairwise_cons h (List.mem_cons_self (a := b) (l := rest))
    rcases List.mem_cons.1 hc with rfl | hc
    · omega
    · have := List.rel_of_pairwise_cons h.tail hc
      omega
  | case3 cpus hn =>
    match cpus, h with
    | [], _ => exact .nil
    | [a], _ => simp
    | a :: b :: rest, _ => exact absurd rfl (hn a b rest)

end CpuList

end Boomerang
