import Boomerang.Text.Number
import Boomerang.Text.Split

/-!
A device to serve: its name, its number of queues and, if it is to be set by hand, its NUMA node.
A device is written `name:queues:node`; the node, or the queues and the node, may be left out.
-/

set_option autoImplicit false

namespace Boomerang

structure DeviceSpec where
  name : String
  queues : UInt16
  numaNode : Option Int32
  deriving DecidableEq, Repr

namespace DeviceSpec

def defaultQueues : UInt16 := 1

def isSeparator (c : Char) : Bool := c = ':'

def queues? (cs : List Char) : Option UInt16 := (Text.natural? 10 65536 cs).map UInt16.ofNat

def numaNode? (cs : List Char) : Option Int32 := (Text.integer? 32 cs).map Int32.ofInt

def ofPieces? : List (List Char) → Option DeviceSpec
  | [name] => some ⟨String.ofList name, defaultQueues, none⟩
  | [name, queues] => (queues? queues).map fun queues => ⟨String.ofList name, queues, none⟩
  | [name, queues, node] =>
    (queues? queues).bind fun queues =>
      (numaNode? node).map fun node => ⟨String.ofList name, queues, some node⟩
  | _ => none

/-- A device has a name that is not empty; blanks are not skipped. -/
def ofText? (s : String) : Option DeviceSpec :=
  (ofPieces? (Text.pieces isSeparator s.toList)).filter fun d => d.name != ""

def text (d : DeviceSpec) : String :=
  d.name ++ ":" ++ toString d.queues.toNat ++
    match d.numaNode with
    | some node => ":" ++ toString node.toInt
    | none => ""

end DeviceSpec

end Boomerang
