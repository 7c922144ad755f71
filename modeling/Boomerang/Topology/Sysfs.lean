import Boomerang.Text.Utf8
import Boomerang.Topology.Basic

/-!
Snapshots of the directory tree in which a host describes its nodes and devices. A path is the list
of its components.
-/

set_option autoImplicit false

namespace Boomerang

structure Sysfs where
  listing : List (List String × Option Octets)

namespace Sysfs

def components (path : String) : List String :=
  (Text.pieces (fun c => c = '/') path.toList).map String.ofList

def isDirectory (s : Sysfs) (path : List String) : Bool :=
  path.isEmpty || s.listing.any fun (other, contents) =>
    path.isPrefixOf other && (path.length < other.length || contents.isNone)

/-- Follows a path from a directory. Empty components and single dots stay where they are, double
dots go up one directory, but not out of the tree. -/
def resolve? (s : Sysfs) (here : List String) : List String → Option (List String)
  | [] => some here
  | c :: rest =>
    if !s.isDirectory here then none
    else if c = "" || c = "." then s.resolve? here rest
    else if c = ".." then if here.isEmpty then none else s.resolve? here.dropLast rest
    else s.resolve? (here ++ [c]) rest

def readText? (s : Sysfs) (path : List String) : Option String :=
  (s.resolve? [] path).bind fun path => (s.listing.lookup path).join.bind Text.decode?

def names (s : Sysfs) (directory : List String) : List String :=
  (s.listing.filterMap fun (path, _) =>
    if directory.isPrefixOf path then path[directory.length]? else none).eraseDups

def nodeDirectory : List String := ["devices", "system", "node"]

def nodeEntries (s : Sysfs) : List NodeEntry :=
  (s.names nodeDirectory).map fun name => ⟨name, s.readText? (nodeDirectory ++ [name, "cpulist"])⟩

def topology (s : Sysfs) : Topology := Topology.ofEntries s.nodeEntries

def skipped (s : Sysfs) : List String :=
  (Topology.skipped s.nodeEntries).map fun name =>
    "/".intercalate (nodeDirectory ++ [name, "cpulist"])

/-- What the host announces for a network device. A name that is an absolute path leads out of the
tree. -/
def announcement (s : Sysfs) (device : String) : Option String :=
  if device.toList.head? = some '/' then none
  else s.readText? (["class", "net"] ++ components device ++ ["device", "numa_node"])

def deviceNode (s : Sysfs) (device : String) (configured : Option Int) : Int :=
  s.topology.deviceNode (s.announcement device) configured

end Sysfs

end Boomerang
