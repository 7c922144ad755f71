import Boomerang.Config.Basic
import Boomerang.Pool

/-!
What can keep a data plane from starting before it creates its first interface: no CPU to run a
worker on, a pool of an impossible size, or a device that cannot become an interface.
-/

set_option autoImplicit false

namespace Boomerang

inductive InterfaceError where
  | noQueues
  | invalidName (name : String)
  deriving DecidableEq, Repr

def InterfaceError.message : InterfaceError → String
  | .noQueues => "TAP device needs at least one queue"
  | .invalidName name => "invalid interface name " ++ Text.quoted name

def interfaceNameLimit : Nat := 16

/-- Whether an interface with so many queues can have a name. -/
def checkInterface (name : String) (queues : Nat) : Except InterfaceError Unit :=
  if queues = 0 then .error .noQueues
  else if name.utf8ByteSize = 0 ∨ interfaceNameLimit ≤ name.utf8ByteSize then
    .error (.invalidName name)
  else .ok ()

inductive StartError where
  | noCpus
  | pool (device : String) (error : PoolError)
  | interface (device : String) (error : InterfaceError)
  deriving DecidableEq, Repr

def StartError.message : StartError → String
  | .noCpus => "no worker CPUs available"
  | .pool device error => "failed to create buffer pool for " ++ device ++ ": " ++ error.message
  | .interface device error => "failed to open TAP device " ++ device ++ ": " ++ error.message

def DeviceSpec.prepare (d : DeviceSpec) (poolBuffers : Nat) : Except StartError Pool.Shape :=
  match Pool.Shape.of poolBuffers defaultSlotSize with
  | .error e => .error (.pool d.name e)
  | .ok shape =>
    match checkInterface d.name d.queues.toNat with
    | .error e => .error (.interface d.name e)
    | .ok () => .ok shape

/-- Goes as far as the first interface, with the host's choice of CPUs where none are configured. -/
def Config.prepare (c : Config) (hostCpus : List Nat) : Except StartError Unit :=
  if (c.cpus.getD hostCpus).isEmpty then .error .noCpus
  else
    match c.devices with
    | [] => .ok ()
    | d :: _ => (d.prepare c.poolBuffers).map fun _ => ()

end Boomerang
