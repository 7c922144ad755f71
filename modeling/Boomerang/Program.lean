import Boomerang.Command.Settings
import Boomerang.Log.Filter
import Boomerang.Start

/-!
A whole run up to the first interface: the command line, the settings, and the start of the data
plane, with what is logged on the way and the exit status where the run ends early.
-/

set_option autoImplicit false

namespace Boomerang

inductive Outcome where
  | aborted
  | refused (refusal : Command.Refusal)
  | failed
  | ready (config : Config)
  deriving DecidableEq, Repr

def Outcome.status? : Outcome → Option Nat
  | .aborted => some 101
  | .refused (.notice _) => some 0
  | .refused (.usage _) => some 2
  | .failed => some 1
  | .ready _ => none

namespace Program

def target : String := "reflector"

def invalidEvent (e : SettingsError) : Log.Event :=
  ⟨.error, "Invalid configuration", [("error", e.message)]⟩

def startingEvent (c : Config) : Log.Event :=
  ⟨.info, "Starting reflector",
    [("devices", toString c.devices.length), ("responder_mac", Address.macText c.mac.octets),
      ("vxlan_port", toString c.vxlanPort.toNat)]⟩

def failedEvent (e : StartError) : Log.Event :=
  ⟨.error, "Failed to start data plane", [("error", e.message)]⟩

def adviceEvent : Log.Event :=
  ⟨.error, "Do you have root privileges? Try running with 'sudo'.", []⟩

def run (read : Config.Reader) (arguments : List String) (files : Files) (hostCpus : List Nat) :
    Outcome × List Log.Event :=
  match Command.Flags.ofArguments arguments with
  | .error refusal => (.refused refusal, [])
  | .ok flags =>
    match flags.settings read files with
    | .error e => (.failed, [invalidEvent e])
    | .ok config =>
      match config.prepare hostCpus with
      | .error e => (.failed, [startingEvent config, failedEvent e, adviceEvent])
      | .ok () => (.ready config, [startingEvent config])

def lines (filter : Log.Filter) (events : List Log.Event) : List String :=
  (events.filter (filter.writes target)).map Log.Event.line

/-- The outcome and the lines written for a filter setting and some arguments. The filter comes
first: without it, the arguments are not looked at. -/
def report (read : Config.Reader) (setting : Option String) (arguments : List String)
    (files : Files) (hostCpus : List Nat) : Outcome × List String :=
  match Log.Filter.ofSetting? setting with
  | none => (.aborted, [])
  | some filter =>
    let (outcome, events) := run read arguments files hostCpus
    (outcome, lines filter events)

end Program

end Boomerang
