import Boomerang.Program

/-!
The program: arguments and environment in, log lines and an exit status out.
-/

set_option autoImplicit false

namespace Boomerang

def usage : String :=
  "Usage: reflector [OPTIONS]\n\n" ++
  "  -c, --config <CONFIG>                  JSON configuration file\n" ++
  "  -d, --device <DEVICE>                  NAME[:QUEUES[:NUMA_NODE]] (repeatable)\n" ++
  "      --cpus <CPUS>                      worker CPUs, such as 2-5,8\n" ++
  "      --burst-size <BURST_SIZE>          maximum frames per receive burst\n" ++
  "      --responder-mac <RESPONDER_MAC>    MAC address used in replies\n" ++
  "      --dry-run                          forward frames unchanged\n" ++
  "      --trace-packets                    log a summary of every frame\n" ++
  "      --vxlan-port <VXLAN_PORT>          UDP port recognized as VXLAN\n" ++
  "      --tx-buffer-size <TX_BUFFER_SIZE>  frames buffered before a transmit burst\n" ++
  "      --stats-interval <STATS_INTERVAL>  seconds between reports\n" ++
  "      --pool-buffers <POOL_BUFFERS>      packet buffers per device\n" ++
  "  -h, --help                             print help\n" ++
  "  -V, --version                          print version"

def version : String := "reflector 0.1.0"

def Command.UsageError.text : Command.UsageError → String
  | .unknownArgument => "unexpected argument"
  | .missingValue => "a value is required"
  | .invalidValue => "invalid value"
  | .repeated => "an option cannot be used multiple times"
  | .needlessValue => "unexpected value"

def readFile (path : String) : IO (Except ReadFailure Octets) := do
  try
    return .ok (← IO.FS.readBinFile path).toList
  catch e =>
    match e with
    | .noFileOrDirectory .. => return .error .missing
    | _ => return .error (.refused (toString e))

/-- The file that the arguments name, read ahead of the run. -/
def filesFor (arguments : List String) : IO Files := do
  match Command.Flags.ofArguments arguments with
  | .ok flags =>
    match flags.file with
    | some path =>
      let contents ← readFile path
      return fun _ => contents
    | none => return fun _ => .error .missing
  | .error _ => return fun _ => .error .missing

def hostCpus : IO (List Nat) := do
  let status ← try IO.FS.readFile "/proc/self/status" catch _ => pure ""
  let line := (status.splitOn "\n").find? fun line => line.startsWith "Cpus_allowed_list:"
  match line.map fun line => CpuList.ofText ((line.splitOn ":").getLastD "") with
  | some (.ok cpus) => return cpus.tail
  | _ => return []

def filterVariable : String := "RUST_LOG"

def runMain (arguments : List String) : IO UInt32 := do
  let files ← filesFor arguments
  let setting ← IO.getEnv filterVariable
  let (outcome, lines) := Program.report Config.documents setting arguments files
    (← hostCpus)
  let out ← IO.getStdout
  for line in lines do
    out.putStrLn line
  match outcome with
  | .aborted => (← IO.getStderr).putStrLn "error: the log filter cannot be cut into directives"
  | .refused (.notice .help) => out.putStrLn usage
  | .refused (.notice .version) => out.putStrLn version
  | .refused (.usage e) => (← IO.getStderr).putStrLn ("error: " ++ e.text ++ "\n\n" ++ usage)
  | .failed => pure ()
  | .ready _ => (← IO.getStderr).putStrLn "error: TAP interfaces cannot be created here"
  return UInt32.ofNat ((outcome.status?).getD 1)

end Boomerang

def main (arguments : List String) : IO UInt32 := Boomerang.runMain arguments
