import Boomerang.Command.Settings
import Mathlib.Data.List.Induction
import Mathlib.Data.List.Nodup

/-!
The settings in effect. Every setting has three layers: an option, a field of the file, and a
default. The first that says anything counts, except that a switch is on if the option or the file
turns it on. Only the outcome is checked, so an option may repair the file and may spoil it. Of
several rules that the outcome breaks the first is reported, and of several devices the first.
-/

set_option autoImplicit false

namespace Boomerang

namespace Config

def Written.nothing : Written := ⟨none, none, none, none, none, none, none, none, none, none⟩

def Field {α : Type} (given : List (String × Document)) (name : String)
    (read : Document → Option α) (value : Option α) : Prop :=
  Option.Rel (fun d a => read d = some a) (given.lookup name) value

/-- The fields of a record, read one by one. -/
structure Written.Of (given : List (String × Document)) (w : Written) : Prop where
  burstSize : Field given "burst_size" (Document.natural? Text.limit64) w.burstSize
  mac : Field given "responder_mac" (fun d => d.text?.bind Mac.ofText?) w.mac
  dryRun : Field given "dry_run" Document.bool? w.dryRun
  tracePackets : Field given "trace_packets" Document.bool? w.tracePackets
  vxlanPort : Field given "vxlan_port" (fun d => (d.natural? 65536).map UInt16.ofNat) w.vxlanPort
  outboxSize : Field given "tx_buffer_size" (Document.natural? Text.limit64) w.outboxSize
  statsInterval :
    Field given "stats_interval_secs" (Document.natural? Text.limit64) w.statsInterval
  poolBuffers : Field given "pool_buffers" (Document.natural? Text.limit64) w.poolBuffers
  devices : Field given "devices" (Document.list? DeviceSpec.ofDocument?) w.devices
  cpus : Field given "cpus" (Document.optional? (Document.list? (Document.natural? Text.limit64)))
    w.cpus

/-- The file can be read, as text and by the reader, and says this. -/
def Written.InFile (read : Reader) (contents : Except ReadFailure Octets) (w : Written) : Prop :=
  ∃ data s, contents = .ok data ∧ Text.decode? data = some s ∧ read s = .ok w

/-- Why a file says nothing: it cannot be read, it is no text, or the reader refuses the text. -/
inductive Unloadable (read : Reader) (path : String) (contents : Except ReadFailure Octets) :
    ConfigError → Prop
  | unreadable {failure : ReadFailure} (failed : contents = .error failure) :
      Unloadable read path contents (.unreadable path failure)
  | notText {data : Octets} (found : contents = .ok data) (garbled : Text.decode? data = none) :
      Unloadable read path contents (.unreadable path .notText)
  | malformed {data : Octets} {s reason : String} (found : contents = .ok data)
      (text : Text.decode? data = some s) (refused : read s = .error reason) :
      Unloadable read path contents (.malformed path reason)

/-! ## Rules -/

/-- Every device has a queue, and no name comes twice. -/
structure DevicesFit (devices : List DeviceSpec) : Prop where
  queues : ∀ d ∈ devices, d.queues ≠ 0
  names : (devices.map DeviceSpec.name).Nodup

structure Valid (c : Config) : Prop where
  burstSize : 1 ≤ c.burstSize ∧ c.burstSize ≤ 4096
  outboxSize : 1 ≤ c.outboxSize
  poolBuffers : 1 ≤ c.poolBuffers
  devices : c.devices ≠ []
  fit : DevicesFit c.devices

/-- The first device behind `before` that breaks a rule. A device without queues is reported as
that, also if its name was there before. -/
inductive DeviceBreaks (before : List DeviceSpec) (d : DeviceSpec) : ConfigError → Prop
  | noQueues (none : d.queues = 0) : DeviceBreaks before d (.noQueues d.name)
  | duplicate (some : d.queues ≠ 0) (taken : d.name ∈ before.map DeviceSpec.name) :
      DeviceBreaks before d (.duplicateDevice d.name)

/-- The first rule that the settings break, and the error for it. -/
inductive Breaks (c : Config) : ConfigError → Prop
  | burstSize (bad : ¬ (1 ≤ c.burstSize ∧ c.burstSize ≤ 4096)) : Breaks c (.burstSize c.burstSize)
  | outboxSize (burst : 1 ≤ c.burstSize ∧ c.burstSize ≤ 4096) (bad : c.outboxSize = 0) :
      Breaks c .outboxSize
  | poolSize (burst : 1 ≤ c.burstSize ∧ c.burstSize ≤ 4096) (outbox : 1 ≤ c.outboxSize)
      (bad : c.poolBuffers = 0) : Breaks c .poolSize
  | noDevices (burst : 1 ≤ c.burstSize ∧ c.burstSize ≤ 4096) (outbox : 1 ≤ c.outboxSize)
      (pool : 1 ≤ c.poolBuffers) (bad : c.devices = []) : Breaks c .noDevices
  | device {before rest : List DeviceSpec} {d : DeviceSpec} {e : ConfigError}
      (burst : 1 ≤ c.burstSize ∧ c.burstSize ≤ 4096) (outbox : 1 ≤ c.outboxSize)
      (pool : 1 ≤ c.poolBuffers) (split : c.devices = before ++ d :: rest)
      (fit : DevicesFit before) (bad : DeviceBreaks before d e) : Breaks c e

variable {c : Config} {e : ConfigError} {devices : List DeviceSpec} {earlier : List String}

theorem checkDevices_nil_eq_ok_iff : checkDevices [] devices = .ok () ↔ DevicesFit devices := by
  rw [checkDevices_eq_ok_iff]
  constructor
  · rintro ⟨each, names⟩
    exact ⟨fun d member => (each d member).1, names⟩
  · rintro ⟨queues, names⟩
    exact ⟨fun d member => ⟨queues d member, List.not_mem_nil⟩, names⟩

theorem checkDevices_append (earlier : List String) (before devices : List DeviceSpec) :
    checkDevices earlier (before ++ devices) =
      (checkDevices earlier before).bind fun _ =>
        checkDevices ((before.map DeviceSpec.name).reverse ++ earlier) devices := by
  induction before generalizing earlier with
  | nil => rfl
  | cons d before ih =>
    rw [List.cons_append, checkDevices, checkDevices, ih]
    split
    · rfl
    · split
      · rfl
      · rw [List.map_cons, List.reverse_cons, List.append_assoc, List.singleton_append]

theorem checkDevices_cons_of_breaks {before rest : List DeviceSpec} {d : DeviceSpec}
    (names : ∀ name, name ∈ earlier ↔ name ∈ before.map DeviceSpec.name)
    (bad : DeviceBreaks before d e) : checkDevices earlier (d :: rest) = .error e := by
  rw [checkDevices]
  cases bad with
  | noQueues none => rw [if_pos none]
  | duplicate some taken => rw [if_neg some, if_pos ((names _).2 taken)]

theorem checkDevices_eq_error_of_breaks {before rest : List DeviceSpec} {d : DeviceSpec}
    (fit : DevicesFit before) (bad : DeviceBreaks before d e) :
    checkDevices [] (before ++ d :: rest) = .error e := by
  rw [checkDevices_append, checkDevices_nil_eq_ok_iff.2 fit]
  exact checkDevices_cons_of_breaks (fun name => by simp) bad

/-- Devices that do not all fit have a first one that breaks a rule. -/
theorem exists_breaks_of_not_fit (unfit : ¬ DevicesFit devices) :
    ∃ before d rest e, devices = before ++ d :: rest ∧ DevicesFit before ∧
      DeviceBreaks before d e := by
  induction devices using List.reverseRecOn with
  | nil => exact absurd ⟨by simp, by simp⟩ unfit
  | append_singleton front d ih =>
    by_cases fit : DevicesFit front
    case neg =>
      obtain ⟨before, b, rest, e, rfl, fit, bad⟩ := ih fit
      exact ⟨before, b, rest ++ [d], e, by simp, fit, bad⟩
    by_cases none : d.queues = 0
    · exact ⟨front, d, [], _, rfl, fit, .noQueues none⟩
    by_cases taken : d.name ∈ front.map DeviceSpec.name
    · exact ⟨front, d, [], _, rfl, fit, .duplicate none taken⟩
    refine absurd ⟨?_, ?_⟩ unfit
    · intro other member
      rcases List.mem_append.1 member with member | member
      · exact fit.queues other member
      · rwa [List.mem_singleton.1 member]
    · rw [List.map_append, List.map_singleton, ← List.concat_eq_append]
      exact fit.names.concat taken

theorem validate_of_valid (valid : c.Valid) : c.validate = .ok () := by
  obtain ⟨⟨some, small⟩, outbox, pool, devices, fit⟩ := valid
  rw [validate, if_neg (by unfold maxBurstSize; omega), if_neg (by omega), if_neg (by omega),
    if_neg devices, checkDevices_nil_eq_ok_iff.2 fit]

theorem validate_of_breaks (breaks : c.Breaks e) : c.validate = .error e := by
  unfold validate maxBurstSize
  cases breaks with
  | burstSize bad => rw [if_pos (by omega)]
  | outboxSize burst bad => rw [if_neg (by omega), if_pos bad]
  | poolSize burst outbox bad => rw [if_neg (by omega), if_neg (by omega), if_pos bad]
  | noDevices burst outbox pool bad =>
    rw [if_neg (by omega), if_neg (by omega), if_neg (by omega), if_pos bad]
  | device burst outbox pool split fit bad =>
    rw [if_neg (by omega), if_neg (by omega), if_neg (by omega), if_neg (by simp [split]), split,
      checkDevices_eq_error_of_breaks fit bad]

theorem valid_or_breaks (c : Config) : c.Valid ∨ ∃ e, c.Breaks e := by
  by_cases burst : 1 ≤ c.burstSize ∧ c.burstSize ≤ 4096
  case neg => exact .inr ⟨_, .burstSize burst⟩
  by_cases outbox : c.outboxSize = 0
  · exact .inr ⟨_, .outboxSize burst outbox⟩
  by_cases pool : c.poolBuffers = 0
  · exact .inr ⟨_, .poolSize burst (by omega) pool⟩
  by_cases devices : c.devices = []
  · exact .inr ⟨_, .noDevices burst (by omega) (by omega) devices⟩
  by_cases fit : DevicesFit c.devices
  · exact .inl ⟨burst, by omega, by omega, devices, fit⟩
  · obtain ⟨before, d, rest, e, split, fit, bad⟩ := exists_breaks_of_not_fit fit
    exact .inr ⟨e, .device burst (by omega) (by omega) split fit bad⟩

/-! ## Files -/

theorem given?_eq_some_iff {α : Type} {given : List (String × Document)} {name : String}
    {read : Document → Option α} {value : Option α} :
    Document.given? given name read = some value ↔ Field given name read value := by
  rw [Document.given?, Field]
  cases given.lookup name with
  | none =>
    constructor
    · intro same
      cases same
      exact .none
    · rintro ⟨⟩
      rfl
  | some d =>
    constructor
    · intro found
      obtain ⟨a, ok, rfl⟩ := Option.map_eq_some_iff.1 found
      exact .some ok
    · rintro ⟨ok⟩
      exact Option.map_eq_some_iff.2 ⟨_, ok, rfl⟩

theorem Written.ofDocument?_eq_some_iff {d : Document} {w : Written} :
    Written.ofDocument? d = some w ↔ ∃ given, d.record? fields = some given ∧ w.Of given := by
  simp only [ofDocument?, Option.bind_eq_bind, Option.bind_eq_some_iff, given?_eq_some_iff,
    Option.pure_def, Option.some.injEq]
  refine exists_congr fun given => and_congr_right fun _ => ⟨?_, fun of => ?_⟩
  · rintro ⟨_, h1, _, h2, _, h3, _, h4, _, h5, _, h6, _, h7, _, h8, _, h9, _, h10, rfl⟩
    exact ⟨h1, h2, h3, h4, h5, h6, h7, h8, h9, h10⟩
  · exact ⟨_, of.burstSize, _, of.mac, _, of.dryRun, _, of.tracePackets, _, of.vxlanPort, _,
      of.outboxSize, _, of.statsInterval, _, of.poolBuffers, _, of.devices, _, of.cpus, rfl⟩

theorem documents_eq_ok_iff {s : String} {w : Written} :
    documents s = .ok w ↔
      ∃ d given, Document.ofText? s = some d ∧ d.record? fields = some given ∧ w.Of given := by
  rw [documents]
  cases Document.ofText? s with
  | none => exact ⟨nofun, fun ⟨_, _, never, _⟩ => by cases never⟩
  | some d =>
    have record := @Written.ofDocument?_eq_some_iff d
    constructor
    · intro ok
      dsimp only at ok
      split at ok
      case h_1 => cases ok
      case h_2 found =>
        cases ok
        obtain ⟨given, fields, of⟩ := record.1 found
        exact ⟨d, given, rfl, fields, of⟩
    · rintro ⟨_, given, same, fields, of⟩
      cases same
      dsimp only
      rw [record.2 ⟨given, fields, of⟩]

variable {read : Reader} {path : String} {contents : Except ReadFailure Octets}

theorem ofFile_of_inFile {w : Written} (found : Written.InFile read contents w) :
    ofFile read path contents = .ok w.completed := by
  obtain ⟨data, s, rfl, text, ok⟩ := found
  simp only [ofFile, text, ok]

theorem ofFile_of_unloadable (failed : Unloadable read path contents e) :
    ofFile read path contents = .error e := by
  cases failed with
  | unreadable failed => rw [failed, ofFile]
  | notText found garbled => simp only [found, ofFile, garbled]
  | malformed found text refused => simp only [found, ofFile, text, refused]

theorem inFile_or_unloadable (read : Reader) (path : String)
    (contents : Except ReadFailure Octets) :
    (∃ w, Written.InFile read contents w) ∨ ∃ e, Unloadable read path contents e := by
  cases found : contents with
  | error failure => exact .inr ⟨_, .unreadable rfl⟩
  | ok data =>
    cases text : Text.decode? data with
    | none => exact .inr ⟨_, .notText rfl text⟩
    | some s =>
      cases ok : read s with
      | error reason => exact .inr ⟨_, .malformed rfl text ok⟩
      | ok w => exact .inl ⟨w, data, s, rfl, text, ok⟩

end Config

namespace Command.Flags

open Config (Written)

/-- What the settings build on: what the named file says, or nothing where none is named. -/
inductive Loads (read : Config.Reader) (f : Flags) (files : Files) : Written → Prop
  | nothing (unnamed : f.file = none) : Loads read f files .nothing
  | file {path : String} {w : Written} (named : f.file = some path)
      (found : Written.InFile read (files path) w) : Loads read f files w

structure Reads (f : Flags) (cpus : Option (List Nat)) (mac : Option Mac) : Prop where
  cpus : Option.Rel (fun text list => CpuList.ofText text = .ok list) f.cpus cpus
  mac : Option.Rel (fun text address => Mac.read text = .ok address) f.mac mac

/-- The settings in effect: the options, with their texts read, over what the file says over the
defaults. Devices are not mixed. -/
def effective (f : Flags) (cpus : Option (List Nat)) (mac : Option Mac) (w : Written) : Config where
  burstSize := (f.burstSize.or w.burstSize).getD Config.default.burstSize
  mac := (mac.or w.mac).getD Config.default.mac
  dryRun := f.dryRun || w.dryRun.getD false
  tracePackets := f.tracePackets || w.tracePackets.getD false
  vxlanPort := (f.vxlanPort.or w.vxlanPort).getD Config.default.vxlanPort
  outboxSize := (f.outboxSize.or w.outboxSize).getD Config.default.outboxSize
  statsInterval := (f.statsInterval.or w.statsInterval).getD Config.default.statsInterval
  poolBuffers := (f.poolBuffers.or w.poolBuffers).getD Config.default.poolBuffers
  devices := if f.devices = [] then w.devices.getD Config.default.devices else f.devices
  cpus := ((cpus.map some).or w.cpus).getD Config.default.cpus

/-- Why there are no settings. The file comes first, then the list of CPUs, then the address; the
rules are asked last. -/
inductive Refused (read : Config.Reader) (f : Flags) (files : Files) : SettingsError → Prop
  | file {path : String} {e : ConfigError} (named : f.file = some path)
      (failed : Config.Unloadable read path (files path) e) : Refused read f files (.file path e)
  | cpus {w : Written} {text : String} {e : CpuError} (loads : Loads read f files w)
      (named : f.cpus = some text) (failed : CpuList.ofText text = .error e) :
      Refused read f files (.cpus e)
  | mac {w : Written} {text : String} {e : ConfigError} {cpus : Option (List Nat)}
      (loads : Loads read f files w)
      (list : Option.Rel (fun text list => CpuList.ofText text = .ok list) f.cpus cpus)
      (named : f.mac = some text) (failed : Mac.read text = .error e) :
      Refused read f files (.config e)
  | config {w : Written} {cpus : Option (List Nat)} {mac : Option Mac} {e : ConfigError}
      (loads : Loads read f files w) (reads : Reads f cpus mac)
      (breaks : (f.effective cpus mac w).Breaks e) : Refused read f files (.config e)

/-- The settings are those in effect, and they meet the rules. -/
structure Accepted (read : Config.Reader) (f : Flags) (files : Files) (w : Written)
    (cpus : Option (List Nat)) (mac : Option Mac) : Prop where
  loads : Loads read f files w
  reads : Reads f cpus mac
  valid : (f.effective cpus mac w).Valid

variable {read : Config.Reader} {f : Flags} {files : Files} {w : Written} {e : SettingsError}
  {cpus : Option (List Nat)} {mac : Option Mac}

/-! ## Layers -/

theorem base_of_loads (loads : Loads read f files w) : f.base read files = .ok w.completed := by
  unfold base
  cases loads with
  | nothing unnamed =>
    rw [unnamed]
    rfl
  | file named found =>
    rw [named]
    dsimp only
    rw [Config.ofFile_of_inFile found]

theorem base_of_failed {path : String} {reason : ConfigError} (named : f.file = some path)
    (failed : Config.Unloadable read path (files path) reason) :
    f.base read files = .error (.file path reason) := by
  unfold base
  rw [named]
  dsimp only
  rw [Config.ofFile_of_unloadable failed]

theorem chosenCpus_of_read
    (list : Option.Rel (fun text list => CpuList.ofText text = .ok list) f.cpus cpus) :
    f.chosenCpus w.completed = .ok (((cpus.map some).or w.cpus).getD Config.default.cpus) := by
  unfold chosenCpus
  generalize f.cpus = given at list
  cases list with
  | none => rfl
  | some ok =>
    dsimp only
    rw [ok]
    rfl

theorem chosenMac_of_read
    (address : Option.Rel (fun text address => Mac.read text = .ok address) f.mac mac) :
    f.chosenMac w.completed = .ok ((mac.or w.mac).getD Config.default.mac) := by
  unfold chosenMac
  generalize f.mac = given at address
  cases address with
  | none => rfl
  | some ok =>
    dsimp only
    rw [ok]
    rfl

theorem merge_of_reads (reads : Reads f cpus mac) :
    f.merge w.completed = .ok (f.effective cpus mac w) := by
  rw [merge, chosenCpus_of_read reads.cpus, chosenMac_of_read reads.mac, effective]
  simp only [Option.getD_or, Written.completed, Bool.or_comm, Config.default, List.isEmpty_iff]
  rfl

theorem merge_of_cpus {base : Config} {text : String} {reason : CpuError}
    (named : f.cpus = some text) (failed : CpuList.ofText text = .error reason) :
    f.merge base = .error (.cpus reason) := by
  have chosen : f.chosenCpus base = .error (.cpus reason) := by
    unfold chosenCpus
    rw [named]
    dsimp only
    rw [failed]
  rw [merge, chosen]
  rfl

theorem merge_of_mac {text : String} {reason : ConfigError}
    (list : Option.Rel (fun text list => CpuList.ofText text = .ok list) f.cpus cpus)
    (named : f.mac = some text) (failed : Mac.read text = .error reason) :
    f.merge w.completed = .error (.config reason) := by
  have chosen : f.chosenMac w.completed = .error (.config reason) := by
    unfold chosenMac
    rw [named]
    dsimp only
    rw [failed]
  rw [merge, chosenCpus_of_read list, chosen]
  rfl

/-! ## Settings -/

/-- The merge is looked at only when there is something to build on. -/
theorem settings_eq (read : Config.Reader) (f : Flags) (files : Files) :
    f.settings read files = (f.base read files).bind fun base => (f.merge base).bind fun config =>
      match config.validate with
      | .ok () => .ok config
      | .error e => .error (.config e) := rfl

theorem settings_of_accepted (accepted : Accepted read f files w cpus mac) :
    f.settings read files = .ok (f.effective cpus mac w) := by
  obtain ⟨loads, reads, valid⟩ := accepted
  rw [settings_eq, base_of_loads loads, Except.bind, merge_of_reads reads, Except.bind,
    Config.validate_of_valid valid]

theorem settings_of_refused (refused : Refused read f files e) :
    f.settings read files = .error e := by
  rw [settings_eq]
  cases refused with
  | file named failed => rw [base_of_failed named failed, Except.bind]
  | cpus loads named failed =>
    rw [base_of_loads loads, Except.bind, merge_of_cpus named failed, Except.bind]
  | mac loads list named failed =>
    rw [base_of_loads loads, Except.bind, merge_of_mac list named failed, Except.bind]
  | config loads reads breaks =>
    rw [base_of_loads loads, Except.bind, merge_of_reads reads, Except.bind,
      Config.validate_of_breaks breaks]

theorem loads_or_refused (read : Config.Reader) (f : Flags) (files : Files) :
    (∃ w, Loads read f files w) ∨ ∃ e, Refused read f files e := by
  cases named : f.file with
  | none => exact .inl ⟨_, .nothing named⟩
  | some path =>
    rcases Config.inFile_or_unloadable read path (files path) with ⟨w, found⟩ | ⟨e, failed⟩
    · exact .inl ⟨w, .file named found⟩
    · exact .inr ⟨_, .file named failed⟩

theorem read_or_failed {α ε : Type} (read : String → Except ε α) (given : Option String) :
    (∃ value, Option.Rel (fun text a => read text = .ok a) given value) ∨
      ∃ text reason, given = some text ∧ read text = .error reason := by
  cases given with
  | none => exact .inl ⟨none, .none⟩
  | some text =>
    cases ok : read text with
    | ok value => exact .inl ⟨some value, .some ok⟩
    | error reason => exact .inr ⟨text, reason, rfl, ok⟩

theorem accepted_or_refused (read : Config.Reader) (f : Flags) (files : Files) :
    (∃ w cpus mac, Accepted read f files w cpus mac) ∨ ∃ e, Refused read f files e := by
  rcases loads_or_refused read f files with ⟨w, loads⟩ | refused
  case inr => exact .inr refused
  rcases read_or_failed CpuList.ofText f.cpus with ⟨cpus, readCpus⟩ | ⟨_, _, named, failed⟩
  case inr => exact .inr ⟨_, .cpus loads named failed⟩
  rcases read_or_failed Mac.read f.mac with ⟨mac, readMac⟩ | ⟨_, _, named, failed⟩
  case inr => exact .inr ⟨_, .mac loads readCpus named failed⟩
  have reads : Reads f cpus mac := ⟨readCpus, readMac⟩
  rcases (f.effective cpus mac w).valid_or_breaks with valid | ⟨e, breaks⟩
  · exact .inl ⟨w, cpus, mac, loads, reads, valid⟩
  · exact .inr ⟨_, .config loads reads breaks⟩

/-- There are settings exactly if the file loads, the texts among the options can be read, and what
is then in effect meets the rules; they are what is in effect. Otherwise the first of these that
fails is reported, which is the first broken rule where only the outcome is bad. This is so for any
reader of files; the reader of documents takes the fields of a record one by one. -/
theorem settings_exact (f : Flags) (files : Files) :
    (∀ read : Config.Reader,
      (∀ c, f.settings read files = .ok c ↔
        ∃ w cpus mac, Accepted read f files w cpus mac ∧ f.effective cpus mac w = c) ∧
        ∀ e, f.settings read files = .error e ↔ Refused read f files e) ∧
      ∀ s w, Config.documents s = .ok w ↔
        ∃ d given, Document.ofText? s = some d ∧ d.record? Config.fields = some given ∧
          Written.Of given w := by
  refine ⟨fun read => ⟨fun c => ⟨fun ok => ?_, ?_⟩,
    fun e => ⟨fun failed => ?_, settings_of_refused⟩⟩, fun s w => Config.documents_eq_ok_iff⟩
  · rcases accepted_or_refused read f files with ⟨w, cpus, mac, accepted⟩ | ⟨e, refused⟩
    · rw [settings_of_accepted accepted] at ok
      exact ⟨w, cpus, mac, accepted, Except.ok.inj ok⟩
    · rw [settings_of_refused refused] at ok
      cases ok
  · rintro ⟨w, cpus, mac, accepted, rfl⟩
    exact settings_of_accepted accepted
  · rcases accepted_or_refused read f files with ⟨w, cpus, mac, accepted⟩ | ⟨e', refused⟩
    · rw [settings_of_accepted accepted] at failed
      cases failed
    · rw [settings_of_refused refused] at failed
      cases failed
      exact refused

/-- A file that sets the interval, under an option that names the device. -/
example :
    let file := "\x7b\"stats_interval_secs\": 30, \"burst_size\": 64\x7d"
    let contents := file.toList.map fun c => UInt8.ofNat c.toNat
    let devices : List DeviceSpec := [⟨"tap0", 1, none⟩]
    let flags := { empty with file := some "r.json", devices := devices, burstSize := some 32 }
    (flags.settings Config.documents fun _ => .ok contents).map
      (fun c => (c.statsInterval, c.burstSize)) = .ok (30, 32) := by
  decide +kernel

end Command.Flags

end Boomerang
