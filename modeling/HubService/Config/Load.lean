import HubService.Config.Cli
import HubService.Config.EnvText
import HubService.Config.File

/-!
# Loading a configuration

A configuration is built in layers, each overriding the one before: the defaults, then a
configuration file if one is named, then the environment, then the command line
(`HubService.Config.load`).

* The command line is read as `HubService.Config.readCommandLine` says; its values already have
  their settings' types. A command line that gives every setting its default value gives no
  layer (`HubService.Config.cliLayer`).
* A configuration file is named by the command line's `--config-path`, or else by the variable
  `CRYPTIC_CONFIG_PATH`, and read as `HubService.Config.readConfigFile` says; a file the
  variable names need not be there.
* An environment variable `CRYPTIC_<SETTING>` (the prefix in either case, the setting's name in
  any case) gives that setting, its text read as `HubService.Config.envValue` says; other
  variables are ignored. White space around the name does not count, and `__` in it reaches
  into a table: `CRYPTIC_LOG_FORMAT__JSON` gives the entry `json` of the table `log_format`
  (`HubService.Config.envPath?`).

The layers are then merged, two tables entry by entry and otherwise the later value winning
(`HubService.Config.mergeValue`), and the configuration is read from the merged settings in the
order of their names, the first that does not fit its setting's type being refused:
a port must be an integer from 0 to 65535, a delay, timeout or concurrency an unsigned integer,
a host, name or filter text, and a log format the exact name of one.

A fault in one layer does not stop the others: a command line that is refused, or a file that
cannot be read, leaves its layer out, and every fault found is reported, in the order above
(`HubService.Config.faultsMessage`).
-/

namespace HubService.Config

open HubService.Json

/-- The prefix of the environment variables that give settings. -/
def envPrefix : String := "CRYPTIC_"

mutual

/-- A value merged over another: two tables merge entry by entry, and otherwise the later value
wins. -/
def mergeValue : Value → Value → Value
  | .object base, .object layer => .object (mergeFields base layer)
  | _, v => v

/-- Fields merged over others, entry by entry. -/
def mergeFields (base : Fields) : List (String × Value) → Fields
  | [] => base
  | (k, v) :: rest =>
    let merged := match Fields.get? k base with
      | some old => mergeValue old v
      | none => v
    mergeFields (Fields.insert k merged base) rest

end

/-- The path of names an environment variable's name gives, if it has the prefix: the name
without white space around it, less the prefix in any case of letter, with each `__` read as a
`.`, trimmed again, in lower case, and split at each `.`. A name with an empty part gives
nothing. -/
def envPath? (key : String) : Option (List String) :=
  let name := String.ofList (Text.trimWhiteSpace key.toList)
  if (name.take envPrefix.length).toString.toUpper = envPrefix then
    let rest := (name.drop envPrefix.length).toString.replace "__" "."
    let parts := (String.ofList (Text.trimWhiteSpace rest.toList)).toLower.splitOn "."
    if parts.any (·.isEmpty) then none else some parts
  else none

/-- A value placed at a path of names: nested tables of one entry each. -/
def nestAt : List String → Value → Value
  | [], v => v
  | k :: ks, v => .object [(k, nestAt ks v)]

/-- The settings the environment gives, merged in the order of the variables. -/
def envOverrides (env : List (String × String)) : Overrides :=
  env.foldl (fun acc (key, text) =>
    match envPath? key with
    | some (k :: ks) => mergeFields acc [(k, nestAt ks (envValue text))]
    | _ => acc) []

/-- The defaults as settings. -/
def defaultSettings : Fields :=
  let c : Config := {}
  Fields.ofList [("hub_host", .string c.hubHost),
    ("hub_port", .number (.posInt c.hubPort.toUInt64)),
    ("service_name", .string c.serviceName), ("log_filter", .string c.logFilter),
    ("log_format", .string c.logFormat.text),
    ("reconnect_delay_secs", .number (.posInt c.reconnectDelaySecs.toUInt64)),
    ("call_timeout_secs", .number (.posInt c.callTimeoutSecs.toUInt64)),
    ("dispatch_concurrency", .number (.posInt c.dispatchConcurrency.toUInt64))]

/-- Settings merged over others, the later winning, tables entry by entry. -/
def merge (base : Fields) (layer : Overrides) : Fields := mergeFields base layer

/-- Reads a log format from a merged setting: the name of one, or a table of one entry whose
key names one and whose value is empty. -/
def decodeLogFormat (v : Value) : Except DecodeError LogFormat := do
  let name ← decodeVariant (LogFormat.all.map LogFormat.text) v
  match LogFormat.all.find? (·.text = name) with
  | some f => .ok f
  | none => .error (.unknownVariant name (LogFormat.all.map LogFormat.text))

/-- Reads one merged setting into a partial configuration. -/
def Partial.setMerged (p : Partial) (name : String) (v : Value) :
    Except DecodeError Partial :=
  if name = "log_format" then return { p with logFormat := some (← decodeLogFormat v) }
  else p.set name v

/-- Reads a configuration from merged settings, in the order of their names. -/
def extract (settings : Fields) : Except DecodeError Config := do
  let p ← settings.foldlM (fun p (k, v) => p.setMerged k v) ({} : Partial)
  p.finish

/-- The variable that names a configuration file. -/
def configPathVariable : String := envPrefix ++ "CONFIG_PATH"

/-- One fault found while loading a configuration. -/
inductive LoadError where
  /-- The command line of the program of this name was refused. -/
  | commandLine (program : String) (e : CliError)
  /-- The configuration file at this path could not be used. -/
  | file (path : String) (e : FileError)
  /-- The merged settings do not make a configuration. -/
  | merge (e : DecodeError)
  deriving Repr

/-- The words for one fault. -/
def LoadError.message : LoadError → String
  | .commandLine program e => "Failed to parse command-line arguments: " ++ e.text program
  | .file path e => "Configuration file error in '" ++ path ++ "': " ++ e.text
  | .merge e => "Failed to merge CLI with configuration: " ++ e.message

/-- The words for the faults of a load: one fault in its own words, several numbered from 1,
one to a line. -/
def faultsMessage : List LoadError → String
  | [e] => e.message
  | es => "multiple configuration errors:\n" ++
      "\n".intercalate (es.zipIdx.map fun (e, i) => toString (i + 1) ++ ": " ++ e.message)

/-- Where a configuration file was named. -/
inductive NamedBy where
  /-- By `--config-path`: the file must be there. -/
  | commandLine
  /-- By `CRYPTIC_CONFIG_PATH`: a file that is not there is passed over. -/
  | environment
  deriving DecidableEq, Repr

/-- The configuration file named by a command line that was read, or else by the
environment, and where it was named. -/
def configPathOf (cli : Except CliError Overrides) (env : List (String × String)) :
    Option (String × NamedBy) :=
  let fromCli := match cli with
    | .ok given => (namedConfigPath given).map (·, NamedBy.commandLine)
    | .error _ => none
  fromCli <|> (env.find? (·.1 = configPathVariable)).map fun (_, p) => (p, .environment)

/-- The layer a configuration file gives, or the fault it causes. -/
def fileLayer (files : FileView) : Option (String × NamedBy) → List LoadError × Fields
  | none => ([], [])
  | some (path, by_) =>
    match readConfigFile path (files.lookup path), by_ with
    | .ok fields, _ => ([], fields)
    | .error .notFound, .environment => ([], [])
    | .error e, _ => ([.file path e], [])

/-- Whether a command line gives every setting, each its default value. Such a command line
says nothing the defaults do not, and is taken as giving no settings at all, so that the
environment is not overridden by it. -/
def restatesDefaults (given : Overrides) : Bool :=
  given.length = defaultSettings.length &&
    defaultSettings.all fun (k, v) => (Fields.get? k given).map Value.compact == some v.compact

/-- The layer a command line gives. -/
def cliLayer (given : Overrides) : Overrides :=
  if restatesDefaults given then [] else given

/-- Loads a configuration for the program of this name from its arguments, its environment and
the files it can see; every fault found, if any. -/
def load (program : String) (args : List String) (env : List (String × String))
    (files : FileView) : Except (List LoadError) Config :=
  let cli := readCommandLine args
  let (cliFaults, cliSettings) : List LoadError × Overrides := match cli with
    | .ok given => ([], cliLayer given)
    | .error e => ([.commandLine program e], [])
  let (fileFaults, fileSettings) := fileLayer files (configPathOf cli env)
  let faults := cliFaults ++ fileFaults
  match extract (merge (merge (merge defaultSettings fileSettings) (envOverrides env))
      cliSettings) with
  | .ok c => if faults.isEmpty then .ok c else .error faults
  | .error e => .error (faults ++ [.merge e])

/-- Merging no settings changes nothing. -/
theorem merge_nil (base : Fields) : merge base [] = base := by
  simp [merge, mergeFields]

/-- **A clean load**: with no file named, a command line that reads and an environment whose
settings fit, the configuration is the one read from the merged layers. -/
theorem load_ok (program : String) (args : List String) (env : List (String × String))
    (files : FileView) (given : Overrides) (c : Config) (hcli : readCommandLine args = .ok given)
    (hpath : configPathOf (.ok given) env = none)
    (hread : extract (merge (merge defaultSettings (envOverrides env)) (cliLayer given)) = .ok c) :
    load program args env files = .ok c := by
  simp [load, hcli, hpath, fileLayer, merge_nil, hread]

end HubService.Config
