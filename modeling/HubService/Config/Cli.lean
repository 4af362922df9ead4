import HubService.Config.Basic

/-!
# Settings on the command line

Every setting has a long option named after it, `--hub-port <HUB_PORT>` for `hub_port`, and a
one-letter short one, `-u`. A long option's value is the next argument or follows `=`; a short
one's is the rest of its argument, after an optional `=`, or else the next argument. Besides the
settings there is `--config-path <PATH>`, which names a configuration file and is left out of
help and usage, and `-h`/`--help`, which asks for help.

The command line is read left to right, and the first fault ends the reading:

* an argument that is not an option, or an option nobody knows, is *unexpected*; for an unknown
  long option the most similar known one, if any is similar enough, is suggested;
* an option whose value is missing (the next argument is a known option, or there is none)
  wants a value, and so does a path given as empty text;
* a value that does not read as the setting's type is *invalid*;
* an option given twice is refused;
* asking for help ends the reading with the help text.

An option's value is checked only when the next option is read or the command line ends, so an
unexpected argument right after it is what is reported: `--hub-port x --bogus` is an unexpected
`--bogus`, not an invalid port.

An argument after an option that looks like an option is read as one: `--hub-port -5` is an
unexpected `-5`, not a negative port. After `--` every argument is unexpected, since no setting
is given by position.

The words of each refusal (`HubService.Config.CliError.text`) name the program and show how it
is used, the way the user saw it.
-/

namespace HubService.Config

open HubService.Json

/-- How the value of an option is read. -/
inductive ValueType where
  /-- Any text. -/
  | text
  /-- A port: an integer from 0 to 65535. -/
  | port
  /-- A 64-bit unsigned integer. -/
  | count
  /-- A log format's name. -/
  | format
  /-- A path: any text but the empty one. -/
  | path
  deriving DecidableEq, Repr

/-- A command-line option with a value: the setting it gives, how its value is read, its short
letter, the name of its value in usage, and whether help and usage leave it out. -/
structure CliOption where
  setting : String
  type : ValueType
  short : Option Char
  valueName : String
  hidden : Bool := false
  deriving DecidableEq, Repr

namespace CliOption

/-- The option of a setting, its value named after the setting. -/
def ofSetting (setting : String) (type : ValueType) (short : Char) : CliOption :=
  ⟨setting, type, some short, setting.toUpper, false⟩

/-- The options of the settings, in the order of the settings. -/
def settings : List CliOption :=
  [ofSetting "hub_host" .text 'H', ofSetting "hub_port" .port 'u',
    ofSetting "service_name" .text 's', ofSetting "log_filter" .text 'l',
    ofSetting "log_format" .format 'L', ofSetting "reconnect_delay_secs" .count 'r',
    ofSetting "call_timeout_secs" .count 'c', ofSetting "dispatch_concurrency" .count 'd']

/-- The option that names a configuration file. -/
def configPath : CliOption := ⟨"config_path", .path, none, "PATH", true⟩

/-- Every option with a value. -/
def all : List CliOption := settings ++ [configPath]

/-- The option's name without its dashes: the setting with `-` for `_`. -/
def name (o : CliOption) : String := o.setting.map fun c => if c = '_' then '-' else c

/-- The option as usage shows it: `--hub-port <HUB_PORT>`. -/
def display (o : CliOption) : String := "--" ++ o.name ++ " <" ++ o.valueName ++ ">"

/-- The option as help lists it: `-u, --hub-port <HUB_PORT>`. -/
def helpDisplay (o : CliOption) : String :=
  match o.short with
  | some c => "-" ++ c.toString ++ ", " ++ o.display
  | none => "    " ++ o.display

end CliOption

/-- What an option names: an option with a value, or the request for help. -/
inductive Flag where
  | option (o : CliOption)
  | help
  deriving DecidableEq, Repr

namespace Flag

/-- Every flag, in the order they are known. -/
def all : List Flag := CliOption.all.map .option ++ [.help]

/-- The flag's long name. -/
def name : Flag → String
  | .option o => o.name
  | .help => "help"

/-- The flag's short letter. -/
def short : Flag → Option Char
  | .option o => o.short
  | .help => some 'h'

/-- The flag as usage shows it. -/
def display : Flag → String
  | .option o => o.display
  | .help => "--help"

/-- Whether help and usage leave the flag out. -/
def hidden : Flag → Bool
  | .option o => o.hidden
  | .help => false

/-- The flag of a long name. -/
def ofLong? (name : String) : Option Flag := all.find? (·.name = name)

/-- The flag of a short letter. -/
def ofShort? (c : Char) : Option Flag := all.find? (·.short = some c)

end Flag

/-- What the program says it is, at the top of its help. -/
def about : String := "CLI parser struct generated by `OrthoConfig` for `Config`"

/-- The help text: what the program is, how it is used, and its options, each line padded so
that the descriptions line up. -/
def helpText (program : String) : String :=
  let rows := (CliOption.all.filter (!·.hidden)).map (fun o => (o.helpDisplay, "")) ++
    [("-h, --help", "Print help")]
  let width := rows.foldl (fun w (spec, _) => max w spec.length) 0
  let line := fun ((spec, what) : String × String) =>
    "  " ++ spec ++ String.ofList (List.replicate (width - spec.length + 2) ' ') ++ what ++ "\n"
  about ++ "\n\nUsage: " ++ program ++ " [OPTIONS]\n\nOptions:\n" ++ String.join (rows.map line)

/-! ### Reading values -/

/-- Why text is not an integer of a given width. -/
inductive IntegerError where
  | empty
  | invalidDigit
  | tooLarge
  | tooSmall
  deriving DecidableEq, Repr

/-- The words for text that is not an integer. -/
def IntegerError.text : IntegerError → String
  | .empty => "cannot parse integer from empty string"
  | .invalidDigit => "invalid digit found in string"
  | .tooLarge => "number too large to fit in target type"
  | .tooSmall => "number too small to fit in target type"

/-- The value of decimal digits. -/
def digitsValue (cs : List Char) : Option Nat :=
  cs.foldl (fun acc c => acc.bind fun n =>
    if c.isDigit then some (n * 10 + (c.toNat - 48)) else none) (some 0)

/-- Reads an integer from `lo` to `hi` written in decimal, with an optional sign. A sign alone
has an invalid digit, and so has a minus sign when `lo` is zero. -/
def readInteger (lo : Int) (hi : Nat) (s : String) : Except IntegerError Int :=
  let (negative, ds) := match s.toList with
    | '-' :: rest => (true, rest)
    | '+' :: rest => (false, rest)
    | cs => (false, cs)
  if s.isEmpty then .error .empty
  else if ds.isEmpty then .error .invalidDigit
  else
    match digitsValue ds with
    | none => .error .invalidDigit
    | some n =>
      if negative then
        if lo = 0 then .error .invalidDigit
        else if -(n : Int) < lo then .error .tooSmall else .ok (-(n : Int))
      else if n > hi then .error .tooLarge else .ok n

/-- Reads an option's value as its setting's type, as a JSON value, or says why not. -/
def readValue (t : ValueType) (v : String) : Except String Value :=
  match t with
  | .text => .ok (.string v)
  | .port =>
    match readInteger (-(Int.pow 2 63)) (Nat.pow 2 63 - 1) v with
    | .error e => .error e.text
    | .ok n =>
      if 0 ≤ n ∧ n ≤ 65535 then .ok (.number (.posInt n.toNat.toUInt64))
      else .error (toString n ++ " is not in 0..=65535")
  | .count =>
    match readInteger 0 (Nat.pow 2 64 - 1) v with
    | .error e => .error e.text
    | .ok n => .ok (.number (.posInt n.toNat.toUInt64))
  | .format =>
    match LogFormat.parse v with
    | .ok f => .ok (.string f.text)
    | .error e => .error e
  | .path => .ok (.string v)

/-! ### Suggestions -/

/-- The characters of `b` that match `a[i]` within the window, marking matched ones; the first
unmatched equal character in the window is taken. -/
def jaroMatches (a b : List Char) : List Bool × List Bool :=
  let window := (max a.length b.length / 2) - 1
  a.zipIdx.foldl (fun (aFlags, bFlags) (c, i) =>
    let lo := i - window
    let hi := min b.length (i + window + 1)
    match ((b.zipIdx.zip bFlags).find? fun ((d, j), used) => lo ≤ j ∧ j < hi ∧ d = c ∧ !used) with
    | some ((_, j), _) => (aFlags ++ [true], bFlags.set j true)
    | none => (aFlags ++ [false], bFlags)) ([], List.replicate b.length false)

/-- The similarity of two words, from 0 to 1: matching characters near the same place, less
half the ones that match out of order. -/
def jaro (a b : List Char) : Float :=
  if a.isEmpty && b.isEmpty then 1
  else if a.isEmpty || b.isEmpty then 0
  else
    let (aFlags, bFlags) := jaroMatches a b
    let aMatched := (a.zip aFlags).filterMap fun (c, f) => if f then some c else none
    let bMatched := (b.zip bFlags).filterMap fun (c, f) => if f then some c else none
    let m := aMatched.length
    if m = 0 then 0
    else
      let t := ((aMatched.zip bMatched).filter fun (x, y) => x ≠ y).length / 2
      (m.toFloat / a.length.toFloat + m.toFloat / b.length.toFloat +
        (m - t).toFloat / m.toFloat) / 3

/-- The known long option most similar to `name`, if one is similar enough: above 0.7, and
among equals the last in order. -/
def suggestion (name : String) : Option Flag :=
  let scored := Flag.all.map fun o => (jaro name.toList o.name.toList, o)
  let good := scored.filter (·.1 > 0.7)
  (good.foldl (fun best (s, o) => match best with
    | some (bs, _) => if s ≥ bs then some (s, o) else best
    | none => some (s, o)) none).map (·.2)

/-! ### Refusals -/

/-- Why a command line is refused, or help is shown instead of reading it. -/
inductive CliError where
  /-- An argument nobody expects, a suggestion, and the flags used before it. -/
  | unexpected (arg : String) (suggested : Option Flag) (used : List Flag)
  /-- An option without its value. -/
  | missingValue (option : CliOption)
  /-- A value that does not read, and why. -/
  | invalidValue (value : String) (option : CliOption) (reason : String)
  /-- An option given twice. -/
  | repeated (option : CliOption)
  /-- A value given to a flag that takes none, and the flags used before it. -/
  | unexpectedValue (value : String) (flag : Flag) (used : List Flag)
  /-- Help was asked for. -/
  | help
  deriving Repr

/-- How the program is used, given the flags used so far; hidden ones are not shown. -/
def usage (program : String) (used : List Flag) : String :=
  match used.filter (!·.hidden) with
  | [] => program ++ " [OPTIONS]"
  | shown => program ++ " " ++ " ".intercalate (shown.map Flag.display)

/-- The closing line of every refusal. -/
def moreInformation : String := "For more information, try '--help'.\n"

/-- The words of a refusal, for the program of the given name. -/
def CliError.text (program : String) : CliError → String
  | .unexpected arg suggested used =>
    let tip := match suggested with
      | some o => "  tip: a similar argument exists: '--" ++ o.name ++ "'\n\n"
      | none => ""
    let shown := match suggested with
      | some o => if used.contains o then used else used ++ [o]
      | none => used
    "error: unexpected argument '" ++ arg ++ "' found\n\n" ++ tip ++ "Usage: " ++
      usage program shown ++ "\n\n" ++ moreInformation
  | .missingValue o =>
    "error: a value is required for '" ++ o.display ++ "' but none was supplied\n\n" ++
      moreInformation
  | .invalidValue v o reason =>
    "error: invalid value '" ++ v ++ "' for '" ++ o.display ++ "': " ++ reason ++ "\n\n" ++
      moreInformation
  | .repeated o =>
    "error: the argument '" ++ o.display ++ "' cannot be used multiple times\n\nUsage: " ++
      usage program [] ++ "\n\n" ++ moreInformation
  | .unexpectedValue v flag used =>
    "error: unexpected value '" ++ v ++ "' for '" ++ flag.display ++
      "' found; no more were expected\n\nUsage: " ++ usage program (used ++ [flag]) ++ "\n\n" ++
      moreInformation
  | .help => helpText program

/-! ### Reading the command line -/

/-- What an argument is. -/
inductive Token where
  /-- `--name` or `--name=value`. -/
  | long (name : String) (value : Option String)
  /-- `-x…`: its letters. -/
  | short (letters : List Char)
  /-- `--`. -/
  | separator
  /-- Anything else. -/
  | plain (text : String)
  deriving DecidableEq, Repr

/-- Sorts an argument. -/
def Token.of (arg : String) : Token :=
  match arg.toList with
  | '-' :: '-' :: [] => .separator
  | '-' :: '-' :: rest =>
    match (String.ofList rest).splitOn "=" with
    | [name] => .long name none
    | name :: values => .long name (some ("=".intercalate values))
    | [] => .long "" none
  | '-' :: c :: more => .short (c :: more)
  | _ => .plain arg

/-- The settings given on a command line, as JSON values, in the order given. -/
abbrev Overrides := List (String × Value)

/-- The options given so far. -/
def usedOptions (given : Overrides) : List Flag :=
  (given.map (·.1)).filterMap fun s => (CliOption.all.find? (·.setting = s)).map .option

/-- Records an option's value, refusing a repeated option and an empty path. -/
def record (given : Overrides) (o : CliOption) (v : String) :
    Except CliError Overrides :=
  if given.any (·.1 = o.setting) then .error (.repeated o)
  else if o.type = .path ∧ v.isEmpty then .error (.missingValue o)
  else
    match readValue o.type v with
    | .ok value => .ok (given ++ [(o.setting, value)])
    | .error reason => .error (.invalidValue v o reason)

/-- The value attached to a short option: the rest of its argument, less one leading `=`. -/
def attachedValue (rest : List Char) : Option String :=
  match rest with
  | [] => none
  | '=' :: more => some (String.ofList more)
  | more => some (String.ofList more)

/-- An option read from the command line whose value has not been checked yet: the option, and
its value once the next argument gives it. An option's value is checked only when the next
option is read or the command line ends. -/
structure Waiting where
  option : CliOption
  value : Option String
  deriving Repr

/-- Checks the option that is waiting: records its value, or refuses it for want of one. -/
def settle (given : Overrides) : Option Waiting → Except CliError Overrides
  | none => .ok given
  | some ⟨o, none⟩ => .error (.missingValue o)
  | some ⟨o, some v⟩ => record given o v

/-- The options given, for the usage line of a refusal that ends the reading while an option is
waiting: the waiting option's own fault is not reported, but it counts as given once it has a
value, even one that does not read, and given twice it is dropped altogether. -/
def givenAfter (given : Overrides) : Option Waiting → List Flag
  | some ⟨o, some _⟩ =>
    if given.any (·.1 = o.setting) then usedOptions (given.filter (·.1 ≠ o.setting))
    else usedOptions given ++ [.option o]
  | _ => usedOptions given

/-- Reads arguments, after those already read gave the options `given` and left `waiting`. -/
def readArgs (given : Overrides) (waiting : Option Waiting) : List String →
    Except CliError Overrides
  | [] => settle given waiting
  | arg :: rest =>
    match Token.of arg with
    | .plain v =>
      match waiting with
      | some ⟨o, none⟩ => readArgs given (some ⟨o, some v⟩) rest
      | _ => .error (.unexpected v none [])
    | .separator =>
      match rest with
      | [] => settle given waiting
      | v :: _ => .error (.unexpected v none [])
    | .short [] => .error (.unexpected arg none [])
    | .short (c :: more) =>
      match Flag.ofShort? c with
      | none => .error (.unexpected ("-" ++ c.toString) none [])
      | some .help => do
        let _ ← settle given waiting
        .error .help
      | some (.option o) => do
        let given ← settle given waiting
        match attachedValue more with
        | some v => readArgs (← record given o v) none rest
        | none => readArgs given (some ⟨o, none⟩) rest
    | .long name value =>
      match Flag.ofLong? name, value with
      | none, _ =>
        .error (.unexpected ("--" ++ name) (suggestion name) (givenAfter given waiting))
      | some .help, none => do
        let _ ← settle given waiting
        .error .help
      | some .help, some v => .error (.unexpectedValue v .help (usedOptions given))
      | some (.option o), some v => do readArgs (← record (← settle given waiting) o v) none rest
      | some (.option o), none => do readArgs (← settle given waiting) (some ⟨o, none⟩) rest

/-- Reads a command line, without the program's name: the settings it gives, and the
configuration file it names, if any, under `config_path`. -/
def readCommandLine (args : List String) : Except CliError Overrides := readArgs [] none args

/-- The configuration file a command line names. -/
def namedConfigPath (given : Overrides) : Option String :=
  match Fields.get? CliOption.configPath.setting given with
  | some (.string p) => some p
  | _ => none

end HubService.Config
