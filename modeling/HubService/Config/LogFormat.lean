import HubService.Json.Decode

/-!
# Log formats

Log lines are written either as one JSON object per event or as one compact line of text.
A format is named `json` or `compact`. There are two ways to read the name:

* from text (`HubService.Config.LogFormat.parse`), as configuration is given on the command
  line and in the environment: ASCII letters match in either case, nothing else is forgiven;
* from a JSON value (`HubService.Config.LogFormat.decode`): the exact lowercase name.
-/

namespace HubService.Config

/-- How log lines are written. -/
inductive LogFormat where
  /-- One JSON object per event. -/
  | json
  /-- One line of text per event. -/
  | compact
  deriving DecidableEq, Repr, Inhabited

namespace LogFormat

/-- The formats. -/
def all : List LogFormat := [.json, .compact]

/-- The name of a format. -/
def text : LogFormat → String
  | .json => "json"
  | .compact => "compact"

/-- Why text names no format. -/
def parseError : String := "Matching variant not found"

/-- Reads a format's name, in either case of ASCII letter. -/
def parse (s : String) : Except String LogFormat :=
  match all.find? fun f => f.text.toLower = s.map Char.toLower with
  | some f => .ok f
  | none => .error parseError

/-- Reads a format from a JSON value: its exact name. -/
def decode (v : Json.Value) : Except Json.DecodeError LogFormat := do
  let name ← Json.decodeVariant (all.map text) v
  match all.find? (·.text = name) with
  | some f => pure f
  | none => throw (.unknownVariant name (all.map text))

end LogFormat

end HubService.Config
