import HubService.Json.Value
import HubService.Json.Print
import HubService.Json.Parse
import HubService.Text.Debug

/-!
# Reading typed data out of a JSON value

Configuration, tags, paths and error codes can be given as JSON values, and a value of the
wrong shape is refused with a sentence that names what was found and what was expected:
`invalid type: integer `5`, expected a string`. `HubService.Json.DecodeError` holds the
refusals and `HubService.Json.DecodeError.message` their wording; the readers at the end of the
file are the ones the library needs: text, unsigned integers of a given width, a list, and the
name of one of a fixed set of variants.
-/

namespace HubService.Json

/-- What a reader found in place of what it expected. -/
inductive Found where
  | bool (b : Bool)
  | unsigned (n : Nat)
  | signed (n : Int)
  | float (bits : UInt64)
  | string (s : String)
  | unit
  | sequence
  | map
  deriving Repr

/-- What is found in a value, for a refusal. -/
def Found.ofValue : Value → Found
  | .null => .unit
  | .bool b => .bool b
  | .number (.posInt n) => .unsigned n.toNat
  | .number (.negInt n) => .signed n.toInt
  | .number (.float bits) => .float bits
  | .string s => .string s
  | .array _ => .sequence
  | .object _ => .map

/-- How a refusal describes what was found. -/
def Found.describe : Found → String
  | .bool b => s!"boolean `{b}`"
  | .unsigned n => s!"integer `{n}`"
  | .signed n => s!"integer `{n}`"
  | .float bits => "floating point `" ++ floatText bits ++ "`"
  | .string s => "string " ++ Text.debugQuote s
  | .unit => "null"
  | .sequence => "sequence"
  | .map => "map"

/-- Why a value cannot be read as the data wanted. -/
inductive DecodeError where
  | invalidType (found : Found) (expected : String)
  | invalidValue (found : Found) (expected : String)
  | invalidLength (len : Nat) (expected : String)
  | unknownVariant (name : String) (variants : List String)
  | missingField (name : String)
  | custom (message : String)
  deriving Repr

/-- The variants a refusal lists: one, two joined by `or`, or `one of` a list. -/
def variantList : List String → String
  | [] => "there are no variants"
  | [a] => s!"`{a}`"
  | [a, b] => s!"`{a}` or `{b}`"
  | vs => "one of " ++ ", ".intercalate (vs.map fun v => s!"`{v}`")

/-- The words for a refusal. -/
def DecodeError.message : DecodeError → String
  | .invalidType found expected => s!"invalid type: {found.describe}, expected {expected}"
  | .invalidValue found expected => s!"invalid value: {found.describe}, expected {expected}"
  | .invalidLength len expected => s!"invalid length {len}, expected {expected}"
  | .unknownVariant name variants => s!"unknown variant `{name}`, expected {variantList variants}"
  | .missingField name => s!"missing field `{name}`"
  | .custom message => message

/-- Reads text. -/
def decodeString : Value → Except DecodeError String
  | .string s => .ok s
  | v => .error (.invalidType (Found.ofValue v) "a string")

/-- Reads an unsigned integer below `2^bits`, named `name` in a refusal. -/
def decodeUnsigned (bits : Nat) (name : String) : Value → Except DecodeError Nat
  | .number (.posInt n) =>
    if n.toNat < Nat.pow 2 bits then .ok n.toNat else .error (.invalidValue (.unsigned n.toNat) name)
  | .number (.negInt n) => .error (.invalidValue (.signed n.toInt) name)
  | v => .error (.invalidType (Found.ofValue v) name)

/-- Reads a list, each item with `item`. -/
def decodeList {α : Type} (item : Value → Except DecodeError α) : Value → Except DecodeError (List α)
  | .array items => items.mapM item
  | v => .error (.invalidType (Found.ofValue v) "a sequence")

/-- Reads the name of a variant without data, one of `variants`: a string, or an object of one
field whose value is `null`. -/
def decodeVariant (variants : List String) : Value → Except DecodeError String
  | .string s => if s ∈ variants then .ok s else .error (.unknownVariant s variants)
  | .object [(name, v)] =>
    if name ∈ variants then
      match v with
      | .null => .ok name
      | other => .error (.invalidType (Found.ofValue other) "unit")
    else .error (.unknownVariant name variants)
  | .object _ => .error (.invalidValue .map "map with a single key")
  | v => .error (.invalidType (Found.ofValue v) "string or map")

/-! ### Text that must hold an object -/

/-- Why text is not the JSON text of an object: it is not JSON text, or it holds another
kind of value, found where the reader stood. -/
inductive ObjectTextError where
  | notJson (e : SyntaxError)
  | shape (e : DecodeError) (line column : Nat)
  deriving Repr

/-- The words for a refusal. -/
def ObjectTextError.message : ObjectTextError → String
  | .notJson e => e.message
  | .shape e line column => s!"{e.message} at line {line} column {column}"

/-- What a number is, for a refusal. -/
def Found.ofNumber : Number → Found
  | .posInt n => .unsigned n.toNat
  | .negInt n => .signed n.toInt
  | .float bits => .float bits

/-- The value that starts at `j`, read only as far as a refusal needs to describe it: a
scalar is read whole, a container only by its opening bracket. -/
def foundAt (src : ByteArray) (j : Nat) (b : UInt8) : Except SyntaxError (Found × Nat) :=
  match b with
  | 110 => (literal src [117, 108, 108] (j + 1)).map fun k => (.unit, k)
  | 116 => (literal src [114, 117, 101] (j + 1)).map fun k => (.bool true, k)
  | 102 => (literal src [97, 108, 115, 101] (j + 1)).map fun k => (.bool false, k)
  | 45 => (number src false (j + 1)).map fun (n, k) => (Found.ofNumber n, k)
  | 34 => (string src (j + 1)).map fun (s, k) => (.string s, k)
  | 91 => .ok (.sequence, j)
  | _ =>
    if isDigit b then (number src true j).map fun (n, k) => (Found.ofNumber n, k)
    else .error (.past src .expectedValue j)

/-- Reads text that must hold one JSON object. Text of another value is refused as soon as
its kind is known, placed where the reader then stands. -/
def parseObjectText (src : ByteArray) : Except ObjectTextError Fields :=
  let j := skipBlanks src 0
  match src[j]? with
  | none => .error (.notJson (.past src .eofInValue j))
  | some 123 =>
    match parse src with
    | .ok (.object fields) => .ok fields
    | .ok v => .error (.shape (.invalidType (Found.ofValue v) "a map") 1 0)
    | .error e => .error (.notJson e)
  | some b =>
    match foundAt src j b with
    | .error e => .error (.notJson e)
    | .ok (found, k) =>
      let (line, column) := positionOf src k
      .error (.shape (.invalidType found "a map") line column)

end HubService.Json
