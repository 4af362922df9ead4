import HubService.Json.Value
import HubService.Decimal.Shortest

/-!
# Writing JSON text

`HubService.Json.Value.compact` writes a value with no blanks at all: object fields in the
order they are kept (sorted by key), strings quoted with the fewest escapes, and numbers as
follows.

* Integers are written in decimal.
* A double is written with the shortest decimal that reads back as it
  (`HubService.Decimal.shortest`), laid out by `HubService.Json.FloatLayout.compact`: a point and
  a digit always, so that the text reads back as a double and not as an integer, and an
  exponent only outside sixteen digits of positional notation.
* A double that is not finite has no JSON text and is written `null`.
-/

namespace HubService.Json

/-- How a double's shortest decimal `d₁d₂…dₙ · 10^k` is laid out, with `kk = n + k` the position
of the decimal point relative to the first digit. -/
structure FloatLayout where
  /-- Positional notation is used while `kk` is at most this. -/
  widest : Nat
  /-- Positional notation with leading zeros is used while `kk` is above this. -/
  narrowest : Int
  /-- Whether a positive exponent carries a plus sign. -/
  plusSign : Bool

/-- Positional notation for up to sixteen digits before the point and four zeros after it, an
exponent beyond that, written with its sign either way. -/
def FloatLayout.compact : FloatLayout := ⟨16, -5, true⟩

/-- `n` zero digits. -/
def zeros (n : Nat) : String := String.ofList (List.replicate n '0')

/-- The text of an exponent. -/
def FloatLayout.exponentText (layout : FloatLayout) (e : Int) : String :=
  if e < 0 then "e-" ++ toString e.natAbs
  else if layout.plusSign then "e+" ++ toString e.natAbs
  else "e" ++ toString e.natAbs

/-- Lays out the decimal `digits · 10^exponent`, which has no trailing zero digit. -/
def FloatLayout.render (layout : FloatLayout) (d : Decimal) : String :=
  let ds := toString d.digits
  let n := ds.length
  let kk : Int := n + d.exponent
  if 0 ≤ d.exponent ∧ kk ≤ layout.widest then ds ++ zeros d.exponent.toNat ++ ".0"
  else if 0 < kk ∧ kk ≤ layout.widest then
    String.ofList (ds.toList.take kk.toNat) ++ "." ++ String.ofList (ds.toList.drop kk.toNat)
  else if layout.narrowest < kk ∧ kk ≤ 0 then "0." ++ zeros (-kk).toNat ++ ds
  else if n = 1 then ds ++ layout.exponentText (kk - 1)
  else
    String.ofList (ds.toList.take 1) ++ "." ++ String.ofList (ds.toList.drop 1) ++
      layout.exponentText (kk - 1)

/-- Whether the bits of a double are those of an infinity or a NaN. -/
def nonFinite (bits : UInt64) : Bool := bits.toNat / Nat.pow 2 52 % Nat.pow 2 11 = Nat.pow 2 11 - 1

/-- The text of a double given by its bits. -/
def floatText (bits : UInt64) : String :=
  let negative := bits.toNat ≥ Nat.pow 2 63
  let sign := if negative then "-" else ""
  if nonFinite bits then "null"
  else if bits.toNat % Nat.pow 2 63 = 0 then sign ++ "0.0"
  else sign ++ FloatLayout.compact.render (Decimal.shortest bits)

/-- The text of a number. -/
def Number.text : Number → String
  | .posInt n => toString n.toNat
  | .negInt n => toString n.toInt
  | .float bits => floatText bits

/-- The two lowercase hex digits of a byte. -/
def hexByte (n : Nat) : String :=
  let digit (d : Nat) : Char := if d < 10 then Char.ofNat (48 + d) else Char.ofNat (87 + d)
  String.ofList [digit (n / 16 % 16), digit (n % 16)]

/-- The escape of one character inside a quoted string: quote, backslash and control
characters are escaped, everything else stands for itself. -/
def escapeChar (c : Char) : String :=
  if c = '"' then "\\\""
  else if c = '\\' then "\\\\"
  else if c = '\n' then "\\n"
  else if c = '\r' then "\\r"
  else if c = '\t' then "\\t"
  else if c.toNat = 8 then "\\b"
  else if c.toNat = 12 then "\\f"
  else if c.toNat < 32 then "\\u00" ++ hexByte c.toNat
  else c.toString

/-- A string in quotes, escaped. -/
def quote (s : String) : String :=
  "\"" ++ String.join (s.toList.map escapeChar) ++ "\""

mutual

/-- The compact text of a value. -/
def Value.compact : Value → String
  | .null => "null"
  | .bool true => "true"
  | .bool false => "false"
  | .number n => n.text
  | .string s => quote s
  | .array items => "[" ++ itemsText items ++ "]"
  | .object fields => "\x7b" ++ fieldsText fields ++ "\x7d"

/-- The compact text of array items, comma separated. -/
def itemsText : List Value → String
  | [] => ""
  | [v] => v.compact
  | v :: rest => v.compact ++ "," ++ itemsText rest

/-- The compact text of object fields, comma separated. -/
def fieldsText : List (String × Value) → String
  | [] => ""
  | [(k, v)] => quote k ++ ":" ++ v.compact
  | (k, v) :: rest => quote k ++ ":" ++ v.compact ++ "," ++ fieldsText rest

end

/-- The compact text of an object given by its fields. -/
def Fields.compact (fields : Fields) : String := (Value.object fields).compact

end HubService.Json
