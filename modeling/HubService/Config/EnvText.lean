import HubService.Json.Value
import HubService.Text.CharClass

/-!
# Settings written in environment variables

An environment variable gives a setting as text, and the text is read into a value the way a
person would write it at a shell prompt (`HubService.Config.envValue`). The text is first
trimmed of white space; then

* text that begins with a bracket, a brace or a quote is read as a *structured value*, and kept
  as the trimmed text if it does not read to its end;
* other text with a comma in it is the list of the words between the commas;
* otherwise the text is a word.

A *word* is `true` or `false` in any case of letter, a boolean; a number with a decimal point,
a double (too large to be a double, it is `null`); an integer that fits 64 bits, unsigned or
else signed; and anything else is the word as text.

A *structured value*, with ASCII blanks around it skipped, is one of

* `true` or `false`, exactly so, however the text goes on;
* a list `[a, b]` or a table `{key = a, other = b}` of structured values, separated by commas,
  a comma allowed after the last; a table's key is ASCII letters, digits, `_` and `-`, or a
  quoted string, and a later key replaces an earlier one;
* a quoted string `"…"`, whose escapes are `\"`, `\\`, `\b`, `\f`, `\n`, `\r`, `\t`, and `\u`
  and `\U` with four and eight hex digits, and which may hold a tab but no other control
  character;
* a character in single quotes, as text;
* or else the text up to the next comma, bracket or brace, trimmed: a number with a decimal
  point, an integer, or the text itself; here `TRUE` is text.
-/

namespace HubService.Config

open HubService.Json

/-- Whether a character is an ASCII blank, skipped between the parts of a list or table. -/
def isBlankChar (c : Char) : Bool :=
  c = ' ' || c = '\t' || c = '\n' || c = '\x0C' || c = '\r'

/-! ### Numbers in words -/

/-- The value of a nonempty run of decimal digits. -/
def digitsValue? (cs : List Char) : Option Nat :=
  if cs.isEmpty then none
  else cs.foldl (fun acc c => acc.bind fun n =>
    if c.isDigit then some (n * 10 + (c.toNat - 48)) else none) (some 0)

/-- A word as an unsigned 64-bit integer: digits, after an optional `+`. -/
def unsignedWord? (cs : List Char) : Option Nat :=
  let ds := match cs with
    | '+' :: rest => rest
    | _ => cs
  (digitsValue? ds).bind fun n => if n < Nat.pow 2 64 then some n else none

/-- A word as a signed 64-bit integer: digits, after an optional sign. -/
def signedWord? (cs : List Char) : Option Int :=
  match cs with
  | '-' :: rest =>
    (digitsValue? rest).bind fun n => if n ≤ Nat.pow 2 63 then some (-(n : Int)) else none
  | '+' :: rest => (digitsValue? rest).bind fun n => if n < Nat.pow 2 63 then some n else none
  | _ => (digitsValue? cs).bind fun n => if n < Nat.pow 2 63 then some n else none

/-- The digits before and after the point of a decimal, and its exponent, if the word is one:
digits with at most one point, at least one digit, then optionally `e` or `E`, a sign and
digits. -/
def decimalParts? (cs : List Char) : Option (List Char × List Char × Int) :=
  let whole := cs.takeWhile Char.isDigit
  let afterWhole := cs.dropWhile Char.isDigit
  let (fraction, afterFraction) := match afterWhole with
    | '.' :: rest => (rest.takeWhile Char.isDigit, rest.dropWhile Char.isDigit)
    | rest => ([], rest)
  if whole.isEmpty && fraction.isEmpty then none
  else
    match afterFraction with
    | [] => some (whole, fraction, 0)
    | e :: rest =>
      if e = 'e' || e = 'E' then
        let (negative, ds) := match rest with
          | '-' :: ds => (true, ds)
          | '+' :: ds => (false, ds)
          | ds => (false, ds)
        (digitsValue? ds).map fun n => (whole, fraction, if negative then -(n : Int) else n)
      else none

/-- The double nearest to `digits · 10^exponent`, if it is finite. -/
def scaledDouble? (digits : Nat) (exponent : Int) : Option Float :=
  if digits = 0 then some 0
  else
    let magnitude := exponent + (toString digits).length
    if 310 < magnitude then none
    else if magnitude < -330 then some 0
    else
      let f := if 0 ≤ exponent then Float.ofScientific digits false exponent.toNat
        else Float.ofScientific digits true exponent.natAbs
      if f.isInf then none else some f

/-- A word with a decimal point as a number: a double, or `null` when too large for one. -/
def decimalWord? (cs : List Char) : Option Value :=
  let (negative, body) := match cs with
    | '-' :: rest => (true, rest)
    | '+' :: rest => (false, rest)
    | _ => (false, cs)
  (decimalParts? body).bind fun (whole, fraction, e) =>
    (digitsValue? (whole ++ fraction)).map fun n =>
      match scaledDouble? n (e - fraction.length) with
      | some f => .number (.float (if negative then -f else f).toBits)
      | none => .null

/-- Text as a number if it reads as one: with a decimal point, a double; else an integer that
fits 64 bits, unsigned or else signed; and otherwise the text itself. -/
def numberOrText (cs : List Char) : Value :=
  match (if cs.contains '.' then decimalWord? cs else none) with
  | some v => v
  | none =>
    match unsignedWord? cs with
    | some n => .number (.posInt n.toUInt64)
    | none =>
      match signedWord? cs with
      | some n => if 0 ≤ n then .number (.posInt n.toNat.toUInt64)
        else .number (.negInt (Int64.ofInt n))
      | none => .string (String.ofList cs)

/-- A word as a value: a boolean in any case of letter, or else a number or text. -/
def wordValue (cs : List Char) : Value :=
  let word := (String.ofList cs).toLower
  if word = "true" then .bool true
  else if word = "false" then .bool false
  else numberOrText cs

/-! ### Structured values -/

/-- What reading a part yields: a result and the text after it. -/
abbrev Reading (α : Type) := Option (α × List Char)

/-- The body of a quoted string, from just after its opening quote: the text up to the next
quote that no backslash escapes, and the text after that quote. -/
def quotedBody : List Char → Reading (List Char)
  | [] => none
  | '"' :: rest => some ([], rest)
  | '\\' :: [] => none
  | '\\' :: c :: rest => (quotedBody rest).map fun (body, after) => ('\\' :: c :: body, after)
  | c :: rest => (quotedBody rest).map fun (body, after) => (c :: body, after)

/-- The character of a one-letter escape. -/
def shortEscape? : Char → Option Char
  | '"' => some '"'
  | '\\' => some '\\'
  | 'b' => some (Char.ofNat 8)
  | 'f' => some (Char.ofNat 12)
  | 'n' => some '\n'
  | 'r' => some '\r'
  | 't' => some '\t'
  | _ => none

/-- Whether a character may stand in a quoted string as itself: a tab, or anything from the
space on but the delete character. -/
def stringChar (c : Char) : Bool := c = '\t' || (32 ≤ c.toNat && c.toNat != 127)

/-- The value of ASCII text as a hex number: hex digits, optionally after one `+`. -/
def hexText? (cs : List Char) : Option Nat :=
  let ds := match cs with
    | '+' :: rest => rest
    | _ => cs
  if ds.isEmpty then none
  else ds.foldl (fun acc c => acc.bind fun n =>
    if c.isDigit then some (n * 16 + (c.toNat - 48))
    else if 'a' ≤ c && c ≤ 'f' then some (n * 16 + (c.toNat - 87))
    else if 'A' ≤ c && c ≤ 'F' then some (n * 16 + (c.toNat - 55))
    else none) (some 0)

/-- The character that the `n` characters after `\u` or `\U` name: they must be there, be
ASCII, and read as a hex number that is a character. -/
def hexEscape? (n : Nat) (cs : List Char) : Option Char :=
  let ds := cs.take n
  if ds.length = n && ds.all (·.toNat < 128) then
    (hexText? ds).bind fun v => if v.isValidChar then some (Char.ofNat v) else none
  else none

/-- A quoted string's body with its escapes undone; `none` if an escape is unknown or a
character may not stand in a string. -/
def unescape : List Char → Option (List Char)
  | [] => some []
  | '\\' :: 'u' :: rest => (hexEscape? 4 rest).bind fun c => (unescape (rest.drop 4)).map (c :: ·)
  | '\\' :: 'U' :: rest => (hexEscape? 8 rest).bind fun c => (unescape (rest.drop 8)).map (c :: ·)
  | '\\' :: c :: rest => (shortEscape? c).bind fun e => (unescape rest).map (e :: ·)
  | '\\' :: [] => none
  | c :: rest => if stringChar c then (unescape rest).map (c :: ·) else none
termination_by cs => cs.length
decreasing_by all_goals simp only [List.length_cons, List.length_drop]; omega

/-- A quoted string, from just after its opening quote. -/
def quoted (cs : List Char) : Reading String :=
  (quotedBody cs).bind fun (body, after) => (unescape body).map fun t => (String.ofList t, after)

/-- Whether a character ends the text of a plain value inside a list or table. -/
def isSeparator (c : Char) : Bool :=
  c = ',' || c = '{' || c = '}' || c = '[' || c = ']'

/-- Whether a character may be part of a bare table key. -/
def isKeyChar (c : Char) : Bool :=
  c.isAlphanum || c = '_' || c = '-'

/-- A table key: a quoted string, or a run of key characters. -/
def tableKey : List Char → Reading String
  | '"' :: rest => quoted rest
  | cs =>
    let k := cs.takeWhile isKeyChar
    if k.isEmpty then none else some (String.ofList k, cs.dropWhile isKeyChar)

mutual

/-- A structured value, with the blanks around it. Every call reads a part nested in the one
that made it, or a later item of a list or table, so fuel of twice the length of the text and
two more is enough. -/
def structured : Nat → List Char → Reading Value
  | 0, _ => none
  | fuel + 1, cs =>
    let skipAfter : Reading Value → Reading Value :=
      Option.map fun (v, rest) => (v, rest.dropWhile isBlankChar)
    match cs.dropWhile isBlankChar with
    | 't' :: 'r' :: 'u' :: 'e' :: rest => skipAfter (some (.bool true, rest))
    | 'f' :: 'a' :: 'l' :: 's' :: 'e' :: rest => skipAfter (some (.bool false, rest))
    | '{' :: rest => skipAfter ((tableItems fuel [] rest).map fun (fs, r) => (.object fs, r))
    | '[' :: rest => skipAfter ((listItems fuel [] rest).map fun (vs, r) => (.array vs.reverse, r))
    | '"' :: rest => skipAfter ((quoted rest).map fun (s, r) => (.string s, r))
    | '\'' :: c :: '\'' :: rest => skipAfter (some (.string c.toString, rest))
    | '\'' :: _ => none
    | text =>
      let word := text.takeWhile (!isSeparator ·)
      skipAfter (some (numberOrText (Text.trimWhiteSpace word), text.dropWhile (!isSeparator ·)))

/-- The items of a list after its opening bracket or a comma, up to its closing bracket; the
items so far are `acc`, the last first. -/
def listItems : Nat → List Value → List Char → Reading (List Value)
  | 0, _, _ => none
  | fuel + 1, acc, cs =>
    match cs with
    | ']' :: rest => some (acc, rest)
    | _ =>
      (structured fuel cs).bind fun (v, rest) =>
        match rest with
        | ',' :: more => listItems fuel (v :: acc) more
        | ']' :: more => some (v :: acc, more)
        | _ => none

/-- The entries of a table after its opening brace or a comma, up to its closing brace. -/
def tableItems : Nat → Fields → List Char → Reading Fields
  | 0, _, _ => none
  | fuel + 1, acc, cs =>
    match cs with
    | '}' :: rest => some (acc, rest)
    | _ =>
      (tableKey (cs.dropWhile isBlankChar)).bind fun (k, rest) =>
        match rest.dropWhile isBlankChar with
        | '=' :: more =>
          (structured fuel more).bind fun (v, rest) =>
            let acc := Fields.insert k v acc
            match rest with
            | ',' :: more => tableItems fuel acc more
            | '}' :: more => some (acc, more)
            | _ => none
        | _ => none

end

/-- The value an environment variable's text gives a setting. -/
def envValue (text : String) : Value :=
  let cs := Text.trimWhiteSpace text.toList
  match cs with
  | c :: _ =>
    if c = '[' || c = '{' || c = '"' || c = '\'' then
      match structured (2 * cs.length + 2) cs with
      | some (v, []) => v
      | _ => .string (String.ofList cs)
    else if cs.contains ',' then
      .array ((String.ofList cs).splitOn "," |>.map fun piece =>
        wordValue (Text.trimWhiteSpace piece.toList))
    else wordValue cs
  | [] => .string ""

end HubService.Config
