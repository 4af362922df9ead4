import HubService.Json.Value
import HubService.Json.Error
import HubService.Decimal.Double

/-!
# Reading JSON text

`HubService.Json.parse` reads one JSON value from bytes and refuses anything else, naming the
first fault and its place. The rules are those of a strict reader:

* blanks are space, tab, newline and carriage return;
* nesting of arrays and objects is limited: the 128th open bracket on a path is refused;
* a number is an *integer* when it has no fraction and no exponent and fits 64 bits (with a
  minus sign, down to `-2^63`); `-0` and every other number are doubles
  (`HubService.Decimal.toDouble?`); an integer with more digits than 64 bits hold keeps its
  leading digits and counts the rest as a power of ten;
* a string may not hold a raw control character, its escapes are the eight short ones and
  `\u` with four hex digits, a surrogate pair must be complete, and its content must be UTF-8;
* of two fields with one key the later wins.

Each fault is placed either where the reader stands or just past the byte it looked at
(`HubService.Json.SyntaxError.at`, `HubService.Json.SyntaxError.past`); which one is part of
the rule for that fault, and the functions below follow it step by step.
-/

namespace HubService.Json

/-- What a reading step yields: a result and the offset after it, or a refusal. -/
abbrev Step (α : Type) := Except SyntaxError (α × Nat)

section Reader

variable (src : ByteArray)

/-- Whether a byte is an ASCII digit. -/
def isDigit (b : UInt8) : Bool := 48 ≤ b && b ≤ 57

/-- Whether a byte is a blank between tokens. -/
def isBlank (b : UInt8) : Bool := b == 32 || b == 9 || b == 10 || b == 13

/-- The offset of the first byte from `i` on that is not a blank. -/
def skipBlanks (i : Nat) : Nat :=
  if h : i < src.size then
    if isBlank src[i] then skipBlanks (i + 1) else i
  else i
termination_by src.size - i

/-- The offset of the first byte from `i` on that is not a digit. -/
def skipDigits (i : Nat) : Nat :=
  if h : i < src.size then
    if isDigit src[i] then skipDigits (i + 1) else i
  else i
termination_by src.size - i

/-- The value of a hex digit. -/
def hexValue (b : UInt8) : Option Nat :=
  if 48 ≤ b && b ≤ 57 then some (b.toNat - 48)
  else if 97 ≤ b && b ≤ 102 then some (b.toNat - 87)
  else if 65 ≤ b && b ≤ 70 then some (b.toNat - 55)
  else none

/-! ### Numbers -/

/-- The largest 64-bit unsigned integer. -/
def maxUnsigned : Nat := Nat.pow 2 64 - 1

/-- The largest 32-bit signed integer, the bound on a written exponent. -/
def maxExponent : Nat := Nat.pow 2 31 - 1

/-- Clamps to the range of a 32-bit signed integer. -/
def clampExponent (e : Int) : Int := max (-(Int.pow 2 31)) (min e (Int.pow 2 31 - 1))

/-- The double `± significand · 10^exponent`, or a refusal placed at `i`. -/
def assemble (positive : Bool) (significand : Nat) (exponent : Int) (i : Nat) : Step Number :=
  match Decimal.toDouble? positive significand.toUInt64 exponent with
  | some f => .ok (.float f.toBits, i)
  | none => .error (.at src .numberOutOfRange i)

/-- An exponent too large to hold: a nonzero number with a positive one is out of range, and
anything else is zero; the remaining digits are skipped. -/
def exponentOverflow (positive zero positiveExponent : Bool) (i : Nat) : Step Number :=
  if !zero && positiveExponent then .error (.at src .numberOutOfRange i)
  else
    let j := skipDigits src i
    .ok (.float (if positive then (0.0 : Float) else -0.0).toBits, j)

/-- The digits of an exponent after its first one, accumulated in `e`. -/
def exponentDigits (positive : Bool) (significand : Nat) (start : Int) (positiveExponent : Bool)
    (e : Nat) (i : Nat) : Step Number :=
  if h : i < src.size then
    let b := src[i]
    if isDigit b then
      let digit := b.toNat - 48
      if e * 10 + digit > maxExponent then
        exponentOverflow src positive (significand == 0) positiveExponent (i + 1)
      else exponentDigits positive significand start positiveExponent (e * 10 + digit) (i + 1)
    else
      assemble src positive significand
        (clampExponent (if positiveExponent then start + e else start - e)) i
  else
    assemble src positive significand
      (clampExponent (if positiveExponent then start + e else start - e)) i
termination_by src.size - i

/-- An exponent part, with the reader on its `e` or `E`. -/
def exponentPart (positive : Bool) (significand : Nat) (start : Int) (i : Nat) : Step Number :=
  let (positiveExponent, j) :=
    match src[i + 1]? with
    | some 43 => (true, i + 2)
    | some 45 => (false, i + 2)
    | _ => (true, i + 1)
  match src[j]? with
  | none => .error (.at src .eofInValue j)
  | some b =>
    if isDigit b then
      exponentDigits src positive significand start positiveExponent (b.toNat - 48) (j + 1)
    else .error (.at src .invalidNumber (j + 1))

/-- What follows the digits of a number whose further digits no longer count. -/
def afterIgnoredDigits (positive : Bool) (significand : Nat) (exponent : Int) (i : Nat) :
    Step Number :=
  let j := skipDigits src i
  match src[j]? with
  | some 101 | some 69 => exponentPart src positive significand exponent j
  | _ => assemble src positive significand exponent j

/-- The digits after a decimal point; `count` of them have been taken so far. -/
def fractionDigits (positive : Bool) (significand : Nat) (before : Int) (count : Nat)
    (i : Nat) : Step Number :=
  if h : i < src.size then
    let b := src[i]
    if isDigit b then
      let digit := b.toNat - 48
      if significand * 10 + digit > maxUnsigned then
        afterIgnoredDigits src positive significand (before - count) i
      else fractionDigits positive (significand * 10 + digit) before (count + 1) (i + 1)
    else if count = 0 then .error (.past src .invalidNumber i)
    else if b == 101 || b == 69 then exponentPart src positive significand (before - count) i
    else assemble src positive significand (before - count) i
  else if count = 0 then .error (.past src .eofInValue i)
  else assemble src positive significand (before - count) i
termination_by src.size - i

/-- What follows the integer digits of a number. -/
def afterInteger (positive : Bool) (significand : Nat) (i : Nat) : Step Number :=
  match src[i]? with
  | some 46 => fractionDigits src positive significand 0 0 (i + 1)
  | some 101 | some 69 => exponentPart src positive significand 0 i
  | _ =>
    if positive then .ok (.posInt significand.toUInt64, i)
    else if significand = 0 then .ok (.float (-0.0 : Float).toBits, i)
    else if significand ≤ Nat.pow 2 63 then .ok (.negInt (Int64.ofInt (-(significand : Int))), i)
    else .ok (.float (-(significand.toUInt64.toFloat)).toBits, i)

/-- Integer digits beyond what 64 bits hold: each one raises the power of ten. -/
def longDigits (positive : Bool) (significand : Nat) (exponent : Nat) (i : Nat) : Step Number :=
  if h : i < src.size then
    let b := src[i]
    if isDigit b then longDigits positive significand (exponent + 1) (i + 1)
    else if b == 46 then fractionDigits src positive significand exponent 0 (i + 1)
    else if b == 101 || b == 69 then exponentPart src positive significand exponent i
    else assemble src positive significand exponent i
  else assemble src positive significand exponent i
termination_by src.size - i

/-- Integer digits after the first, accumulated in `significand`. -/
def integerDigits (positive : Bool) (significand : Nat) (i : Nat) : Step Number :=
  if h : i < src.size then
    let b := src[i]
    if isDigit b then
      let digit := b.toNat - 48
      if significand * 10 + digit > maxUnsigned then longDigits src positive significand 0 i
      else integerDigits positive (significand * 10 + digit) (i + 1)
    else afterInteger src positive significand i
  else afterInteger src positive significand i
termination_by src.size - i

/-- A number, with the reader past its sign, if any. -/
def number (positive : Bool) (i : Nat) : Step Number :=
  match src[i]? with
  | none => .error (.at src .eofInValue i)
  | some 48 =>
    match src[i + 1]? with
    | some b => if isDigit b then .error (.past src .invalidNumber (i + 1))
      else afterInteger src positive 0 (i + 1)
    | none => afterInteger src positive 0 (i + 1)
  | some b =>
    if isDigit b then integerDigits src positive (b.toNat - 48) (i + 1)
    else .error (.at src .invalidNumber (i + 1))

/-! ### Strings -/

/-- Four hex digits from offset `i`, as a number. -/
def hexQuad (i : Nat) : Step Nat :=
  if i + 4 ≤ src.size then
    match (src[i]?.bind hexValue, src[i + 1]?.bind hexValue, src[i + 2]?.bind hexValue,
        src[i + 3]?.bind hexValue) with
    | (some a, some b, some c, some d) => .ok (((a * 16 + b) * 16 + c) * 16 + d, i + 4)
    | _ => .error (.at src .invalidEscape (i + 4))
  else .error (.at src .eofInString src.size)

/-- Appends the UTF-8 bytes of a code point. -/
def pushCodePoint (buffer : ByteArray) (n : Nat) : ByteArray :=
  (String.utf8EncodeChar (Char.ofNat n)).foldl ByteArray.push buffer

/-- A `\u` escape, with the reader past the `u`: one code point, or a surrogate pair. -/
def unicodeEscape (buffer : ByteArray) (i : Nat) : Except SyntaxError (ByteArray × Nat) := do
  let (first, j) ← hexQuad src i
  if 0xDC00 ≤ first ∧ first ≤ 0xDFFF then throw (.at src .loneLeadingSurrogate j)
  if first < 0xD800 ∨ first > 0xDBFF then return (pushCodePoint buffer first, j)
  match src[j]? with
  | none => throw (.at src .eofInString j)
  | some b =>
    if b != 92 then throw (.at src .unexpectedEndOfHexEscape (j + 1))
    match src[j + 1]? with
    | none => throw (.at src .eofInString (j + 1))
    | some u =>
      if u != 117 then throw (.at src .unexpectedEndOfHexEscape (j + 2))
      let (second, k) ← hexQuad src (j + 2)
      if second < 0xDC00 ∨ second > 0xDFFF then throw (.at src .loneLeadingSurrogate k)
      return (pushCodePoint buffer ((first - 0xD800) * 1024 + (second - 0xDC00) + 0x10000), k)

/-- An escape, with the reader past its backslash. -/
def escape (buffer : ByteArray) (i : Nat) : Step ByteArray :=
  match src[i]? with
  | none => .error (.at src .eofInString i)
  | some 34 => .ok (buffer.push 34, i + 1)
  | some 92 => .ok (buffer.push 92, i + 1)
  | some 47 => .ok (buffer.push 47, i + 1)
  | some 98 => .ok (buffer.push 8, i + 1)
  | some 102 => .ok (buffer.push 12, i + 1)
  | some 110 => .ok (buffer.push 10, i + 1)
  | some 114 => .ok (buffer.push 13, i + 1)
  | some 116 => .ok (buffer.push 9, i + 1)
  | some 117 => unicodeEscape src buffer (i + 1)
  | some _ => .error (.at src .invalidEscape (i + 1))

/-- Whether a byte continues a UTF-8 sequence, and lies in `[lo, hi]`. -/
def continuesIn (i : Nat) (lo hi : UInt8) : Bool :=
  match src[i]? with
  | some b => lo ≤ b && b ≤ hi
  | none => false

/-- The length of the well-formed UTF-8 sequence that starts at `i` and ends before `stop`, if
one does: no overlong forms, no surrogates, nothing past `U+10FFFF`. -/
def sequenceLength (i stop : Nat) : Option Nat :=
  match src[i]? with
  | none => none
  | some b =>
    let fits (n : Nat) := if i + n ≤ stop then some n else none
    if b < 0x80 then fits 1
    else if 0xC2 ≤ b && b ≤ 0xDF then
      if continuesIn src (i + 1) 0x80 0xBF then fits 2 else none
    else if 0xE0 ≤ b && b ≤ 0xEF then
      let (lo, hi) : UInt8 × UInt8 :=
        if b == 0xE0 then (0xA0, 0xBF) else if b == 0xED then (0x80, 0x9F) else (0x80, 0xBF)
      if continuesIn src (i + 1) lo hi && continuesIn src (i + 2) 0x80 0xBF then fits 3 else none
    else if 0xF0 ≤ b && b ≤ 0xF4 then
      let (lo, hi) : UInt8 × UInt8 :=
        if b == 0xF0 then (0x90, 0xBF) else if b == 0xF4 then (0x80, 0x8F) else (0x80, 0xBF)
      if continuesIn src (i + 1) lo hi && continuesIn src (i + 2) 0x80 0xBF &&
          continuesIn src (i + 3) 0x80 0xBF then fits 4
      else none
    else none

/-- The offset of the first byte in `[i, stop)` that does not start a well-formed UTF-8
sequence ending by `stop`, if there is one. -/
def firstMalformed (i stop : Nat) : Option Nat :=
  if i < stop then
    match sequenceLength src i stop with
    | some (n + 1) => firstMalformed (i + n + 1) stop
    | _ => some i
  else none
termination_by stop - i

/-- The rest of a string whose content so far is in `buffer`: its raw bytes, and the bytes its
escapes stand for. The content is checked to be UTF-8 only at the closing quote, so a raw
control character, a bad escape or the end of the text is found first. A content that is not
UTF-8 is refused at the offset past the closing quote, less the bytes of content from the first
byte that does not start a well-formed sequence: where that byte would stand had every escape
been written as the bytes it stands for. -/
def stringRest (buffer : ByteArray) (i : Nat) : Step String :=
  if h : i < src.size then
    let b := src[i]
    if b == 34 then
      match firstMalformed buffer 0 buffer.size with
      | some j => .error (.at src .invalidCodePoint (i + 1 - (buffer.size - j)))
      | none =>
        match String.fromUTF8? buffer with
        | some s => .ok (s, i + 1)
        | none => .error (.at src .invalidCodePoint i)
    else if b == 92 then
      match escape src buffer (i + 1) with
      | .ok (buffer', j) =>
        if i < j then stringRest buffer' j else .error (.at src .invalidEscape j)
      | .error e => .error e
    else if b < 32 then .error (.at src .controlCharacter (i + 1))
    else stringRest (buffer.push b) (i + 1)
  else .error (.at src .eofInString src.size)
termination_by src.size - i

/-- A string, with the reader past its opening quote. -/
def string (i : Nat) : Step String := stringRest src ByteArray.empty i

/-! ### Values -/

/-- The rest of a literal word, with the reader past its first letter. -/
def literal (word : List UInt8) (i : Nat) : Except SyntaxError Nat :=
  match word with
  | [] => .ok i
  | c :: rest =>
    match src[i]? with
    | none => .error (.at src .eofInValue i)
    | some b => if b == c then literal rest (i + 1) else .error (.at src .expectedIdent (i + 1))

/-- The depth of nesting the reader allows: the open bracket that would make it zero is
refused. -/
def nestingLimit : Nat := 128

mutual

/-- A value from offset `i` on, with `room` levels of nesting left. -/
def value (fuel room i : Nat) : Step Value :=
  match fuel with
  | 0 => .error (.at src .recursionLimit i)
  | fuel + 1 =>
    let j := skipBlanks src i
    match src[j]? with
    | none => .error (.past src .eofInValue j)
    | some 110 => (literal src [117, 108, 108] (j + 1)).map fun k => (.null, k)
    | some 116 => (literal src [114, 117, 101] (j + 1)).map fun k => (.bool true, k)
    | some 102 => (literal src [97, 108, 115, 101] (j + 1)).map fun k => (.bool false, k)
    | some 45 => (number src false (j + 1)).map fun (n, k) => (.number n, k)
    | some 34 => (string src (j + 1)).map fun (s, k) => (.string s, k)
    | some 91 =>
      if room ≤ 1 then .error (.past src .recursionLimit j)
      else (items fuel (room - 1) (j + 1) true []).map fun (xs, k) => (.array xs, k)
    | some 123 =>
      if room ≤ 1 then .error (.past src .recursionLimit j)
      else (fields fuel (room - 1) (j + 1) true []).map fun (fs, k) => (.object fs, k)
    | some b =>
      if isDigit b then (number src true j).map fun (n, k) => (.number n, k)
      else .error (.past src .expectedValue j)

/-- The items of an array after its open bracket, those read so far in `acc`, last first. -/
def items (fuel room i : Nat) (first : Bool) (acc : List Value) : Step (List Value) :=
  match fuel with
  | 0 => .error (.at src .recursionLimit i)
  | fuel + 1 =>
    let j := skipBlanks src i
    match src[j]? with
    | none => .error (.past src .eofInList j)
    | some 93 => .ok (acc.reverse, j + 1)
    | some b =>
      if first then
        match value fuel room j with
        | .ok (v, k) => items fuel room k false (v :: acc)
        | .error e => .error e
      else if b == 44 then
        let k := skipBlanks src (j + 1)
        match src[k]? with
        | some 93 => .error (.past src .trailingComma k)
        | none => .error (.past src .eofInValue k)
        | some _ =>
          match value fuel room k with
          | .ok (v, m) => items fuel room m false (v :: acc)
          | .error e => .error e
      else .error (.past src .expectedListCommaOrEnd j)

/-- The fields of an object after its open brace, those read so far in `acc`. -/
def fields (fuel room i : Nat) (first : Bool) (acc : Fields) : Step Fields :=
  match fuel with
  | 0 => .error (.at src .recursionLimit i)
  | fuel + 1 =>
    let j := skipBlanks src i
    match src[j]? with
    | none => .error (.past src .eofInObject j)
    | some 125 => .ok (acc, j + 1)
    | some b =>
      let keyAt : Except SyntaxError Nat :=
        if first then
          if b == 34 then .ok j else .error (.past src .keyMustBeString j)
        else if b == 44 then
          let k := skipBlanks src (j + 1)
          match src[k]? with
          | some 34 => .ok k
          | some 125 => .error (.past src .trailingComma k)
          | some _ => .error (.past src .keyMustBeString k)
          | none => .error (.past src .eofInValue k)
        else .error (.past src .expectedObjectCommaOrEnd j)
      match keyAt with
      | .error e => .error e
      | .ok k =>
        match string src (k + 1) with
        | .error e => .error e
        | .ok (key, m) =>
          let c := skipBlanks src m
          match src[c]? with
          | none => .error (.past src .eofInObject c)
          | some 58 =>
            match value fuel room (c + 1) with
            | .ok (v, n) => fields fuel room n false (Fields.insert key v acc)
            | .error e => .error e
          | some _ => .error (.past src .expectedColon c)

end

end Reader

/-- Reads the whole of `src` as one JSON value; only blanks may follow it. -/
def parse (src : ByteArray) : Except SyntaxError Value :=
  match value src (2 * src.size + 2) nestingLimit 0 with
  | .error e => .error e
  | .ok (v, i) =>
    let j := skipBlanks src i
    if j < src.size then .error (.past src .trailingCharacters j) else .ok v

/-- Reads a string's UTF-8 bytes as one JSON value. -/
def parseString (text : String) : Except SyntaxError Value := parse text.toUTF8

end HubService.Json
