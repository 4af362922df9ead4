/-!
# Why JSON text is refused, and where

A refusal names its cause and the place the reader stood, as a line and a column counted in
bytes from one. The reader reports one of two places: where it stands (`at`), or just past
the byte it was looking at (`past`), never beyond the end of the text. Which of the two a cause
uses is part of the reader's rule, in `HubService.Json.Parse`.
-/

namespace HubService.Json

/-- The causes for refusing JSON text. -/
inductive SyntaxCause where
  | eofInList
  | eofInObject
  | eofInString
  | eofInValue
  | expectedColon
  | expectedListCommaOrEnd
  | expectedObjectCommaOrEnd
  | expectedIdent
  | expectedValue
  | invalidEscape
  | invalidNumber
  | numberOutOfRange
  | invalidCodePoint
  | controlCharacter
  | keyMustBeString
  | loneLeadingSurrogate
  | trailingComma
  | trailingCharacters
  | unexpectedEndOfHexEscape
  | recursionLimit
  deriving DecidableEq, Repr

/-- The words for a cause. -/
def SyntaxCause.text : SyntaxCause → String
  | .eofInList => "EOF while parsing a list"
  | .eofInObject => "EOF while parsing an object"
  | .eofInString => "EOF while parsing a string"
  | .eofInValue => "EOF while parsing a value"
  | .expectedColon => "expected `:`"
  | .expectedListCommaOrEnd => "expected `,` or `]`"
  | .expectedObjectCommaOrEnd => "expected `,` or `\x7d`"
  | .expectedIdent => "expected ident"
  | .expectedValue => "expected value"
  | .invalidEscape => "invalid escape"
  | .invalidNumber => "invalid number"
  | .numberOutOfRange => "number out of range"
  | .invalidCodePoint => "invalid unicode code point"
  | .controlCharacter => "control character (\\u0000-\\u001F) found while parsing a string"
  | .keyMustBeString => "key must be a string"
  | .loneLeadingSurrogate => "lone leading surrogate in hex escape"
  | .trailingComma => "trailing comma"
  | .trailingCharacters => "trailing characters"
  | .unexpectedEndOfHexEscape => "unexpected end of hex escape"
  | .recursionLimit => "recursion limit exceeded"

/-- A refusal of JSON text: the cause, and the line and column where it was found. -/
structure SyntaxError where
  cause : SyntaxCause
  line : Nat
  column : Nat
  deriving DecidableEq, Repr

/-- The refusal as one line of text. -/
def SyntaxError.message (e : SyntaxError) : String :=
  s!"{e.cause.text} at line {e.line} column {e.column}"

/-- The line and column of byte offset `i`: lines count from one, columns are the bytes since
the last newline before `i`. -/
def positionOf (src : ByteArray) (i : Nat) : Nat × Nat :=
  go 0 1 0 (min i src.size)
where
  go (k line lineStart : Nat) (stop : Nat) : Nat × Nat :=
    if h : k < stop then
      if src[k]? = some 10 then go (k + 1) (line + 1) (k + 1) stop
      else go (k + 1) line lineStart stop
    else (line, stop - lineStart)
  termination_by stop - k

/-- A refusal found with the reader standing at offset `i`. -/
def SyntaxError.at (src : ByteArray) (cause : SyntaxCause) (i : Nat) : SyntaxError :=
  let (line, column) := positionOf src i
  ⟨cause, line, column⟩

/-- A refusal found while looking at the byte at offset `i`: it is placed just past that byte,
or at the end of the text. -/
def SyntaxError.past (src : ByteArray) (cause : SyntaxCause) (i : Nat) : SyntaxError :=
  SyntaxError.at src cause (min (i + 1) src.size)

end HubService.Json
