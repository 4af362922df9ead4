import HubService.Telemetry.Pattern

/-!
# Log filters

Which log events are written is given by a *filter*: directives separated by commas, empty
ones ignored. A directive is a bare level, which applies everywhere, or says where it applies,
optionally followed by `=` and a level:

* it begins with a letter, a number, `-`, `:` or `_`, or with the `[` of a span;
* a *target* is a name that runs up to `=` or `[`, and may hold any other character;
* a span, in square brackets, is a name optionally followed by field matches in braces,
  `[name{field=value}]`, and after its closing bracket only `=` and a level may come; a field
  match may not be empty, and a field's value is a boolean, a number, or else a pattern, which
  must compile (`HubService.Telemetry.Pattern`);
* a level is `off`, `error`, `warn`, `info`, `debug` or `trace` in any case of letter, or a
  number from 0 to 5, or nothing at all.

A directive is read left to right, and the first fault is the one reported
(`HubService.Telemetry.checkFilter`): a span's field matches are checked as their braces close,
the level at the end. A name with no `=` after it is a level if it reads as one and a target
otherwise, so it is never refused. The level is everything after the first `=`, so `a=b=c` has
the level `b=c` and is refused as a level.

A directive is scanned with the white space at its ends trimmed, but its parts are cut from the
directive as written, at the byte offsets of the trimmed one. White space in front shifts every
cut to the left, and a cut that falls inside a character is not refused: it stops the program
(`HubService.Telemetry.FilterError.splitCharacter`).
-/

namespace HubService.Telemetry

/-- How much is logged. -/
inductive Level where
  | off
  | error
  | warn
  | info
  | debug
  | trace
  deriving DecidableEq, Repr

/-- Why a filter is refused. -/
inductive FilterError where
  /-- A directive is not of the right shape. -/
  | directive
  /-- A level is not one of the levels. -/
  | level
  /-- A field's value is a pattern that does not compile. -/
  | field
  /-- A field's value is a pattern that asserts a word boundary, which the matcher of field
  values cannot do. -/
  | wordBoundary
  /-- A part of a directive would be cut inside a character. This is no refusal: the program
  stops at once. -/
  | splitCharacter
  deriving DecidableEq, Repr

/-- Whether a fault stops the program instead of refusing the filter. -/
def FilterError.halts : FilterError → Bool
  | .splitCharacter => true
  | _ => false

/-- The words for a refused filter. -/
def FilterError.message : FilterError → String
  | .directive => "invalid filter directive"
  | .level =>
    "error parsing level filter: expected one of \"off\", \"error\", \"warn\", \"info\", " ++
      "\"debug\", \"trace\", or a number 0-5"
  | .field => "invalid field filter: error building NFA"
  | .wordBoundary =>
    "invalid field filter: unsupported regex feature for DFAs: cannot build DFAs for regexes " ++
      "with Unicode word boundaries; switch to ASCII word boundaries, or heuristically enable " ++
      "Unicode word boundaries or use a different regex engine"
  | .splitCharacter => "byte index is not a char boundary"

/-- The value of text made of decimal digits, optionally after a `+`. -/
def unsignedValue? (s : String) : Option Nat :=
  let ds := match s.toList with
    | '+' :: rest => rest
    | cs => cs
  if ds.isEmpty then none
  else ds.foldl (fun acc c => acc.bind fun n =>
    if c.isDigit then some (n * 10 + (c.toNat - 48)) else none) (some 0)

/-- The level a text names. -/
def Level.parse (s : String) : Option Level :=
  match unsignedValue? s with
  | some 0 => some .off
  | some 1 => some .error
  | some 2 => some .warn
  | some 3 => some .info
  | some 4 => some .debug
  | some 5 => some .trace
  | some _ => none
  | none =>
    match s.toLower with
    | "" => some .error
    | "off" => some .off
    | "error" => some .error
    | "warn" => some .warn
    | "info" => some .info
    | "debug" => some .debug
    | "trace" => some .trace
    | _ => none

/-! ### Field matches -/

/-- Whether text reads as a double: digits with at most one point and an optional exponent, or
an infinity or not-a-number, after an optional sign. -/
def isDoubleText (text : String) : Bool :=
  let body := match text.toList with
    | '+' :: rest | '-' :: rest => rest
    | cs => cs
  let lower := (String.ofList body).toLower
  if lower = "inf" || lower = "infinity" || lower = "nan" then true
  else
    let whole := body.takeWhile Char.isDigit
    let (fraction, rest) := match body.dropWhile Char.isDigit with
      | '.' :: more => (more.takeWhile Char.isDigit, more.dropWhile Char.isDigit)
      | more => ([], more)
    if whole.isEmpty && fraction.isEmpty then false
    else
      match rest with
      | [] => true
      | e :: more =>
        (e = 'e' || e = 'E') &&
          let ds := match more with
            | '+' :: ds | '-' :: ds => ds
            | ds => ds
          !ds.isEmpty && ds.all Char.isDigit

/-- Whether a field's value reads as a boolean or a number, and is then compared as one. -/
def isScalarText (text : String) : Bool :=
  text = "true" || text = "false" || (unsignedValue? text).isSome ||
    (match text.toList with
      | '-' :: rest => (unsignedValue? (String.ofList rest)).isSome && !rest.isEmpty &&
          rest.head? != some '+'
      | _ => false) ||
    isDoubleText text

/-- Checks one field match, `name` or `name=value`, where the value is what lies between the
first `=` and a second one: a value that is no boolean or number must be a pattern that compiles
to an automaton (`HubService.Telemetry.Pattern.judge`). -/
def checkField (text : String) : Except FilterError Unit :=
  match text.splitOn "=" with
  | _ :: value :: _ =>
    if isScalarText value then .ok ()
    else
      match Pattern.judge value with
      | .compiles => .ok ()
      | .malformed => .error .field
      | .unicodeBoundary => .error .wordBoundary
  | _ => .ok ()

/-! ### Directives -/

/-- Whether a character may begin a directive: a letter, a number, `-`, `:` or `_`. -/
def beginsName (c : Char) : Bool := Text.alphanumeric c || c = '-' || c = ':' || c = '_'

/-- The characters of a text that lie from byte `lo` on, if `lo` falls between two characters
in its UTF-8 form. -/
def bytesFrom : List Char → Nat → Option (List Char)
  | cs, 0 => some cs
  | [], _ + 1 => none
  | c :: rest, n + 1 => if c.utf8Size ≤ n + 1 then bytesFrom rest (n + 1 - c.utf8Size) else none

/-- The first `n` bytes of a text, as characters, if byte `n` falls between two characters. -/
def bytesUpTo : List Char → Nat → Option (List Char)
  | _, 0 => some []
  | [], _ + 1 => none
  | c :: rest, n + 1 =>
    if c.utf8Size ≤ n + 1 then (bytesUpTo rest (n + 1 - c.utf8Size)).map (c :: ·) else none

/-- The text between bytes `lo` and `hi` of a text, if both fall between characters. -/
def byteSlice (cs : List Char) (lo hi : Nat) : Option String :=
  (bytesFrom cs lo).bind fun rest => (bytesUpTo rest (hi - lo)).map String.ofList

/-- The text from byte `lo` of a text to its end, if `lo` falls between characters. -/
def byteTail (cs : List Char) (lo : Nat) : Option String := (bytesFrom cs lo).map String.ofList

/-- How far the scan of a directive has got, with the byte offset at which the part being read
began. -/
inductive Scan where
  /-- Nothing read yet. -/
  | start
  /-- A name that is a level or a target, so far. -/
  | levelOrTarget (begin : Nat)
  /-- A span closed, after a target or on its own. -/
  | target
  /-- Inside the brackets of a span. -/
  | span (begin : Nat)
  /-- Inside the braces of a span's field matches. -/
  | field (begin : Nat)
  /-- The braces closed; the span's bracket must follow. -/
  | fields
  /-- After `=`: the level. -/
  | level (begin : Nat)
  deriving DecidableEq, Repr

/-- The part of a directive between bytes `lo` and `hi`, if both fall between characters. -/
def cut (text : List Char) (lo hi : Nat) : Except FilterError String :=
  match byteSlice text lo hi with
  | some part => .ok part
  | none => .error .splitCharacter

/-- The part of a directive from byte `lo` to its end, if `lo` falls between characters. -/
def cutFrom (text : List Char) (lo : Nat) : Except FilterError String :=
  match byteTail text lo with
  | some part => .ok part
  | none => .error .splitCharacter

/-- Checks the field match between bytes `lo` and `hi` of a directive: it must not be empty. -/
def checkFieldAt (text : List Char) (lo hi : Nat) : Except FilterError Unit := do
  let field ← cut text lo hi
  if field.isEmpty then .error .directive else checkField field

/-- One step of the scan of a directive `text`: the character `c`, at byte `i` of the trimmed
directive. A target, a span's name and a field match are cut from the directive as they end. -/
def scanStep (text : List Char) (i : Nat) (c : Char) : Scan → Except FilterError Scan
  | .start =>
    if c = '[' then .ok (.span (i + 1))
    else if beginsName c then .ok (.levelOrTarget i)
    else .error .directive
  | .levelOrTarget begin =>
    if c = '=' then do
      let _ ← cut text begin i
      .ok (.level (i + 1))
    else if c = '[' then do
      let _ ← cut text begin i
      .ok (.span (i + 1))
    else .ok (.levelOrTarget begin)
  | .target => if c = '=' then .ok (.level (i + 1)) else .error .directive
  | .span begin =>
    if c = ']' then do
      let _ ← cut text begin i
      .ok .target
    else if c = '{' then do
      let _ ← cut text begin i
      .ok (.field (i + 1))
    else .ok (.span begin)
  | .field begin =>
    if c = '}' then do
      checkFieldAt text begin i
      .ok .fields
    else .ok (.field begin)
  | .fields => if c = ']' then .ok .target else .error .directive
  | .level begin => .ok (.level begin)

/-- Scans characters of a directive `text`, the first of them at byte `i`. -/
def scanFrom (text : List Char) : Nat → List Char → Scan → Except FilterError Scan
  | _, [], s => .ok s
  | i, c :: rest, s => do scanFrom text (i + c.utf8Size) rest (← scanStep text i c s)

/-- Where a scan may end: after a level or a target, or a span, or at `=` and a level. -/
def scanEnd (text : List Char) : Scan → Except FilterError Unit
  | .levelOrTarget begin => do
    let _ ← cutFrom text begin
    .ok ()
  | .target => .ok ()
  | .level begin => do
    let t ← cutFrom text begin
    if (Level.parse t).isSome then .ok () else .error .level
  | _ => .error .directive

/-- Checks one directive. The directive is scanned with the white space at its ends trimmed,
but the parts it is made of are cut from the directive as written, at the byte offsets of the
trimmed one: so white space in front shifts every part to the left, and ` a=info` has the
level `=info`, which is refused. -/
def checkDirective (d : String) : Except FilterError Unit := do
  let text := d.toList
  let s ← scanFrom text 0 (Text.trimWhiteSpace text) .start
  scanEnd text s

/-- Checks a filter, directive by directive. -/
def checkFilter (filter : String) : Except FilterError Unit :=
  ((filter.splitOn ",").filter (!·.isEmpty)).forM checkDirective

end HubService.Telemetry
