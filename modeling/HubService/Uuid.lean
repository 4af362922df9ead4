/-!
# UUIDs

Tags of calls and the identities of users are UUIDs: 128 bits, written as 32 hex digits in
groups of 8-4-4-4-12 joined by hyphens, lowercase (`HubService.Uuid.render`).

`HubService.Uuid.parse` accepts four spellings, in either case of hex digit:

* *simple*: exactly 32 hex digits;
* *hyphenated*: the five groups with hyphens, 36 characters;
* *braced*: a hyphenated form between `{` and `}`;
* *urn*: `urn:uuid:` (in either case) followed by a hyphenated form.

Anything else is refused with the first fault a reader finds when it tries to say *why*
(`HubService.Uuid.ParseError`): a character that is neither a hex digit nor a hyphen, then a
simple form of the wrong length, then the wrong number of groups, then the first group of the
wrong length. Text whose length is that of a spelling is judged by what is inside its wrappers
alone; other text is judged whole, and text longer than every spelling only by its length.
-/

namespace HubService

/-- A UUID, as its 128 bits. -/
structure Uuid where
  bits : BitVec 128
  deriving DecidableEq, Repr, Inhabited

namespace Uuid

/-- Why text is not a UUID. -/
inductive ParseError where
  /-- A character that no spelling allows, at a byte offset. -/
  | character (c : Char) (index : Nat)
  /-- Hex digits alone, but not 32 of them: the length of the text. -/
  | length (len : Nat)
  /-- Hyphens that do not make five groups: the number of groups. -/
  | groupCount (count : Nat)
  /-- A group of the wrong length: which group, and its length. -/
  | groupLength (group : Nat) (len : Nat)
  deriving DecidableEq, Repr

/-- The expected length of each of the five groups. -/
def groupSizes : List Nat := [8, 4, 4, 4, 12]

/-- The words for a refusal. -/
def ParseError.message : ParseError → String
  | .character c i => s!"invalid character: found `{c}` at {i}"
  | .length n => s!"invalid length: found {n}"
  | .groupCount n => s!"invalid group count: expected 5, found {n}"
  | .groupLength g n =>
    let expected := groupSizes.getD g 0
    s!"invalid group length in group {g}: expected {expected}, found {n}"

/-- The value of a hex digit. -/
def hexDigit? (c : Char) : Option Nat :=
  if '0' ≤ c ∧ c ≤ '9' then some (c.toNat - 48)
  else if 'a' ≤ c ∧ c ≤ 'f' then some (c.toNat - 87)
  else if 'A' ≤ c ∧ c ≤ 'F' then some (c.toNat - 55)
  else none

/-- The number that hex digits spell, if they are all hex digits. -/
def hexValue? (cs : List Char) : Option Nat :=
  cs.foldl (fun acc c => do
    let a ← acc
    let d ← hexDigit? c
    pure (a * 16 + d)) (some 0)

/-- The UUID spelled by 32 hex digits. -/
def ofHex? (cs : List Char) : Option Uuid :=
  if cs.length = 32 then (hexValue? cs).map fun n => ⟨BitVec.ofNat 128 n⟩ else none

/-- The UUID of a hyphenated form: five groups of 8-4-4-4-12 hex digits. -/
def ofHyphenated? (cs : List Char) : Option Uuid :=
  let groups := (String.ofList cs).splitOn "-"
  if groups.map String.length = groupSizes then ofHex? (String.join groups).toList else none

/-- Whether text starts with `urn:uuid:`, either case. -/
def hasUrnPrefix (cs : List Char) : Bool :=
  (String.ofList (cs.take 9)).toLower = "urn:uuid:"

/-- Whether text is wrapped in braces. -/
def isBraced (cs : List Char) : Bool :=
  2 ≤ cs.length && cs.head? == some '{' && cs.getLast? == some '}'

/-- The byte offset of each character of a list, starting from `start`. -/
def withOffsets (start : Nat) : List Char → List (Char × Nat)
  | [] => []
  | c :: rest => (c, start) :: withOffsets (start + c.utf8Size) rest

/-- Where each group after the first starts, in a hyphenated form. -/
def groupStarts : List Nat := [9, 14, 19, 24]

/-- The first group, of the first four, that does not end at its hyphen: its number and its
length, from the offsets of the four hyphens. -/
def misplacedGroup : Nat → Nat → List Nat → List Nat → Option (Nat × Nat)
  | group, start, hyphen :: hyphens, next :: nexts =>
    if hyphen + 1 = next then misplacedGroup (group + 1) next hyphens nexts
    else some (group, hyphen - start)
  | _, _, _, _ => none

/-- Why a body of text is not a UUID, where `offset` is the byte offset of the body in what was
read, `simple` says whether hex digits alone were a possible reading, and `total` is the length
the last group is measured against. The faults are looked for in order: a character that is
neither a hex digit nor a hyphen; hex digits alone, when that reading was possible; a number of
hyphens other than four; the first group of the wrong length, the last group taking the blame
when the first four are right. -/
def examine (body : List Char) (offset : Nat) (simple : Bool) (total : Nat) : ParseError :=
  match (withOffsets offset body).find? (fun (c, _) => c ≠ '-' ∧ (hexDigit? c).isNone) with
  | some (c, i) => .character c i
  | none =>
    let hyphens := (withOffsets 0 body).filterMap fun (c, i) => if c = '-' then some i else none
    if hyphens.isEmpty ∧ simple then .length total
    else if hyphens.length ≠ 4 then .groupCount (hyphens.length + 1)
    else
      match misplacedGroup 0 0 hyphens groupStarts with
      | some (g, n) => .groupLength g n
      | none => .groupLength 4 (total - 24)

/-- The longest text that any spelling has. -/
def longestSpelling : Nat := 45

/-- Why text of no spelling's shape is refused: text longer than every spelling for its length;
otherwise braces or the `urn:uuid:` prefix are set aside, and what is inside is examined, placed
after them, the last group measured against the whole text. -/
def diagnose (cs : List Char) : ParseError :=
  let len := (String.ofList cs).utf8ByteSize
  if longestSpelling < len then .length len
  else if isBraced cs then examine ((cs.drop 1).dropLast) 1 false len
  else if hasUrnPrefix cs then examine (cs.drop 9) 9 false len
  else examine cs 0 true len

/-- Reads a UUID in any of its four spellings. The shape is told by the length in bytes: 32 for
hex digits alone, 36 for the hyphenated form, 38 for it between braces and 45 for it after
`urn:uuid:`. Text of 32 bytes that is not 32 hex digits, and text of no shape, are refused as
`HubService.Uuid.diagnose` says. Text of a hyphenated shape that does not read is refused by the
hyphenated part alone (`HubService.Uuid.examine`), its places counted from its start. -/
def parse (s : String) : Except ParseError Uuid :=
  let cs := s.toList
  let len := s.utf8ByteSize
  let hyphenated (body : List Char) :=
    match ofHyphenated? body with
    | some u => .ok u
    | none => .error (examine body 0 false (String.ofList body).utf8ByteSize)
  if len = 32 then
    match ofHex? cs with
    | some u => .ok u
    | none => .error (diagnose cs)
  else if len = 36 then hyphenated cs
  else if len = 38 ∧ isBraced cs then hyphenated ((cs.drop 1).dropLast)
  else if len = 45 ∧ hasUrnPrefix cs then hyphenated (cs.drop 9)
  else .error (diagnose cs)

/-- The hex digits of `n`, padded with zeros to `width`. -/
def hexPadded (width n : Nat) : String :=
  let ds := Nat.toDigits 16 n
  String.ofList (List.replicate (width - ds.length) '0' ++ ds)

/-- The lowercase hyphenated spelling. -/
def render (u : Uuid) : String :=
  let hex := (hexPadded 32 u.bits.toNat).toList
  let part (a b : Nat) := String.ofList ((hex.drop a).take b)
  part 0 8 ++ "-" ++ part 8 4 ++ "-" ++ part 12 4 ++ "-" ++ part 16 4 ++ "-" ++ part 20 12

/-- The 32 hex digits alone. -/
def renderSimple (u : Uuid) : String := hexPadded 32 u.bits.toNat

instance : ToString Uuid := ⟨render⟩

end Uuid

end HubService
