import HubService.Text.CharClass

/-!
# Patterns of field matches

A field match whose value is neither a boolean nor a number compares the field's text with a
*pattern*: a regular expression, compiled to a deterministic automaton over the bytes of the
text. This module says whether a pattern compiles (`HubService.Telemetry.Pattern.judge`).

## Syntax

* Groups are `(…)`, `(?P<name>…)` and `(?<name>…)`, which capture, and `(?flags:…)`, which
  does not. `(?flags)` sets flags until the enclosing group closes. A capture's name begins
  with a letter or `_` and goes on with letters, digits, `_`, `.`, `[` and `]`; no name may be
  used twice. Look-around, `(?=`, `(?!`, `(?<=` and `(?<!`, is not supported.
* The flags are `i` (ignore case), `m`, `s`, `U`, `u` (Unicode), `x` (free spacing) and `R`,
  each at most once, with at most one `-` before those that are switched off, and the `-` not
  last. `(?)` sets nothing and is refused.
* `?`, `*`, `+` and counted repetitions `{n}`, `{n,}`, `{n,m}` (with `n ≤ m`; white space may
  surround the numbers) repeat what precedes them, which must be something other than a flag
  setting; each may be followed by `?`. A repetition may itself be repeated.
* An escape is a metacharacter or another ASCII character that is neither a letter, a digit,
  `<` nor `>`; one of `\a \f \t \n \r \v`; a code point `\x` with two hex digits, `\u` with
  four, `\U` with eight, or any of them with hex digits in braces; a class `\d \s \w \D \S \W`
  or `\p…` `\P…`; or an assertion `\A \z \b \B \< \>` or `\b{start}`, `\b{end}`,
  `\b{start-half}`, `\b{end-half}`. Back-references `\0`…`\9` are not supported.
* A bracketed class `[…]` may be negated by `^`; `-` at its start, and `]` first of all, stand
  for themselves. Its members are characters, escapes that stand for characters, ranges `a-z`
  whose ends are characters in order, the classes `\d`… and `\p…`, named ASCII classes
  `[:alpha:]` and `[:^alpha:]`, and nested classes; `&&`, `--` and `~~` intersect, subtract and
  take the symmetric difference, from left to right.
* With free spacing on, white space and `#` comments up to the end of the line are skipped,
  inside classes as well.
* Groups, repetitions, sequences, alternatives and classes nest at most 250 deep.

## What compiles

The matcher has no Unicode tables, and matches valid UTF-8 only. So, on top of the syntax:

* the classes `\p…` and `\P…` never compile, and `\d \s \w \D \S \W` only with Unicode off;
* with Unicode on, ignoring case needs case tables: no character, and no class with anything
  in it before its negation, compiles then;
* with Unicode off, only ASCII may be matched: no character beyond ASCII, no `.`, no negated
  class and no `\B`;
* and a pattern that compiles but asserts a Unicode word boundary (`\b`, `\B`, `\<`, `\>` or
  `\b{…}` with Unicode on) cannot be made into an automaton, unless the assertion is repeated
  at most zero times, which removes it.
-/

namespace HubService.Telemetry.Pattern

/-- The flags that decide whether a pattern compiles: ignoring case (`i`), Unicode (`u`, on at
first) and free spacing (`x`). The flags `m`, `s`, `U` and `R` change nothing of that. -/
structure Flags where
  caseless : Bool
  unicode : Bool
  spaced : Bool
  deriving DecidableEq, Repr

/-- The flags a pattern starts with: only Unicode on. -/
def Flags.initial : Flags := ⟨false, true, false⟩

/-- Switches the flag of a letter on or off. -/
def Flags.set (f : Flags) : Char × Bool → Flags
  | ('i', on) => { f with caseless := on }
  | ('u', on) => { f with unicode := on }
  | ('x', on) => { f with spaced := on }
  | _ => f

/-! ### Free spacing -/

/-- The text after white space and comments, `inComment` saying whether a comment is open. -/
def afterSpace (inComment : Bool) : List Char → List Char
  | [] => []
  | c :: rest =>
    if inComment then afterSpace (c != '\n') rest
    else if Text.whiteSpace c then afterSpace false rest
    else if c = '#' then afterSpace true rest
    else c :: rest

/-- The text after the white space and `#` comments at its front, with free spacing on; the
text itself otherwise. -/
def skipSpace (spaced : Bool) (cs : List Char) : List Char :=
  if spaced then afterSpace false cs else cs

theorem afterSpace_length_le (b : Bool) (cs : List Char) :
    (afterSpace b cs).length ≤ cs.length := by
  induction cs generalizing b with
  | nil => simp [afterSpace]
  | cons c rest ih =>
    simp only [afterSpace]
    split
    · exact Nat.le_succ_of_le (ih _)
    · split
      · exact Nat.le_succ_of_le (ih _)
      · split
        · exact Nat.le_succ_of_le (ih _)
        · exact Nat.le_refl _

theorem skipSpace_length_le (spaced : Bool) (cs : List Char) :
    (skipSpace spaced cs).length ≤ cs.length := by
  unfold skipSpace
  split
  · exact afterSpace_length_le false cs
  · exact Nat.le_refl _

/-- The first character that is not white space, where one `#` is passed over as well; `none`
if there is none. -/
def peekSpaced (inComment : Bool) : List Char → Option Char
  | [] => none
  | c :: rest =>
    if Text.whiteSpace c then peekSpaced inComment rest
    else if !inComment && c = '#' then peekSpaced true rest
    else some c

/-- The character that a class looks at after a `-`, to tell a range from a literal `-`: with
free spacing on, the next one that is not white space, a first `#` passed over; with only white
space left, the next one. -/
def peekAfter (spaced : Bool) (rest : List Char) : Option Char :=
  if spaced then (peekSpaced false rest).orElse fun _ => rest.head? else rest.head?

/-- The characters at the front of a text that satisfy `p`, with free spacing between them, and
the text after them. -/
def spanSpaced (p : Char → Bool) (spaced : Bool) : List Char → List Char × List Char
  | [] => ([], [])
  | c :: rest =>
    if p c then
      let (taken, after) := spanSpaced p spaced (skipSpace spaced rest)
      (c :: taken, after)
    else ([], c :: rest)
termination_by cs => cs.length
decreasing_by
  have := skipSpace_length_le spaced rest
  simp only [List.length_cons]
  omega

/-- The text after the white space at its front, with free spacing between. -/
def dropBlanks (spaced : Bool) : List Char → List Char
  | [] => []
  | c :: rest => if Text.whiteSpace c then dropBlanks spaced (skipSpace spaced rest) else c :: rest
termination_by cs => cs.length
decreasing_by
  have := skipSpace_length_le spaced rest
  simp only [List.length_cons]
  omega

/-! ### Numbers and code points -/

/-- Whether a character is a hex digit. -/
def isHex (c : Char) : Bool := c.isDigit || ('a' ≤ c && c ≤ 'f') || ('A' ≤ c && c ≤ 'F')

/-- The value of a hex digit. -/
def hexDigit (c : Char) : Nat :=
  if c.isDigit then c.toNat - 48 else if 'a' ≤ c && c ≤ 'f' then c.toNat - 87 else c.toNat - 55

/-- Whether a number is a Unicode scalar value: a code point that is no surrogate. -/
def isScalar (n : Nat) : Bool := n < 0x110000 && !(0xD800 ≤ n && n ≤ 0xDFFF)

/-- The character that hex digits name, if there are any and they name a scalar value. -/
def hexValue? (ds : List Char) : Option Char :=
  let n := ds.foldl (fun n d => n * 16 + hexDigit d) 0
  if !ds.isEmpty && isScalar n then some (Char.ofNat n) else none

/-- Reads `n` hex digits, with free spacing between them and after the last; `none` if the
text ends first or a character is no hex digit. -/
def fixedHex (spaced : Bool) : Nat → List Char → Option (List Char × List Char)
  | 0, cs => some ([], cs)
  | _ + 1, [] => none
  | n + 1, c :: rest =>
    if isHex c then
      let after := skipSpace spaced rest
      match n with
      | 0 => some ([c], after)
      | _ + 1 => (fixedHex spaced n after).map fun (ds, more) => (c :: ds, more)
    else none

/-- Reads hex digits in braces, from just after the `{`: the digits, and the text after the `}`
and the free spacing after it. -/
def bracedHex (spaced : Bool) (cs : List Char) : Option (List Char × List Char) :=
  match _h : skipSpace spaced cs with
  | [] => none
  | '}' :: after => some ([], skipSpace spaced after)
  | c :: rest =>
    if isHex c then (bracedHex spaced rest).map fun (ds, more) => (c :: ds, more) else none
termination_by cs.length
decreasing_by
  have := skipSpace_length_le spaced cs
  rw [_h] at this
  simp only [List.length_cons] at this
  omega

/-- The largest count a repetition may give. -/
def countLimit : Nat := 4294967295

/-- Reads a count: white space, decimal digits with free spacing between them, and white space;
the count if there are digits and it is within `HubService.Telemetry.Pattern.countLimit`, and
the text after it. -/
def decimal (spaced : Bool) (cs : List Char) : Option Nat × List Char :=
  let (ds, after) := spanSpaced Char.isDigit spaced (cs.dropWhile Text.whiteSpace)
  let n := ds.foldl (fun n d => n * 10 + (d.toNat - 48)) 0
  (if !ds.isEmpty && n ≤ countLimit then some n else none, dropBlanks spaced after)

/-- Reads the bounds of a counted repetition, from just after its `{`: whether they allow no
repetition but zero, and the text after the `}`, and after a `?` that makes it lazy. -/
def counted (spaced : Bool) (cs : List Char) : Option (Bool × List Char) :=
  match skipSpace spaced cs with
  | [] => none
  | cs1 =>
    let (low, cs2) := decimal spaced cs1
    let bounds : Option ((Nat × Option Nat) × List Char) :=
      match cs2 with
      | [] => none
      | ',' :: rest =>
        match skipSpace spaced rest with
        | [] => none
        | '}' :: more => low.map fun l => ((l, none), '}' :: more)
        | cs3 =>
          let (high, cs4) := decimal spaced cs3
          low.bind fun l => high.map fun h => ((l, some h), cs4)
      | cs3 => low.map fun l => ((l, some l), cs3)
    match bounds with
    | some ((l, high), '}' :: after) =>
      let rest := match skipSpace spaced after with
        | '?' :: more => more
        | more => more
      if high.all (l ≤ ·) then some (high = some 0, rest) else none
    | _ => none

/-! ### Escapes -/

/-- The assertions of a pattern, by what they need of the matcher. -/
inductive Assertion where
  /-- The start or end of a line or of the text. -/
  | anchor
  /-- A word boundary, `\b`. -/
  | word
  /-- Not a word boundary, `\B`. -/
  | notWord
  /-- The start or end of a word, or half of it: `\<`, `\>` and `\b{…}`. -/
  | wordEdge
  deriving DecidableEq, Repr

/-- What an escape, or a plain character, stands for. -/
inductive Prim where
  /-- A character. -/
  | literal (c : Char)
  /-- One of the classes `\d`, `\s`, `\w` (by its letter), or its negation. -/
  | perl (kind : Char) (negated : Bool)
  | assertion (a : Assertion)
  deriving DecidableEq, Repr

/-- The characters that have a meaning of their own in a pattern. -/
def isMeta (c : Char) : Bool := "\\.+*?()|[]{}^$#&-~".toList.contains c

/-- Whether a character stands for itself after a backslash: a metacharacter, or another ASCII
character that is no letter or digit, save `<` and `>`. -/
def escapable (c : Char) : Bool :=
  isMeta c || (c.toNat < 128 && !c.isAlphanum && c != '<' && c != '>')

/-- The control character a letter escapes to. -/
def controlEscape? : Char → Option Char
  | 'a' => some (Char.ofNat 7)
  | 'f' => some (Char.ofNat 12)
  | 't' => some '\t'
  | 'n' => some '\n'
  | 'r' => some '\r'
  | 'v' => some (Char.ofNat 11)
  | _ => none

/-- Whether a character may be part of the name of a special word boundary. -/
def boundaryNameChar (c : Char) : Bool :=
  ('a' ≤ c && c ≤ 'z') || ('A' ≤ c && c ≤ 'Z') || c = '-'

/-- The names of the special word boundaries, `\b{name}`. -/
def boundaryNames : List String := ["start", "end", "start-half", "end-half"]

/-- Reads a code point escape, from just after its letter: in braces, or `digits` hex digits. -/
def codePoint (spaced : Bool) (digits : Nat) (rest : List Char) : Option (Prim × List Char) :=
  let read := match skipSpace spaced rest with
    | [] => none
    | '{' :: more => bracedHex spaced more
    | cs => fixedHex spaced digits cs
  read.bind fun (ds, after) => (hexValue? ds).map fun c => (.literal c, after)

/-- Reads what may follow `\b`: a special word boundary in braces, or nothing, when what
follows the `{` cannot begin a name (the braces are then a counted repetition). -/
def afterWordBoundary (spaced : Bool) (rest : List Char) : Option (Prim × List Char) :=
  match rest with
  | '{' :: more =>
    match skipSpace spaced more with
    | [] => none
    | c :: cs =>
      if !boundaryNameChar c then some (.assertion .word, rest)
      else
        match spanSpaced boundaryNameChar spaced (c :: cs) with
        | (name, '}' :: after) =>
          if boundaryNames.contains (String.ofList name) then some (.assertion .wordEdge, after)
          else none
        | _ => none
  | _ => some (.assertion .word, rest)

/-- Reads an escape, from just after its backslash: what it stands for and the text after it;
`none` if it is malformed, a back-reference, or a class `\p…`, which never compiles. -/
def escape (spaced : Bool) : List Char → Option (Prim × List Char)
  | [] => none
  | c :: rest =>
    if c.isDigit then none
    else if c = 'x' then codePoint spaced 2 rest
    else if c = 'u' then codePoint spaced 4 rest
    else if c = 'U' then codePoint spaced 8 rest
    else if c = 'p' || c = 'P' then none
    else if "dswDSW".toList.contains c then some (.perl c.toLower c.isUpper, rest)
    else if escapable c then some (.literal c, rest)
    else
      match controlEscape? c with
      | some l => some (.literal l, rest)
      | none =>
        if c = 'A' || c = 'z' then some (.assertion .anchor, rest)
        else if c = 'b' then afterWordBoundary spaced rest
        else if c = 'B' then some (.assertion .notWord, rest)
        else if c = '<' || c = '>' then some (.assertion .wordEdge, rest)
        else none

/-! ### Sets of code points -/

/-- A set of code points, as a class builds it. -/
inductive CodeSet where
  | empty
  | span (lo hi : Nat)
  | union (a b : CodeSet)
  | inter (a b : CodeSet)
  | diff (a b : CodeSet)
  | symm (a b : CodeSet)
  deriving DecidableEq, Repr

/-- Every code point. -/
def CodeSet.all : CodeSet := .span 0 0x10FFFF

/-- Whether a code point is in a set. -/
def CodeSet.mem : CodeSet → Nat → Bool
  | .empty, _ => false
  | .span lo hi, n => lo ≤ n && n ≤ hi
  | .union a b, n => a.mem n || b.mem n
  | .inter a b, n => a.mem n && b.mem n
  | .diff a b, n => a.mem n && !b.mem n
  | .symm a b, n => a.mem n != b.mem n

/-- The code points at which membership may change: where a span begins and just after it
ends. -/
def CodeSet.edges : CodeSet → List Nat
  | .empty => []
  | .span lo hi => [lo, hi + 1]
  | .union a b | .inter a b | .diff a b | .symm a b => a.edges ++ b.edges

/-- Whether a set holds a character. Membership is the same from one edge to the next, and the
surrogates lie between the edges `0xD800` and `0xE000`, so it is enough to look at the edges
that are characters, and at 0 and `0xE000`. -/
def CodeSet.nonEmpty (s : CodeSet) : Bool :=
  (0 :: 0xE000 :: s.edges).any fun n => isScalar n && s.mem n

/-- The union of spans. -/
def CodeSet.ofSpans (spans : List (Nat × Nat)) : CodeSet :=
  spans.foldr (fun (lo, hi) s => .union (.span lo hi) s) .empty

/-- The set of a named ASCII class, such as `alpha` in `[[:alpha:]]`. -/
def asciiClass? : String → Option CodeSet
  | "alnum" => some (.ofSpans [(48, 57), (65, 90), (97, 122)])
  | "alpha" => some (.ofSpans [(65, 90), (97, 122)])
  | "ascii" => some (.ofSpans [(0, 127)])
  | "blank" => some (.ofSpans [(9, 9), (32, 32)])
  | "cntrl" => some (.ofSpans [(0, 31), (127, 127)])
  | "digit" => some (.ofSpans [(48, 57)])
  | "graph" => some (.ofSpans [(33, 126)])
  | "lower" => some (.ofSpans [(97, 122)])
  | "print" => some (.ofSpans [(32, 126)])
  | "punct" => some (.ofSpans [(33, 47), (58, 64), (91, 96), (123, 126)])
  | "space" => some (.ofSpans [(9, 13), (32, 32)])
  | "upper" => some (.ofSpans [(65, 90)])
  | "word" => some (.ofSpans [(48, 57), (65, 90), (95, 95), (97, 122)])
  | "xdigit" => some (.ofSpans [(48, 57), (65, 70), (97, 102)])
  | _ => none

/-- The ASCII set of a class `\d`, `\s` or `\w`. -/
def perlSet : Char → CodeSet
  | 'd' => .ofSpans [(48, 57)]
  | 's' => .ofSpans [(9, 13), (32, 32)]
  | _ => .ofSpans [(48, 57), (65, 90), (95, 95), (97, 122)]

/-! ### What compiles -/

/-- Whether a character compiles as itself: with Unicode off only ASCII does, and with it on
ignoring case needs the case tables. -/
def literalOk (f : Flags) (c : Char) : Bool :=
  if f.unicode then !f.caseless else c.toNat < 128

/-- Whether a class `\d`, `\s`, `\w` or a negation of one compiles: only with Unicode off, where
it is ASCII, and then not negated, since the negation holds bytes beyond ASCII. -/
def perlOk (f : Flags) (negated : Bool) : Bool := !f.unicode && !negated

/-- Whether a bracketed class, or a named ASCII class, compiles, given its set before any
negation: with Unicode on, it must be empty if case is ignored; with it off, it must not be
negated. -/
def classOk (f : Flags) (negated : Bool) (s : CodeSet) : Bool :=
  if f.unicode then !(f.caseless && s.nonEmpty) else !negated

/-- A set, negated or not. -/
def CodeSet.negatedIf (negated : Bool) (s : CodeSet) : CodeSet :=
  if negated then .diff .all s else s

/-! ### Classes -/

/-- A member of a class as read so far: how deeply its syntax nests, and its set. -/
structure Member where
  depth : Nat
  set : CodeSet
  deriving Repr

/-- A member that is one character or a range, or any other member that does not nest. -/
def Member.flat (s : CodeSet) : Member := ⟨0, s⟩

/-- The members read side by side, as one: nothing, the one member, or their union, one level
deeper than the deepest. -/
def Member.join : List Member → Member
  | [] => ⟨0, .empty⟩
  | [m] => m
  | ms =>
    ⟨ms.foldr (fun m d => max m.depth d) 0 + 1, ms.foldr (fun m s => .union m.set s) .empty⟩

/-- The operations between the members of a class. -/
inductive SetOp where
  | inter
  | diff
  | symm
  deriving DecidableEq, Repr

/-- Applies an operation. -/
def SetOp.apply : SetOp → CodeSet → CodeSet → CodeSet
  | .inter => .inter
  | .diff => .diff
  | .symm => .symm

/-- What a class being read waits to finish: an open bracket, with the members read before it
and whether it is negated, or an operation with its left side. -/
inductive Level where
  | bracket (before : List Member) (negated : Bool)
  | op (kind : SetOp) (lhs : Member)
  deriving Repr

/-- Ends an operation that waits for its right side, if one does. -/
def closeOp (rhs : Member) : List Level → Member × List Level
  | .op kind lhs :: rest => (⟨max lhs.depth rhs.depth + 1, kind.apply lhs.set rhs.set⟩, rest)
  | levels => (rhs, levels)

/-- Reads a named ASCII class, from just after its `[`: its set, whether it is negated, and the
text after it; `none` if it is no such class, and the `[` opens a nested class. -/
def asciiClassAt : List Char → Option (CodeSet × Bool × List Char)
  | ':' :: rest =>
    let (negated, body) := match rest with
      | '^' :: more => (true, more)
      | more => (false, more)
    match body.dropWhile (· != ':') with
    | ':' :: ']' :: after =>
      (asciiClass? (String.ofList (body.takeWhile (· != ':')))).map fun s => (s, negated, after)
    | _ => none
  | _ => none

/-- Reads the `-` that stand for themselves at the start of a class, each followed by free
spacing: how many, and the text after them; `none` if the text ends after one. -/
def leadingDashes (spaced : Bool) : List Char → Option (Nat × List Char)
  | '-' :: rest =>
    match _h : skipSpace spaced rest with
    | [] => none
    | c :: cs => (leadingDashes spaced (c :: cs)).map fun (n, after) => (n + 1, after)
  | cs => some (0, cs)
termination_by cs => cs.length
decreasing_by
  have := skipSpace_length_le spaced rest
  rw [_h] at this
  simp only [List.length_cons] at this ⊢
  omega

/-- Reads the start of a bracketed class, from just after its `[`: whether it is negated, the
members its start stands for (the leading `-`, or a `]` first of all), and the text after. -/
def openClass (spaced : Bool) (cs : List Char) : Option (Bool × List Member × List Char) :=
  let start := match skipSpace spaced cs with
    | '^' :: rest => (true, skipSpace spaced rest)
    | rest => (false, rest)
  match start with
  | (_, []) => none
  | (negated, body) =>
    (leadingDashes spaced body).bind fun (dashes, after) =>
      let members := List.replicate dashes (Member.flat (.span 45 45))
      match dashes, after with
      | 0, ']' :: more =>
        match skipSpace spaced more with
        | [] => none
        | rest => some (negated, [Member.flat (.span 93 93)], rest)
      | _, [] => none
      | _, rest => some (negated, members, rest)

/-- Reads one member of a class that is a character or an escape. -/
def classPrim (spaced : Bool) : List Char → Option (Prim × List Char)
  | '\\' :: rest => escape spaced rest
  | c :: rest => some (.literal c, rest)
  | [] => none

/-- The member a character or an escape is in a class, if it compiles there: assertions do not
belong in a class. -/
def Prim.member (f : Flags) : Prim → Option Member
  | .literal c => if f.unicode || c.toNat < 128 then some (.flat (.span c.toNat c.toNat)) else none
  | .perl kind negated => if perlOk f negated then some (.flat (perlSet kind)) else none
  | .assertion _ => none

/-- The member a range is, if its ends are characters in order that compile. -/
def rangeMember (f : Flags) : Prim → Prim → Option Member
  | .literal lo, .literal hi =>
    if lo ≤ hi && (f.unicode || hi.toNat < 128) then some (.flat (.span lo.toNat hi.toNat))
    else none
  | _, _ => none

/-- Reads a bracketed class, from its `[`, with the members of the innermost open bracket so
far and the brackets and operations that wait: how deeply it nests, and the text after it;
`none` if it is malformed or does not compile. Each step reads at least one character, so fuel
of one more than the length of the text is enough. -/
def readClass (f : Flags) :
    Nat → List Char → List Member → List Level → Option (Nat × List Char)
  | 0, _, _, _ => none
  | fuel + 1, cs, members, levels =>
    let openNested (rest : List Char) :=
      (openClass f.spaced rest).bind fun (negated, first, after) =>
        readClass f fuel after first (.bracket members negated :: levels)
    let pushOp (kind : SetOp) (rest : List Char) :=
      let (lhs, levels') := closeOp (Member.join members) levels
      readClass f fuel rest [] (.op kind lhs :: levels')
    match skipSpace f.spaced cs with
    | [] => none
    | '[' :: rest =>
      match (if levels.isEmpty then none else asciiClassAt rest) with
      | some (s, negated, after) =>
        if classOk f negated s then
          readClass f fuel after (.flat (s.negatedIf negated) :: members) levels
        else none
      | none => openNested rest
    | ']' :: rest =>
      match closeOp (Member.join members) levels with
      | (inner, .bracket before negated :: above) =>
        if !classOk f negated inner.set then none
        else
          let closed : Member := ⟨inner.depth + 1, inner.set.negatedIf negated⟩
          if above.isEmpty then some (closed.depth, rest)
          else readClass f fuel rest (closed :: before) above
      | _ => none
    | '&' :: '&' :: rest => pushOp .inter rest
    | '-' :: '-' :: rest => pushOp .diff rest
    | '~' :: '~' :: rest => pushOp .symm rest
    | text =>
      match classPrim f.spaced text with
      | none => none
      | some (first, after) =>
        let single (rest : List Char) :=
          (first.member f).bind fun m => readClass f fuel rest (m :: members) levels
        match skipSpace f.spaced after with
        | [] => none
        | '-' :: afterDash =>
          let next := peekAfter f.spaced afterDash
          if next = some ']' || next = some '-' then single ('-' :: afterDash)
          else
            match skipSpace f.spaced afterDash with
            | [] => none
            | text' =>
              (classPrim f.spaced text').bind fun (last, after') =>
                (rangeMember f first last).bind fun m =>
                  readClass f fuel after' (m :: members) levels
        | rest => single rest

/-! ### Patterns -/

/-- What is known of a piece of a pattern once it is read. -/
structure Piece where
  /-- How deeply groups, repetitions, sequences, alternatives and classes nest in it. -/
  depth : Nat
  /-- Whether it asserts a Unicode word boundary. -/
  boundary : Bool
  /-- Whether a repetition may apply to it: anything but a flag setting. -/
  operand : Bool
  deriving DecidableEq, Repr

/-- A piece that does not nest and asserts no Unicode word boundary. -/
def Piece.atom : Piece := ⟨0, false, true⟩

/-- The deepest nesting among pieces. -/
def deepest (ps : List Piece) : Nat := ps.foldr (fun p d => max p.depth d) 0

/-- Pieces in sequence, as one: nothing, the one piece, or a sequence one level deeper than its
deepest piece. -/
def Piece.sequence : List Piece → Piece
  | [] => .atom
  | [p] => p
  | ps => ⟨deepest ps + 1, ps.any (·.boundary), true⟩

/-- Alternatives, as one piece. -/
def Piece.choice (ps : List Piece) : Piece := ⟨deepest ps + 1, ps.any (·.boundary), true⟩

/-- A group around a piece. -/
def Piece.group (p : Piece) : Piece := ⟨p.depth + 1, p.boundary, true⟩

/-- A repetition of a piece; one that repeats at most zero times matches only the empty text,
and its assertions are gone. -/
def Piece.repeated (p : Piece) (never : Bool) : Piece :=
  ⟨p.depth + 1, p.boundary && !never, true⟩

/-- The piece an escape or a character stands for outside a class, if it compiles. -/
def Prim.piece (f : Flags) : Prim → Option Piece
  | .literal c => if literalOk f c then some .atom else none
  | .perl _ negated => if perlOk f negated then some .atom else none
  | .assertion .anchor => some .atom
  | .assertion .word | .assertion .wordEdge => some ⟨0, f.unicode, true⟩
  | .assertion .notWord => if f.unicode then some ⟨0, true, true⟩ else none

/-- What a group being read waits for: to close, with the pieces before it and the flags to go
back to; or another alternative, with the alternatives read so far. -/
inductive Frame where
  | group (before : List Piece) (saved : Flags)
  | alternation (branches : List Piece)
  deriving Repr

/-- The state of reading a pattern: the flags in force, the names of the captures so far, the
pieces of the sequence being read (the last first), and the groups and alternations that wait. -/
structure Reading where
  flags : Flags
  names : List String
  pieces : List Piece
  frames : List Frame
  deriving Repr

/-- Adds a piece to the sequence being read. -/
def Reading.push (r : Reading) (p : Piece) : Reading := { r with pieces := p :: r.pieces }

/-- Opens a group, with the flags it is read under. -/
def Reading.openGroup (r : Reading) (f : Flags) : Reading :=
  { r with flags := f, pieces := [], frames := .group r.pieces r.flags :: r.frames }

/-- Ends an alternative at a `|`. -/
def Reading.alternate (r : Reading) : Reading :=
  match r.frames with
  | .alternation bs :: frames =>
    { r with pieces := [], frames := .alternation (Piece.sequence r.pieces :: bs) :: frames }
  | frames => { r with pieces := [], frames := .alternation [Piece.sequence r.pieces] :: frames }

/-- Closes a group at a `)`, if one is open, and restores the flags it began with. -/
def Reading.closeGroup (r : Reading) : Option Reading :=
  match r.frames with
  | .group before saved :: frames =>
    some ⟨saved, r.names, (Piece.sequence r.pieces).group :: before, frames⟩
  | .alternation bs :: .group before saved :: frames =>
    let body := Piece.choice (Piece.sequence r.pieces :: bs)
    some ⟨saved, r.names, body.group :: before, frames⟩
  | _ => none

/-- The whole pattern, once the text ends, if no group is left open. -/
def Reading.finish (r : Reading) : Option Piece :=
  match r.frames with
  | [] => some (Piece.sequence r.pieces)
  | [.alternation bs] => some (Piece.choice (Piece.sequence r.pieces :: bs))
  | _ => none

/-- Whether a character may be part of a capture's name, `first` saying whether it begins it. -/
def captureChar (c : Char) (first : Bool) : Bool :=
  if first then c = '_' || Text.alphabetic c
  else c = '_' || c = '.' || c = '[' || c = ']' || Text.alphanumeric c

/-- Reads a capture's name up to its `>`: the name, and the text after the `>`. -/
def captureName (first : Bool) : List Char → Option (List Char × List Char)
  | [] => none
  | '>' :: after => some ([], after)
  | c :: rest =>
    if captureChar c first then (captureName false rest).map fun (n, after) => (c :: n, after)
    else none

/-- Reads a group's flags up to the `:` or `)` after them: each letter with whether it is
switched on, and the text from the `:` or `)`. `seen` holds what was read, the last first. -/
def flagItems (negating : Bool) (seen : List Char) :
    List Char → Option (List (Char × Bool) × List Char)
  | [] => none
  | c :: rest =>
    if c = ':' || c = ')' then
      if seen.head? = some '-' then none else some ([], c :: rest)
    else if seen.contains c then none
    else if c = '-' then flagItems true (c :: seen) rest
    else if "imsUuxR".toList.contains c then
      (flagItems negating (c :: seen) rest).map fun (items, after) =>
        ((c, !negating) :: items, after)
    else none

/-- Reads what follows the `(` of a group: a capture's name, or flags, or nothing. -/
def Reading.startGroup (r : Reading) (rest : List Char) : Option (Reading × List Char) :=
  match skipSpace r.flags.spaced rest with
  | '?' :: '=' :: _ | '?' :: '!' :: _ | '?' :: '<' :: '=' :: _ | '?' :: '<' :: '!' :: _ => none
  | '?' :: 'P' :: '<' :: more | '?' :: '<' :: more =>
    (captureName true more).bind fun (name, after) =>
      let name := String.ofList name
      if name.isEmpty || r.names.contains name then none
      else some ({ r.openGroup r.flags with names := name :: r.names }, after)
  | '?' :: more =>
    match flagItems false [] more with
    | some (items, ')' :: after) =>
      if items.isEmpty then none
      else
        some ({ r.push ⟨0, false, false⟩ with flags := items.foldl Flags.set r.flags }, after)
    | some (items, _ :: after) => some (r.openGroup (items.foldl Flags.set r.flags), after)
    | _ => none
  | cs => some (r.openGroup r.flags, cs)

/-- Applies a repetition to the last piece read, if there is one it may apply to. -/
def Reading.repeatLast (r : Reading) (never : Bool) : Option Reading :=
  match r.pieces with
  | p :: ps => if p.operand then some { r with pieces := p.repeated never :: ps } else none
  | [] => none

/-- Reads a pattern from the state `r`: the pattern as one piece, or `none` if it is malformed
or does not compile. Each step reads at least one character, or ends, so fuel of one more than
the length of the text is enough. -/
def read : Nat → List Char → Reading → Option Piece
  | 0, _, _ => none
  | fuel + 1, cs, r =>
    match skipSpace r.flags.spaced cs with
    | [] => r.finish
    | '(' :: rest => (r.startGroup rest).bind fun (r', after) => read fuel after r'
    | ')' :: rest => r.closeGroup.bind fun r' => read fuel rest r'
    | '|' :: rest => read fuel rest r.alternate
    | '[' :: rest =>
      (readClass r.flags (rest.length + 2) ('[' :: rest) [] []).bind fun (depth, after) =>
        read fuel after (r.push ⟨depth, false, true⟩)
    | '?' :: rest | '*' :: rest | '+' :: rest =>
      let after := match rest with
        | '?' :: more => more
        | more => more
      (r.repeatLast false).bind fun r' => read fuel after r'
    | '{' :: rest =>
      (counted r.flags.spaced rest).bind fun (never, after) =>
        (r.repeatLast never).bind fun r' => read fuel after r'
    | '\\' :: rest =>
      (escape r.flags.spaced rest).bind fun (prim, after) =>
        (prim.piece r.flags).bind fun p => read fuel after (r.push p)
    | '.' :: rest => if r.flags.unicode then read fuel rest (r.push .atom) else none
    | '^' :: rest | '$' :: rest => read fuel rest (r.push .atom)
    | c :: rest => if literalOk r.flags c then read fuel rest (r.push .atom) else none

/-- How deeply a pattern's syntax may nest. -/
def nestLimit : Nat := 250

/-- Whether a pattern compiles. -/
inductive Verdict where
  /-- It is malformed, or uses what the matcher does not have. -/
  | malformed
  /-- It is well formed, but asserts a Unicode word boundary, which an automaton cannot. -/
  | unicodeBoundary
  | compiles
  deriving DecidableEq, Repr

/-- Judges a pattern. -/
def judge (pattern : String) : Verdict :=
  let cs := pattern.toList
  match read (cs.length + 1) cs ⟨.initial, [], [], []⟩ with
  | none => .malformed
  | some p =>
    if nestLimit < p.depth then .malformed
    else if p.boundary then .unicodeBoundary
    else .compiles

end HubService.Telemetry.Pattern
