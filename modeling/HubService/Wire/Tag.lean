import HubService.Uuid
import HubService.Json.Decode

/-!
# Tags

A tag pairs a request with its reply: the reply to a frame carries the frame's tag. A tag is a
UUID and is written like one; a tag read from JSON must be a string that reads as a UUID.
-/

namespace HubService.Wire

/-- The tag that pairs a request with its reply. -/
structure Tag where
  uuid : Uuid
  deriving DecidableEq, Repr, Inhabited

namespace Tag

/-- The tag written as a lowercase hyphenated UUID. -/
def render (t : Tag) : String := t.uuid.render

/-- The first of the tags a service issues itself; the `k`-th issued tag counts up from it. -/
def issuedBase : Nat := 0x7e3a9c5d41f24b689e0a000000000000

/-- The `k`-th tag a service issues: distinct for distinct `k`. -/
def issued (k : Nat) : Tag := ⟨⟨BitVec.ofNat 128 (issuedBase + k)⟩⟩

/-- Reads a tag in any spelling of a UUID. -/
def parse (s : String) : Except Uuid.ParseError Tag := (Uuid.parse s).map Tag.mk

/-- Reads a tag from a JSON value: a string that reads as a UUID. -/
def decode : Json.Value → Except Json.DecodeError Tag
  | .string s =>
    match parse s with
    | .ok t => .ok t
    | .error e => .error (.custom ("UUID parsing failed: " ++ e.message))
  | v => .error (.invalidType (Json.Found.ofValue v) "a formatted UUID string")

end Tag

end HubService.Wire
