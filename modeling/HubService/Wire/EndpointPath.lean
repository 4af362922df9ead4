import HubService.Json.Value
import HubService.Json.Decode

/-!
# Endpoint paths

An endpoint is addressed by a path of segments, compared segment by segment: two paths are
the same exactly when their lists of segments are equal. A path is written `/a/b` for people
and as a JSON array of its segments on the wire; the empty path is `/`.
-/

namespace HubService.Wire

/-- The address of an endpoint: its segments, in order. -/
structure EndpointPath where
  segments : List String
  deriving DecidableEq, Repr, Inhabited

namespace EndpointPath

/-- The path with no segment. -/
def root : EndpointPath := ⟨[]⟩

/-- Whether the path has no segment. -/
def isEmpty (p : EndpointPath) : Bool := p.segments.isEmpty

/-- The path for people: a slash before each segment, or a lone slash. -/
def display (p : EndpointPath) : String := "/" ++ "/".intercalate p.segments

/-- The path on the wire: an array of its segments. -/
def toJson (p : EndpointPath) : Json.Value := .array (p.segments.map .string)

/-- The path as a debugging view writes it. -/
def debug (p : EndpointPath) : String :=
  "EndpointPath([" ++ ", ".intercalate (p.segments.map Text.debugQuote) ++ "])"

/-- Reads a path from a JSON array of strings. -/
def decode (v : Json.Value) : Except Json.DecodeError EndpointPath :=
  (Json.decodeList Json.decodeString v).map EndpointPath.mk

/-- The path of an array that holds only strings. -/
def ofJson? (v : Json.Value) : Option EndpointPath :=
  match v with
  | .array items => (items.mapM Json.Value.asString?).map EndpointPath.mk
  | _ => none

theorem ofJson?_toJson (p : EndpointPath) : ofJson? p.toJson = some p := by
  obtain ⟨segments⟩ := p
  simp only [ofJson?, toJson]
  induction segments with
  | nil => rfl
  | cons s rest ih =>
    simp only [List.map_cons, List.mapM_cons, Json.Value.asString?] at ih ⊢
    revert ih
    cases h : List.mapM Json.Value.asString? (List.map Json.Value.string rest) <;> simp

end EndpointPath

end HubService.Wire
