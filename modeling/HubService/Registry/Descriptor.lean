import HubService.Json.Value

/-!
# What an endpoint requires of its data

An endpoint may declare keys that its data must hold, each with the kind of value it must have
(`HubService.Registry.EndpointDescriptor`). Kinds are those of JSON values, with numbers split
into *integers* (read without fraction or exponent and within 64 bits) and *floats*.

Validation looks at the declared keys in order and reports the first that is missing or of
another kind (`HubService.Registry.EndpointDescriptor.validate`); keys that are not declared are
never looked at.
-/

namespace HubService.Registry

open HubService.Json

/-- The kinds of JSON value a parameter can be required to have. -/
inductive ValueKind where
  | string
  | boolean
  | integer
  | float
  | object
  | array
  | null
  deriving DecidableEq, Repr

namespace ValueKind

/-- Every kind. -/
def all : List ValueKind := [.string, .boolean, .integer, .float, .object, .array, .null]

/-- The kind of a value. -/
def of : Value → ValueKind
  | .null => .null
  | .bool _ => .boolean
  | .number (.float _) => .float
  | .number _ => .integer
  | .string _ => .string
  | .array _ => .array
  | .object _ => .object

/-- Whether a value has this kind. -/
def accepts (k : ValueKind) (v : Value) : Bool := of v == k

/-- The word for a kind. -/
def text : ValueKind → String
  | .string => "string"
  | .boolean => "boolean"
  | .integer => "integer"
  | .float => "float"
  | .object => "object"
  | .array => "array"
  | .null => "null"

/-- The kind a word names. -/
def ofText? (s : String) : Option ValueKind := all.find? (·.text = s)

theorem accepts_iff (k : ValueKind) (v : Value) : k.accepts v = true ↔ of v = k := by
  simp [accepts]

end ValueKind

/-- A declared parameter that the data does not satisfy: the key, the kind it must have, and
the kind it has, if it is there at all. -/
structure ParameterMismatch where
  key : String
  expected : ValueKind
  found : Option ValueKind
  deriving DecidableEq, Repr

/-- The words for a mismatch. -/
def ParameterMismatch.message (m : ParameterMismatch) : String :=
  match m.found with
  | some found => s!"parameter '{m.key}' must be {m.expected.text}, found {found.text}"
  | none => s!"parameter '{m.key}' ({m.expected.text}) is missing"

/-- The keys an endpoint requires, each with its kind, in the order they are checked. -/
structure EndpointDescriptor where
  required : List (String × ValueKind)
  deriving DecidableEq, Repr

namespace EndpointDescriptor

/-- The descriptor pairing keys with kinds, if there are as many of each. -/
def ofLists? (keys : List String) (kinds : List ValueKind) : Option EndpointDescriptor :=
  if keys.length = kinds.length then some ⟨keys.zip kinds⟩ else none

/-- The first declared parameter that the data does not satisfy. -/
def firstMismatch (data : Fields) : List (String × ValueKind) → Option ParameterMismatch
  | [] => none
  | (key, kind) :: rest =>
    let found := (data.get? key).map ValueKind.of
    if found = some kind then firstMismatch data rest else some ⟨key, kind, found⟩

/-- Checks data against the descriptor: the first declared parameter it does not satisfy. -/
def validate (d : EndpointDescriptor) (data : Fields) : Except ParameterMismatch Unit :=
  match firstMismatch data d.required with
  | some m => .error m
  | none => .ok ()

end EndpointDescriptor

end HubService.Registry
