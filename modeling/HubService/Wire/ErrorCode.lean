import HubService.Json.Value
import HubService.Json.Decode

/-!
# Error codes

A request that cannot be served is answered with a payload `{"error": code}` whose code is one
of four words. The code of a failure says who is at fault: the frame
(`unsupported_format`), the request's parameters (`missing_parameters`), the service
(`internal_error`), or the address (`unknown_service`).
-/

namespace HubService.Wire

/-- The four error codes. -/
inductive ErrorCode where
  | unsupportedFormat
  | missingParameters
  | internalError
  | unknownService
  deriving DecidableEq, Repr

namespace ErrorCode

/-- Every code, in the order they are declared. -/
def all : List ErrorCode := [.unsupportedFormat, .missingParameters, .internalError, .unknownService]

/-- The word for a code. -/
def text : ErrorCode → String
  | .unsupportedFormat => "unsupported_format"
  | .missingParameters => "missing_parameters"
  | .internalError => "internal_error"
  | .unknownService => "unknown_service"

/-- The code a word names. -/
def ofText? (s : String) : Option ErrorCode := all.find? (·.text = s)

/-- The payload that carries a code. -/
def payload (code : ErrorCode) : Json.Fields := [("error", .string code.text)]

/-- Reads a code from a JSON value. -/
def decode (v : Json.Value) : Except Json.DecodeError ErrorCode := do
  let name ← Json.decodeVariant (all.map text) v
  match ofText? name with
  | some code => pure code
  | none => throw (.unknownVariant name (all.map text))

theorem ofText?_text (code : ErrorCode) : ofText? code.text = some code := by
  cases code <;> rfl

end ErrorCode

end HubService.Wire
