import HubService.Wire.Envelope
import HubService.Wire.ErrorCode
import HubService.Registry.Basic

/-!
# Why a request is not served

Every failure to serve an inbound frame has a cause (`HubService.Dispatch.DispatchError`), and
every cause has the error code that the reply carries (`HubService.Dispatch.DispatchError.code`):
a frame that is not an envelope is `unsupported_format`; a missing tag or data, or data that
does not satisfy the endpoint's descriptor, is `missing_parameters`; an unknown path is
`unknown_service`; a failing handler, or a request turned away because the backlog is full, is
`internal_error`.
-/

namespace HubService.Dispatch

open HubService.Wire HubService.Registry

/-- The causes for not serving an inbound frame. -/
inductive DispatchError where
  | unsupportedFormat (source : EnvelopeError)
  | missingEnvelopeField (field : String)
  | missingParameters (origin : Origin) (path : EndpointPath) (mismatch : ParameterMismatch)
  | unknownService (origin : Origin) (path : EndpointPath)
  | internalError (origin : Origin) (path : EndpointPath) (message : String)
  | overloaded (origin : Origin) (path : EndpointPath)
  deriving Repr

namespace DispatchError

/-- The error code a reply carries for the cause. -/
def code : DispatchError → ErrorCode
  | .unsupportedFormat _ => .unsupportedFormat
  | .missingEnvelopeField _ | .missingParameters .. => .missingParameters
  | .unknownService .. => .unknownService
  | .internalError .. | .overloaded .. => .internalError

/-- The words for a cause. -/
def message : DispatchError → String
  | .unsupportedFormat source => "unsupported format: " ++ source.message
  | .missingEnvelopeField field => "envelope is missing its " ++ field
  | .missingParameters origin path m => s!"{origin.text} endpoint {path.display}: {m.message}"
  | .unknownService origin path => s!"no {origin.text} endpoint registered for {path.display}"
  | .internalError origin path msg => s!"{origin.text} endpoint {path.display} failed: {msg}"
  | .overloaded origin path =>
    s!"{origin.text} endpoint {path.display} refused: dispatch backlog is full"

end DispatchError

end HubService.Dispatch
