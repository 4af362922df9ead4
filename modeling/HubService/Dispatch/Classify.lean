import HubService.Dispatch.Error
import HubService.Wire.Frame

/-!
# Classifying an inbound frame

An inbound frame is one of four things (`HubService.Dispatch.Classification`), decided by six
rules taken in order:

1. a frame that is not an envelope is *rejected* as `unsupported_format`, with no tag, loudly;
2. an envelope without a tag or without data is *rejected* as `missing_parameters`, naming the
   tag first, quietly when the envelope is itself an error notice;
3. a tagged envelope whose tag awaits a response and that names no endpoint is a *response*;
4. one that names a user is a *user request*;
5. one that names a calling service, with a tag that awaits nothing, is a *service request*;
6. anything else is a *response*.

A rejection is answered (`HubService.Dispatch.Rejection.reply`) with a reply under its tag when
it has one, else with a notice unless it is quiet.
-/

namespace HubService.Dispatch

open HubService.Wire HubService.Registry HubService.Json

/-- A frame that will not be served. -/
structure Rejection where
  tag : Option Tag
  error : DispatchError
  quiet : Bool
  deriving Repr

/-- A request: its tag, who asks, the endpoint it names, and its data. -/
structure Request (C : Type) where
  tag : Tag
  caller : C
  endpoint : Option EndpointPath
  data : Fields
  deriving Repr

/-- What an inbound frame is. -/
inductive Classification where
  | rejected (r : Rejection)
  | response (tag : Tag) (data : Fields)
  | userRequest (r : Request Uuid)
  | serviceRequest (r : Request String)
  deriving Repr

/-- The frame that answers a rejection, if any. -/
def Rejection.reply (r : Rejection) : Option Frame :=
  match r.tag with
  | some t => some (.reply t r.error.code.payload)
  | none => if r.quiet then none else some (.notice r.error.code)

/-- Classifies an envelope, given which tags await a response. -/
def classifyEnvelope (pending : Tag → Bool) (e : Envelope) : Classification :=
  match e.tag, e.data with
  | some tag, some data =>
    if pending tag && e.endpoint.isNone then .response tag data
    else
      match e.user with
      | some user => .userRequest ⟨tag, user, e.endpoint, data⟩
      | none =>
        match e.service with
        | some service =>
          if pending tag then .response tag data
          else .serviceRequest ⟨tag, service, e.endpoint, data⟩
        | none => .response tag data
  | tag, _ =>
    .rejected ⟨tag, .missingEnvelopeField (if tag.isNone then "tag" else "data"), e.errorNotice⟩

/-- Classifies an inbound frame, given which tags await a response. -/
def classify (pending : Tag → Bool) (frame : ByteArray) : Classification :=
  match Envelope.parse frame with
  | .error source => .rejected ⟨none, .unsupportedFormat source, false⟩
  | .ok e => classifyEnvelope pending e

end HubService.Dispatch
