import HubService.Session.Handler
import HubService.Dispatch.Classify
import HubService.Registry.Basic

/-!
# Serving inbound frames

Once classified (`HubService.Dispatch.classify`), an inbound frame is served by a task:

* a rejected frame gets the rejection's reply, if it has one;
* a response is handed to the call that waits for its tag;
* a request is looked up by the exact path it names (no path means the root), its data is
  checked against the endpoint's descriptor, and the handler runs; the reply carries the
  handler's payload, or the error code of whatever went wrong: `unknown_service`,
  `missing_parameters`, or `internal_error` for a failing or panicking handler. A user gets a
  reply, a service a service reply; only a user is a calling user to the handler.

A frame can also be *refused* when there is no room to serve it: a response is still handed
on, a rejection still gets its reply, and a request is answered at once with `internal_error`.
-/

namespace HubService.Session

open HubService.Wire HubService.Json HubService.Dispatch HubService.Registry

/-- The program that serves one request. -/
def serveRequest (registry : EndpointRegistry Handler) (handleTimeout : Duration) (origin : Origin)
    (endpoint : Option EndpointPath) (data : Fields) (caller : String) (callingUser : Option Uuid)
    (reply : Fields → Frame) : Program :=
  let path := endpoint.getD EndpointPath.root
  let respond (payload : Fields) : Program := .send (reply payload) fun _ => .finish .served
  match registry.lookup origin path with
  | none => respond (DispatchError.unknownService origin path).code.payload
  | some ep =>
    match ep.descriptor.validate data with
    | .error m => respond (DispatchError.missingParameters origin path m).code.payload
    | .ok () =>
      ep.handler.run data caller callingUser handleTimeout fun r =>
        respond (match r with
          | .ok payload => payload
          | .error message => (DispatchError.internalError origin path message).code.payload)

/-- The program that serves a classified inbound frame. -/
def serve (registry : EndpointRegistry Handler) (handleTimeout : Duration) :
    Classification → Program
  | .rejected r =>
    match r.reply with
    | some f => .send f fun _ => .finish .served
    | none => .finish .served
  | .response tag data => .resolve tag data (.finish .served)
  | .userRequest req =>
    serveRequest registry handleTimeout .user req.endpoint req.data req.caller.render
      (some req.caller) (Frame.reply req.tag)
  | .serviceRequest req =>
    serveRequest registry handleTimeout .service req.endpoint req.data req.caller none
      (Frame.serviceReply req.caller req.tag)

/-- What refusing a classified frame does at once. -/
inductive Refusal where
  /-- Hand the response to its call. -/
  | resolve (tag : Tag) (data : Fields)
  /-- Queue this reply if there is room, or nothing. -/
  | reply (frame : Option Frame)
  deriving Repr

/-- Refuses a classified frame. -/
def refuse : Classification → Refusal
  | .rejected r => .reply r.reply
  | .response tag data => .resolve tag data
  | .userRequest req =>
    .reply (some (Frame.reply req.tag
      (DispatchError.overloaded .user (req.endpoint.getD EndpointPath.root)).code.payload))
  | .serviceRequest req =>
    .reply (some (Frame.serviceReply req.caller req.tag
      (DispatchError.overloaded .service (req.endpoint.getD EndpointPath.root)).code.payload))

end HubService.Session
