import HubService.Session.Program

/-!
# Endpoint handlers

A handler turns the data of a request, and who sent it, into a payload or a fault. Handlers may
use the service handle: call another service, look a user up, push to a user; so what a handler
does is a `HubService.Session.Program` that ends by passing its result on.

`HubService.Session.Handler` is a catalogue of handlers, each a small behaviour worth telling
apart when a service is exercised: echoing, a fixed answer, naming the caller, reading a field,
failing, panicking, listing the keys, and the three uses of the handle. Faults are words; a
panic's words are its payload when that is text.
-/

namespace HubService.Session

open HubService.Wire HubService.Json

/-- A handler from the catalogue. -/
inductive Handler where
  /-- Answers with the request's data. -/
  | echo
  /-- Answers with fixed data. -/
  | constant (data : Fields)
  /-- Answers `{"caller": …}` with who sent the request. -/
  | caller
  /-- Answers `{"value": …}` with the data's field `key` if it is a string, else `null`. -/
  | field (key : String)
  /-- Fails with these words. -/
  | fail (message : String)
  /-- Panics, with a text payload or with one that is not text. -/
  | panic (payload : Option String)
  /-- Answers the sorted keys of the data and the handle's call timeout in milliseconds. -/
  | dataKeys
  /-- Calls an endpoint of another service with the request's data and answers its
  response, within `timeout` or the handle's own. -/
  | call (service : String) (endpoint : EndpointPath) (timeout : Option Duration)
  /-- Looks a user up, the calling user unless one is named, and answers whether it was
  found. -/
  | fetchUser (user : Option String)
  /-- Pushes the request's data to a user, the calling user unless one is named. -/
  | push (user : Option String)
  deriving Repr

namespace Handler

/-- The words for a panic whose payload is not text. -/
def opaquePanic : String := "non-string panic payload"

/-- The answer of a user lookup: whether the user was found, and if so who. -/
def foundFields : Option UserRecord → Fields
  | none => [("found", .bool false)]
  | some r => Fields.ofList [("found", .bool true), ("name", .string r.name),
      ("uuid", .string r.uuid.render)]

/-- The words for a handler that needs a user when none is named and the caller is not one. -/
def noCallingUser : String := "the caller is not a user"

/-- The user a handler acts on: the one named, read as a UUID, else the calling user. -/
def target (named : Option String) (callingUser : Option Uuid) : Except String Uuid :=
  match named with
  | some text =>
    match Uuid.parse text with
    | .ok u => .ok u
    | .error e => .error e.message
  | none =>
    match callingUser with
    | some u => .ok u
    | none => .error noCallingUser

/-- Runs a handler on a request's data and caller (and the calling user, when the caller is a
user), with the handle's call timeout; `next` gets the payload or the fault. -/
def run (h : Handler) (data : Fields) (caller : String) (callingUser : Option Uuid)
    (handleTimeout : Duration)
    (next : Except String Fields → Program) : Program :=
  match h with
  | .echo => next (.ok data)
  | .constant d => next (.ok d)
  | .caller => next (.ok [("caller", .string caller)])
  | .field key =>
    next (.ok [("value", match Fields.get? key data with
      | some (.string s) => .string s
      | _ => .null)])
  | .fail message => next (.error message)
  | .panic payload => next (.error (payload.getD opaquePanic))
  | .dataKeys =>
    next (.ok (Fields.ofList [("keys", .array ((Fields.keys data).map .string)),
      ("timeout_ms", .number (.posInt handleTimeout.millis.toUInt64))]))
  | .call service endpoint timeout =>
    Program.callService service endpoint data (timeout.getD handleTimeout) fun r =>
      next (match r with
        | .ok payload => .ok payload
        | .error e => .error e.message)
  | .fetchUser named =>
    match target named callingUser with
    | .error e => next (.error e)
    | .ok user => Program.lookupUser user handleTimeout fun r => next (.ok (foundFields r))
  | .push named =>
    match target named callingUser with
    | .error e => next (.error e)
    | .ok user =>
      Program.sendToUser user data fun queued =>
        next (if queued then .ok [("pushed", .bool true)] else .error closedMessage)

end Handler

end HubService.Session
