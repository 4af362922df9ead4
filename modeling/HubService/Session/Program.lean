import HubService.Wire.Frame
import HubService.User
import HubService.Duration

/-!
# What a task does

Every piece of work in a running service is a *task*: serving one inbound frame, or one
operation started through the service's handle. What a task does is a `HubService.Session.Program`:
a tree whose nodes are the few operations that can make a task wait, each followed by the rest
of the program as a function of what the operation gave.

* `send`: put a frame in the outbound queue, waiting for room; what follows learns whether the
  frame went in (it does not when the queue is closed).
* `exchange`: a call that expects a response. A slot is registered under a fresh tag, the frame
  built from that tag is queued, and the task waits for the response. One deadline, `timeout`
  after the start, covers both the wait for room and the wait for the response.
* `resolve`: hand a response to the call waiting for its tag.
* `finish`: the task is over, with what it reports.

The operations of the service handle are programs built from these
(`HubService.Session.Program.callService`, `HubService.Session.Program.lookupUser`,
`HubService.Session.Program.sendToUser`).
-/

namespace HubService.Session

open HubService.Wire HubService.Json

/-- Why a call got no response. -/
inductive CallError where
  /-- The deadline passed first; the tag of the call, and how long it was given. -/
  | noResponse (tag : Tag) (waited : Duration)
  /-- The frame could not be queued: the connection is gone. -/
  | disconnected
  deriving DecidableEq, Repr

/-- The words for a call that got no response. -/
def CallError.message : CallError → String
  | .noResponse tag waited => "no response for call " ++ tag.render ++ " within " ++ waited.text
  | .disconnected => "service connection is closed"

/-- The name of the kind of a call's failure. -/
def CallError.kindName : CallError → String
  | .noResponse .. => "NoResponse"
  | .disconnected => "Disconnected"

/-- The words for a frame that could not be queued. -/
def closedMessage : String := "service connection is closed"

/-- What a finished task reports. -/
inductive Outcome where
  /-- A call was answered with this payload. -/
  | answered (data : Fields)
  /-- A call got no response. -/
  | failed (e : CallError)
  /-- A user lookup ended: the record, if the user is known. -/
  | user (record : Option UserRecord)
  /-- A user check ended. -/
  | valid (known : Bool)
  /-- A push to a user was queued. -/
  | delivered
  /-- A push to a user could not be queued. -/
  | undelivered
  /-- An inbound frame was served. -/
  | served
  deriving Repr

/-- What a task does. -/
inductive Program where
  /-- The task is over. -/
  | finish (outcome : Outcome)
  /-- Queue a frame, waiting for room; continue with whether it went in. -/
  | send (frame : Frame) (next : Bool → Program)
  /-- Call out: register a slot, queue `frame tag`, and wait for the response until `timeout`
  after the start. -/
  | exchange (frame : Tag → Frame) (timeout : Duration) (next : Except CallError Fields → Program)
  /-- Hand a response to the call that waits for its tag. -/
  | resolve (tag : Tag) (data : Fields) (next : Program)

namespace Program

/-- Calls an endpoint of another service and waits for its response. -/
def callService (service : String) (endpoint : EndpointPath) (data : Fields) (timeout : Duration)
    (next : Except CallError Fields → Program) : Program :=
  .exchange (Frame.call service endpoint data) timeout next

/-- Asks the hub about a user; an unanswered or invalid answer means the user is unknown. -/
def lookupUser (user : Uuid) (timeout : Duration) (next : Option UserRecord → Program) :
    Program :=
  .exchange (Frame.userLookup user) timeout fun r =>
    next (match r with
      | .ok data => UserRecord.ofLookup data
      | .error _ => none)

/-- Pushes a payload to a user; continues with whether it was queued. -/
def sendToUser (user : Uuid) (data : Fields) (next : Bool → Program) : Program :=
  .send (.address user data) next

end Program

end HubService.Session
