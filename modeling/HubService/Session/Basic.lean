import HubService.Session.Runtime
import HubService.Session.Serve

/-!
# A service session

A session is a running service without its network: inbound frames are handed to it one at a
time, the operations of its handle are started by hand, the clock moves only when told to, and
whatever it queues for the hub is taken out after every step.

Each `HubService.Session.Step` is one thing that happens from outside. After it, the tasks run
until none can (`HubService.Session.Runtime.settle`), and then, unless taking is paused or the
reader is gone, every frame in the outbound queue is taken out. A frame is taken only once it
is *in* the queue: a sender granted room by the taking puts its frame in when it next runs, so
its frame comes out after the next step.

An inbound frame is classified against the calls pending at that moment, then served on a task
of its own (`HubService.Session.serve`), or refused at once (`HubService.Session.refuse`), in
which case its reply is queued only if there is room, and dropped, as the report says, if not.
-/

namespace HubService.Session

open HubService.Wire HubService.Json HubService.Dispatch HubService.Registry

/-- One thing that happens to a session from outside. -/
inductive Step where
  /-- A frame arrives from the hub; `refuse` serves it as refused. -/
  | inbound (frame : ByteArray) (refuse : Bool)
  /-- Calls an endpoint of another service, within `timeout` or the handle's own. -/
  | call (service : String) (endpoint : EndpointPath) (data : Fields) (timeout : Option Duration)
  /-- Looks a user up. -/
  | fetchUser (user : Uuid)
  /-- Checks that a user is known. -/
  | isValidUser (user : Uuid)
  /-- Pushes a payload to a user. -/
  | sendToUser (user : Uuid) (data : Fields)
  /-- Moves the clock forward. -/
  | advance (by_ : Duration)
  /-- Looks at how an operation started earlier stands, by its number. -/
  | result (call : Nat)
  /-- The reader of the outbound queue goes away. -/
  | close
  /-- Stops taking frames out after each step. -/
  | pauseDrain
  /-- Takes frames out after each step again. -/
  | resumeDrain

/-- How an operation stands. -/
inductive Standing where
  /-- Not over yet. -/
  | running
  /-- Over, with this outcome. -/
  | done (o : Outcome)
  deriving Repr

/-- What a step shows: the classification of an inbound frame, whether the reply of a refused
frame found no room, the number of an operation it started, how an operation stands, the frames
taken out after it, and the number of pending calls. -/
structure Report where
  classification : Option Classification := none
  dropped : Bool := false
  call : Option Nat := none
  standing : Option Standing := none
  out : List Frame := []
  pending : Nat := 0

end HubService.Session

namespace HubService

open HubService.Registry HubService.Session in
/-- A session: the registry, the handle's call timeout, the tasks, the operations started by
hand (by number, their tasks), and whether frames are taken out after each step. -/
structure Session where
  registry : EndpointRegistry Handler
  callTimeout : Duration
  runtime : Runtime
  calls : Array Nat := #[]
  draining : Bool := true

end HubService

namespace HubService.Session

open HubService.Wire HubService.Json HubService.Dispatch HubService.Registry

/-- A session with no tasks and an outbound queue of the given capacity. -/
def start (registry : EndpointRegistry Handler) (callTimeout : Duration) (capacity : Nat) :
    Session :=
  { registry, callTimeout, runtime := Runtime.start capacity Tag.issued }

/-- Starts an operation of the handle on a task of its own. -/
def begin (s : Session) (p : Program) : Session × Nat :=
  let (rt, id) := s.runtime.spawn p
  ({ s with runtime := rt, calls := s.calls.push id }, s.calls.size)

/-- How the operation with this number stands. -/
def standing (s : Session) (call : Nat) : Standing :=
  match s.calls[call]? >>= fun id => s.runtime.tasks[id]? with
  | some t =>
    match t.outcome? with
    | some o => .done o
    | none => .running
  | none => .running

/-- Does what a step does, before the tasks run. -/
def act (s : Session) : Step → Session × Report
  | .inbound frame refuseIt =>
    let c := classify s.runtime.pending.contains frame
    if refuseIt then
      let (rt, queued) := match refuse c with
        | .resolve tag data => (s.runtime.resolve tag data, true)
        | .reply (some f) => s.runtime.tryQueue f
        | .reply none => (s.runtime, true)
      ({ s with runtime := rt }, { classification := some c, dropped := !queued })
    else
      let (rt, _) := s.runtime.spawn (serve s.registry s.callTimeout c)
      ({ s with runtime := rt }, { classification := some c })
  | .call service endpoint data timeout =>
    let (s, n) := s.begin (Program.callService service endpoint data (timeout.getD s.callTimeout)
      fun r => .finish (match r with
        | .ok payload => .answered payload
        | .error e => .failed e))
    (s, { call := some n })
  | .fetchUser user =>
    let (s, n) := s.begin (Program.lookupUser user s.callTimeout fun r => .finish (.user r))
    (s, { call := some n })
  | .isValidUser user =>
    let (s, n) := s.begin (Program.lookupUser user s.callTimeout fun r => .finish (.valid r.isSome))
    (s, { call := some n })
  | .sendToUser user data =>
    let (s, n) := s.begin (Program.sendToUser user data fun queued =>
      .finish (if queued then .delivered else .undelivered))
    (s, { call := some n })
  | .advance d => ({ s with runtime := s.runtime.tick d }, {})
  | .result n => (s, { standing := some (s.standing n) })
  | .close => ({ s with runtime := s.runtime.closeOutbound }, {})
  | .pauseDrain => ({ s with draining := false }, {})
  | .resumeDrain => ({ s with draining := true }, {})

/-- One step: what it does, then the tasks run, then the queued frames are taken out. -/
def step (s : Session) (st : Step) : Session × Report :=
  let (s, report) := s.act st
  let rt := s.runtime.settle
  let (out, rt) := if s.draining && !rt.outbound.closed then rt.drain else ([], rt)
  ({ s with runtime := rt }, { report with out, pending := rt.pending.size })

/-- Runs steps in order; the reports of each. -/
def run (s : Session) : List Step → Session × List Report
  | [] => (s, [])
  | st :: rest =>
    let (s, r) := s.step st
    let (s, rs) := run s rest
    (s, r :: rs)

end HubService.Session
