import HubService.Service.Connection
import HubService.Session.Basic

/-!
# The reader and its dispatch tasks

The reader of a connection takes the inbound frames one at a time, each classified against the
calls pending at that moment (`HubService.Service.Reader.read`):

* a response is handed to its call at once, by the reader itself;
* any other frame takes an *admission* and is served on a dispatch task of its own; with no
  admission free it is refused at once (`HubService.Service.refuseNow`), its reply queued only if
  there is room.

The reader never waits: it only tries to take an admission, and it drops a refusal's reply when
the queue has no room. A dispatch task holds its admission until it ends. It serves its frame
only while it holds a dispatch *permit*: when it first runs it takes one if one is free, and
otherwise waits in line (`HubService.Service.Reader.poll`); a task whose frame is served ends,
gives its admission back, and hands its permit to the first task in line
(`HubService.Service.Reader.finish`). The frame is served by the program
`HubService.Session.serve` on a task of the runtime, which also sends the reply.

A connection starts with `admissionSlots` admissions and `dispatchSlots` permits
(`HubService.Service.ConnectionSettings`). Admissions and permits belong to the connection, not
to one socket: dispatch tasks outlive the reader that spawned them.
-/

namespace HubService.Service

open HubService.Wire HubService.Json HubService.Dispatch HubService.Registry HubService.Session

/-- How far a dispatch task has got. -/
inductive DispatchStage where
  /-- Spawned, and not yet run. -/
  | spawned
  /-- Waiting in line for a permit. -/
  | waiting
  /-- Holding a permit, serving its frame on the runtime task with this number. -/
  | serving (task : Nat)
  /-- Over: its permit and its admission are given back. -/
  | ended
  deriving DecidableEq, Repr

/-- Whether a dispatch task holds a permit. -/
def DispatchStage.holdsPermit : DispatchStage → Bool
  | .serving _ => true
  | _ => false

/-- A dispatch task: the frame it serves, classified, and how far it has got. -/
structure DispatchTask where
  work : Classification
  stage : DispatchStage := .spawned

/-- The reading side of a connection: the endpoints and the handlers' timeout, the runtime with
its pending calls and outbound queue, the admissions and permits still free, the dispatch tasks
waiting for a permit, first first, and every dispatch task spawned, by number. -/
structure Reader where
  registry : EndpointRegistry Handler
  handleTimeout : Duration
  runtime : Runtime
  admissions : Nat
  permits : Nat
  line : List Nat := []
  dispatches : Array DispatchTask := #[]

/-- What the reader did with a frame. -/
inductive Handling where
  /-- It handed a response to its call. -/
  | resolved
  /-- It admitted the frame, to be served by the dispatch task with this number. -/
  | admitted (task : Nat)
  /-- It refused the frame; whether a reply went into the queue. -/
  | refused (queued : Bool)
  deriving DecidableEq, Repr

/-- Refuses a classified frame at once: a response still goes to its call, and a reply is
queued only if there is room now. Returns whether a reply was queued. -/
def refuseNow (rt : Runtime) (c : Classification) : Runtime × Bool :=
  match refuse c with
  | .resolve tag data => (rt.resolve tag data, false)
  | .reply (some f) => rt.tryQueue f
  | .reply none => (rt, false)

namespace Reader

/-- The reader of a connection with these settings, before any frame. -/
def start (s : ConnectionSettings) (registry : EndpointRegistry Handler) (handleTimeout : Duration)
    (rt : Runtime) : Reader :=
  { registry, handleTimeout, runtime := rt, admissions := s.admissionSlots,
    permits := s.dispatchSlots }

/-- The reader takes one inbound frame. -/
def read (r : Reader) (bytes : ByteArray) : Reader × Handling :=
  match classify r.runtime.pending.contains bytes with
  | .response tag data => ({ r with runtime := r.runtime.resolve tag data }, .resolved)
  | c =>
    match r.admissions with
    | a + 1 =>
      ({ r with admissions := a, dispatches := r.dispatches.push { work := c } },
        .admitted r.dispatches.size)
    | 0 =>
      let (rt, queued) := refuseNow r.runtime c
      ({ r with runtime := rt }, .refused queued)

/-- Dispatch task `k`, which holds a permit, starts serving its frame on a new runtime task. -/
def serveOn (r : Reader) (k : Nat) (d : DispatchTask) : Reader :=
  let (rt, id) := r.runtime.spawn (serve r.registry r.handleTimeout d.work)
  { r with runtime := rt, dispatches := r.dispatches.set! k { d with stage := .serving id } }

/-- Dispatch task `k` runs for the first time: it takes a free permit and serves its frame, or
waits in line for one. -/
def poll (r : Reader) (k : Nat) : Reader :=
  match r.dispatches[k]? with
  | some d =>
    match d.stage with
    | .spawned =>
      match r.permits with
      | p + 1 => ({ r with permits := p }).serveOn k d
      | 0 =>
        { r with line := r.line ++ [k],
                 dispatches := r.dispatches.set! k { d with stage := .waiting } }
    | _ => r
  | none => r

/-- A freed permit goes to the first task in line, which starts serving, or is kept free. -/
def releasePermit (r : Reader) : Reader :=
  match r.line with
  | k :: rest =>
    match r.dispatches[k]? with
    | some d => ({ r with line := rest }).serveOn k d
    | none => { r with line := rest, permits := r.permits + 1 }
  | [] => { r with permits := r.permits + 1 }

/-- Dispatch task `k` ends once the program serving its frame is over: it gives back its
admission and its permit. -/
def finish (r : Reader) (k : Nat) : Reader :=
  match r.dispatches[k]? with
  | some d =>
    match d.stage with
    | .serving id =>
      if (r.runtime.tasks[id]?.map Task.finished) = some true then
        ({ r with admissions := r.admissions + 1,
                  dispatches := r.dispatches.set! k { d with stage := .ended } }).releasePermit
      else r
    | _ => r
  | none => r

/-- One thing that happens to the reading side of a connection. -/
inductive Event where
  /-- An inbound frame arrives and the reader takes it. -/
  | read (bytes : ByteArray)
  /-- A dispatch task runs for the first time. -/
  | poll (task : Nat)
  /-- A dispatch task whose frame is served ends. -/
  | finish (task : Nat)
  /-- The runtime makes a move: tasks run, the clock moves, the queue is drained. -/
  | world (m : Runtime.Move)

/-- Makes one event happen. -/
def act (r : Reader) : Event → Reader
  | .read bytes => (r.read bytes).1
  | .poll k => r.poll k
  | .finish k => r.finish k
  | .world m => { r with runtime := r.runtime.move m }

/-- Makes events happen, in order. -/
def run (r : Reader) (es : List Event) : Reader := es.foldl act r

/-- The dispatch tasks not yet ended. -/
def live (r : Reader) : Nat := r.dispatches.toList.countP fun d => d.stage != .ended

/-- The dispatch tasks holding a permit. -/
def holding (r : Reader) : Nat := r.dispatches.toList.countP fun d => d.stage.holdsPermit

end Reader

end HubService.Service
