import HubService.Session.Program
import HubService.Session.Pending
import HubService.Session.Outbound

/-!
# Running tasks

`HubService.Session.Runtime` runs tasks on one thread against a clock that moves only when told
to. A task runs until its program finishes or must wait; a waiting task runs again only when
something wakes it, and woken tasks run in the order they were woken. Things that wake a task:

* being started;
* room in the outbound queue granted to it, or the queue closing;
* the response it waits for arriving, or its slot being taken away;
* its deadline passing;
* a tag it drew being in use.

A call's deadline is a timer. Timers are looked at only when no task can run
(`HubService.Session.Runtime.settle`): then every timer whose deadline has come *fires*, earliest
deadline first and, among equal deadlines, first started first, and wakes its task. A timer
whose deadline has already been looked at when it is set fires at once.

When a task runs, the operation at the head of its program is taken as far as it goes *before*
its timer is looked at: a call whose response is there, or whose frame now fits, makes that
progress even when its timer has fired. A call that still waits when its timer has fired gives
up: it leaves the line for room, its slot goes away, and it fails with `noResponse`. So a
sender that was granted room just before the clock moved past its deadline still queues its
frame, and gives up only when the timers are next looked at.

A call starts by registering a slot. Each run of the task draws one tag; a tag in use is put
back and the task runs again to draw the next, so the other tasks may run between two draws, as
they do on the other threads of a multi-threaded runtime. Every way a call ends – with its
response, failing, giving up, or its task dropped (`HubService.Session.Runtime.cancel`) – drops
the call, and dropping it removes the slot under its tag, whichever call holds that slot by then
(`HubService.Session.Runtime.dropCall`). A call whose slot is removed so, while it waits for its
response, learns at its next run that no response will come, and fails with `noResponse`.
-/

namespace HubService.Session

open HubService.Wire HubService.Json

/-- How far a task has got with a call at the head of its program. -/
inductive Progress where
  /-- No call under way. -/
  | idle
  /-- A call under way: its tag, its deadline, whether its frame is queued, its response if
  one came, and whether its timer has fired. -/
  | calling (tag : Tag) (deadline : Nat) (sent : Bool) (answer : Option Fields) (fired : Bool)
  deriving Repr

/-- A task: what is left of its program, how far its current call has got, and whether it was
dropped before it finished. -/
structure Task where
  program : Program
  progress : Progress := .idle
  cancelled : Bool := false

namespace Task

/-- Whether the task is over: it finished, or it was dropped. -/
def finished (t : Task) : Bool :=
  t.cancelled ||
    match t.program with
    | .finish _ => true
    | _ => false

/-- What the task reported, once it is over. -/
def outcome? (t : Task) : Option Outcome :=
  match t.program with
  | .finish o => some o
  | _ => none

/-- The deadline of the task's call, if one is under way and its timer has not fired. -/
def deadline? (t : Task) : Option Nat :=
  match t.progress with
  | .calling _ deadline _ _ fired => if fired then none else some deadline
  | .idle => none

/-- The task with its call's timer fired. -/
def fire (t : Task) : Task :=
  match t.progress with
  | .calling tag deadline sent answer _ => { t with progress := .calling tag deadline sent answer true }
  | .idle => t

end Task

/-- The tasks of a service, the clock, the pending calls, and the outbound queue. -/
structure Runtime where
  /-- The time, in milliseconds. -/
  now : Nat := 0
  /-- The time the timers were last looked at. -/
  timersAt : Nat := 0
  /-- Every task ever started, by number. -/
  tasks : Array Task := #[]
  /-- The tasks woken and not yet run, in the order they were woken. -/
  ready : List Nat := []
  pending : PendingTable := {}
  outbound : Outbound

namespace Runtime

/-- A runtime with no tasks, no pending calls and an empty outbound queue of the given capacity,
whose calls draw their tags from `fresh`. -/
def start (capacity : Nat) (fresh : Nat → Tag) : Runtime :=
  { outbound := Outbound.empty capacity, pending := { fresh } }

/-- Wakes a task: it runs after those woken before it. -/
def wake (rt : Runtime) (id : Nat) : Runtime :=
  if id ∈ rt.ready then rt else { rt with ready := rt.ready ++ [id] }

/-- Wakes several tasks in order. -/
def wakeAll (rt : Runtime) (ids : List Nat) : Runtime := ids.foldl wake rt

/-- Wakes the task granted room, if any. -/
def wakeGranted (rt : Runtime) : Option Nat → Runtime
  | some id => rt.wake id
  | none => rt

/-- Starts a task; returns its number. -/
def spawn (rt : Runtime) (p : Program) : Runtime × Nat :=
  let id := rt.tasks.size
  (({ rt with tasks := rt.tasks.push { program := p } }).wake id, id)

/-- Fills the slot under a response's tag: the slot goes, and the call it is for gets the
response and is woken. A response with no slot is dropped. -/
def resolve (rt : Runtime) (tag : Tag) (data : Fields) : Runtime :=
  match rt.pending.owner? tag with
  | some i =>
    let answered := rt.tasks.modify i fun t =>
      match t.progress with
      | .calling tag' deadline sent _ fired =>
        { t with progress := .calling tag' deadline sent (some data) fired }
      | .idle => t
    ({ rt with pending := rt.pending.remove tag, tasks := answered }).wake i
  | none => rt

/-- Task `id` drops its call under `tag`: the slot under `tag` is removed, whichever call it is
for. A call that loses its slot to another task's drop is woken, to learn that no response will
come. -/
def dropCall (rt : Runtime) (id : Nat) (tag : Tag) : Runtime :=
  let dropped := { rt with pending := rt.pending.remove tag }
  match rt.pending.owner? tag with
  | some k => if k = id then dropped else dropped.wake k
  | none => dropped

/-- Queues a frame only if there is room now; whether it was queued. -/
def tryQueue (rt : Runtime) (frame : Frame) : Runtime × Bool :=
  let (q, queued) := rt.outbound.tryOffer frame
  ({ rt with outbound := q }, queued)

/-- Takes the call of task `id` under `tag` as far as it goes: to its result, or to how far it
got. Every way it ends drops the call. -/
def pursueCall (rt : Runtime) (id : Nat) (frame : Tag → Frame) (timeout : Duration) (tag : Tag)
    (deadline : Nat) (sent : Bool) (answer : Option Fields) (fired : Bool) :
    Runtime × (Except CallError Fields ⊕ Progress) :=
  let (rt, admission) :=
    if sent then (rt, Admission.queued)
    else
      let (q, a) := rt.outbound.offer id (frame tag)
      ({ rt with outbound := q }, a)
  match admission with
  | .refused => (rt.dropCall id tag, .inl (.error .disconnected))
  | .queued =>
    match answer with
    | some data => (rt.dropCall id tag, .inl (.ok data))
    | none =>
      -- the timer fired, or the slot is gone with no response in it: none will come
      if fired || !rt.pending.slots.contains (tag, id) then
        (rt.dropCall id tag, .inl (.error (.noResponse tag timeout)))
      else (rt, .inr (.calling tag deadline true none false))
  | .waiting =>
    if fired then
      let (q, granted) := rt.outbound.withdraw id
      let rt := ({ rt with outbound := q }).wakeGranted granted
      (rt.dropCall id tag, .inl (.error (.noResponse tag timeout)))
    else (rt, .inr (.calling tag deadline false answer false))

/-- Takes a call of task `id` as far as it goes: to its result, or to how far it got. A call not
yet registered draws a tag: one that is free is kept, and the call goes on under it, with its
deadline `timeout` from now; one in use is put back, and the task runs again to draw anew. -/
def pursue (rt : Runtime) (id : Nat) (frame : Tag → Frame) (timeout : Duration) :
    Progress → Runtime × (Except CallError Fields ⊕ Progress)
  | .calling tag deadline sent answer fired =>
    rt.pursueCall id frame timeout tag deadline sent answer fired
  | .idle =>
    match rt.pending.draw id with
    | (some tag, pending) =>
      let deadline := rt.now + timeout.millis
      ({ rt with pending }).pursueCall id frame timeout tag deadline false none
        (decide (deadline ≤ rt.timersAt))
    | (none, pending) => (({ rt with pending }).wake id, .inr .idle)

/-- Runs task `id` from its program and progress until it finishes or must wait. -/
def advance (id : Nat) : Program → Progress → Runtime → Runtime × Task
  | .finish o, _, rt => (rt, { program := .finish o })
  | .resolve tag data next, _, rt => advance id next .idle (rt.resolve tag data)
  | .send frame next, p, rt =>
    let (q, admission) := rt.outbound.offer id frame
    let rt := { rt with outbound := q }
    match admission with
    | .queued => advance id (next true) .idle rt
    | .refused => advance id (next false) .idle rt
    | .waiting => (rt, { program := .send frame next, progress := p })
  | .exchange frame timeout next, p, rt =>
    match rt.pursue id frame timeout p with
    | (rt, .inl r) => advance id (next r) .idle rt
    | (rt, .inr p) => (rt, { program := .exchange frame timeout next, progress := p })

/-- Runs task `id`, unless it was dropped. -/
def runTask (rt : Runtime) (id : Nat) : Runtime :=
  match rt.tasks[id]? with
  | some t =>
    if t.cancelled then rt
    else
      let (rt, t) := advance id t.program t.progress rt
      { rt with tasks := rt.tasks.set! id t }
  | none => rt

/-- Drops task `id` wherever it stands, as dropping its future does: it never runs again. A call
it has under way is dropped with it, and a place it holds in the line for room is given up. -/
def cancel (rt : Runtime) (id : Nat) : Runtime :=
  match rt.tasks[id]? with
  | some t =>
    if t.finished then rt
    else
      let rt := match t.progress with
        | .calling tag _ _ _ _ => rt.dropCall id tag
        | .idle => rt
      let (q, granted) := rt.outbound.withdraw id
      let rt := ({ rt with outbound := q }).wakeGranted granted
      { rt with tasks := rt.tasks.set! id { t with progress := .idle, cancelled := true } }
  | none => rt

/-- The unfinished tasks whose timer is due to fire, earliest deadline first, then first
started first. -/
def due (rt : Runtime) : List Nat :=
  let late := (List.range rt.tasks.size).filterMap fun id =>
    match rt.tasks[id]? with
    | some t =>
      match t.deadline? with
      | some d => if !t.finished && d ≤ rt.now then some (d, id) else none
      | none => none
    | none => none
  (late.mergeSort fun a b => a.1 < b.1 || (a.1 == b.1 && a.2 ≤ b.2)).map (·.2)

/-- Fires the timers of these tasks, in order, waking each. -/
def fireAll (rt : Runtime) (ids : List Nat) : Runtime :=
  ids.foldl (fun rt id => ({ rt with tasks := rt.tasks.modify id Task.fire }).wake id) rt

/-- Runs woken tasks until none is left, then fires the timers that are due, and so on, for at
most `fuel` rounds. -/
def settleWith : Nat → Runtime → Runtime
  | 0, rt => rt
  | fuel + 1, rt =>
    match rt.ready with
    | id :: rest => settleWith fuel ({ rt with ready := rest }.runTask id)
    | [] =>
      match rt.due with
      | [] => { rt with timersAt := rt.now }
      | ids => settleWith fuel ({ rt.fireAll ids with timersAt := rt.now })

/-- Runs tasks until none can run. Each task runs a bounded number of times, which the fuel
covers. -/
def settle (rt : Runtime) : Runtime :=
  settleWith ((rt.tasks.size + 4) * (rt.tasks.size + 4)) rt

/-- The reader takes every frame now queued; the senders granted the freed room are woken. -/
def drain (rt : Runtime) : List Frame × Runtime :=
  let (frames, q, woken) := rt.outbound.takeAll
  (frames, ({ rt with outbound := q }).wakeAll woken)

/-- The reader goes away; the senders in line are woken to learn it. -/
def closeOutbound (rt : Runtime) : Runtime :=
  let (q, woken) := rt.outbound.close
  ({ rt with outbound := q }).wakeAll woken

/-- Moves the clock forward. -/
def tick (rt : Runtime) (d : Duration) : Runtime := { rt with now := rt.now + d.millis }

/-! ### The moves of a running service -/

/-- One move of a running service. -/
inductive Move where
  /-- A task starts. -/
  | spawn (p : Program)
  /-- The reader hands a response on. -/
  | resolve (tag : Tag) (data : Fields)
  /-- A reply is queued only if there is room. -/
  | tryQueue (frame : Frame)
  /-- A task runs. -/
  | runTask (id : Nat)
  /-- A task is dropped. -/
  | cancel (id : Nat)
  /-- The timers whose deadline has come fire, and the time is noted. -/
  | fireDue
  /-- The clock moves on. -/
  | tick (d : Duration)
  /-- The writer takes every queued frame. -/
  | drain
  /-- The writer goes away. -/
  | close
  /-- The scheduler picks the woken tasks. -/
  | schedule (ready : List Nat)

/-- Makes a move. -/
def move (rt : Runtime) : Move → Runtime
  | .spawn p => (rt.spawn p).1
  | .resolve tag data => rt.resolve tag data
  | .tryQueue frame => (rt.tryQueue frame).1
  | .runTask id => rt.runTask id
  | .cancel id => rt.cancel id
  | .fireDue => { rt.fireAll rt.due with timersAt := rt.now }
  | .tick d => rt.tick d
  | .drain => rt.drain.2
  | .close => rt.closeOutbound
  | .schedule ready => { rt with ready }

/-- Makes moves, in order. -/
def moves (rt : Runtime) (ms : List Move) : Runtime := ms.foldl move rt

end Runtime

end HubService.Session
