import HubService.Service.Reader

/-!
# The connection loop

A running service has one outbound queue, one reader and one writer for its whole life, and
reaches the hub over one connection after another (`HubService.Service.Link`):

* it reports that it is connecting and tries to reach the hub; an attempt that fails ends there;
* on a connection that is made, the registration under the service's name is written first,
  and the hub is reported connected;
* after that the writer takes the frames of the outbound queue one at a time, first queued
  first, and writes each; it waits while the queue is empty. Meanwhile the reader takes the
  frames the hub sends (`HubService.Service.Reader`);
* the connection ends when reading or writing fails or the hub closes it. A frame the writer
  has taken and not finished writing is lost with it; the frames still queued wait for the next
  connection;
* after a connection ends, or an attempt fails, the loop reports why, waits the reconnect delay,
  and tries again.

Frames go into the queue all the while, connected or not: the tasks of the runtime send them,
and the reader queues its refusals and dispatch tasks their replies. What the hub sees is the
frames written on each connection, in order (`HubService.Service.Link.connections`).

A loop that never reaches the hub reports its failed attempts one after the other
(`HubService.Service.Link.reports_unreachable`).
-/

namespace HubService.Service

open HubService.Wire HubService.Session

/-- Where the connection loop is. -/
inductive LinkPhase where
  /-- Trying to reach the hub. -/
  | connecting
  /-- Connected, writing the registration. -/
  | registering
  /-- Registered: the frames written on this connection so far, and the frame the writer is
  writing, unless it waits for the queue. -/
  | serving (written : List Frame) (writing : Option Frame)
  /-- Waiting the reconnect delay. -/
  | resting

/-- Whether the loop is registered on an open connection. -/
def LinkPhase.registered : LinkPhase → Bool
  | .serving .. => true
  | _ => false

/-- The frames written on the open connection, if one is open. -/
def LinkPhase.socket : LinkPhase → List (List Frame)
  | .registering => [[]]
  | .serving written _ => [written]
  | .connecting | .resting => []

/-- The connection loop of a service: its settings, its reader (with the runtime whose tasks
fill the outbound queue), where the loop is, the frames written on each connection that has
ended, oldest first, and what it has reported about its health. -/
structure Link where
  settings : ConnectionSettings
  reader : Reader
  phase : LinkPhase := .connecting
  ended : List (List Frame) := []
  reports : List HealthEvent

/-- One thing that happens to a running service's connection. -/
inductive Link.Event where
  /-- Something happens on the reading side: the reader takes a frame from the hub (only while
  registered), or a dispatch task or another task of the runtime makes progress. -/
  | reader (e : Reader.Event)
  /-- The hub cannot be reached. -/
  | unreachable (source : OsError)
  /-- A connection to the hub is made. -/
  | connected
  /-- The registration is written. -/
  | registered
  /-- The writer takes the first frame of the queue. -/
  | take
  /-- The writer finishes writing its frame. -/
  | wrote
  /-- The connection fails: reading or writing fails, or the hub closes it. -/
  | fail (error : TransportError)
  /-- The reconnect delay has passed. -/
  | wake

/-- Whether the event is a frame read from the hub. -/
def Reader.Event.fromHub : Reader.Event → Bool
  | .read _ => true
  | _ => false

namespace Link

/-- The connection loop of a service with these settings, endpoints and handlers' timeout,
before its first attempt; `rt` holds the tasks started and the frames queued before. -/
def start (s : ConnectionSettings) (registry : HubService.Registry.EndpointRegistry Handler)
    (handleTimeout : Duration) (rt : Runtime) : Link :=
  { settings := s, reader := Reader.start s registry handleTimeout rt,
    reports := [.connecting s.address] }

/-- The runtime of the service: its tasks and the outbound queue. -/
def runtime (l : Link) : Runtime := l.reader.runtime

/-- The frames written on each connection made, oldest first, the open one last. -/
def connections (l : Link) : List (List Frame) := l.ended ++ l.phase.socket

/-- The connection ends, or never begins, for this reason: the loop reports it and rests. -/
def down (l : Link) (error : TransportError) : Link :=
  { l with
    phase := .resting,
    ended := l.ended ++ l.phase.socket,
    reports := l.reports ++ [.disconnected error, .reconnectScheduled l.settings.reconnectDelay] }

/-- The writer takes the first queued frame, if the queue has one; the sender granted the
freed room is woken. -/
def take (l : Link) (written : List Frame) : Link :=
  match l.runtime.outbound.takeOne with
  | some (frame, q, woken) =>
    { l with
      reader := { l.reader with runtime := ({ l.runtime with outbound := q }).wakeGranted woken },
      phase := .serving written (some frame) }
  | none => l

/-- Makes one event happen. -/
def act (l : Link) : Event → Link
  | .reader e =>
    -- frames are read from the hub only on a registered connection
    if e.fromHub && !l.phase.registered then l else { l with reader := l.reader.act e }
  | .unreachable source =>
    match l.phase with
    | .connecting => l.down (.connect l.settings.address source)
    | _ => l
  | .connected =>
    match l.phase with
    | .connecting => { l with phase := .registering }
    | _ => l
  | .registered =>
    match l.phase with
    | .registering =>
      { l with
        phase := .serving [.register l.settings.serviceName] none,
        reports := l.reports ++ [.connected l.settings.address] }
    | _ => l
  | .take =>
    match l.phase with
    | .serving written none => l.take written
    | _ => l
  | .wrote =>
    match l.phase with
    | .serving written (some frame) => { l with phase := .serving (written ++ [frame]) none }
    | _ => l
  | .fail error =>
    match l.phase with
    | .registering | .serving .. => l.down error
    | _ => l
  | .wake =>
    match l.phase with
    | .resting =>
      { l with phase := .connecting, reports := l.reports ++ [.connecting l.settings.address] }
    | _ => l

/-- Makes events happen, in order. -/
def run (l : Link) (es : List Event) : Link := es.foldl act l

theorem run_append (l : Link) (es es' : List Event) : l.run (es ++ es') = (l.run es).run es' :=
  List.foldl_append

/-- One attempt that cannot reach the hub: the loop reports why and that it waits, and once the
delay has passed, that it is connecting again. -/
theorem run_unreachable_wake (l : Link) (hp : l.phase = .connecting) (e : OsError) :
    (l.run [.unreachable e, .wake]).phase = .connecting ∧
      (l.run [.unreachable e, .wake]).settings = l.settings ∧
      (l.run [.unreachable e, .wake]).reports =
        l.reports ++ ((failedAttempt l.settings e).tail ++ [.connecting l.settings.address]) := by
  simp [run, act, hp, down, failedAttempt]

/-- Attempt after attempt that cannot reach the hub, the loop reports the same three events. -/
theorem reports_unreachable_run (l : Link) (hp : l.phase = .connecting) (e : OsError) (n : Nat) :
    (l.run (List.replicate n [.unreachable e, .wake]).flatten).reports =
      l.reports ++ (List.replicate n
        ((failedAttempt l.settings e).tail ++ [.connecting l.settings.address])).flatten := by
  induction n generalizing l with
  | zero => simp [run]
  | succ n ih =>
    obtain ⟨hp', hs, hr⟩ := l.run_unreachable_wake hp e
    rw [List.replicate_succ, List.flatten_cons, run_append, ih _ hp', hs, hr, List.replicate_succ,
      List.flatten_cons, List.append_assoc]

/-- **A loop that never reaches the hub reports its failed attempts in turn**
(`HubService.Service.unreachableEvents`), and that it is connecting again. -/
theorem reports_unreachable (s : ConnectionSettings)
    (registry : HubService.Registry.EndpointRegistry Handler) (handleTimeout : Duration)
    (rt : Runtime) (e : OsError) (n : Nat) :
    ((start s registry handleTimeout rt).run
        (List.replicate n [.unreachable e, .wake]).flatten).reports =
      unreachableEvents s e n ++ [.connecting s.address] := by
  rw [reports_unreachable_run _ rfl]
  -- the first report of each attempt is the last of the one before
  show [HealthEvent.connecting s.address] ++
      (List.replicate n
        ((failedAttempt s e).tail ++ [HealthEvent.connecting s.address])).flatten = _
  induction n with
  | zero => rfl
  | succ n ih =>
    simp only [unreachableEvents, List.replicate_succ', List.flatten_append, List.flatten_cons,
      List.flatten_nil, List.append_nil] at ih ⊢
    rw [← List.append_assoc, ih]
    simp [failedAttempt]

end Link

end HubService.Service
