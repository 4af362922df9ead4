import HubService.Duration

/-!
# Health events

A service reports how it is doing as a stream of events: the steps of its bootstrap, and each
attempt to reach the hub and how it ended. `HubService.Service.TransportError` says why a
connection ended; an operating-system error is shown with its description and code, as in
`Connection refused (os error 111)`.
-/

namespace HubService.Service

/-- An error reported by the operating system: its description and its code. -/
structure OsError where
  description : String
  code : Nat
  deriving DecidableEq, Repr

/-- The words for an operating-system error. -/
def OsError.message (e : OsError) : String :=
  e.description ++ " (os error " ++ toString e.code ++ ")"

/-- Why a connection to the hub ended. -/
inductive TransportError where
  /-- The hub at this address could not be reached. -/
  | connect (address : String) (source : OsError)
  /-- Reading from the hub failed. -/
  | read (message : String)
  /-- Writing to the hub failed. -/
  | write (message : String)
  /-- The hub closed the connection. -/
  | closed
  /-- Nothing is left to write to the hub. -/
  | queueClosed
  deriving DecidableEq, Repr

namespace TransportError

/-- The name of the kind of a transport error. -/
def kindName : TransportError → String
  | .connect .. => "Connect"
  | .read _ => "Read"
  | .write _ => "Write"
  | .closed => "Closed"
  | .queueClosed => "QueueClosed"

/-- The words for a transport error. -/
def message : TransportError → String
  | .connect address source => "failed to connect to hub at " ++ address ++ ": " ++ source.message
  | .read m => "failed to read from hub: " ++ m
  | .write m => "failed to write to hub: " ++ m
  | .closed => "hub closed the connection"
  | .queueClosed => "outbound queue closed"

end TransportError

/-- Something a service reports about its health. -/
inductive HealthEvent where
  | bootstrapStarting
  /-- The bootstrap ended well, for the service of this name. -/
  | bootstrapSucceeded (service : String)
  /-- The bootstrap failed, for this reason. -/
  | bootstrapFailed (message : String)
  /-- An attempt to reach the hub at this address begins. -/
  | connecting (address : String)
  /-- The hub at this address accepted the registration. -/
  | connected (address : String)
  /-- The connection ended, or never began. -/
  | disconnected (error : TransportError)
  /-- The next attempt comes after this delay. -/
  | reconnectScheduled (delay : Duration)
  deriving DecidableEq, Repr

end HubService.Service
