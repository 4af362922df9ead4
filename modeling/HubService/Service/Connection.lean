import HubService.Service.Health
import HubService.Config.Basic

/-!
# Reaching the hub

A running service tries to reach its hub over and over: it reports that it is connecting, and
when the connection ends (or never begins) it reports why, waits the reconnect delay, and
tries again, for as long as it runs.

A connection that is made registers the service under its name first of all. Requests that
arrive on it are served on tasks, at most `max(concurrency, 1)` at a time
(`HubService.Service.ConnectionSettings.dispatchSlots`), and at most
`max(backlog, max(concurrency, 1))` are admitted to wait for that
(`HubService.Service.ConnectionSettings.admissionSlots`); a request beyond those is refused at
once. Settings read from a configuration have a backlog of 16 per unit of concurrency, or as many
as a machine word counts if that is fewer.

Admission slots and concurrency are held as semaphore permits, of which there can be at most
`2^61 - 1`; a service whose admission slots pass that stops as soon as it starts
(`HubService.Service.ConnectionSettings.startable`).

When no attempt can reach the hub, the events are the same three, attempt after attempt
(`HubService.Service.unreachableEvents`).
-/

namespace HubService.Service

open HubService.Config

/-- Inbound requests admitted per unit of concurrency. -/
def backlogPerSlot : Nat := 16

/-- The largest count a machine word holds. -/
def usizeMax : Nat := Nat.pow 2 64 - 1

/-- The product of two counts, or the largest count a machine word holds if the product does not
fit: multiplication that saturates instead of wrapping. -/
def saturatingMul (a b : Nat) : Nat := min (a * b) usizeMax

/-- What a connection needs: the hub's address, the name to register, the delay before
reconnecting, how many requests are served at once, and how many are admitted at once, served
or waiting to be. -/
structure ConnectionSettings where
  address : String
  serviceName : String
  reconnectDelay : Duration
  concurrency : Nat
  backlog : Nat
  deriving DecidableEq, Repr

/-- The connection settings of a configuration. -/
def ConnectionSettings.ofConfig (c : Config) : ConnectionSettings :=
  { address := c.hubAddress, serviceName := c.serviceName, reconnectDelay := c.reconnectDelay,
    concurrency := c.concurrency, backlog := saturatingMul c.concurrency backlogPerSlot }

/-- How many requests are served at once: at least one. -/
def ConnectionSettings.dispatchSlots (s : ConnectionSettings) : Nat := max s.concurrency 1

/-- How many requests are admitted at once, served or waiting to be: never fewer than are served. -/
def ConnectionSettings.admissionSlots (s : ConnectionSettings) : Nat :=
  max s.backlog s.dispatchSlots

/-- The most permits a semaphore can hold. -/
def permitLimit : Nat := Nat.pow 2 61 - 1

/-- Whether a service with these settings can start: its admission slots, which are at least its
concurrency, fit in a semaphore. -/
def ConnectionSettings.startable (s : ConnectionSettings) : Bool :=
  s.admissionSlots ≤ permitLimit

/-- The events of one attempt that cannot reach the hub. -/
def failedAttempt (s : ConnectionSettings) (e : OsError) : List HealthEvent :=
  [.connecting s.address, .disconnected (.connect s.address e), .reconnectScheduled s.reconnectDelay]

/-- The events of `attempts` attempts, none of which can reach the hub. -/
def unreachableEvents (s : ConnectionSettings) (e : OsError) (attempts : Nat) : List HealthEvent :=
  (List.replicate attempts (failedAttempt s e)).flatten

/-- Every attempt reports three events. -/
theorem unreachableEvents_length (s : ConnectionSettings) (e : OsError) (n : Nat) :
    (unreachableEvents s e n).length = 3 * n := by
  induction n with
  | zero => rfl
  | succ n ih =>
    simp only [unreachableEvents, List.replicate_succ, List.flatten_cons, List.length_append] at ih ⊢
    rw [ih]
    simp [failedAttempt]
    omega

end HubService.Service
