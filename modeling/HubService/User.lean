import HubService.Uuid
import HubService.Json.Value

/-!
# User records

The hub answers a user lookup with a payload, and `HubService.UserRecord.ofLookup` reads it
into a record only when it is a *valid* answer: `valid` is the boolean `true`, `uuid` is a
string that reads as a UUID, `name` is a string, and `created` and `last` are integer
milliseconds since the Unix epoch that fall within the years −9999 to 9999. Any other answer
means the user is unknown.

Two records are the same user when their UUIDs are equal (`HubService.UserRecord.sameUser`).
-/

namespace HubService

open HubService.Json

/-- A known user; the instants are nanoseconds since the Unix epoch. -/
structure UserRecord where
  uuid : Uuid
  name : String
  createdNanos : Int
  lastNanos : Int
  deriving DecidableEq, Repr

namespace UserRecord

/-- The first second of the year −9999, in seconds since the Unix epoch. -/
def earliestSecond : Int := -377705116800

/-- The last second of the year 9999, in seconds since the Unix epoch. -/
def latestSecond : Int := 253402300799

/-- An integer that fits 64 signed bits, from a JSON value. -/
def signedInteger? : Value → Option Int
  | .number (.posInt n) => if n.toNat < Nat.pow 2 63 then some n.toNat else none
  | .number (.negInt n) => some n.toInt
  | _ => none

/-- An instant given in milliseconds, as nanoseconds, if it falls within the supported years. -/
def instant? (v : Value) : Option Int := do
  let millis ← signedInteger? v
  let nanos := millis * 1000000
  let second := nanos / 1000000000
  if earliestSecond ≤ second ∧ second ≤ latestSecond then some nanos else none

/-- Reads a lookup answer into a record, if it describes a valid user. -/
def ofLookup (data : Fields) : Option UserRecord := do
  if ((data.get? "valid").bind Value.asBool?) ≠ some true then none
  let uuid ← ((data.get? "uuid").bind Value.asString?).bind fun s => (Uuid.parse s).toOption
  let name ← (data.get? "name").bind Value.asString?
  let created ← (data.get? "created").bind instant?
  let last ← (data.get? "last").bind instant?
  pure ⟨uuid, name, created, last⟩

/-- Whether two records are of the same user. -/
def sameUser (a b : UserRecord) : Bool := a.uuid == b.uuid

end UserRecord

end HubService
