import HubService.User
import Mathlib

/-!
# Reading a user lookup

The hub answers a lookup of a user with a payload, and `HubService.UserRecord.ofLookup` reads a
record from it. This file says exactly which payloads give a record, and which record
(`HubService.UserRecord.ofLookup_eq_some_iff`):

* `valid` is the boolean `true`;
* `uuid` is a string that reads as a UUID, and the record's UUID is what it reads as;
* `name` is a string, and it is the record's name;
* `created` and `last` are integers that a signed 64-bit integer holds
  (`HubService.UserRecord.IsSigned64`: a double such as `1.0` is none, nor is an integer above
  `2^63 - 1`), counting milliseconds since the epoch within the years −9999 to 9999
  (`HubService.UserRecord.MillisAt`), and the record holds each as nanoseconds, a million times
  as many.

## Where the years end

The years are checked on whole seconds: the nanoseconds are rounded down to the second and
compared with the first second of −9999 and the last second of 9999. In milliseconds that is the
range from `HubService.UserRecord.earliestMilli` to `HubService.UserRecord.latestMilli`, both
included (`HubService.UserRecord.seconds_in_range_iff`): the last millisecond of 9999 is in,
since rounding down keeps it in the last second, and the millisecond before −9999 is out, since
rounding down takes it to the second before. The scaling itself loses nothing: the nanoseconds
of every count a signed 64-bit integer holds fit the 128 bits they are computed in
(`HubService.UserRecord.nanos_fit_int128`).
-/

namespace HubService.UserRecord

open HubService.Json

/-- The first millisecond of the year −9999, in milliseconds since the Unix epoch. -/
def earliestMilli : Int := -377705116800000

/-- The last millisecond of the year 9999, in milliseconds since the Unix epoch. -/
def latestMilli : Int := 253402300799999

/-- `v` is a JSON integer whose value as a signed 64-bit integer is `m`: a non-negative integer
below `2^63`, or a negative one. -/
def IsSigned64 (v : Value) (m : Int) : Prop :=
  (∃ n : UInt64, v = .number (.posInt n) ∧ n.toNat < 2 ^ 63 ∧ (n.toNat : Int) = m) ∨
    ∃ n : Int64, v = .number (.negInt n) ∧ n.toInt = m

/-- The field `key` of a payload is an instant within the supported years, `m` milliseconds after
the epoch. -/
def MillisAt (data : Fields) (key : String) (m : Int) : Prop :=
  ∃ v, data.get? key = some v ∧ IsSigned64 v m ∧ earliestMilli ≤ m ∧ m ≤ latestMilli

/-! ### Counts and instants -/

theorem signedInteger?_eq_some_iff {v : Value} {m : Int} :
    signedInteger? v = some m ↔ IsSigned64 v m := by
  rcases v with _ | _ | (n | n | bits) | _ | _ | _ <;> simp [signedInteger?, IsSigned64]

/-- A count the lookup reads is one a signed 64-bit integer holds. -/
theorem signedInteger?_bounds {v : Value} {m : Int} (h : signedInteger? v = some m) :
    -2 ^ 63 ≤ m ∧ m < 2 ^ 63 := by
  rcases signedInteger?_eq_some_iff.mp h with ⟨n, -, hn, rfl⟩ | ⟨n, -, rfl⟩
  · constructor <;> omega
  · exact ⟨n.le_toInt, n.toInt_lt⟩

/-- **Scaling to nanoseconds is exact**: the nanoseconds of every count the lookup reads fit the
128 signed bits they are computed in. -/
theorem nanos_fit_int128 {v : Value} {m : Int} (h : signedInteger? v = some m) :
    -2 ^ 127 ≤ m * 1000000 ∧ m * 1000000 < 2 ^ 127 := by
  obtain ⟨hlo, hhi⟩ := signedInteger?_bounds h
  constructor <;> omega

/-- **The check of the years, in milliseconds**: `m` milliseconds, in nanoseconds rounded down to
the second, fall within the supported seconds exactly when `m` falls within the supported
milliseconds. -/
theorem seconds_in_range_iff (m : Int) :
    (earliestSecond ≤ m * 1000000 / 1000000000 ∧ m * 1000000 / 1000000000 ≤ latestSecond) ↔
      (earliestMilli ≤ m ∧ m ≤ latestMilli) := by
  simp only [earliestSecond, latestSecond, earliestMilli, latestMilli]
  omega

/-- **An instant is read exactly from a signed 64-bit count of milliseconds within the supported
years**, and is that count in nanoseconds. -/
theorem instant?_eq_some_iff {v : Value} {n : Int} :
    instant? v = some n ↔
      ∃ m, IsSigned64 v m ∧ earliestMilli ≤ m ∧ m ≤ latestMilli ∧ n = m * 1000000 := by
  simp only [instant?, Option.bind_eq_bind, Option.bind_eq_some_iff, signedInteger?_eq_some_iff,
    seconds_in_range_iff, Option.ite_none_right_eq_some, Option.some.injEq]
  refine exists_congr fun m => ⟨?_, ?_⟩
  · rintro ⟨hv, ⟨hlo, hhi⟩, rfl⟩
    exact ⟨hv, hlo, hhi, rfl⟩
  · rintro ⟨hv, hlo, hhi, rfl⟩
    exact ⟨hv, ⟨hlo, hhi⟩, rfl⟩

-- the last millisecond of 9999 is read, the next one is not
example : instant? (.number (.posInt 253402300799999)) = some 253402300799999000000 ∧
    instant? (.number (.posInt 253402300800000)) = none := by
  decide

-- the first millisecond of −9999 is read, the one before it is not
example : instant? (.number (.negInt (-377705116800000))) = some (-377705116800000000000) ∧
    instant? (.number (.negInt (-377705116800001))) = none := by
  decide

/-! ### The fields of a lookup -/

section Fields

variable {data : Fields} {key : String}

theorem bind_asBool?_eq_some_iff {b : Bool} :
    (data.get? key).bind Value.asBool? = some b ↔ data.get? key = some (.bool b) := by
  rcases data.get? key with _ | v
  · simp
  · cases v <;> simp [Value.asBool?]

theorem bind_asString?_eq_some_iff {s : String} :
    (data.get? key).bind Value.asString? = some s ↔ data.get? key = some (.string s) := by
  rcases data.get? key with _ | v
  · simp
  · cases v <;> simp [Value.asString?]

theorem bind_instant?_eq_some_iff {n : Int} :
    (data.get? key).bind instant? = some n ↔ ∃ m, MillisAt data key m ∧ n = m * 1000000 := by
  simp only [Option.bind_eq_some_iff, instant?_eq_some_iff, MillisAt]
  constructor
  · rintro ⟨v, hv, m, hm, hlo, hhi, rfl⟩
    exact ⟨m, ⟨v, hv, hm, hlo, hhi⟩, rfl⟩
  · rintro ⟨m, ⟨v, hv, hm, hlo, hhi⟩, rfl⟩
    exact ⟨v, hv, m, hm, hlo, hhi, rfl⟩

/-- The UUID of a lookup is read from a string that reads as one. -/
theorem uuidOf_eq_some_iff {u : Uuid} :
    (((data.get? "uuid").bind Value.asString?).bind fun s => (Uuid.parse s).toOption) = some u ↔
      ∃ text, data.get? "uuid" = some (.string text) ∧ Uuid.parse text = .ok u := by
  rw [Option.bind_eq_some_iff]
  refine exists_congr fun text => and_congr bind_asString?_eq_some_iff ?_
  cases Uuid.parse text <;> simp [Except.toOption]

end Fields

/-- **A lookup gives a record exactly when it is a valid answer with every field in shape**, and
then the record is the answer's: its UUID, its name, and its two instants in nanoseconds. -/
theorem ofLookup_eq_some_iff {data : Fields} {r : UserRecord} :
    ofLookup data = some r ↔
      data.get? "valid" = some (.bool true) ∧
        (∃ text, data.get? "uuid" = some (.string text) ∧ Uuid.parse text = .ok r.uuid) ∧
        data.get? "name" = some (.string r.name) ∧
        (∃ m, MillisAt data "created" m ∧ r.createdNanos = m * 1000000) ∧
        (∃ m, MillisAt data "last" m ∧ r.lastNanos = m * 1000000) := by
  rw [← bind_asBool?_eq_some_iff, ← uuidOf_eq_some_iff, ← bind_asString?_eq_some_iff,
    ← bind_instant?_eq_some_iff, ← bind_instant?_eq_some_iff, ofLookup]
  -- what is left is how the record is put together from the five fields as read
  generalize (data.get? "valid").bind Value.asBool? = valid
  generalize ((data.get? "uuid").bind Value.asString?).bind (fun s => (Uuid.parse s).toOption) = uuid
  generalize (data.get? "name").bind Value.asString? = name
  generalize (data.get? "created").bind instant? = created
  generalize (data.get? "last").bind instant? = last
  by_cases hv : valid = some true
  · rcases r with ⟨u, n, c, l⟩
    simp [hv, Option.bind_eq_some_iff]
  · simp [hv]

end HubService.UserRecord
