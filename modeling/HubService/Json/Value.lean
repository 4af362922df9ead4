/-!
# JSON values

The payloads that travel between the hub and a service are JSON objects. This file fixes what
a value *is* for the rest of the library:

* `HubService.Json.Number` keeps the three classes a reader tells apart – a non-negative
  integer of 64 bits, a negative integer of 64 bits, and a double – because an endpoint's
  declared parameter kinds distinguish `integer` from `float`;
* a double is kept by its IEEE-754 bits, so that values have decidable equality and the
  printer can work from the bits in exact arithmetic;
* an object is a list of fields **sorted by key with no key twice**: the order in which
  objects are written is the order of their keys, and a later duplicate replaces an earlier
  one (`HubService.Json.Fields.insert`).
-/

namespace HubService.Json

/-- A number as a reader classifies it. -/
inductive Number where
  /-- An integer in `0 ≤ n < 2^64`. -/
  | posInt (n : UInt64)
  /-- A negative integer in `-2^63 ≤ n < 0`. -/
  | negInt (n : Int64)
  /-- A double, given by its IEEE-754 bits. -/
  | float (bits : UInt64)
  deriving DecidableEq, Repr, Inhabited

/-- A JSON value; an object's fields are sorted by key, each key once. -/
inductive Value where
  | null
  | bool (b : Bool)
  | number (n : Number)
  | string (s : String)
  | array (items : List Value)
  | object (fields : List (String × Value))
  deriving Repr, Inhabited

/-- The fields of an object, sorted by key, each key once. -/
abbrev Fields := List (String × Value)

namespace Fields

/-- Sets `key` to `value`: a field already there is replaced, else the field goes where its key
sorts. -/
def insert (key : String) (value : Value) : Fields → Fields
  | [] => [(key, value)]
  | (k, v) :: rest =>
    if key = k then (key, value) :: rest
    else if key < k then (key, value) :: (k, v) :: rest
    else (k, v) :: insert key value rest

/-- The value under `key`, if the object has that field. -/
def get? (key : String) : Fields → Option Value
  | [] => none
  | (k, v) :: rest => if key = k then some v else get? key rest

/-- The keys, in the order they are written. -/
def keys (fields : Fields) : List String := fields.map Prod.fst

/-- Builds an object from fields in any order; of two fields with one key the later wins. -/
def ofList (fields : List (String × Value)) : Fields :=
  fields.foldl (fun acc field => insert field.1 field.2 acc) []

theorem get?_insert_self (key : String) (value : Value) (fields : Fields) :
    get? key (insert key value fields) = some value := by
  induction fields with
  | nil => simp [insert, get?]
  | cons head rest ih =>
    obtain ⟨k, v⟩ := head
    by_cases h : key = k
    · simp [insert, get?, h]
    · by_cases hl : key < k
      · simp [insert, get?, h, hl]
      · simp [insert, get?, h, hl, ih]

end Fields

namespace Value

/-- The string inside a string value. -/
def asString? : Value → Option String
  | .string s => some s
  | _ => none

/-- The fields of an object value. -/
def asObject? : Value → Option Fields
  | .object fields => some fields
  | _ => none

/-- The items of an array value. -/
def asArray? : Value → Option (List Value)
  | .array items => some items
  | _ => none

/-- The boolean inside a boolean value. -/
def asBool? : Value → Option Bool
  | .bool b => some b
  | _ => none

/-- Whether the value is `null`. -/
def isNull : Value → Bool
  | .null => true
  | _ => false

/-- A string value. -/
def str (s : String) : Value := .string s

/-- A non-negative integer value. -/
def nat (n : Nat) : Value := .number (.posInt n.toUInt64)

end Value

end HubService.Json
