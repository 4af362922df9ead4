import HubService.Wire.Tag
import HubService.Wire.ErrorCode
import HubService.Wire.EndpointPath
import HubService.Json.Print

/-!
# Outbound frames

Everything a service sends to the hub is one of seven frames, written as a compact JSON
object whose fields come in a fixed order per frame (`HubService.Wire.Frame.encode`), with
the payload inside written sorted by key:

| frame | fields |
|---|---|
| register | `action` = `"register"`, `name` |
| address | `action` = `"address"`, `user`, `data` |
| user lookup | `action` = `"user"`, `data` = `{"user": …}`, `tag` |
| call | `ms`, `data`, `endpoint`, `tag` |
| reply | `tag`, `data` |
| service reply | `ms`, `data`, `tag` |
| notice | `error` |
-/

namespace HubService.Wire

open HubService.Json

/-- A frame a service sends. -/
inductive Frame where
  /-- Announces the service under its name; sent first on every connection. -/
  | register (name : String)
  /-- A payload pushed to a user. -/
  | address (user : Uuid) (data : Fields)
  /-- Asks the hub about a user. -/
  | userLookup (user : Uuid) (tag : Tag)
  /-- Calls an endpoint of another service. -/
  | call (service : String) (endpoint : EndpointPath) (data : Fields) (tag : Tag)
  /-- Answers a user's request. -/
  | reply (tag : Tag) (data : Fields)
  /-- Answers a service's request. -/
  | serviceReply (service : String) (tag : Tag) (data : Fields)
  /-- Reports an error that no tag can be attached to. -/
  | notice (code : ErrorCode)
  deriving Repr

namespace Frame

/-- The payload of a user lookup. -/
def lookupData (user : Uuid) : Fields := [("user", .string user.render)]

/-- The tag of a frame that carries one. -/
def tag? : Frame → Option Tag
  | .userLookup _ t | .call _ _ _ t | .reply t _ | .serviceReply _ t _ => some t
  | .register _ | .address _ _ | .notice _ => none

/-- The payload of a frame that carries one. -/
def data? : Frame → Option Fields
  | .address _ d | .call _ _ d _ | .reply _ d | .serviceReply _ _ d => some d
  | .userLookup user _ => some (lookupData user)
  | .register _ | .notice _ => none

/-- Fields in the given order, written as a compact JSON object. -/
def objectText (fields : List (String × String)) : String :=
  "\x7b" ++ ",".intercalate (fields.map fun (k, v) => quote k ++ ":" ++ v) ++ "\x7d"

/-- The frame on the wire. -/
def encode : Frame → String
  | .register name => objectText [("action", quote "register"), ("name", quote name)]
  | .address user data =>
    objectText [("action", quote "address"), ("user", quote user.render), ("data", data.compact)]
  | .userLookup user t =>
    objectText [("action", quote "user"), ("data", (lookupData user).compact),
      ("tag", quote t.render)]
  | .call service endpoint data t =>
    objectText [("ms", quote service), ("data", data.compact),
      ("endpoint", endpoint.toJson.compact), ("tag", quote t.render)]
  | .reply t data => objectText [("tag", quote t.render), ("data", data.compact)]
  | .serviceReply service t data =>
    objectText [("ms", quote service), ("data", data.compact), ("tag", quote t.render)]
  | .notice code => objectText [("error", quote code.text)]

/-- The encoder: the frame written at the end of a buffer, with nothing between it and what the
buffer held before. -/
def writeTo (buf : ByteArray) (f : Frame) : ByteArray := buf ++ f.encode.toUTF8

end Frame

end HubService.Wire
