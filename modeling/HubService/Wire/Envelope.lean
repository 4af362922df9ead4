import HubService.Wire.Tag
import HubService.Wire.EndpointPath
import HubService.Json.Parse

/-!
# Inbound envelopes

A frame from the hub is read leniently: it must be JSON text of one object, and of that object
only the fields the service understands are taken, each only when it has the right shape. A
field of the wrong shape counts as absent – a tag that is not a UUID string, data that is not an
object, an endpoint with a segment that is not a string – so that the dispatcher can answer a
damaged request instead of failing on it.
-/

namespace HubService.Wire

open HubService.Json

/-- Why a frame is not an envelope. -/
inductive EnvelopeError where
  /-- The frame is not JSON text. -/
  | malformed (error : SyntaxError)
  /-- The frame is JSON text of something other than an object: what it is instead. -/
  | notAnObject (found : String)
  deriving Repr

/-- The words for a refusal. -/
def EnvelopeError.message : EnvelopeError → String
  | .malformed e => "malformed JSON: " ++ e.message
  | .notAnObject found => "expected a JSON object, found " ++ found

/-- The fields of an inbound frame that the service understands. -/
structure Envelope where
  tag : Option Tag
  action : Option String
  data : Option Fields
  endpoint : Option EndpointPath
  user : Option Uuid
  service : Option String
  errorNotice : Bool
  deriving Repr

/-- What kind of JSON value a value is, in the words of a refusal. -/
def kindName : Value → String
  | .null => "null"
  | .bool _ => "boolean"
  | .number _ => "number"
  | .string _ => "string"
  | .array _ => "array"
  | .object _ => "object"

/-- A field that must be a string reading as a UUID. -/
def uuidField (v : Value) : Option Uuid :=
  v.asString?.bind fun s => (Uuid.parse s).toOption

namespace Envelope

/-- The understood fields of an object. -/
def ofFields (fields : Fields) : Envelope :=
  { tag := (fields.get? "tag").bind uuidField |>.map Tag.mk
    action := (fields.get? "action").bind Value.asString?
    data := (fields.get? "data").bind Value.asObject?
    endpoint := (fields.get? "endpoint").bind EndpointPath.ofJson?
    user := (fields.get? "user").bind uuidField
    service := (fields.get? "ms").bind Value.asString?
    errorNotice := match fields.get? "error" with
      | some .null | none => false
      | some _ => true }

/-- Reads a frame as an envelope. -/
def parse (frame : ByteArray) : Except EnvelopeError Envelope :=
  match Json.parse frame with
  | .error e => .error (.malformed e)
  | .ok (.object fields) => .ok (ofFields fields)
  | .ok v => .error (.notAnObject (kindName v))

end Envelope

end HubService.Wire
