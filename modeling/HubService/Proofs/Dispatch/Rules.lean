import HubService.Dispatch.Classify
import Mathlib

/-!
# The six rules of classification

`HubService.Dispatch.classify` reads a frame through `HubService.Wire.Envelope.parse` and then
decides. Here the decision is stated once more, over the raw fields of the object and in the
order of the rules (`HubService.Dispatch.byRules`):

* a field counts only when it has the right shape, and a field of the wrong shape counts as
  absent: `tag` and `user` are strings that read as UUIDs (`uuidAt`), `data` is an object
  (`objectAt`), `endpoint` an array made only of strings (`pathAt`), `ms` a string
  (`stringAt`);
* without a tag or without data the frame is rejected, naming the tag first, quietly when an
  `error` field is present and not null (`presentAt`);
* otherwise, a tag that awaits a response with no endpoint named makes a response; then a user
  makes a user request; then a calling service, for a tag that awaits nothing, a service
  request; anything else is a response.

**Classification is exactly this decision** (`HubService.Dispatch.classify_eq_byRulesFrame`), for
every frame and whichever tags await a response. The envelope's readers are the rules' readers
(`HubService.Dispatch.ofFields_eq`); the one that is not a plain match is the endpoint's, where
reading every item as a string succeeds exactly when every item is one
(`HubService.Dispatch.mapM_asString?`).
-/

namespace HubService.Dispatch

open HubService.Wire HubService.Json

/-! ### The fields as the rules read them -/

/-- A field that counts only when it is a string that reads as a UUID. -/
def uuidAt (fields : Fields) (key : String) : Option Uuid :=
  match fields.get? key with
  | some (.string s) => (Uuid.parse s).toOption
  | _ => none

/-- A field that counts only when it is an object. -/
def objectAt (fields : Fields) (key : String) : Option Fields :=
  match fields.get? key with
  | some (.object o) => some o
  | _ => none

/-- A field that counts only when it is a string. -/
def stringAt (fields : Fields) (key : String) : Option String :=
  match fields.get? key with
  | some (.string s) => some s
  | _ => none

/-- A field that counts only when it is an array made only of strings: the path of those
strings. -/
def pathAt (fields : Fields) (key : String) : Option EndpointPath :=
  match fields.get? key with
  | some (.array items) =>
    if items.all (fun v => v.asString?.isSome) then some ⟨items.filterMap Value.asString?⟩
    else none
  | _ => none

/-- A field that is present and not null. -/
def presentAt (fields : Fields) (key : String) : Bool :=
  match fields.get? key with
  | some v => !v.isNull
  | none => false

/-- **The six rules**, over the fields of an object. -/
def byRules (pending : Tag → Bool) (fields : Fields) : Classification :=
  let endpoint := pathAt fields "endpoint"
  match (uuidAt fields "tag").map Tag.mk, objectAt fields "data" with
  | some tag, some data =>
    if pending tag = true ∧ endpoint = none then .response tag data
    else
      match uuidAt fields "user", stringAt fields "ms" with
      | some user, _ => .userRequest ⟨tag, user, endpoint, data⟩
      | none, some ms =>
        if pending tag = false then .serviceRequest ⟨tag, ms, endpoint, data⟩
        else .response tag data
      | none, none => .response tag data
  | tag, _ =>
    .rejected ⟨tag, .missingEnvelopeField (if tag = none then "tag" else "data"),
      presentAt fields "error"⟩

/-- What the rules decide for a frame: over its fields when it is JSON text of an object, else a
loud rejection with no tag, for the reason the frame is not one. -/
def byRulesFrame (pending : Tag → Bool) (frame : ByteArray) : Classification :=
  match Json.parse frame with
  | .ok (.object fields) => byRules pending fields
  | .ok v => .rejected ⟨none, .unsupportedFormat (.notAnObject (kindName v)), false⟩
  | .error e => .rejected ⟨none, .unsupportedFormat (.malformed e), false⟩

/-! ### The envelope's readers are the rules' readers -/

/-- Reading each item of an array as a string succeeds exactly when every item is one. -/
theorem mapM_asString? (items : List Value) :
    items.mapM Value.asString? =
      if items.all (fun v => v.asString?.isSome) then some (items.filterMap Value.asString?)
      else none := by
  induction items with
  | nil => rfl
  | cons v items ih =>
    cases v with
    | string s =>
      have hs : (Value.string s).asString? = some s := rfl
      rw [List.mapM_cons, ih, hs, List.all_cons, List.filterMap_cons_some hs]
      cases items.all (fun v => v.asString?.isSome) <;> rfl
    | _ => rfl

theorem bind_uuidField (fields : Fields) (key : String) :
    (fields.get? key).bind uuidField = uuidAt fields key := by
  unfold uuidAt
  rcases fields.get? key with _ | v
  · rfl
  · cases v <;> rfl

theorem bind_asObject? (fields : Fields) (key : String) :
    (fields.get? key).bind Value.asObject? = objectAt fields key := by
  unfold objectAt
  rcases fields.get? key with _ | v
  · rfl
  · cases v <;> rfl

theorem bind_asString? (fields : Fields) (key : String) :
    (fields.get? key).bind Value.asString? = stringAt fields key := by
  unfold stringAt
  rcases fields.get? key with _ | v
  · rfl
  · cases v <;> rfl

theorem bind_ofJson? (fields : Fields) (key : String) :
    (fields.get? key).bind EndpointPath.ofJson? = pathAt fields key := by
  unfold pathAt
  rcases fields.get? key with _ | v
  · rfl
  · cases v with
    | array items =>
      simp only [Option.bind_some, EndpointPath.ofJson?, mapM_asString?]
      split <;> rfl
    | _ => rfl

/-- **The envelope of an object, field by field**: each field the rules read, read as they
read it. -/
theorem ofFields_eq (fields : Fields) :
    Envelope.ofFields fields =
      { tag := (uuidAt fields "tag").map Tag.mk
        action := stringAt fields "action"
        data := objectAt fields "data"
        endpoint := pathAt fields "endpoint"
        user := uuidAt fields "user"
        service := stringAt fields "ms"
        errorNotice := presentAt fields "error" } := by
  simp only [Envelope.ofFields, bind_uuidField, bind_asString?, bind_asObject?, bind_ofJson?]
  -- what is left is the error notice: a field present and not null
  congr 1
  unfold presentAt
  rcases fields.get? "error" with _ | v
  · rfl
  · cases v <;> rfl

/-! ### Classification follows the rules -/

/-- **An envelope is classified by the six rules over its object's fields.** -/
theorem classifyEnvelope_ofFields (pending : Tag → Bool) (fields : Fields) :
    classifyEnvelope pending (Envelope.ofFields fields) = byRules pending fields := by
  rw [ofFields_eq]
  unfold classifyEnvelope byRules
  dsimp only
  generalize (uuidAt fields "tag").map Tag.mk = tag
  generalize objectAt fields "data" = data
  generalize pathAt fields "endpoint" = endpoint
  generalize uuidAt fields "user" = user
  generalize stringAt fields "ms" = ms
  rcases tag with _ | tag <;> rcases data with _ | data
  · rfl
  · rfl
  · rfl
  · -- a tag and data: the rules from the third on
    cases hp : pending tag with
    | false =>
      -- no call awaits the tag: a user, then a calling service, then a response
      cases user <;> cases ms <;> simp [hp]
    | true =>
      -- a call awaits the tag: a response unless an endpoint is named, then a user
      cases endpoint <;> cases user <;> cases ms <;> simp [hp]

/-- **Classification follows the six rules exactly**, whatever the frame and whichever tags
await a response. -/
theorem classify_eq_byRulesFrame (pending : Tag → Bool) (frame : ByteArray) :
    classify pending frame = byRulesFrame pending frame := by
  unfold classify byRulesFrame Envelope.parse
  rcases Json.parse frame with e | v
  · rfl
  · cases v with
    | object fields => exact classifyEnvelope_ofFields pending fields
    | _ => rfl

end HubService.Dispatch
