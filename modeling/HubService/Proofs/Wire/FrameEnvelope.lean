import HubService.Proofs.Json.Nesting
import HubService.Proofs.Uuid
import HubService.Wire.Envelope
import HubService.Wire.Frame

/-!
# Frames read back as envelopes

A service writes frames (`HubService.Wire.Frame.encode`) and reads what the hub sends with
`HubService.Wire.Envelope.parse`. This module proves that the two agree: read back, every
frame gives the envelope with the frame's own tag, payload, endpoint, user, service, action and
notice flag (`HubService.Wire.envelope_parse_encode`).

There is one condition, and the reader sets it. Its nesting limit counts the frame's own
object, and the payload object inside it, so a payload that nests at most 126 deep is read
back. A payload that nests 127 deep or more is refused as malformed
(`HubService.Wire.envelope_parse_encode_deep`). `HubService.Wire.nestedPayload` gives a payload
of each depth, and a reply of depth 127 shows the refusal.

The proof comes in three parts:
* the text of a frame is the compact text of the object of its fields, in the order the frame
  writes them (`HubService.Wire.Frame.encode_eq`);
* the reader takes that text back to the object (`HubService.Json.parse_object_compact`);
* under each key, that object holds the last field the frame wrote with that key
  (`HubService.Json.get?_ofList`).
-/

namespace HubService.Json

/-! ### What an object holds under a key -/

theorem get?_insert (key k : String) (v : Value) (acc : Fields) :
    Fields.get? key (Fields.insert k v acc) = if key = k then some v else Fields.get? key acc := by
  induction acc with
  | nil => simp [Fields.insert, Fields.get?]
  | cons f acc ih =>
    obtain ⟨k', v'⟩ := f
    by_cases hk : k = k'
    · subst hk
      by_cases hkey : key = k <;> simp [Fields.insert, Fields.get?, hkey]
    · by_cases hlt : k < k'
      · by_cases hkey : key = k <;> simp [Fields.insert, Fields.get?, hk, hlt, hkey]
      · simp only [Fields.insert, if_neg hk, if_neg hlt, Fields.get?, ih]
        by_cases hkey : key = k
        · subst hkey
          simp [hk]
        · simp [hkey]

/-- The reader's object from fields inserted one by one holds, under a key, the value of the last
field with that key. -/
theorem get?_foldl_insert (key : String) (fs acc : Fields) :
    Fields.get? key (fs.foldl (fun a f => Fields.insert f.1 f.2 a) acc) =
      (fs.reverse.lookup key).or (Fields.get? key acc) := by
  induction fs generalizing acc with
  | nil => simp
  | cons f fs ih =>
    rw [List.foldl_cons, ih, get?_insert, List.reverse_cons, List.lookup_append]
    -- a later field with the key hides this one
    cases fs.reverse.lookup key with
    | some v => rfl
    | none =>
      obtain ⟨k, v⟩ := f
      by_cases hkey : key = k
      · simp [List.lookup, hkey]
      · have hne : (key == k) = false := by simpa using hkey
        simp [List.lookup, hkey, hne]

theorem get?_ofList (key : String) (fs : Fields) :
    Fields.get? key (Fields.ofList fs) = fs.reverse.lookup key := by
  rw [Fields.ofList, get?_foldl_insert]
  simp [Fields.get?]

/-! ### Fields written in a given order -/

/-- The text of fields joined by commas is the text the printer writes for them. -/
theorem intercalate_fieldTexts :
    ∀ fs : Fields, ",".intercalate (fs.map fun f => quote f.1 ++ ":" ++ f.2.compact) = fieldsText fs
  | [] => by simp [fieldsText]
  | [(k, v)] => by simp [fieldsText]
  | (k, v) :: f :: rest => by
    have ih := intercalate_fieldTexts (f :: rest)
    rw [List.map_cons] at ih
    rw [List.map_cons, List.map_cons, String.intercalate_cons_cons, ih]
    obtain ⟨k', v'⟩ := f
    simp [fieldsText, String.append_assoc]

end HubService.Json

namespace HubService.Wire

open HubService.Json

/-- **Fields written in a fixed order** are the compact text of the object they make. -/
theorem objectText_compact (fs : Fields) :
    Frame.objectText (fs.map fun f => (f.1, f.2.compact)) = (Value.object fs).compact := by
  rw [Frame.objectText, List.map_map]
  simp only [Function.comp_def, intercalate_fieldTexts, Value.compact]

namespace Frame

/-- The fields of a frame in the order it writes them, as JSON values. -/
def fields : Frame → Fields
  | .register name => [("action", .string "register"), ("name", .string name)]
  | .address user data =>
    [("action", .string "address"), ("user", .string user.render), ("data", .object data)]
  | .userLookup user t =>
    [("action", .string "user"), ("data", .object (lookupData user)), ("tag", .string t.render)]
  | .call service endpoint data t =>
    [("ms", .string service), ("data", .object data), ("endpoint", endpoint.toJson),
      ("tag", .string t.render)]
  | .reply t data => [("tag", .string t.render), ("data", .object data)]
  | .serviceReply service t data =>
    [("ms", .string service), ("data", .object data), ("tag", .string t.render)]
  | .notice code => [("error", .string code.text)]

theorem encode_eq (f : Frame) : f.encode = (Value.object f.fields).compact := by
  cases f <;> rw [encode, ← objectText_compact] <;> rfl

/-! ### What each frame says -/

/-- The action a frame asks of the hub: registering, addressing a user, or looking one up. -/
def action? : Frame → Option String
  | .register _ => some "register"
  | .address _ _ => some "address"
  | .userLookup _ _ => some "user"
  | _ => none

/-- The endpoint a call addresses. -/
def endpoint? : Frame → Option EndpointPath
  | .call _ endpoint _ _ => some endpoint
  | _ => none

/-- The user a payload is pushed to. -/
def user? : Frame → Option Uuid
  | .address user _ => some user
  | _ => none

/-- The service a frame names: the one called, or the one answered. -/
def service? : Frame → Option String
  | .call service _ _ _ | .serviceReply service _ _ => some service
  | _ => none

/-- Whether a frame is a notice. -/
def isNotice : Frame → Bool
  | .notice _ => true
  | _ => false

/-- The payload of a frame, if it has one, is exact and nests at most `n` deep. -/
def PayloadWithin (f : Frame) (n : Nat) : Prop :=
  ∀ d, f.data? = some d → (Value.object d).isExact = true ∧ (Value.object d).depth ≤ n

end Frame

theorem toJson_isExact (p : EndpointPath) : p.toJson.isExact = true := by
  obtain ⟨segments⟩ := p
  induction segments with
  | nil => rfl
  | cons s rest ih => simpa [EndpointPath.toJson, Value.isExact, itemsExact] using ih

theorem toJson_depth (p : EndpointPath) : p.toJson.depth = 1 := by
  obtain ⟨segments⟩ := p
  induction segments with
  | nil => rfl
  | cons s rest ih => simpa [EndpointPath.toJson, Value.depth, itemsDepth] using ih

theorem fieldsExact_fields {f : Frame}
    (hx : ∀ d, f.data? = some d → (Value.object d).isExact = true) : fieldsExact f.fields = true := by
  cases f with
  | register name | notice code => rfl
  | userLookup user t => rfl
  | call service endpoint data t =>
    simp only [Frame.fields, fieldsExact, hx data rfl, toJson_isExact]
    rfl
  | address user data | reply t data | serviceReply service t data =>
    simp only [Frame.fields, fieldsExact, hx data rfl]
    rfl

theorem fieldsDepth_fields_le {f : Frame} {n : Nat}
    (hd : ∀ d, f.data? = some d → (Value.object d).depth ≤ n) : fieldsDepth f.fields ≤ max n 1 := by
  cases f with
  | register name | notice code => simp [Frame.fields, fieldsDepth, Value.depth]
  | userLookup user t => simp [Frame.fields, fieldsDepth, Value.depth, Frame.lookupData]
  | call service endpoint data t =>
    have h := hd data rfl
    simp only [Frame.fields, fieldsDepth, toJson_depth]
    simp only [Value.depth] at h ⊢
    omega
  | address user data | reply t data | serviceReply service t data =>
    have h := hd data rfl
    simp only [Frame.fields, fieldsDepth]
    simp only [Value.depth] at h ⊢
    omega

theorem depth_le_fieldsDepth {f : Frame} {d : Fields} (hd : f.data? = some d) :
    (Value.object d).depth ≤ fieldsDepth f.fields := by
  cases f <;> simp only [Frame.data?, Option.some.injEq, reduceCtorEq] at hd <;> subst hd <;>
    simp [Frame.fields, fieldsDepth, Value.depth]

/-! ### The envelope of a frame -/

theorem uuidField_render (u : Uuid) : uuidField (.string u.render) = some u := by
  simp [uuidField, Value.asString?, Uuid.parse_render, Except.toOption]

/-- What the hub's envelope takes from the fields of a frame. -/
theorem ofFields_frame (f : Frame) :
    Envelope.ofFields (Fields.ofList f.fields) =
      { tag := f.tag?
        action := f.action?
        data := f.data?
        endpoint := f.endpoint?
        user := f.user?
        service := f.service?
        errorNotice := f.isNotice } := by
  cases f <;> simp +decide [Envelope.ofFields, get?_ofList, List.lookup, Frame.fields, Frame.tag?, Frame.data?,
    Frame.action?, Frame.endpoint?, Frame.user?, Frame.service?, Frame.isNotice, uuidField_render,
    Tag.render, Value.asString?, Value.asObject?, EndpointPath.ofJson?_toJson]

/-- The hub's reader takes a frame whose payload nests at most 126 deep back to the object of its
fields. -/
theorem parse_encode {f : Frame} (hp : f.PayloadWithin 126) :
    Json.parse f.encode.toUTF8 = .ok (.object (Fields.ofList f.fields)) := by
  have hx := fieldsExact_fields fun d hd => (hp d hd).1
  have hd := fieldsDepth_fields_le fun d hd => (hp d hd).2
  rw [Frame.encode_eq]
  exact parse_object_compact f.fields hx (by simp only [nestingLimit]; omega)

/-- **Outbound frames and the inbound reader agree**: every frame whose payload is exact and nests
at most 126 deep is read as an envelope with the frame's tag and payload, the endpoint of a
call, the user of an address frame, the service a call or a service reply names, the action of
a frame to the hub, and the notice flag of a notice. -/
theorem envelope_parse_encode (f : Frame) (hp : f.PayloadWithin 126) :
    Envelope.parse f.encode.toUTF8 =
      .ok { tag := f.tag?
            action := f.action?
            data := f.data?
            endpoint := f.endpoint?
            user := f.user?
            service := f.service?
            errorNotice := f.isNotice } := by
  rw [Envelope.parse, parse_encode hp]
  exact congrArg Except.ok (ofFields_frame f)

/-- The reader refuses a frame whose payload nests 127 deep or deeper: with the frame's own
object around it, that reaches the reader's limit. -/
theorem envelope_parse_encode_deep {f : Frame} {d : Fields} (hd : f.data? = some d)
    (hx : (Value.object d).isExact = true) (hdeep : 127 ≤ (Value.object d).depth) :
    ∃ e, Envelope.parse f.encode.toUTF8 = .error (.malformed e) := by
  have hxs := fieldsExact_fields fun d' hd' => by
    rw [hd, Option.some.injEq] at hd'
    exact hd' ▸ hx
  have hdepth := depth_le_fieldsDepth hd
  obtain ⟨e, he⟩ := parse_object_deep f.fields hxs (by simp only [nestingLimit]; omega)
  refine ⟨e, ?_⟩
  rw [Envelope.parse, Frame.encode_eq, he]

/-! ### Payloads of every depth -/

/-- A payload `n + 1` deep: `n` objects with the one key `"a"`, one inside the other, around
the empty object. -/
def nestedPayload : Nat → Fields
  | 0 => []
  | n + 1 => [("a", .object (nestedPayload n))]

theorem nestedPayload_isExact : ∀ n, (Value.object (nestedPayload n)).isExact = true
  | 0 => rfl
  | n + 1 => by
    simpa [nestedPayload, Value.isExact, fieldsExact] using nestedPayload_isExact n

theorem nestedPayload_depth : ∀ n, (Value.object (nestedPayload n)).depth = n + 1
  | 0 => rfl
  | n + 1 => by
    rw [nestedPayload, Value.depth, fieldsDepth, nestedPayload_depth n, fieldsDepth]
    omega

/-- A reply whose payload nests 126 deep, the deepest the reader takes, is read back whole. -/
theorem envelope_parse_reply_within :
    (Frame.reply (Tag.issued 1) (nestedPayload 125)).PayloadWithin 126 ∧
      Envelope.parse (Frame.reply (Tag.issued 1) (nestedPayload 125)).encode.toUTF8 =
        .ok { tag := some (Tag.issued 1)
              action := none
              data := some (nestedPayload 125)
              endpoint := none
              user := none
              service := none
              errorNotice := false } := by
  have hp : (Frame.reply (Tag.issued 1) (nestedPayload 125)).PayloadWithin 126 := by
    rintro d ⟨⟩
    exact ⟨nestedPayload_isExact 125, (nestedPayload_depth 125).le⟩
  exact ⟨hp, envelope_parse_encode _ hp⟩

/-- A reply whose payload nests 127 deep is refused as malformed. -/
theorem envelope_parse_reply_too_deep :
    ∃ e, Envelope.parse (Frame.reply (Tag.issued 1) (nestedPayload 126)).encode.toUTF8 =
      .error (.malformed e) :=
  envelope_parse_encode_deep rfl (nestedPayload_isExact 126) (nestedPayload_depth 126).ge

end HubService.Wire
