import HubService.Proofs.Session.Runs
import HubService.Proofs.Session.Replies
import HubService.Proofs.Registry.Tables
import HubService.Session.Serve

/-!
# What a served frame is answered with

An inbound frame, once classified, is served by a task (`HubService.Session.serve`). This module
says what every complete run of that task does (`HubService.Session.Dispatched`), in the terms of
the protocol rather than of the program:

* a response is handed to the call that waits for its tag, and answered with nothing;
* a rejection with a tag is answered with a reply under that tag carrying the rejection's code;
  one without a tag with a notice of the code, or with nothing when it is quiet;
* a request is answered from the table of its origin only (users' requests from the user
  table, services' from the service table) by the endpoint registered at exactly the path it
  names, the root when it names none (`HubService.Session.Answered`): with `unknown_service`
  when there is none, with `missing_parameters` when the endpoint's descriptor refuses the
  data, and otherwise, after whatever the handler does itself, with the handler's payload or
  with `internal_error` when it fails. A user is answered with a reply, a service with a service
  reply, under the request's tag.

**Serving does exactly this** for every registry registration builds
(`HubService.Session.serve_classify_runs_iff`): every complete run is one of these, and each of
these is a complete run. Every request is answered once, under its own tag
(`HubService.Session.Dispatched.answers_userRequest`,
`HubService.Session.Dispatched.answers_serviceRequest`).
-/

namespace HubService.Session

open HubService.Wire HubService.Json HubService.Dispatch HubService.Registry

/-- The payload that answers a handler's result: the handler's own payload, or `internal_error`
for a fault, a failure and a panic alike. -/
def resultPayload : Except String Fields → Fields
  | .ok payload => payload
  | .error _ => ErrorCode.internalError.payload

/-- The complete runs that answer a request at `endpoint` from `table`, with `reply` building
the answer from its payload. -/
inductive Answered (table : Table Handler) (handleTimeout : Duration)
    (endpoint : Option EndpointPath) (data : Fields) (caller : String)
    (callingUser : Option Uuid) (reply : Fields → Frame) : List Event → Prop
  /-- No endpoint is registered at the path. -/
  | unknown (queued : Bool) (hpath : ∀ ep, (endpoint.getD .root, ep) ∉ table.entries) :
      Answered table handleTimeout endpoint data caller callingUser reply
        [.sent (reply ErrorCode.unknownService.payload) queued]
  /-- The endpoint's descriptor refuses the data. -/
  | mismatch {ep : Endpoint Handler} {m : ParameterMismatch} (queued : Bool)
      (hep : (endpoint.getD .root, ep) ∈ table.entries)
      (hm : ep.descriptor.validate data = .error m) :
      Answered table handleTimeout endpoint data caller callingUser reply
        [.sent (reply ErrorCode.missingParameters.payload) queued]
  /-- The endpoint's handler runs, and its result is the answer. -/
  | handled {ep : Endpoint Handler} {hs : List Event} {r : Except String Fields} (queued : Bool)
      (hep : (endpoint.getD .root, ep) ∈ table.entries)
      (hv : ep.descriptor.validate data = .ok ())
      (hy : ep.handler.Yields data caller callingUser handleTimeout hs r) :
      Answered table handleTimeout endpoint data caller callingUser reply
        (hs ++ [.sent (reply (resultPayload r)) queued])

/-- The complete runs of the task that serves a classified frame. -/
def Dispatched (registry : EndpointRegistry Handler) (handleTimeout : Duration) :
    Classification → List Event → Prop
  | .rejected ⟨some tag, error, _⟩, es => ∃ queued, es = [.sent (.reply tag error.code.payload) queued]
  | .rejected ⟨none, _, true⟩, es => es = []
  | .rejected ⟨none, error, false⟩, es => ∃ queued, es = [.sent (.notice error.code) queued]
  | .response tag data, es => es = [.resolved tag data]
  | .userRequest req, es =>
    Answered registry.user handleTimeout req.endpoint req.data req.caller.render
      (some req.caller) (Frame.reply req.tag) es
  | .serviceRequest req, es =>
    Answered registry.service handleTimeout req.endpoint req.data req.caller none
      (Frame.serviceReply req.caller req.tag) es

/-! ### Serving a request -/

section Request

variable {registry : EndpointRegistry Handler} {handleTimeout : Duration} {origin : Origin}
  {endpoint : Option EndpointPath} {data : Fields} {caller : String} {callingUser : Option Uuid}
  {reply : Fields → Frame} {es : List Event} {o : Outcome}

/-- **The runs of a served request**, from a table that holds each path once. -/
theorem serveRequest_runs_iff (hd : (registry.table origin).Distinct) :
    Reaches (serveRequest registry handleTimeout origin endpoint data caller callingUser reply) es
        (.finish o) ↔
      Answered (registry.table origin) handleTimeout endpoint data caller callingUser reply es ∧
        o = .served := by
  unfold serveRequest
  dsimp only
  split
  · -- no endpoint at the path
    rename_i hl
    have hout := Table.find?_eq_none_iff.mp hl
    rw [reaches_send_finish_iff]
    constructor
    · rintro ⟨⟨queued, rfl⟩, rfl⟩
      exact ⟨.unknown queued hout, rfl⟩
    · rintro ⟨h, rfl⟩
      refine ⟨?_, rfl⟩
      cases h with
      | unknown queued _ => exact ⟨queued, rfl⟩
      | mismatch _ hep _ => exact absurd hep (hout _)
      | handled _ hep _ _ => exact absurd hep (hout _)
  · rename_i ep hl
    have hep := (Table.find?_eq_some_iff hd).mp hl
    split
    · -- the descriptor refuses the data
      rename_i m hv
      rw [reaches_send_finish_iff]
      constructor
      · rintro ⟨⟨queued, rfl⟩, rfl⟩
        exact ⟨.mismatch queued hep hv, rfl⟩
      · rintro ⟨h, rfl⟩
        refine ⟨?_, rfl⟩
        cases h with
        | unknown queued hout => exact absurd hep (hout _)
        | mismatch queued _ _ => exact ⟨queued, rfl⟩
        | handled _ hep' hv' _ =>
          rw [hd.eq_of_mem hep hep', hv'] at hv
          cases hv
    · -- the handler runs, and its result is the answer
      rename_i hv
      constructor
      · intro hr
        obtain ⟨hs, r, rest, rfl, hy, hrest⟩ := Handler.reaches_run hr
        obtain ⟨⟨queued, rfl⟩, rfl⟩ := reaches_send_finish_iff.mp hrest
        cases r <;> exact ⟨.handled queued hep hv hy, rfl⟩
      · rintro ⟨h, rfl⟩
        cases h with
        | unknown queued hout => exact absurd hep (hout _)
        | mismatch _ hep' hm =>
          rw [hd.eq_of_mem hep hep', hm] at hv
          cases hv
        | @handled ep' hs r queued hep' _ hy =>
          rw [← hd.eq_of_mem hep hep'] at hy
          refine hy.reaches (reaches_send_finish_iff.mpr ⟨⟨queued, ?_⟩, rfl⟩)
          cases r <;> rfl

/-- A request is answered once, under the reply it is answered with: whatever the handler
does itself sends no answer. -/
theorem Answered.answers_eq {table : Table Handler} (hreply : ∀ payload, (reply payload).isAnswer)
    (h : Answered table handleTimeout endpoint data caller callingUser reply es) :
    ∃ payload, answers es = [reply payload] := by
  cases h with
  | unknown queued _ => exact ⟨_, answers_sent (hreply _) queued⟩
  | mismatch queued _ _ => exact ⟨_, answers_sent (hreply _) queued⟩
  | @handled ep hs r queued _ _ hy =>
    refine ⟨resultPayload r, ?_⟩
    rw [answers_append, hy.answers_eq_nil, answers_sent (hreply _) queued, List.nil_append]

end Request

/-! ### Serving a classified frame -/

/-- **Serving a classified frame does exactly what the protocol says**, for every registry that
registration builds, whichever calls are pending and whatever the frame. -/
theorem serve_classify_runs_iff {b : Builder Handler} (hb : b.Registered)
    (handleTimeout : Duration) (pending : Tag → Bool) (frame : ByteArray) (es : List Event)
    (o : Outcome) :
    Reaches (serve b.build handleTimeout (classify pending frame)) es (.finish o) ↔
      Dispatched b.build handleTimeout (classify pending frame) es ∧ o = .served := by
  obtain ⟨huser, hservice⟩ := hb.distinct
  generalize classify pending frame = c
  cases c with
  | rejected r =>
    obtain ⟨tag, error, quiet⟩ := r
    rcases tag with _ | tag
    · cases quiet with
      | false => exact reaches_send_finish_iff
      | true => exact reaches_finish_iff
    · exact reaches_send_finish_iff
  | response tag data =>
    simp only [serve, Dispatched, reaches_resolve_iff, reaches_finish_iff]
    constructor
    · rintro ⟨rest, rfl, rfl, rfl⟩
      exact ⟨rfl, rfl⟩
    · rintro ⟨rfl, rfl⟩
      exact ⟨[], rfl, rfl, rfl⟩
  | userRequest req => exact serveRequest_runs_iff huser
  | serviceRequest req => exact serveRequest_runs_iff hservice

/-- A builder with one endpoint: other services' requests at `/echo` are echoed. -/
def echoBuilder : Builder Handler :=
  { service := { origin := .service, entries := [(⟨["echo"]⟩, ⟨⟨[]⟩, .echo⟩)] } }

theorem echoBuilder_registered : echoBuilder.Registered :=
  @Builder.Registered.register Handler {} _ .service ⟨["echo"]⟩ [] [] .echo .empty rfl

/-- A call from the service `peer` to `/echo`, with no data. -/
def echoCall : Frame := .call "peer" ⟨["echo"]⟩ [] (Tag.issued 1)

/-- Serving a call to `/echo` with the echoing endpoint registered: the frame is a request
routed to `/echo`, and the run that sends the echo back, once, is a complete run of the task. -/
theorem serve_classify_runs_iff_echo :
    echoBuilder.Registered ∧
      classify (fun _ => false) echoCall.encode.toUTF8 =
        .serviceRequest ⟨Tag.issued 1, "peer", some ⟨["echo"]⟩, []⟩ ∧
      Dispatched echoBuilder.build ⟨30000⟩ (classify (fun _ => false) echoCall.encode.toUTF8)
        [.sent (.serviceReply "peer" (Tag.issued 1) []) true] ∧
      (Reaches (serve echoBuilder.build ⟨30000⟩ (classify (fun _ => false) echoCall.encode.toUTF8))
          [.sent (.serviceReply "peer" (Tag.issued 1) []) true] (.finish .served) ↔
        Dispatched echoBuilder.build ⟨30000⟩ (classify (fun _ => false) echoCall.encode.toUTF8)
          [.sent (.serviceReply "peer" (Tag.issued 1) []) true] ∧ Outcome.served = .served) := by
  have hc : classify (fun _ => false) echoCall.encode.toUTF8 =
      .serviceRequest ⟨Tag.issued 1, "peer", some ⟨["echo"]⟩, []⟩ := by
    rw [classify_encode _ fun d hd => by cases hd; decide]
    rfl
  -- the endpoint at `/echo` hands the data back at once
  have hd : Dispatched echoBuilder.build ⟨30000⟩ (classify (fun _ => false) echoCall.encode.toUTF8)
      [.sent (.serviceReply "peer" (Tag.issued 1) []) true] := by
    rw [hc]
    exact @Answered.handled _ _ _ _ _ _ _ ⟨⟨[]⟩, .echo⟩ [] (.ok []) true (List.mem_singleton_self _)
      rfl fun _ => .refl _
  exact ⟨echoBuilder_registered, hc, hd, serve_classify_runs_iff echoBuilder_registered _ _ _ _ _⟩

/-- **A user's request is answered once**, with a reply under its own tag. -/
theorem Dispatched.answers_userRequest {registry : EndpointRegistry Handler}
    {handleTimeout : Duration} {req : Request Uuid} {es : List Event}
    (h : Dispatched registry handleTimeout (.userRequest req) es) :
    ∃ payload, answers es = [.reply req.tag payload] :=
  Answered.answers_eq (fun _ => rfl) h

/-- **A service's request is answered once**, with a service reply under its own tag. -/
theorem Dispatched.answers_serviceRequest {registry : EndpointRegistry Handler}
    {handleTimeout : Duration} {req : Request String} {es : List Event}
    (h : Dispatched registry handleTimeout (.serviceRequest req) es) :
    ∃ payload, answers es = [.serviceReply req.caller req.tag payload] :=
  Answered.answers_eq (fun _ => rfl) h

end HubService.Session
