import HubService.Proofs.Session.Runs
import HubService.Proofs.Wire.FrameEnvelope
import HubService.Session.Serve

/-!
# Which answers are answered again

A service answers inbound frames with replies, service replies and notices
(`HubService.Wire.Frame.isAnswer`): the frames a served rejection, a served request and a refused
frame send are all of these. The frames a service reads may be answers another service wrote,
and whether an answer is answered in turn decides whether two services can bounce frames back
and forth forever.

Read back and classified, a notice is a quiet rejection, a reply is a response, and a service
reply is a response when a call awaits its tag (`HubService.Session.classify_encode_notice`,
`HubService.Session.classify_encode_reply`, `HubService.Session.classify_encode_serviceReply`).
A service reply whose tag awaits nothing is another matter: it names a calling service and no
endpoint, so it is a *service request* for the root path, and serving it answers it with a
service reply of its own. Of all the answers, exactly those are answered again
(`HubService.Session.serve_answer_silent_iff`). With nothing registered, such a late service
reply is answered with `unknown_service` (`HubService.Session.serve_late_serviceReply`).
-/

namespace HubService.Session

open HubService.Wire HubService.Json HubService.Dispatch HubService.Registry

/-- A task answers nothing: no complete run of it sends an answer. -/
def Program.AnswersNothing (p : Program) : Prop :=
  ∀ es o, Reaches p es (.finish o) → answers es = []

/-! ### The frames a service answers with -/

theorem Rejection.reply_isAnswer {r : Rejection} {f : Frame} (h : r.reply = some f) :
    f.isAnswer = true := by
  obtain ⟨tag, error, quiet⟩ := r
  rcases tag with _ | tag
  · cases quiet with
    | false =>
      cases h
      rfl
    | true => cases h
  · cases h
    rfl

/-- A refused frame is answered, if at all, with an answer. -/
theorem refuse_isAnswer {c : Classification} {f : Frame} (h : refuse c = .reply (some f)) :
    f.isAnswer = true := by
  cases c with
  | rejected r => exact Rejection.reply_isAnswer (Refusal.reply.inj h)
  | response tag data => cases h
  | userRequest req =>
    cases h
    rfl
  | serviceRequest req =>
    cases h
    rfl

/-! ### Answers read back -/

section Classify

variable (pending : Tag → Bool)

/-- A frame whose payload nests at most 126 deep is classified by the envelope of its fields. -/
theorem classify_encode {f : Frame} (hp : f.PayloadWithin 126) :
    classify pending f.encode.toUTF8 =
      classifyEnvelope pending
        { tag := f.tag?
          action := f.action?
          data := f.data?
          endpoint := f.endpoint?
          user := f.user?
          service := f.service?
          errorNotice := f.isNotice } := by
  rw [classify, Envelope.parse, parse_encode hp, ← ofFields_frame]

/-- A notice read back is a quiet rejection with no tag. -/
theorem classify_encode_notice (code : ErrorCode) :
    classify pending (Frame.notice code).encode.toUTF8 =
      .rejected ⟨none, .missingEnvelopeField "tag", true⟩ := by
  rw [classify_encode pending fun _ h => by cases h]
  rfl

/-- A reply read back is a response, whether or not a call awaits its tag. -/
theorem classify_encode_reply {tag : Tag} {data : Fields}
    (hp : (Frame.reply tag data).PayloadWithin 126) :
    classify pending (Frame.reply tag data).encode.toUTF8 = .response tag data := by
  rw [classify_encode pending hp]
  simp only [classifyEnvelope, Frame.tag?, Frame.data?, Frame.endpoint?, Frame.user?,
    Frame.service?, Option.isNone_none, Bool.and_true, ite_self]

/-- A service reply read back is a response when a call awaits its tag, and otherwise a
service request for the root path. -/
theorem classify_encode_serviceReply {service : String} {tag : Tag} {data : Fields}
    (hp : (Frame.serviceReply service tag data).PayloadWithin 126) :
    classify pending (Frame.serviceReply service tag data).encode.toUTF8 =
      if pending tag then .response tag data else .serviceRequest ⟨tag, service, none, data⟩ := by
  rw [classify_encode pending hp]
  simp only [classifyEnvelope, Frame.tag?, Frame.data?, Frame.endpoint?, Frame.user?,
    Frame.service?, Option.isNone_none, Bool.and_true]
  cases pending tag <;> rfl

end Classify

/-! ### What serving sends -/

theorem serve_response_answersNothing (registry : EndpointRegistry Handler)
    (handleTimeout : Duration) (tag : Tag) (data : Fields) :
    (serve registry handleTimeout (.response tag data)).AnswersNothing := by
  intro es o hr
  obtain ⟨rest, rfl, hrest⟩ := reaches_resolve_iff.mp hr
  rw [(reaches_finish_iff.mp hrest).1]
  rfl

theorem serve_quiet_answersNothing (registry : EndpointRegistry Handler)
    (handleTimeout : Duration) (error : DispatchError) :
    (serve registry handleTimeout (.rejected ⟨none, error, true⟩)).AnswersNothing := by
  intro es o hr
  rw [(reaches_finish_iff.mp hr).1]
  rfl

/-- A served request is answered in some complete run, whatever the registry holds: the world
can always let the handler finish. -/
theorem serveRequest_answers (registry : EndpointRegistry Handler) (handleTimeout : Duration)
    (origin : Origin) (endpoint : Option EndpointPath) (data : Fields) (caller : String)
    (callingUser : Option Uuid) {reply : Fields → Frame}
    (hreply : ∀ payload, (reply payload).isAnswer = true) :
    ¬(serveRequest registry handleTimeout origin endpoint data caller callingUser reply).AnswersNothing := by
  intro hnone
  -- a run that ends by sending the answer
  have hsent : ∀ payload, answers [.sent (reply payload) true] ≠ [] := fun payload => by
    rw [answers_sent (hreply payload)]
    exact List.cons_ne_nil _ _
  unfold serveRequest at hnone
  dsimp only at hnone
  split at hnone
  · exact hsent _ (hnone _ _ (.send true (.refl _)))
  · rename_i ep _
    split at hnone
    · exact hsent _ (hnone _ _ (.send true (.refl _)))
    · obtain ⟨hs, r, hy⟩ := @Handler.exists_yields ep.handler data caller callingUser handleTimeout
      have := hnone _ _ (hy.reaches (.send true (.refl _)))
      rw [answers_append, List.append_eq_nil_iff] at this
      exact hsent _ this.2

/-- **Of the answers a service writes, exactly the service replies whose tag awaits nothing are
answered again**, whatever the registry, when their payload nests at most 126 deep. -/
theorem serve_answer_silent_iff (registry : EndpointRegistry Handler) (handleTimeout : Duration)
    (pending : Tag → Bool) {f : Frame} (hf : f.isAnswer = true) (hp : f.PayloadWithin 126) :
    (serve registry handleTimeout (classify pending f.encode.toUTF8)).AnswersNothing ↔
      ∀ service tag data, f = .serviceReply service tag data → pending tag = true := by
  cases f with
  | register _ | address _ _ | userLookup _ _ | call _ _ _ _ => cases hf
  | notice code =>
    rw [classify_encode_notice]
    exact iff_of_true (serve_quiet_answersNothing _ _ _) fun _ _ _ h => by cases h
  | reply tag data =>
    rw [classify_encode_reply pending hp]
    exact iff_of_true (serve_response_answersNothing _ _ _ _) fun _ _ _ h => by cases h
  | serviceReply service tag data =>
    rw [classify_encode_serviceReply pending hp]
    cases hpend : pending tag with
    | true =>
      refine iff_of_true (serve_response_answersNothing _ _ _ _) fun _ _ _ h => ?_
      cases h
      exact hpend
    | false =>
      -- a service request for the root path, answered with a service reply
      refine iff_of_false (serveRequest_answers _ _ _ _ _ _ _ fun _ => rfl) fun h => ?_
      exact Bool.false_ne_true (hpend ▸ h service tag data rfl)

/-- A service reply that arrives when nothing awaits its tag. -/
def lateServiceReply : Frame := .serviceReply "device" (Tag.issued 1) [("owner", .string "u")]

theorem lateServiceReply_payloadWithin : lateServiceReply.PayloadWithin 126 := by
  rintro d ⟨⟩
  exact ⟨rfl, by decide⟩

/-- The late service reply, with nothing registered. -/
theorem serve_answer_silent_iff_late :
    lateServiceReply.isAnswer = true ∧ lateServiceReply.PayloadWithin 126 ∧
      ((serve (Builder.build ({} : Builder Handler)) ⟨30000⟩
          (classify (fun _ => false) lateServiceReply.encode.toUTF8)).AnswersNothing ↔
        ∀ service tag data, lateServiceReply = .serviceReply service tag data →
          (fun _ => false) tag = true) :=
  ⟨rfl, lateServiceReply_payloadWithin,
    serve_answer_silent_iff _ _ _ rfl lateServiceReply_payloadWithin⟩

/-- **A late service reply is answered**: with nothing pending and nothing registered, a service
reply is answered with a service reply carrying `unknown_service`, under the same tag. -/
theorem serve_late_serviceReply :
    Reaches (serve (Builder.build ({} : Builder Handler)) ⟨30000⟩
        (classify (fun _ => false) lateServiceReply.encode.toUTF8))
      [.sent (.serviceReply "device" (Tag.issued 1) [("error", .string "unknown_service")]) true]
      (.finish .served) := by
  rw [lateServiceReply, classify_encode_serviceReply _ lateServiceReply_payloadWithin]
  exact .send true (.refl _)

end HubService.Session
