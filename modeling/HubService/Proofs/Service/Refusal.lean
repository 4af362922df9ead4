import HubService.Proofs.Service.Admission
import HubService.Proofs.Session.Replies

/-!
# Refusing agrees with serving, but for the handler

A connection with no admission free refuses an inbound frame instead of serving it
(`HubService.Session.refuse`, applied by `HubService.Service.refuseNow`). Refusing builds its
answer case by case, apart from serving, so the two could drift: a reply under another tag, to
another service or of another kind would misroute answers only while the service is overloaded.
This module compares them on every classified frame
(`HubService.Service.refuse_agrees_with_serve`):

* refusing starts no task, so no handler runs;
* a response is handed to its call, the one thing serving does with it, and nothing answers it;
* a rejection is answered with exactly the frame serving sends;
* a request is answered with a frame of the kind serving answers it with, under the same tag and,
  for a service, to the same calling service, carrying `internal_error`.

What serving sends is read off the complete runs of its task (`HubService.Session.Reaches`):
whatever the world answers, a served request is answered once in every complete run, with a
frame built the same way, and some complete run exists.
-/

namespace HubService.Session

open HubService.Wire HubService.Json HubService.Dispatch HubService.Registry

/-- The task answers under `reply`: it has a complete run, and every complete run answers once,
with `reply` of some payload. -/
def Program.AnswersUnder (p : Program) (reply : Fields → Frame) : Prop :=
  (∃ es o, Reaches p es (.finish o)) ∧
    ∀ es o, Reaches p es (.finish o) → ∃ payload, answers es = [reply payload]

section Request

variable {registry : EndpointRegistry Handler} {handleTimeout : Duration} {origin : Origin}
  {endpoint : Option EndpointPath} {data : Fields} {caller : String} {callingUser : Option Uuid}
  {reply : Fields → Frame}

/-- Every complete run of a served request answers it once, with `reply`, whatever the registry
holds and whatever its handler does. -/
theorem serveRequest_answers_once (hreply : ∀ payload, (reply payload).isAnswer = true)
    {es : List Event} {o : Outcome}
    (hr : Reaches (serveRequest registry handleTimeout origin endpoint data caller callingUser
      reply) es (.finish o)) :
    ∃ payload, answers es = [reply payload] := by
  unfold serveRequest at hr
  dsimp only at hr
  split at hr
  · obtain ⟨⟨queued, rfl⟩, -⟩ := reaches_send_finish_iff.mp hr
    exact ⟨_, answers_sent (hreply _) queued⟩
  · split at hr
    · obtain ⟨⟨queued, rfl⟩, -⟩ := reaches_send_finish_iff.mp hr
      exact ⟨_, answers_sent (hreply _) queued⟩
    · -- the handler's own events answer nothing; the reply after them is the answer
      obtain ⟨hs, r, rest, rfl, hy, hrest⟩ := Handler.reaches_run hr
      obtain ⟨⟨queued, rfl⟩, -⟩ := reaches_send_finish_iff.mp hrest
      rw [answers_append, hy.answers_eq_nil, List.nil_append]
      exact ⟨_, answers_sent (hreply _) queued⟩

/-- **A served request answers under its reply**: it completes in some run, and every complete
run answers it once, with `reply`. -/
theorem serveRequest_answersUnder (hreply : ∀ payload, (reply payload).isAnswer = true) :
    (serveRequest registry handleTimeout origin endpoint data caller callingUser
      reply).AnswersUnder reply := by
  refine ⟨?_, fun es o hr => serveRequest_answers_once hreply hr⟩
  -- a complete run that answers, which `serveRequest_answers` says exists
  have hsome := serveRequest_answers registry handleTimeout origin endpoint data caller
    callingUser hreply
  simp only [Program.AnswersNothing, not_forall] at hsome
  obtain ⟨es, o, hr, -⟩ := hsome
  exact ⟨es, o, hr⟩

end Request

end HubService.Session

namespace HubService.Service

open HubService.Wire HubService.Json HubService.Dispatch HubService.Registry HubService.Session

/-- Refusing starts no task: it only hands a response on or offers a reply. -/
theorem refuseNow_tasks_size (rt : Runtime) (c : Classification) :
    (refuseNow rt c).1.tasks.size = rt.tasks.size := by
  unfold refuseNow
  split
  · exact rt.resolve_size _ _
  · rfl
  · rfl

/-- **Refusing agrees with serving on everything but the handler.** For every classified frame
and every registry: refusing starts no task; a response is handed to its call, which is all that
serving does with it; a rejection is answered with exactly what serving answers it with; and a
request is answered with `{"error": "internal_error"}` in a frame of the kind serving answers it
with, under the same tag and, for a service, to the same calling service. -/
theorem refuse_agrees_with_serve (registry : EndpointRegistry Handler) (handleTimeout : Duration)
    (c : Classification) :
    (∀ rt, (refuseNow rt c).1.tasks.size = rt.tasks.size) ∧
    (∀ tag data, c = .response tag data →
      refuse c = .resolve tag data ∧
        ∀ es o, Reaches (serve registry handleTimeout c) es (.finish o) ↔
          es = [.resolved tag data] ∧ o = .served) ∧
    (∀ r, c = .rejected r →
      refuse c = .reply r.reply ∧
        (∃ es o, Reaches (serve registry handleTimeout c) es (.finish o)) ∧
        ∀ es o, Reaches (serve registry handleTimeout c) es (.finish o) →
          answers es = r.reply.toList) ∧
    (∀ req, c = .userRequest req →
      refuse c = .reply (some (.reply req.tag [("error", .string "internal_error")])) ∧
        (serve registry handleTimeout c).AnswersUnder (Frame.reply req.tag)) ∧
    (∀ req, c = .serviceRequest req →
      refuse c =
          .reply (some (.serviceReply req.caller req.tag [("error", .string "internal_error")])) ∧
        (serve registry handleTimeout c).AnswersUnder (Frame.serviceReply req.caller req.tag)) := by
  refine ⟨fun rt => refuseNow_tasks_size rt c, ?response, ?rejected, ?user, ?service⟩
  case response =>
    rintro tag data rfl
    refine ⟨rfl, fun es o => ?_⟩
    simp only [serve, reaches_resolve_iff, reaches_finish_iff]
    constructor
    · rintro ⟨rest, rfl, rfl, rfl⟩
      exact ⟨rfl, rfl⟩
    · rintro ⟨rfl, rfl⟩
      exact ⟨[], rfl, rfl, rfl⟩
  case rejected =>
    rintro r rfl
    refine ⟨rfl, ?_⟩
    -- serving sends the rejection's reply, if it has one, and finishes
    cases hreply : r.reply with
    | none =>
      simp only [serve, hreply, reaches_finish_iff]
      refine ⟨⟨[], .served, rfl, rfl⟩, ?_⟩
      rintro es o ⟨rfl, -⟩
      rfl
    | some f =>
      simp only [serve, hreply, reaches_send_finish_iff]
      refine ⟨⟨[.sent f true], .served, ⟨true, rfl⟩, rfl⟩, ?_⟩
      rintro es o ⟨⟨queued, rfl⟩, -⟩
      exact answers_sent (Rejection.reply_isAnswer hreply) queued
  case user =>
    rintro req rfl
    exact ⟨rfl, serveRequest_answersUnder fun _ => rfl⟩
  case service =>
    rintro req rfl
    exact ⟨rfl, serveRequest_answersUnder fun _ => rfl⟩

end HubService.Service
