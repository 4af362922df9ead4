import HubService.Session.Handler

/-!
# Runs of a task

A task (`HubService.Session.Program`) waits on the world at each of its operations: a send
learns whether its frame went in, a call is given a tag and then a response or a failure. A
*run* lists the operations a task went through with what the world gave back
(`HubService.Session.Event`), and `HubService.Session.Reaches p es q` says that the task `p`,
through the events `es`, comes to `q`. A run is *complete* when it comes to `finish`. Nothing
constrains the world's answers, so what holds of every run holds whatever the outbound queue,
the hub and the clock do.

A handler hands its result to whatever follows it. `HubService.Session.Handler.Yields` says what
a handler does in a run whatever follows: the events it goes through and the result it hands
on. Every complete run of a handler and what follows it is the handler's part, then the rest's
(`HubService.Session.Handler.reaches_run`), and the world can always let a handler finish
(`HubService.Session.Handler.exists_yields`). A handler answers nothing itself: the frames it
sends are pushes to users and calls (`HubService.Session.Handler.Yields.answers_eq_nil`).
-/

namespace HubService.Wire.Frame

/-- Whether a frame answers an inbound frame: a reply, a service reply or a notice. -/
def isAnswer : Frame → Bool
  | .reply .. | .serviceReply .. | .notice _ => true
  | _ => false

end HubService.Wire.Frame

namespace HubService.Session

open HubService.Wire HubService.Json

/-- One operation of a run, with what the world gave back. -/
inductive Event where
  /-- A frame was offered to the outbound queue, and went in or not. -/
  | sent (frame : Frame) (queued : Bool)
  /-- A call went out with this frame, built from the tag the call was given, and got this
  answer. -/
  | called (frame : Frame) (answer : Except CallError Fields)
  /-- A response was handed to the call waiting for its tag. -/
  | resolved (tag : Tag) (data : Fields)

/-- The frame an event answers with, when it sends an answer. -/
def Event.answer? : Event → Option Frame
  | .sent frame _ => if frame.isAnswer then some frame else none
  | _ => none

/-- The answers a run sends, in order. -/
def answers (es : List Event) : List Frame := es.filterMap Event.answer?

@[simp] theorem answers_nil : answers [] = [] := rfl

@[simp] theorem answers_append (es es' : List Event) :
    answers (es ++ es') = answers es ++ answers es' :=
  List.filterMap_append

theorem answers_sent {frame : Frame} (h : frame.isAnswer = true) (queued : Bool) :
    answers [.sent frame queued] = [frame] := by
  simp [answers, Event.answer?, h]

/-- `Reaches p es q`: the task `p`, through the events `es`, comes to `q`. -/
inductive Reaches : Program → List Event → Program → Prop
  | refl (p : Program) : Reaches p [] p
  | send {frame : Frame} {next : Bool → Program} {es : List Event} {q : Program} (queued : Bool) :
      Reaches (next queued) es q → Reaches (.send frame next) (.sent frame queued :: es) q
  | exchange {frame : Tag → Frame} {timeout : Duration} {next : Except CallError Fields → Program}
      {es : List Event} {q : Program} (tag : Tag) (answer : Except CallError Fields) :
      Reaches (next answer) es q →
        Reaches (.exchange frame timeout next) (.called (frame tag) answer :: es) q
  | resolve {tag : Tag} {data : Fields} {next : Program} {es : List Event} {q : Program} :
      Reaches next es q → Reaches (.resolve tag data next) (.resolved tag data :: es) q

namespace Reaches

/-- A run to `q` followed by a run from `q` is a run. -/
theorem trans {p q r : Program} {es es' : List Event} (h : Reaches p es q) (h' : Reaches q es' r) :
    Reaches p (es ++ es') r := by
  induction h with
  | refl => exact h'
  | send queued _ ih => exact .send queued (ih h')
  | exchange tag answer _ ih => exact .exchange tag answer (ih h')
  | resolve _ ih => exact .resolve (ih h')

end Reaches

/-! ### Complete runs, operation by operation -/

section Complete

variable {es : List Event} {o : Outcome}

theorem reaches_finish_iff {o' : Outcome} :
    Reaches (.finish o') es (.finish o) ↔ es = [] ∧ o = o' := by
  constructor
  · rintro ⟨⟩
    exact ⟨rfl, rfl⟩
  · rintro ⟨rfl, rfl⟩
    exact .refl _

theorem reaches_send_iff {frame : Frame} {next : Bool → Program} :
    Reaches (.send frame next) es (.finish o) ↔
      ∃ queued rest, es = .sent frame queued :: rest ∧ Reaches (next queued) rest (.finish o) := by
  constructor
  · rintro (_ | ⟨queued, h⟩)
    exact ⟨queued, _, rfl, h⟩
  · rintro ⟨queued, rest, rfl, h⟩
    exact .send queued h

theorem reaches_exchange_iff {frame : Tag → Frame} {timeout : Duration}
    {next : Except CallError Fields → Program} :
    Reaches (.exchange frame timeout next) es (.finish o) ↔
      ∃ tag answer rest, es = .called (frame tag) answer :: rest ∧
        Reaches (next answer) rest (.finish o) := by
  constructor
  · rintro (_ | _ | ⟨tag, answer, h⟩)
    exact ⟨tag, answer, _, rfl, h⟩
  · rintro ⟨tag, answer, rest, rfl, h⟩
    exact .exchange tag answer h

theorem reaches_resolve_iff {tag : Tag} {data : Fields} {next : Program} :
    Reaches (.resolve tag data next) es (.finish o) ↔
      ∃ rest, es = .resolved tag data :: rest ∧ Reaches next rest (.finish o) := by
  constructor
  · rintro (_ | _ | _ | h)
    exact ⟨_, rfl, h⟩
  · rintro ⟨rest, rfl, h⟩
    exact .resolve h

/-- A task that sends one frame and finishes. -/
theorem reaches_send_finish_iff {frame : Frame} {o' : Outcome} :
    Reaches (.send frame fun _ => .finish o') es (.finish o) ↔
      (∃ queued, es = [.sent frame queued]) ∧ o = o' := by
  rw [reaches_send_iff]
  constructor
  · rintro ⟨queued, rest, rfl, h⟩
    obtain ⟨rfl, rfl⟩ := reaches_finish_iff.mp h
    exact ⟨⟨queued, rfl⟩, rfl⟩
  · rintro ⟨⟨queued, rfl⟩, rfl⟩
    exact ⟨queued, [], rfl, .refl _⟩

end Complete

/-! ### What a handler does -/

namespace Handler

/-- In a run, the handler `h` goes through the events `hs` and hands on `r`, whatever follows
it. -/
def Yields (h : Handler) (data : Fields) (caller : String) (callingUser : Option Uuid)
    (handleTimeout : Duration) (hs : List Event) (r : Except String Fields) : Prop :=
  ∀ next, Reaches (h.run data caller callingUser handleTimeout next) hs (next r)

section

variable {h : Handler} {data : Fields} {caller : String} {callingUser : Option Uuid}
  {handleTimeout : Duration}

/-- **What a handler does before it hands on its result**: nothing, one call, or one push of
the request's data to a user. -/
theorem run_cases :
    (∃ r, ∀ next, h.run data caller callingUser handleTimeout next = next r) ∨
    (∃ (frame : Tag → Frame) (timeout : Duration) (conv : Except CallError Fields → Except String Fields),
      ∀ next, h.run data caller callingUser handleTimeout next =
        .exchange frame timeout fun answer => next (conv answer)) ∨
    (∃ (user : Uuid) (conv : Bool → Except String Fields),
      ∀ next, h.run data caller callingUser handleTimeout next =
        .send (.address user data) fun queued => next (conv queued)) := by
  cases h with
  | echo | constant _ | caller | field _ | fail _ | panic _ | dataKeys =>
    exact .inl ⟨_, fun _ => rfl⟩
  | call service endpoint timeout => exact .inr (.inl ⟨_, _, _, fun _ => rfl⟩)
  | fetchUser named =>
    cases ht : target named callingUser with
    | error e => exact .inl ⟨.error e, fun _ => by simp only [run, ht]⟩
    | ok user =>
      -- what the handler hands on is read off the lookup's own answer
      refine .inr (.inl ⟨Frame.userLookup user, handleTimeout, ?conv, fun _ => ?shape⟩)
      case shape =>
        rw [run, ht]
        rfl
  | push named =>
    cases ht : target named callingUser with
    | error e => exact .inl ⟨.error e, fun _ => by simp only [run, ht]⟩
    | ok user =>
      refine .inr (.inr ⟨user, fun queued =>
        if queued then .ok [("pushed", .bool true)] else .error closedMessage, fun _ => ?_⟩)
      simp only [run, ht, Program.sendToUser]

/-- The handler's part of a run, then a run of what follows it. -/
theorem Yields.reaches {hs : List Event} {r : Except String Fields}
    {next : Except String Fields → Program} {es : List Event} {q : Program}
    (hy : h.Yields data caller callingUser handleTimeout hs r) (hnext : Reaches (next r) es q) :
    Reaches (h.run data caller callingUser handleTimeout next) (hs ++ es) q :=
  (hy next).trans hnext

/-- **A complete run of a handler and what follows it** is the handler's part, then the
rest's. -/
theorem reaches_run {next : Except String Fields → Program} {es : List Event} {o : Outcome}
    (hr : Reaches (h.run data caller callingUser handleTimeout next) es (.finish o)) :
    ∃ hs r rest, es = hs ++ rest ∧ h.Yields data caller callingUser handleTimeout hs r ∧
      Reaches (next r) rest (.finish o) := by
  rcases run_cases with ⟨r, hrun⟩ | ⟨frame, timeout, conv, hrun⟩ | ⟨user, conv, hrun⟩
  · exact ⟨[], r, es, rfl, fun k => hrun k ▸ .refl _, hrun next ▸ hr⟩
  · rw [hrun] at hr
    obtain ⟨tag, answer, rest, rfl, hrest⟩ := reaches_exchange_iff.mp hr
    exact ⟨[.called (frame tag) answer], conv answer, rest, rfl,
      fun k => hrun k ▸ .exchange tag answer (.refl _), hrest⟩
  · rw [hrun] at hr
    obtain ⟨queued, rest, rfl, hrest⟩ := reaches_send_iff.mp hr
    exact ⟨[.sent (.address user data) queued], conv queued, rest, rfl,
      fun k => hrun k ▸ .send queued (.refl _), hrest⟩

/-- The world can always let a handler finish: every handler yields in some run. -/
theorem exists_yields : ∃ hs r, h.Yields data caller callingUser handleTimeout hs r := by
  rcases run_cases with ⟨r, hrun⟩ | ⟨frame, timeout, conv, hrun⟩ | ⟨user, conv, hrun⟩
  · exact ⟨[], r, fun k => hrun k ▸ .refl _⟩
  · -- the call is given some tag and fails
    refine ⟨[.called (frame (Tag.issued 0)) (.error .disconnected)], conv (.error .disconnected),
      fun k => ?_⟩
    rw [hrun k]
    exact .exchange _ _ (.refl _)
  · refine ⟨[.sent (.address user data) false], conv false, fun k => ?_⟩
    rw [hrun k]
    exact .send false (.refl _)

/-- **A handler answers nothing itself**: it sends only pushes to users and calls. -/
theorem Yields.answers_eq_nil {hs : List Event} {r : Except String Fields}
    (hy : h.Yields data caller callingUser handleTimeout hs r) : answers hs = [] := by
  -- follow the handler by a task that finishes at once, and read the events of that run
  have hr := hy fun _ => .finish .served
  rcases run_cases with ⟨r', hrun⟩ | ⟨frame, timeout, conv, hrun⟩ | ⟨user, conv, hrun⟩
  · rw [hrun] at hr
    rw [(reaches_finish_iff.mp hr).1]
    rfl
  · rw [hrun] at hr
    obtain ⟨tag, answer, rest, rfl, hrest⟩ := reaches_exchange_iff.mp hr
    rw [(reaches_finish_iff.mp hrest).1]
    rfl
  · rw [hrun] at hr
    obtain ⟨queued, rest, rfl, hrest⟩ := reaches_send_iff.mp hr
    rw [(reaches_finish_iff.mp hrest).1]
    rfl

end

end Handler

end HubService.Session
