import HubService.Service.Link
import HubService.Proofs.Service.Admission

/-!
# What the hub is sent

Main statement (`HubService.Service.Link.registration_leads_queue_order`): over every run of the
connection loop, whatever its connections, failures and the frames queued meanwhile,

* on every connection the registration is the first frame written;
* the frames written after the registration, over all connections in the order they were
  written, form a sublist of the frames queued before the loop started followed by those queued
  along the run, in the order they went in: nothing is written that did not go through the queue,
  no frame is written twice, and none overtakes one queued before it. Frames may be lost, the
  one being written when a connection fails in particular.

What "went in" means is the queue's own discipline (`HubService.Service.Link.frames_act`): an
event takes frames only from the front of the queue and puts them only at the back, so the
frames that went in are what the queue gained at its back.

The argument is a conservation law with losses, as for a queue that may be reset. Call the
*pipeline* of a link the frames written after each registration, then the frame being written,
then the frames queued. The writer taking a frame moves it from the queue into the pipeline's
middle, writing it moves it further, and every other event loses frames at most or puts frames
at the back; so the pipeline after an event is a sublist of the pipeline before followed by the
frames that went in (`HubService.Service.Link.pipeline_act`), and along a run, by induction
(`HubService.Service.Link.pipeline_run`).
-/

namespace HubService.Session

open HubService.Wire

/-! ### How the queue changes -/

/-- How one event changes the frames of the outbound queue: frames come in only at the back,
and leave only from the front. -/
inductive QueueChange (xs : List Frame) : List Frame → Prop
  /-- These frames are put at the back. -/
  | arrive (new : List Frame) : QueueChange xs (xs ++ new)
  /-- Frames leave from the front. -/
  | leave {ys : List Frame} : ys <:+ xs → QueueChange xs ys

/-- The frames put at the back of the queue when its frames went from `xs` to `ys`. -/
def arrivals (xs ys : List Frame) : List Frame := ys.drop xs.length

namespace QueueChange

variable {xs ys : List Frame}

theorem of_eq (h : ys = xs) : QueueChange xs ys := .leave (h ▸ List.suffix_refl xs)

/-- After a change the queue is what is left of it, followed by the frames put at the back. -/
theorem eq_append_arrivals (h : QueueChange xs ys) :
    ∃ kept, kept <:+ xs ∧ ys = kept ++ arrivals xs ys := by
  cases h with
  | arrive new => exact ⟨xs, List.suffix_refl xs, by simp [arrivals]⟩
  | leave hs =>
    refine ⟨ys, hs, ?_⟩
    rw [arrivals, List.drop_eq_nil_of_le hs.length_le, List.append_nil]

/-- What is queued after a change is, in order, among what was queued and what came in. -/
theorem sublist (h : QueueChange xs ys) : ys.Sublist (xs ++ arrivals xs ys) := by
  obtain ⟨kept, hkept, heq⟩ := h.eq_append_arrivals
  have hsub := hkept.sublist.append (List.Sublist.refl (arrivals xs ys))
  rwa [← heq] at hsub

end QueueChange

namespace Outbound

theorem release_frames (q : Outbound) : q.release.1.frames = q.frames := by
  unfold release
  split <;> rfl

/-- The reader takes the first frame, and only it. -/
theorem frames_of_takeOne {q q' : Outbound} {f : Frame} {w : Option Nat}
    (h : q.takeOne = some (f, q', w)) : q.frames = f :: q'.frames := by
  unfold takeOne at h
  split at h
  · rename_i g rest hq
    simp only [Option.some.injEq, Prod.mk.injEq] at h
    obtain ⟨rfl, rfl, -⟩ := h
    rw [hq, release_frames]
  · cases h

/-- Taking every frame leaves what is left at the end of the queue: in fact nothing. -/
theorem takeAll_frames_suffix (q : Outbound) : q.takeAll.2.1.frames <:+ q.frames := by
  suffices h : ∀ fuel (q : Outbound) taken woken,
      (takeAll.go fuel q taken woken).2.1.frames <:+ q.frames from h _ _ _ _
  intro fuel
  induction fuel with
  | zero => intro q _ _; exact List.suffix_refl _
  | succ fuel ih =>
    intro q taken woken
    rw [takeAll.go]
    split
    · rename_i f q' w hq
      rw [frames_of_takeOne hq]
      exact (ih q' _ _).trans (List.suffix_cons f _)
    · exact List.suffix_refl _

theorem queueChange_tryOffer (q : Outbound) (f : Frame) :
    QueueChange q.frames (q.tryOffer f).1.frames := by
  unfold tryOffer
  split
  · exact .of_eq rfl
  · split
    · exact .arrive [f]
    · exact .of_eq rfl

end Outbound

namespace Runtime

theorem spawn_outbound (rt : Runtime) (p : Program) : (rt.spawn p).1.outbound = rt.outbound := by
  rw [spawn_fst, wake_outbound]

/-- Handing on a response leaves the queue as it is. -/
theorem queueChange_resolve (rt : Runtime) (tag : Tag) (data : HubService.Json.Fields) :
    QueueChange rt.outbound.frames (rt.resolve tag data).outbound.frames :=
  .of_eq (by rw [(resolve_frame rt tag data).1])

/-- **A move of the runtime keeps the queue's discipline**: running a task or queueing a reply
puts frames at the back, draining or closing takes them from the front, and dropping a task
leaves the queue as it is. -/
theorem queueChange_move (rt : Runtime) :
    ∀ m, QueueChange rt.outbound.frames (rt.move m).outbound.frames
  | .spawn p => .of_eq (by rw [move, spawn_outbound])
  | .resolve tag data => rt.queueChange_resolve tag data
  | .tryQueue f => rt.outbound.queueChange_tryOffer f
  | .runTask id => by
    rw [move]
    rcases rt.runTask_cases id with ⟨-, hr⟩ | ⟨t, -, -, hr⟩ <;> rw [hr]
    · exact .of_eq rfl
    · obtain ⟨new, hnew⟩ := (advance_frame id t.program t.progress rt).2.1
      exact hnew ▸ .arrive new
  | .cancel id => .of_eq (rt.cancel_cases id).2.2.1
  | .fireDue => QueueChange.of_eq (by rw [move, ← (fireAll_frame rt rt.due).1])
  | .tick d => .of_eq rfl
  | .drain => by
    rw [move, drain_snd, (wakeAll_frame _ _).1]
    exact .leave rt.outbound.takeAll_frames_suffix
  | .close => by
    rw [move, closeOutbound_eq, (wakeAll_frame _ _).1]
    exact .leave List.nil_suffix
  | .schedule ready => .of_eq rfl

end Runtime

end HubService.Session

namespace HubService.Service

open HubService.Wire HubService.Dispatch HubService.Session

/-! ### The reading side keeps the queue's discipline -/

namespace Reader

theorem serveOn_outbound (r : Reader) (k : Nat) (d : DispatchTask) :
    (r.serveOn k d).runtime.outbound = r.runtime.outbound :=
  Runtime.spawn_outbound r.runtime _

theorem poll_outbound (r : Reader) (k : Nat) :
    (r.poll k).runtime.outbound = r.runtime.outbound := by
  unfold poll
  split
  · split
    · split
      · exact serveOn_outbound _ _ _
      · rfl
    · rfl
  · rfl

theorem releasePermit_outbound (r : Reader) :
    r.releasePermit.runtime.outbound = r.runtime.outbound := by
  unfold releasePermit
  split
  · split
    · exact serveOn_outbound _ _ _
    · rfl
  · rfl

theorem finish_outbound (r : Reader) (k : Nat) :
    (r.finish k).runtime.outbound = r.runtime.outbound := by
  unfold finish
  split
  · split
    · split
      · exact releasePermit_outbound _
      · rfl
    · rfl
  · rfl

theorem queueChange_refuseNow (rt : Runtime) (c : Classification) :
    QueueChange rt.outbound.frames (refuseNow rt c).1.outbound.frames := by
  unfold refuseNow
  split
  · exact rt.queueChange_resolve _ _
  · exact rt.outbound.queueChange_tryOffer _
  · exact .of_eq rfl

/-- **The reading side puts frames only at the back of the queue**: its refusals, and what the
tasks of the runtime send. -/
theorem queueChange_act (r : Reader) :
    ∀ e, QueueChange r.runtime.outbound.frames (r.act e).runtime.outbound.frames
  | .read bytes => by
    rcases read_cases r bytes with ⟨tag, data, -, h⟩ | ⟨-, a, -, h⟩ | ⟨-, -, h⟩ <;>
      simp only [act, h]
    · exact r.runtime.queueChange_resolve _ _
    · exact .of_eq rfl
    · exact queueChange_refuseNow _ _
  | .poll k => .of_eq (by rw [act, poll_outbound])
  | .finish k => .of_eq (by rw [act, finish_outbound])
  | .world m => r.runtime.queueChange_move m

end Reader

/-! ### What one event does -/

/-- The frame the writer is writing, if any. -/
def LinkPhase.writing : LinkPhase → Option Frame
  | .serving _ writing => writing
  | _ => none

/-- The frames written on a connection begin with the registration under `name`, if any was
written. -/
def LeadsWith (name : String) (c : List Frame) : Prop :=
  c = [] ∨ ∃ rest, c = .register name :: rest

/-- Once registered, the open connection begins with the registration under `name`. -/
def LinkPhase.Registered (name : String) : LinkPhase → Prop
  | .serving written _ => ∃ rest, written = .register name :: rest
  | _ => True

/-- Where the loop is registered, the open connection leads with the registration; before, it
has nothing written on it. -/
theorem LinkPhase.Registered.socket {name : String} {p : LinkPhase} (h : p.Registered name) :
    ∀ c ∈ p.socket, LeadsWith name c := by
  cases p with
  | registering => simp [LinkPhase.socket, LeadsWith]
  | serving written writing =>
    intro c hc
    rw [LinkPhase.socket, List.mem_singleton] at hc
    exact hc ▸ .inr h
  | connecting | resting => simp [LinkPhase.socket]

namespace Link

variable {l : Link}

@[simp] theorem settings_down (l : Link) (error : TransportError) :
    (l.down error).settings = l.settings := rfl

/-- **What one event can do**: the reading side moves, keeping the queue's discipline; the
connection goes down; a connection is made; the registration is written; the writer takes the
first queued frame; the writer finishes its frame; or the loop wakes to try again. An event that
cannot happen where the loop is changes nothing, which is the reading side not moving. -/
theorem act_cases (l : Link) (e : Event) :
    (∃ r : Reader, l.act e = { l with reader := r } ∧
      QueueChange l.runtime.outbound.frames r.runtime.outbound.frames) ∨
    (∃ error, l.act e = l.down error) ∨
    (l.phase = .connecting ∧ l.act e = { l with phase := .registering }) ∨
    (l.phase = .registering ∧ ∃ reports,
      l.act e = { l with phase := .serving [.register l.settings.serviceName] none, reports }) ∨
    (∃ written f q woken, l.phase = .serving written none ∧
      l.runtime.outbound.takeOne = some (f, q, woken) ∧
      l.act e = { l with
        reader := { l.reader with runtime := ({ l.runtime with outbound := q }).wakeGranted woken },
        phase := .serving written (some f) }) ∨
    (∃ written f, l.phase = .serving written (some f) ∧
      l.act e = { l with phase := .serving (written ++ [f]) none }) ∨
    (l.phase = .resting ∧ ∃ reports, l.act e = { l with phase := .connecting, reports }) := by
  -- an event that cannot happen here leaves the link as it is
  have hstill : ∃ r : Reader, l = { l with reader := r } ∧
      QueueChange l.runtime.outbound.frames r.runtime.outbound.frames :=
    ⟨l.reader, rfl, .of_eq rfl⟩
  cases e with
  | reader e =>
    refine .inl ?_
    rw [act]
    split
    · exact hstill
    · exact ⟨_, rfl, l.reader.queueChange_act e⟩
  | unreachable source =>
    rw [act]
    split
    · exact .inr (.inl ⟨_, rfl⟩)
    · exact .inl hstill
  | connected =>
    rw [act]
    split
    · rename_i hp
      exact .inr (.inr (.inl ⟨hp, rfl⟩))
    · exact .inl hstill
  | registered =>
    rw [act]
    split
    · rename_i hp
      exact .inr (.inr (.inr (.inl ⟨hp, _, rfl⟩)))
    · exact .inl hstill
  | take =>
    rw [act]
    split
    · rename_i written hp
      unfold take
      split
      · rename_i f q woken hq
        exact .inr (.inr (.inr (.inr (.inl ⟨written, f, q, woken, hp, hq, rfl⟩))))
      · exact .inl hstill
    · exact .inl hstill
  | wrote =>
    rw [act]
    split
    · rename_i written f hp
      exact .inr (.inr (.inr (.inr (.inr (.inl ⟨written, f, hp, rfl⟩)))))
    · exact .inl hstill
  | fail error =>
    rw [act]
    split
    · exact .inr (.inl ⟨_, rfl⟩)
    · exact .inr (.inl ⟨_, rfl⟩)
    · exact .inl hstill
  | wake =>
    rw [act]
    split
    · rename_i hp
      exact .inr (.inr (.inr (.inr (.inr (.inr ⟨hp, _, rfl⟩)))))
    · exact .inl hstill

@[simp] theorem settings_act (l : Link) (e : Event) : (l.act e).settings = l.settings := by
  rcases act_cases l e with ⟨r, h, -⟩ | ⟨error, h⟩ | ⟨-, h⟩ | ⟨-, _, h⟩ |
      ⟨_, _, _, _, -, -, h⟩ | ⟨_, _, -, h⟩ | ⟨-, _, h⟩ <;> simp only [h, settings_down]

theorem settings_run (l : Link) (es : List Event) : (l.run es).settings = l.settings := by
  induction es generalizing l with
  | nil => rfl
  | cons e es ih => exact (ih (l.act e)).trans (settings_act l e)

/-- **Every event keeps the queue's discipline**: frames leave only from the front, the writer
taking them, and come in only at the back. -/
theorem queueChange_act (l : Link) (e : Event) :
    QueueChange l.runtime.outbound.frames (l.act e).runtime.outbound.frames := by
  rcases act_cases l e with ⟨r, h, hq⟩ | ⟨error, h⟩ | ⟨-, h⟩ | ⟨-, _, h⟩ |
      ⟨_, f, q, woken, -, hq, h⟩ | ⟨_, _, -, h⟩ | ⟨-, _, h⟩ <;> rw [h]
  · exact hq
  · exact .of_eq rfl
  · exact .of_eq rfl
  · exact .of_eq rfl
  · -- the writer takes the first frame
    refine .leave ?_
    show (Runtime.wakeGranted _ woken).outbound.frames <:+ _
    rw [Runtime.wakeGranted_outbound, Outbound.frames_of_takeOne hq]
    exact List.suffix_cons f _
  · exact .of_eq rfl
  · exact .of_eq rfl

/-- The frames that go into the queue when `e` happens: what the queue gains at its back. -/
def entered (l : Link) (e : Event) : List Frame :=
  arrivals l.runtime.outbound.frames (l.act e).runtime.outbound.frames

/-- The frames that go into the queue along a run, in order. -/
def enteredAlong (l : Link) : List Event → List Frame
  | [] => []
  | e :: es => l.entered e ++ (l.act e).enteredAlong es

/-- After an event the queue is what is left of it, followed by the frames that went in. -/
theorem frames_act (l : Link) (e : Event) :
    ∃ kept, kept <:+ l.runtime.outbound.frames ∧
      (l.act e).runtime.outbound.frames = kept ++ l.entered e :=
  (queueChange_act l e).eq_append_arrivals

/-! ### The registration goes first -/

/-- On every connection that has ended the registration went first, and on the open one too once
registered. -/
structure RegistersFirst (l : Link) : Prop where
  ended : ∀ c ∈ l.ended, LeadsWith l.settings.serviceName c
  phase : l.phase.Registered l.settings.serviceName

theorem RegistersFirst.connections (hl : l.RegistersFirst) :
    ∀ c ∈ l.connections, LeadsWith l.settings.serviceName c := by
  intro c hc
  rcases List.mem_append.mp hc with hc | hc
  · exact hl.ended c hc
  · exact hl.phase.socket c hc

/-- Once registered, the open connection begins with the registration. -/
theorem RegistersFirst.serving (hl : l.RegistersFirst) {written : List Frame}
    {writing : Option Frame} (hp : l.phase = .serving written writing) :
    ∃ rest, written = .register l.settings.serviceName :: rest := by
  have hreg := hl.phase
  rw [hp] at hreg
  exact hreg

theorem RegistersFirst.start (s : ConnectionSettings)
    (registry : HubService.Registry.EndpointRegistry Handler) (handleTimeout : Duration)
    (rt : Runtime) : (start s registry handleTimeout rt).RegistersFirst where
  ended := fun _ hc => (List.not_mem_nil hc).elim
  phase := trivial

/-- **Every event keeps the registration first**: only the registration is written on a
connection before the loop is registered on it, and later frames go after it. -/
theorem RegistersFirst.act (hl : l.RegistersFirst) (e : Event) : (l.act e).RegistersFirst := by
  rcases act_cases l e with ⟨r, h, -⟩ | ⟨error, h⟩ | ⟨hp, h⟩ | ⟨hp, reports, h⟩ |
      ⟨written, f, q, woken, hp, -, h⟩ | ⟨written, f, hp, h⟩ | ⟨hp, reports, h⟩ <;>
    rw [h]
  · exact ⟨hl.ended, hl.phase⟩
  · -- the open connection joins those that ended
    exact ⟨hl.connections, trivial⟩
  · exact ⟨hl.ended, trivial⟩
  · exact ⟨hl.ended, ⟨[], rfl⟩⟩
  · exact ⟨hl.ended, hl.serving hp⟩
  · -- the frame written goes after the registration
    obtain ⟨rest, hw⟩ := hl.serving hp
    exact ⟨hl.ended, ⟨rest ++ [f], by rw [hw, List.cons_append]⟩⟩
  · exact ⟨hl.ended, trivial⟩

theorem RegistersFirst.run (hl : l.RegistersFirst) (es : List Event) :
    (l.run es).RegistersFirst := by
  induction es generalizing l with
  | nil => exact hl
  | cons e es ih => exact ih (hl.act e)

/-! ### The pipeline -/

/-- The frames written after the registration, over all connections, in the order written. -/
def forwarded (l : Link) : List Frame := (l.connections.map List.tail).flatten

/-- The frames the writer took from the queue and has not lost: those written after the
registration, then the one it is writing. -/
def dequeued (l : Link) : List Frame := l.forwarded ++ l.phase.writing.toList

/-- The frames the writer took and has not lost, then the frames queued. -/
def pipeline (l : Link) : List Frame := l.dequeued ++ l.runtime.outbound.frames

theorem dequeued_eq (l : Link) : l.dequeued = (l.ended.map List.tail).flatten ++
    ((l.phase.socket.map List.tail).flatten ++ l.phase.writing.toList) := by
  simp [dequeued, forwarded, connections]

/-- **What one event does to the writer's side**: the writer takes the first queued frame, or
else the writer's side loses frames at most, while the queue keeps its discipline. -/
theorem dequeued_act (hl : l.RegistersFirst) (e : Event) :
    (∃ f, l.runtime.outbound.frames = f :: (l.act e).runtime.outbound.frames ∧
      (l.act e).dequeued = l.dequeued ++ [f]) ∨
    ((l.act e).dequeued.Sublist l.dequeued ∧
      QueueChange l.runtime.outbound.frames (l.act e).runtime.outbound.frames) := by
  have hq := queueChange_act l e
  rcases act_cases l e with ⟨r, h, -⟩ | ⟨error, h⟩ | ⟨hp, h⟩ | ⟨hp, reports, h⟩ |
      ⟨written, f, q, woken, hp, htake, h⟩ | ⟨written, f, hp, h⟩ | ⟨hp, reports, h⟩ <;>
    rw [h] at hq ⊢
  · exact .inr ⟨List.Sublist.refl _, hq⟩
  · -- the frame being written is lost
    refine .inr ⟨?_, hq⟩
    simp [dequeued_eq, down, LinkPhase.socket, LinkPhase.writing]
  · refine .inr ⟨?_, hq⟩
    simp [dequeued_eq, hp, LinkPhase.socket, LinkPhase.writing]
  · refine .inr ⟨?_, hq⟩
    simp [dequeued_eq, hp, LinkPhase.socket, LinkPhase.writing]
  · -- the writer takes the first frame
    refine .inl ⟨f, ?_, ?_⟩
    · show _ = f :: (Runtime.wakeGranted _ woken).outbound.frames
      rw [Runtime.wakeGranted_outbound, Outbound.frames_of_takeOne htake]
    · simp [dequeued_eq, hp, LinkPhase.socket, LinkPhase.writing]
  · -- the frame written moves from the writer to its connection
    obtain ⟨rest, hw⟩ := hl.serving hp
    refine .inr ⟨?_, hq⟩
    simp [dequeued_eq, hp, hw, LinkPhase.socket, LinkPhase.writing]
  · refine .inr ⟨?_, hq⟩
    simp [dequeued_eq, hp, LinkPhase.socket, LinkPhase.writing]

/-- **One event keeps the pipeline in order**: after it, the pipeline is a sublist of the
pipeline before followed by the frames that went in. -/
theorem pipeline_act (hl : l.RegistersFirst) (e : Event) :
    (l.act e).pipeline.Sublist (l.pipeline ++ l.entered e) := by
  rcases dequeued_act hl e with ⟨f, hf, hd⟩ | ⟨hd, hq⟩
  · -- the frame taken moves within the pipeline, and nothing went in
    have hnone : l.entered e = [] := by
      rw [entered, arrivals, hf, List.length_cons]
      exact List.drop_eq_nil_of_le (Nat.le_succ _)
    rw [pipeline, pipeline, hd, hf, hnone]
    simp
  · rw [pipeline, pipeline, List.append_assoc]
    exact hd.append hq.sublist

/-- **A run keeps the pipeline in order**, by induction on the run from the step above. -/
theorem pipeline_run (hl : l.RegistersFirst) (es : List Event) :
    (l.run es).pipeline.Sublist (l.pipeline ++ l.enteredAlong es) := by
  induction es generalizing l with
  | nil => simp [run, enteredAlong]
  | cons e es ih =>
    have hrest := ih (hl.act e)
    rw [enteredAlong, ← List.append_assoc]
    exact hrest.trans ((pipeline_act hl e).append (List.Sublist.refl _))

/-! ### What the hub is sent -/

/-- **The registration comes first, and queued frames keep their order across reconnects.**
Over every run of the connection loop: on every connection the first frame written is the
registration under the service's name; the frames written after it, over all connections in the
order written, are a sublist of the frames queued before the loop started followed by those that
went into the queue along the run, in order; and what went in is what an event put at the back
of the queue, since every event takes frames only from its front. -/
theorem registration_leads_queue_order (s : ConnectionSettings)
    (registry : HubService.Registry.EndpointRegistry Handler) (handleTimeout : Duration)
    (rt : Runtime) (es : List Event) :
    (∀ c ∈ ((start s registry handleTimeout rt).run es).connections,
        c = [] ∨ ∃ rest, c = .register s.serviceName :: rest) ∧
      ((start s registry handleTimeout rt).run es).forwarded.Sublist
        (rt.outbound.frames ++ (start s registry handleTimeout rt).enteredAlong es) ∧
      ∀ (l : Link) (e : Event), ∃ kept, kept <:+ l.runtime.outbound.frames ∧
        (l.act e).runtime.outbound.frames = kept ++ l.entered e := by
  have hl := RegistersFirst.start s registry handleTimeout rt
  refine ⟨fun c hc => ?_, ?_, frames_act⟩
  · have hc' := (hl.run es).connections c hc
    rw [settings_run] at hc'
    exact hc'
  · -- what was written after each registration is the front of the pipeline, which starts
    -- as the frames queued before
    have hfront : ((start s registry handleTimeout rt).run es).forwarded.Sublist
        ((start s registry handleTimeout rt).run es).pipeline := by
      rw [pipeline, dequeued, List.append_assoc]
      exact List.sublist_append_left _ _
    exact hfront.trans (pipeline_run hl es)

-- a frame queued before the first connection goes right after its registration, and the next
-- connection registers again
example : ((start ⟨"hub", "svc", ⟨5⟩, 1, 16⟩ (HubService.Registry.Builder.build {}) ⟨10⟩
      ((Runtime.start 1 Tag.issued).tryQueue (.notice .internalError)).1).run
      [.connected, .registered, .take, .wrote, .fail .closed, .wake, .connected,
        .registered]).connections =
    [[.register "svc", .notice .internalError], [.register "svc"]] := by
  rfl

end Link

end HubService.Service
