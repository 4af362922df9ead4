import HubService.Service.Reader
import HubService.Proofs.Session.Moves

/-!
# Admission is bounded, and every frame is handled once

The reading side of a connection (`HubService.Service.Reader`) counts two kinds of permit:
admissions, taken by the reader for each frame it hands to a dispatch task and given back when
the task ends, and dispatch permits, taken by a task before it serves its frame. Along every run,
whatever frames arrive, whatever the tasks and the queue do
(`HubService.Service.Reader.admission_bounded`):

* at most `admissionSlots` dispatch tasks are live, and at most `dispatchSlots` of them hold a
  permit, because each live task holds one admission and each serving task one permit
  (`HubService.Service.Reader.Inv`);
* a response is handed to its call by the reader itself, without an admission; any other frame
  is admitted on a new dispatch task while fewer than `admissionSlots` tasks are live, and
  refused at once otherwise, never both (`HubService.Service.Reader.Handles`);
* the reader never waits: it takes no permit, and joins neither the line for a permit nor the
  line for room in the outbound queue.

Settings read from a configuration admit 16 tasks per permit.

The invariant is kept event by event: the reader's step (`HubService.Service.Reader.read_cases`),
a task's first run, a task's end, and a move of the runtime. Counting the tasks of one kind after
one of them changes is `HubService.Service.Reader.countP_set!`.
-/

namespace HubService.Dispatch

/-- Whether a classified frame is a response to a call. -/
def Classification.isResponse : Classification → Bool
  | .response .. => true
  | _ => false

end HubService.Dispatch

namespace HubService.Service

open HubService.Wire HubService.Json HubService.Dispatch HubService.Session

namespace Reader

/-! ### Counting tasks -/

/-- Replacing one task changes a count of tasks by what the two tasks count. -/
theorem countP_set! {p : DispatchTask → Bool} {xs : Array DispatchTask} {k : Nat}
    {d d' : DispatchTask} (h : xs[k]? = some d) :
    (xs.set! k d').toList.countP p + (if p d then 1 else 0) =
      xs.toList.countP p + (if p d' then 1 else 0) := by
  obtain ⟨hk, rfl⟩ := Array.getElem?_eq_some_iff.mp h
  have hk' : k < xs.toList.length := by simpa using hk
  -- the task replaced is counted in the old count, if it counts
  have hpos : (if p xs[k] then 1 else 0) ≤ xs.toList.countP p := by
    split
    · exact List.countP_pos_iff.mpr ⟨xs[k], List.mem_of_getElem (Array.getElem_toList hk), by
        assumption⟩
    · exact Nat.zero_le _
  rw [Array.set!_eq_setIfInBounds, Array.toList_setIfInBounds, List.countP_set hk',
    Array.getElem_toList hk]
  omega

theorem countP_push {p : DispatchTask → Bool} (xs : Array DispatchTask) (d : DispatchTask) :
    (xs.push d).toList.countP p = xs.toList.countP p + (if p d then 1 else 0) := by
  simp [List.countP_append, List.countP_singleton]

/-- A new task is live, and holds no permit. -/
theorem live_push (r : Reader) (c : Classification) (a : Nat) :
    ({ r with admissions := a, dispatches := r.dispatches.push { work := c } } : Reader).live =
      r.live + 1 := by
  simp only [live, countP_push]
  rfl

theorem holding_push (r : Reader) (c : Classification) (a : Nat) :
    ({ r with admissions := a, dispatches := r.dispatches.push { work := c } } : Reader).holding =
      r.holding := by
  simp only [holding, countP_push]
  rfl

/-- A task's stage is all that a count of live tasks reads. -/
theorem live_set! {r r' : Reader} {k : Nat} {d : DispatchTask} (h : r.dispatches[k]? = some d)
    {stage : DispatchStage} (h' : r'.dispatches = r.dispatches.set! k { d with stage }) :
    r'.live + (if d.stage != .ended then 1 else 0) = r.live + (if stage != .ended then 1 else 0) := by
  rw [live, h']
  exact countP_set! h

theorem holding_set! {r r' : Reader} {k : Nat} {d : DispatchTask} (h : r.dispatches[k]? = some d)
    {stage : DispatchStage} (h' : r'.dispatches = r.dispatches.set! k { d with stage }) :
    r'.holding + (if d.stage.holdsPermit then 1 else 0) =
      r.holding + (if stage.holdsPermit then 1 else 0) := by
  rw [holding, h']
  exact countP_set! h

/-- Replacing one task leaves the others where they are. -/
theorem getElem?_set!_ne {xs : Array DispatchTask} {k n : Nat} (x : DispatchTask) (h : n ≠ k) :
    (xs.set! k x)[n]? = xs[n]? := by
  rw [Array.set!_eq_setIfInBounds, Array.getElem?_setIfInBounds_ne (Ne.symm h)]

theorem getElem?_set!_self {xs : Array DispatchTask} {k : Nat} {d : DispatchTask} (x : DispatchTask)
    (h : xs[k]? = some d) : (xs.set! k x)[k]? = some x := by
  rw [Array.set!_eq_setIfInBounds,
    Array.getElem?_setIfInBounds_self_of_lt (Array.getElem?_eq_some_iff.mp h).1]

/-- The line of waiting tasks after one task changes stage: it gains the task if the task now
waits, loses it if it no longer does, and is otherwise the same. -/
theorem line_iff_set! {xs : Array DispatchTask} {line line' : List Nat} {k : Nat}
    {d : DispatchTask} {stage : DispatchStage}
    (hline : ∀ n, n ∈ line ↔ ∃ d, xs[n]? = some d ∧ d.stage = .waiting) (hd : xs[k]? = some d)
    (hother : ∀ n, n ≠ k → (n ∈ line' ↔ n ∈ line)) (hk : k ∈ line' ↔ stage = .waiting) :
    ∀ n, n ∈ line' ↔ ∃ d', (xs.set! k { d with stage })[n]? = some d' ∧ d'.stage = .waiting := by
  intro n
  by_cases hnk : n = k
  · subst hnk
    rw [getElem?_set!_self _ hd, hk]
    simp
  · rw [getElem?_set!_ne _ hnk, hother n hnk, hline n]

/-! ### The invariant -/

/-- What the reading side of a connection with settings `s` keeps along every run. -/
structure Inv (s : ConnectionSettings) (r : Reader) : Prop where
  /-- Each live dispatch task holds one admission. -/
  admissions : r.admissions + r.live = s.admissionSlots
  /-- Each serving dispatch task holds one permit. -/
  permits : r.permits + r.holding = s.dispatchSlots
  /-- The line holds exactly the tasks waiting for a permit, -/
  line : ∀ k, k ∈ r.line ↔ ∃ d, r.dispatches[k]? = some d ∧ d.stage = .waiting
  /-- each once. -/
  line_nodup : r.line.Nodup

variable {s : ConnectionSettings} {r : Reader}

theorem Inv.start (registry : HubService.Registry.EndpointRegistry Handler)
    (handleTimeout : Duration) (rt : Runtime) :
    Inv s (Reader.start s registry handleTimeout rt) where
  admissions := rfl
  permits := rfl
  line k := by simp [Reader.start]
  line_nodup := List.nodup_nil

theorem Inv.live_le (h : Inv s r) : r.live ≤ s.admissionSlots := by
  have := h.admissions
  omega

theorem Inv.holding_le (h : Inv s r) : r.holding ≤ s.dispatchSlots := by
  have := h.permits
  omega

/-- A change of runtime alone keeps the invariant. -/
theorem Inv.runtime (h : Inv s r) (rt : Runtime) : Inv s { r with runtime := rt } :=
  ⟨h.admissions, h.permits, h.line, h.line_nodup⟩

/-- A task that is not waiting is not in line. -/
theorem Inv.not_mem_line (h : Inv s r) {k : Nat} {d : DispatchTask} (hd : r.dispatches[k]? = some d)
    (hw : d.stage ≠ .waiting) : k ∉ r.line := fun hk => by
  obtain ⟨d', hd', hw'⟩ := (h.line k).mp hk
  rw [hd, Option.some.injEq] at hd'
  exact hw (hd' ▸ hw')

/-! ### The reader's step -/

/-- **What the reader does with a frame.** A response goes to its call; any other frame takes a
free admission and a new dispatch task, or, with none free, is refused at once. -/
theorem read_cases (r : Reader) (bytes : ByteArray) :
    (∃ tag data, classify r.runtime.pending.contains bytes = .response tag data ∧
      r.read bytes = ({ r with runtime := r.runtime.resolve tag data }, .resolved)) ∨
    ((classify r.runtime.pending.contains bytes).isResponse = false ∧ ∃ a, r.admissions = a + 1 ∧
      r.read bytes =
        ({ r with
            admissions := a,
            dispatches := r.dispatches.push { work := classify r.runtime.pending.contains bytes } },
          .admitted r.dispatches.size)) ∨
    ((classify r.runtime.pending.contains bytes).isResponse = false ∧ r.admissions = 0 ∧
      r.read bytes =
        ({ r with runtime := (refuseNow r.runtime (classify r.runtime.pending.contains bytes)).1 },
          .refused (refuseNow r.runtime (classify r.runtime.pending.contains bytes)).2)) := by
  unfold Reader.read
  generalize classify r.runtime.pending.contains bytes = c
  cases c with
  | response tag data => exact .inl ⟨tag, data, rfl, rfl⟩
  | rejected rej => cases r.admissions <;> simp [Classification.isResponse]
  | userRequest req => cases r.admissions <;> simp [Classification.isResponse]
  | serviceRequest req => cases r.admissions <;> simp [Classification.isResponse]

theorem Inv.read (h : Inv s r) (bytes : ByteArray) : Inv s (r.read bytes).1 := by
  rcases read_cases r bytes with ⟨tag, data, -, heq⟩ | ⟨-, a, ha, heq⟩ | ⟨-, -, heq⟩
  · rw [heq]
    exact h.runtime _
  · rw [heq]
    -- the new task is live, not in line, and holds no permit
    have hadm := h.admissions
    rw [ha] at hadm
    refine ⟨?_, ?_, fun k => ?_, h.line_nodup⟩
    · rw [live_push]
      show a + (r.live + 1) = _
      omega
    · rw [holding_push]
      exact h.permits
    · rw [h.line k, Array.getElem?_push]
      split
      · rename_i hk
        subst hk
        simp
      · rfl
  · rw [heq]
    exact h.runtime _

/-! ### A dispatch task's first run and its end -/

/-- **One task changes stage.** The invariant holds after it when the free admissions and
permits change by what the task gives back or takes, and the line gains or loses the task as it
starts or stops waiting. -/
theorem Inv.restage (h : Inv s r) {k : Nat} {d : DispatchTask} (hd : r.dispatches[k]? = some d)
    {stage : DispatchStage} {r' : Reader}
    (hdisp : r'.dispatches = r.dispatches.set! k { d with stage })
    (hadm : r'.admissions + (if stage != .ended then 1 else 0) =
      r.admissions + (if d.stage != .ended then 1 else 0))
    (hper : r'.permits + (if stage.holdsPermit then 1 else 0) =
      r.permits + (if d.stage.holdsPermit then 1 else 0))
    (hother : ∀ n, n ≠ k → (n ∈ r'.line ↔ n ∈ r.line)) (hk : k ∈ r'.line ↔ stage = .waiting)
    (hnodup : r'.line.Nodup) : Inv s r' where
  admissions := by
    have hlive := live_set! hd hdisp
    have := h.admissions
    omega
  permits := by
    have hhold := holding_set! hd hdisp
    have := h.permits
    omega
  line := by
    rw [hdisp]
    exact line_iff_set! h.line hd hother hk
  line_nodup := hnodup

theorem Inv.poll (h : Inv s r) (k : Nat) : Inv s (r.poll k) := by
  unfold Reader.poll
  split
  · rename_i d hd
    split
    · rename_i hstage
      have hout : k ∉ r.line := h.not_mem_line hd (by rw [hstage]; simp)
      split
      · -- a free permit: the task takes it and serves
        rename_i p hp
        refine h.restage hd rfl (by simp [serveOn, hstage]) ?_ (fun _ _ => Iff.rfl) ?_ h.line_nodup
        · simp [serveOn, hstage, hp, DispatchStage.holdsPermit]
        · simp [serveOn, hout]
      · -- no permit free: the task joins the line
        refine h.restage hd rfl (by simp [hstage]) (by simp [hstage, DispatchStage.holdsPermit])
          (fun n hn => by simp [hn]) (by simp) ?_
        exact h.line_nodup.append (List.nodup_singleton k) (List.disjoint_singleton.mpr hout)
    · exact h
  · exact h

/-- A freed permit goes to the first task in line, or is kept free: from a runtime that keeps
the invariant with the permit still free. -/
theorem Inv.releasePermit {r₁ : Reader} (h : Inv s { r₁ with permits := r₁.permits + 1 }) :
    Inv s r₁.releasePermit := by
  unfold Reader.releasePermit
  split
  · rename_i w rest hline
    have hw : w ∈ r₁.line := by rw [hline]; exact List.mem_cons_self
    obtain ⟨dw, hdw, hwait⟩ := (h.line w).mp hw
    have hnodup : (w :: rest).Nodup := hline ▸ h.line_nodup
    have hdw' : r₁.dispatches[w]? = some dw := hdw
    simp only [hdw']
    -- the first in line takes the permit and starts serving
    refine h.restage hdw rfl (by simp [serveOn, hwait]) ?_ (fun n hn => ?_) ?_
      (List.nodup_cons.mp hnodup).2
    · simp [serveOn, hwait, DispatchStage.holdsPermit]
    · show n ∈ rest ↔ n ∈ r₁.line
      simp [hline, hn]
    · show w ∈ rest ↔ _
      simp [(List.nodup_cons.mp hnodup).1]
  · exact h

theorem Inv.finish (h : Inv s r) (k : Nat) : Inv s (r.finish k) := by
  unfold Reader.finish
  split
  · rename_i d hd
    split
    · rename_i id hstage
      split
      · -- the task ends, giving back its admission and its permit
        have hout : k ∉ r.line := h.not_mem_line hd (by rw [hstage]; simp)
        apply Inv.releasePermit
        refine h.restage hd rfl (by simp [hstage]) (by simp [hstage, DispatchStage.holdsPermit])
          (fun _ _ => Iff.rfl) (by simp [hout]) h.line_nodup
      · exact h
    · exact h
  · exact h

theorem Inv.act (h : Inv s r) : ∀ e, Inv s (r.act e)
  | .read bytes => h.read bytes
  | .poll k => h.poll k
  | .finish k => h.finish k
  | .world _ => h.runtime _

/-- **The invariant along every run**, by induction on the events. -/
theorem Inv.run (h : Inv s r) (es : List Event) : Inv s (r.run es) := by
  induction es generalizing r with
  | nil => exact h
  | cons e es ih => exact ih (h.act e)

/-! ### How the reader handles a frame -/

/-- A refusal never waits for room: it queues its reply only if there is room now. -/
theorem refuseNow_waiters (rt : Runtime) (c : Classification) :
    (refuseNow rt c).1.outbound.waiters = rt.outbound.waiters := by
  unfold refuseNow
  split
  · rw [(rt.resolve_frame _ _).1]
  · simp only [Runtime.tryQueue, Outbound.tryOffer]
    split
    · rfl
    · split <;> rfl
  · rfl

/-- A refusal's reply goes into the queue exactly when the queue is open and has room. -/
theorem refuseNow_reply (rt : Runtime) {c : Classification} {f : Frame}
    (hc : refuse c = .reply (some f)) :
    ((refuseNow rt c).2 = true ↔ rt.outbound.closed = false ∧ rt.outbound.permits ≠ 0) ∧
      (refuseNow rt c).1.outbound.frames =
        rt.outbound.frames ++ (if (refuseNow rt c).2 then [f] else []) := by
  simp only [refuseNow, hc, Runtime.tryQueue, Outbound.tryOffer]
  cases hclosed : rt.outbound.closed
  · cases hp : rt.outbound.permits <;> simp
  · simp

/-- How the reader must handle a frame, with `A` admissions in all. A response goes to its call,
by the reader itself, and takes no admission; any other frame is admitted on a new dispatch
task, which serves it, while fewer than `A` tasks are live, and is otherwise refused at once
(`HubService.Service.refuseNow`), with no task to serve it. In every case the reader takes no
permit, joins no line for one, and never waits for room in the queue. -/
structure Handles (A : Nat) (r : Reader) (bytes : ByteArray) : Prop where
  response : ∀ tag data, classify r.runtime.pending.contains bytes = .response tag data →
    (r.read bytes).2 = .resolved ∧ (r.read bytes).1.runtime = r.runtime.resolve tag data ∧
      (r.read bytes).1.admissions = r.admissions ∧ (r.read bytes).1.dispatches = r.dispatches
  admitted : (classify r.runtime.pending.contains bytes).isResponse = false → r.live < A →
    (r.read bytes).2 = .admitted r.dispatches.size ∧ (r.read bytes).1.runtime = r.runtime ∧
      (r.read bytes).1.dispatches =
        r.dispatches.push { work := classify r.runtime.pending.contains bytes } ∧
      (r.read bytes).1.live = r.live + 1
  refused : (classify r.runtime.pending.contains bytes).isResponse = false → r.live = A →
    (r.read bytes).2 =
        .refused (refuseNow r.runtime (classify r.runtime.pending.contains bytes)).2 ∧
      (r.read bytes).1.runtime =
        (refuseNow r.runtime (classify r.runtime.pending.contains bytes)).1 ∧
      (r.read bytes).1.dispatches = r.dispatches
  never_waits : (r.read bytes).1.permits = r.permits ∧ (r.read bytes).1.line = r.line ∧
    (r.read bytes).1.runtime.outbound.waiters = r.runtime.outbound.waiters

/-- Under the invariant, a free admission is a live task short of the bound. -/
theorem Inv.handles (h : Inv s r) (bytes : ByteArray) : Handles s.admissionSlots r bytes := by
  have hadm := h.admissions
  refine ⟨fun tag data hc => ?_, fun hne hlt => ?_, fun hne heqA => ?_, ?_⟩
  · rcases read_cases r bytes with ⟨tag', data', hc', heq⟩ | ⟨hne, -⟩ | ⟨hne, -⟩
    · rw [hc, Classification.response.injEq] at hc'
      obtain ⟨rfl, rfl⟩ := hc'
      rw [heq]
      exact ⟨rfl, rfl, rfl, rfl⟩
    all_goals
      rw [hc] at hne
      cases hne
  · rcases read_cases r bytes with ⟨tag, data, hc, -⟩ | ⟨-, a, ha, heq⟩ | ⟨-, ha, -⟩
    · rw [hc] at hne
      cases hne
    · rw [heq]
      exact ⟨rfl, rfl, rfl, live_push r _ a⟩
    · omega
  · rcases read_cases r bytes with ⟨tag, data, hc, -⟩ | ⟨-, a, ha, -⟩ | ⟨-, -, heq⟩
    · rw [hc] at hne
      cases hne
    · omega
    · rw [heq]
      exact ⟨rfl, rfl, rfl⟩
  · rcases read_cases r bytes with ⟨tag, data, -, heq⟩ | ⟨-, a, -, heq⟩ | ⟨-, -, heq⟩ <;> rw [heq]
    · exact ⟨rfl, rfl, by rw [(r.runtime.resolve_frame tag data).1]⟩
    · exact ⟨rfl, rfl, rfl⟩
    · exact ⟨rfl, rfl, refuseNow_waiters _ _⟩

end Reader

/-! ### Settings read from a configuration -/

/-- A configuration's settings serve as many frames at once as it says, at least one. -/
theorem ConnectionSettings.dispatchSlots_ofConfig (c : HubService.Config) :
    (ConnectionSettings.ofConfig c).dispatchSlots = c.concurrency := by
  simp [ConnectionSettings.dispatchSlots, ConnectionSettings.ofConfig,
    HubService.Config.concurrency]

/-- A configuration's settings admit 16 frames per frame served at once whenever that many fit
in a machine word; past that, the multiplication saturates at the largest count a word holds. -/
theorem ConnectionSettings.admissionSlots_ofConfig (c : HubService.Config) :
    (ConnectionSettings.ofConfig c).admissionSlots =
      if backlogPerSlot * c.concurrency ≤ usizeMax then backlogPerSlot * c.concurrency
      else max usizeMax c.concurrency := by
  rw [ConnectionSettings.admissionSlots, dispatchSlots_ofConfig]
  by_cases hfit : backlogPerSlot * c.concurrency ≤ usizeMax
  · rw [if_pos hfit]
    simp only [ConnectionSettings.ofConfig, saturatingMul, backlogPerSlot] at hfit ⊢
    omega
  · rw [if_neg hfit]
    simp only [ConnectionSettings.ofConfig, saturatingMul, backlogPerSlot] at hfit ⊢
    omega

namespace Reader

/-- **Admission is bounded, and every frame is handled once.** Along every run of the reading
side of a connection, whatever frames arrive and whatever the dispatch tasks, their handlers and
the outbound queue do: at most `admissionSlots` dispatch tasks are live, at most `dispatchSlots`
of them hold a permit, and the next frame is handled as `Handles` says: a response by the reader
itself, any other frame on a new task while one of the `admissionSlots` admissions is free and
refused at once otherwise, and never by waiting. A configuration's settings serve
`concurrency` frames at once and admit 16 per frame served whenever that many fit in a machine
word. -/
theorem admission_bounded (s : ConnectionSettings)
    (registry : HubService.Registry.EndpointRegistry Handler) (handleTimeout : Duration)
    (rt : Runtime) (es : List Event) :
    ((start s registry handleTimeout rt).run es).live ≤ s.admissionSlots ∧
      ((start s registry handleTimeout rt).run es).holding ≤ s.dispatchSlots ∧
      (∀ bytes, Handles s.admissionSlots ((start s registry handleTimeout rt).run es) bytes) ∧
      ∀ c : HubService.Config, (ConnectionSettings.ofConfig c).dispatchSlots = c.concurrency ∧
        (ConnectionSettings.ofConfig c).admissionSlots =
          if backlogPerSlot * c.concurrency ≤ usizeMax then backlogPerSlot * c.concurrency
          else max usizeMax c.concurrency := by
  have h : Inv s ((start s registry handleTimeout rt).run es) :=
    (Inv.start registry handleTimeout rt).run es
  exact ⟨h.live_le, h.holding_le, h.handles, fun c =>
    ⟨ConnectionSettings.dispatchSlots_ofConfig c, ConnectionSettings.admissionSlots_ofConfig c⟩⟩

end Reader

end HubService.Service
