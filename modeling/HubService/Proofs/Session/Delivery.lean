import HubService.Proofs.Session.Calls

/-!
# Every move keeps the calls in step

Every move of the runtime keeps the slots and the calls in step
(`HubService.Session.Runtime.Wf`): starting a task, handing on a response, running a task,
dropping a task, firing timers, and the moves that touch neither (queueing a frame, moving the
clock, the reader taking the queued frames or going away). So they are in step in every
*reachable* runtime (`HubService.Session.Runtime.Reachable`): one reached from an empty runtime,
with any source of tags, by those moves in any order and on any tasks, which covers every
session (`HubService.Session.reachable_run`).

Two inversion lemmas say once what running a task and dropping one can do
(`HubService.Session.Runtime.runTask_cases`, `HubService.Session.Runtime.cancel_cases`); the
proofs about moves start from them.
-/

namespace HubService.Session

open HubService.Wire HubService.Json

/-- Firing a call's timer changes neither the call nor the program. -/
theorem Task.fire_call? (t : Task) : t.fire.progress.call? = t.progress.call? := by
  unfold Task.fire
  split <;> simp_all [Progress.call?]

theorem Task.fire_program (t : Task) : t.fire.program = t.program := by
  unfold Task.fire
  split <;> rfl

theorem Task.fire_cancelled (t : Task) : t.fire.cancelled = t.cancelled := by
  unfold Task.fire
  split <;> rfl

theorem Task.Settled.fire {t : Task} (h : t.Settled) : t.fire.Settled := by
  unfold Task.Settled
  rw [Task.fire_call?, Task.fire_program, Task.fire_cancelled]
  exact h

/-! ### Every move of the runtime keeps the calls in step -/

namespace Runtime

variable {rt : Runtime}

theorem Wf.start (capacity : Nat) (fresh : Nat → Tag) : (Runtime.start capacity fresh).Wf := by
  have hnone : (Runtime.start capacity fresh).callAt = fun _ => none := funext fun i =>
    callAt_eq_none i (Nat.zero_le _)
  refine ⟨hnone ▸ CallsAgree.empty fresh, fun i t ht => ?_⟩
  simp [Runtime.start] at ht

theorem Wf.wake (h : rt.Wf) (id : Nat) : (rt.wake id).Wf :=
  h.congr (wake_tasks id) (wake_pending id)

theorem Wf.wakeAll (h : rt.Wf) (ids : List Nat) : (rt.wakeAll ids).Wf :=
  h.congr (wakeAll_tasks_pending ids).1 (wakeAll_tasks_pending ids).2

/-- What the reader does touches only the outbound queue, and wakes senders. -/
theorem Wf.outbound (h : rt.Wf) (q : Outbound) (ids : List Nat) :
    (({ rt with outbound := q } : Runtime).wakeAll ids).Wf := by
  refine Wf.wakeAll ?_ ids
  exact h.congr rfl rfl

theorem spawn_fst (p : Program) :
    (rt.spawn p).1 = ({ rt with tasks := rt.tasks.push { program := p } } : Runtime).wake rt.tasks.size :=
  rfl

/-- **A task starts**, with no call under way. -/
theorem Wf.spawn (h : rt.Wf) (p : Program) : (rt.spawn p).1.Wf := by
  rw [spawn_fst]
  refine Wf.wake ?_ _
  have hcall : ({ rt with tasks := rt.tasks.push { program := p } } : Runtime).callAt = rt.callAt := by
    funext i
    simp only [callAt, Array.getElem?_push]
    split
    · rename_i hi
      subst hi
      simp [Progress.call?]
    · rfl
  refine ⟨by rw [hcall]; exact h.agree, fun i t ht => ?_⟩
  simp only [Array.getElem?_push] at ht
  split at ht
  · cases ht
    exact .inl rfl
  · exact h.settled i t ht

/-- **What running a task does.** A task that was never started, or was dropped, does not run;
a live one runs from its program and progress until it finishes or must wait, and is put back. -/
theorem runTask_cases (rt : Runtime) (id : Nat) :
    ((∀ t, rt.tasks[id]? = some t → t.cancelled = true) ∧ rt.runTask id = rt) ∨
      ∃ t, rt.tasks[id]? = some t ∧ t.cancelled = false ∧
        rt.runTask id = { (advance id t.program t.progress rt).1 with
          tasks := (advance id t.program t.progress rt).1.tasks.set! id
            (advance id t.program t.progress rt).2 } := by
  unfold Runtime.runTask
  cases ht : rt.tasks[id]? with
  | none => exact .inl ⟨fun _ h => (by cases h), rfl⟩
  | some t =>
    dsimp only
    split
    · rename_i hc
      exact .inl ⟨fun _ h => by cases h; exact hc, rfl⟩
    · rename_i hc
      exact .inr ⟨t, rfl, by simpa using hc, rfl⟩

/-- A live task runs. -/
theorem runTask_of_live {id : Nat} {t : Task} (ht : rt.tasks[id]? = some t)
    (hc : t.cancelled = false) :
    rt.runTask id = { (advance id t.program t.progress rt).1 with
      tasks := (advance id t.program t.progress rt).1.tasks.set! id
        (advance id t.program t.progress rt).2 } := by
  rcases rt.runTask_cases id with ⟨hdropped, -⟩ | ⟨t', ht', -, hrun⟩
  · rw [hdropped t ht] at hc
    cases hc
  · rw [ht] at ht'
    cases ht'
    exact hrun

/-- A dropped task does not run. -/
theorem runTask_of_cancelled {id : Nat} {t : Task} (ht : rt.tasks[id]? = some t)
    (hc : t.cancelled = true) : rt.runTask id = rt := by
  rcases rt.runTask_cases id with ⟨-, hrun⟩ | ⟨t', ht', hc', -⟩
  · exact hrun
  · rw [ht] at ht'
    cases ht'
    rw [hc] at hc'
    cases hc'

/-- **A task runs** until it finishes or must wait. -/
theorem Wf.runTask (h : rt.Wf) (id : Nat) : (rt.runTask id).Wf := by
  rcases rt.runTask_cases id with ⟨-, hrun⟩ | ⟨t, ht, -, hrun⟩ <;> rw [hrun]
  · exact h
  · have hsize : id < (advance id t.program t.progress rt).1.tasks.size := by
      rw [size_advance]
      exact (Array.getElem?_eq_some_iff.mp ht).1
    have hrun := (Running.of_wf h ht).advance
    exact hrun.wf_set (hrun.own.imp_right fun hx => ⟨hx, advance_cancelled _ _ _ _⟩) hsize

/-- With no task running, the one past the last runs with no call. -/
theorem Wf.running_past (h : rt.Wf) (prog : Program) : Running rt rt.tasks.size prog .idle := by
  have hnone : rt.callAt rt.tasks.size = none := callAt_eq_none _ le_rfl
  have hupd : rt.callsWith rt.tasks.size .idle = rt.callAt :=
    Function.update_eq_self_iff.mpr hnone.symm
  exact ⟨hupd ▸ h.agree, fun i t _ ht => h.settled i t ht, .inl rfl⟩

/-- **A response is handed on** while no task runs. -/
theorem Wf.resolve (h : rt.Wf) (tag : Tag) (data : Fields) : (rt.resolve tag data).Wf :=
  ((h.running_past (.finish .delivered)).resolve tag data (.finish .delivered)).wf_past
    (by rw [resolve_size])

/-- **What dropping a task does.** A task never started, or already over, is left as it is. A
live one drops its call, if it has one under way, and with it the slot under the call's tag; gives
up its place in the line for room; and is marked dropped, with no call. The clock, the timers and
the queued frames stay. -/
theorem cancel_cases (rt : Runtime) (id : Nat) :
    (rt.cancel id).now = rt.now ∧ (rt.cancel id).timersAt = rt.timersAt ∧
      (rt.cancel id).outbound.frames = rt.outbound.frames ∧
      (((∀ t, rt.tasks[id]? = some t → t.finished = true) ∧ rt.cancel id = rt) ∨
        ∃ t, rt.tasks[id]? = some t ∧ t.finished = false ∧
          (rt.cancel id).tasks = rt.tasks.set! id { t with progress := .idle, cancelled := true } ∧
          ((t.progress.call? = none ∧ (rt.cancel id).pending = rt.pending) ∨
            ∃ tag a, t.progress.call? = some (tag, a) ∧
              (rt.cancel id).pending = rt.pending.remove tag)) := by
  unfold Runtime.cancel
  cases ht : rt.tasks[id]? with
  | none => exact ⟨rfl, rfl, rfl, .inl ⟨fun _ h => (by cases h), rfl⟩⟩
  | some t =>
    dsimp only
    split
    · rename_i hf
      exact ⟨rfl, rfl, rfl, .inl ⟨fun _ h => by cases h; exact hf, rfl⟩⟩
    · rename_i hf
      have hlive : t.finished = false := by simpa using hf
      obtain ⟨prog, progress, cancelled⟩ := t
      cases progress with
      | idle =>
        refine ⟨by simp, by simp, by simp [Outbound.withdraw_frames], .inr ⟨_, rfl, hlive, by simp,
          .inl ⟨rfl, by simp⟩⟩⟩
      | calling tag deadline sent answer fired =>
        refine ⟨by simp, by simp, by simp [Outbound.withdraw_frames], .inr ⟨_, rfl, hlive, by simp,
          .inr ⟨tag, answer, rfl, by simp⟩⟩⟩

/-- A task already over is left as it is when dropped. -/
theorem cancel_of_finished {id : Nat} {t : Task} (ht : rt.tasks[id]? = some t)
    (hf : t.finished = true) : rt.cancel id = rt := by
  obtain ⟨-, -, -, ⟨-, hc⟩ | ⟨t', ht', hf', -⟩⟩ := rt.cancel_cases id
  · exact hc
  · rw [ht] at ht'
    cases ht'
    rw [hf] at hf'
    cases hf'

/-- **A task is dropped**, and its call with it. -/
theorem Wf.cancel (h : rt.Wf) (id : Nat) : (rt.cancel id).Wf := by
  obtain ⟨-, -, -, ⟨-, hc⟩ | ⟨t, ht, -, htasks, hcall⟩⟩ := rt.cancel_cases id
  · rw [hc]
    exact h
  -- the dropped task is put back as a task that stopped running with no call
  have hrun : Running { rt with pending := (rt.cancel id).pending } id t.program .idle := by
    have h₀ := Running.of_wf h ht
    refine h₀.step_of rfl ?_ (.inl rfl)
    have hown : rt.callsWith id t.progress id = t.progress.call? := by simp [callsWith]
    rcases hcall with ⟨hnone, hpend⟩ | ⟨tag, a, hsome, hpend⟩
    · have hsame : Progress.idle.call? = t.progress.call? := hnone.symm
      rw [hpend, hsame]
      exact h₀.agree
    · have hgone := h₀.agree.drop (hown.trans hsome)
      rw [callsWith, Function.update_idem] at hgone
      rw [hpend]
      exact hgone
  have hsize : id < rt.tasks.size := (Array.getElem?_eq_some_iff.mp ht).1
  exact (hrun.wf_set (t := { t with progress := .idle, cancelled := true }) (.inl rfl) hsize).congr
    htasks rfl

theorem callAt_fire (id : Nat) :
    ({ rt with tasks := rt.tasks.modify id Task.fire } : Runtime).callAt = rt.callAt := by
  funext i
  simp only [callAt, Array.getElem?_modify]
  split
  · cases rt.tasks[i]? <;> simp [Task.fire_call?]
  · rfl

theorem fireAll_cons (id : Nat) (ids : List Nat) :
    rt.fireAll (id :: ids) =
      (({ rt with tasks := rt.tasks.modify id Task.fire } : Runtime).wake id).fireAll ids :=
  rfl

theorem fireAll_pending (ids : List Nat) : (rt.fireAll ids).pending = rt.pending := by
  induction ids generalizing rt with
  | nil => rfl
  | cons id ids ih => rw [fireAll_cons, ih, wake_pending]

/-- **Timers fire**, on any tasks. -/
theorem Wf.fireAll (h : rt.Wf) (ids : List Nat) : (rt.fireAll ids).Wf := by
  induction ids generalizing rt with
  | nil => exact h
  | cons id ids ih =>
    rw [fireAll_cons]
    refine ih (Wf.wake ⟨by rw [callAt_fire]; exact h.agree, fun i t ht => ?_⟩ id)
    simp only [Array.getElem?_modify] at ht
    split at ht
    · obtain ⟨t', ht', rfl⟩ := Option.map_eq_some_iff.mp ht
      exact (h.settled i t' ht').fire
    · exact h.settled i t ht

theorem drain_snd : rt.drain.2 =
    ({ rt with outbound := rt.outbound.takeAll.2.1 } : Runtime).wakeAll rt.outbound.takeAll.2.2 :=
  rfl

theorem closeOutbound_eq : rt.closeOutbound =
    ({ rt with outbound := rt.outbound.close.1 } : Runtime).wakeAll rt.outbound.close.2 :=
  rfl

/-! ### Where a response goes -/

/-- A response whose tag has a slot answers the slot's task and changes no other call, -/
theorem Wf.callAt_resolve (h : rt.Wf) {tag : Tag} {k : Nat} (hk : (tag, k) ∈ rt.pending.slots)
    (data : Fields) :
    (rt.resolve tag data).callAt = Function.update rt.callAt k (some (tag, some data)) := by
  obtain ⟨t, ht, hc⟩ := callAt_eq_some.mp (h.agree.owned tag k hk)
  rw [resolve_of_owner ((PendingTable.owner?_eq_some h.agree.keys).mpr hk)]
  exact callAt_answered _ ht hc

/-- and the slot goes. -/
theorem Wf.pending_resolve (h : rt.Wf) {tag : Tag} {k : Nat} (hk : (tag, k) ∈ rt.pending.slots)
    (data : Fields) : (rt.resolve tag data).pending = rt.pending.remove tag := by
  rw [resolve_of_owner ((PendingTable.owner?_eq_some h.agree.keys).mpr hk), wake_pending]

/-! ### The runtimes a service reaches -/

/-- The runtimes reached from an empty one, with any source of tags, by the runtime's moves, in
any order and on any tasks: starting a task, handing on a response, queueing a frame, running a
task, dropping a task, firing timers, moving the clock, the reader taking the queued frames or
going away, and the scheduler setting which tasks are woken and when the timers were looked at. -/
inductive Reachable : Runtime → Prop
  | start (capacity : Nat) (fresh : Nat → Tag) : Reachable (Runtime.start capacity fresh)
  | spawn {rt : Runtime} (p : Program) : Reachable rt → Reachable (rt.spawn p).1
  | resolve {rt : Runtime} (tag : Tag) (data : Fields) : Reachable rt → Reachable (rt.resolve tag data)
  | tryQueue {rt : Runtime} (frame : Frame) : Reachable rt → Reachable (rt.tryQueue frame).1
  | runTask {rt : Runtime} (id : Nat) : Reachable rt → Reachable (rt.runTask id)
  | cancel {rt : Runtime} (id : Nat) : Reachable rt → Reachable (rt.cancel id)
  | fireAll {rt : Runtime} (ids : List Nat) : Reachable rt → Reachable (rt.fireAll ids)
  | tick {rt : Runtime} (d : Duration) : Reachable rt → Reachable (rt.tick d)
  | drain {rt : Runtime} : Reachable rt → Reachable rt.drain.2
  | close {rt : Runtime} : Reachable rt → Reachable rt.closeOutbound
  | schedule {rt : Runtime} (ready : List Nat) (timersAt : Nat) :
      Reachable rt → Reachable { rt with ready := ready, timersAt := timersAt }

/-- **Every reachable runtime keeps its calls in step**, whatever the source of tags: by
induction on the moves. -/
theorem Reachable.wf (hr : rt.Reachable) : rt.Wf := by
  induction hr with
  | start capacity fresh => exact Wf.start capacity fresh
  | spawn p _ ih => exact ih.spawn p
  | resolve tag data _ ih => exact ih.resolve tag data
  | tryQueue frame _ ih => exact ih.congr rfl rfl
  | runTask id _ ih => exact ih.runTask id
  | cancel id _ ih => exact ih.cancel id
  | fireAll ids _ ih => exact ih.fireAll ids
  | tick d _ ih => exact ih.congr rfl rfl
  | drain _ ih =>
    rw [drain_snd]
    exact ih.outbound _ _
  | close _ ih =>
    rw [closeOutbound_eq]
    exact ih.outbound _ _
  | schedule ready timersAt _ ih => exact ih.congr rfl rfl

/-- The scheduler's loop stays among the reachable runtimes: each round runs a woken task, or
fires the timers that are due. -/
theorem Reachable.settleWith (hr : rt.Reachable) (fuel : Nat) : (rt.settleWith fuel).Reachable := by
  induction fuel generalizing rt with
  | zero => exact hr
  | succ fuel ih =>
    rw [Runtime.settleWith]
    split
    · exact ih ((hr.schedule _ rt.timersAt).runTask _)
    · split
      · exact hr.schedule rt.ready rt.now
      · exact ih ((hr.fireAll _).schedule _ rt.now)

end Runtime

open HubService.Registry

namespace Runtime.Reachable

variable {s : Session}

/-- What a step does before the tasks run is one move of the runtime, or none. -/
theorem act (hs : s.runtime.Reachable) (st : Step) : (s.act st).1.runtime.Reachable := by
  cases st with
  | inbound frame refuseIt =>
    cases refuseIt with
    | false => exact hs.spawn _
    | true =>
      simp only [Session.act, if_true]
      split
      · exact hs.resolve _ _
      · exact hs.tryQueue _
      · exact hs
  | call service endpoint data timeout => exact hs.spawn _
  | fetchUser user => exact hs.spawn _
  | isValidUser user => exact hs.spawn _
  | sendToUser user data => exact hs.spawn _
  | advance d => exact hs.tick d
  | result n => exact hs
  | close => exact hs.close
  | pauseDrain => exact hs
  | resumeDrain => exact hs

theorem step (hs : s.runtime.Reachable) (st : Step) : (s.step st).1.runtime.Reachable := by
  have hsettle := (hs.act st).settleWith
    (((s.act st).1.runtime.tasks.size + 4) * ((s.act st).1.runtime.tasks.size + 4))
  simp only [Session.step]
  split
  · exact hsettle.drain
  · exact hsettle

theorem run (hs : s.runtime.Reachable) (steps : List Step) : (s.run steps).1.runtime.Reachable := by
  induction steps generalizing s with
  | nil => exact hs
  | cons st rest ih => exact ih (hs.step st)

end Runtime.Reachable

/-- Every session reached from its start, by any steps, has a reachable runtime. -/
theorem reachable_run (registry : EndpointRegistry Handler) (callTimeout : Duration)
    (capacity : Nat) (steps : List Step) :
    ((start registry callTimeout capacity).run steps).1.runtime.Reachable :=
  (Runtime.Reachable.start capacity Tag.issued).run steps

end HubService.Session
