import HubService.Proofs.Session.Moves

/-!
# The life of a call

A call out of the service (`HubService.Session.Program.exchange`) draws a tag and registers a
slot under it, queues its frame, and waits for the response until its deadline, `timeout` after
the run that registered it. Along any run of the runtime's moves
(`HubService.Session.Runtime.moves`), whatever the room in the outbound queue, its closing, the
responses, the clock, the tags drawn and the tasks dropped do, the life of a call is
`HubService.Session.Runtime.ExchangeLife`:

* before it registers it has queued nothing; a run whose tag is in use draws again at the next;
* while it waits (`HubService.Session.Runtime.Waiting`) it holds a slot only while it has no
  answer; an answer it holds is the payload of a response for its own tag; it has queued its own
  frame once if the frame went in, and nothing otherwise; its timer has fired only after the
  deadline passed, fires when the due timers are next looked at, and once it has fired the next
  run of the call returns, whatever the queue;
* once it has returned `r`, at its last run (`HubService.Session.Runtime.Returned`): right after
  that run its tag has no slot; it has queued at most its own frame; and `r` is
  - `ok d` only with the payload of a response for its tag, after its frame went in,
  - `disconnected` exactly when its frame never went in and the queue was closed at its last run,
  - otherwise `noResponse` with its own tag and its own `timeout`, once the clock has passed the
    deadline, also when the frame was still waiting for room, or once its slot was taken away by
    the drop of another call under the same tag;
* once it has been dropped (`HubService.Session.Runtime.Dropped`): it has queued at most its own
  frame, and right after the drop the tag it registered, if it had one, has no slot.

A user lookup (`HubService.Session.Program.lookupUser`) is such a call, and its result is the
user's record exactly when the call returned `ok d` and `d` reads as a record
(`HubService.Session.Runtime.exchange_life`).

The proof goes one move at a time, carrying where the call stands and what it has behind it
(`HubService.Session.Runtime.Phase`). The call's own step is
`HubService.Session.Runtime.pursueCall_cases`, after the draw of `HubService.Session.Runtime.pursue_idle`;
the moves that neither run nor drop its task keep its tag, deadline and queued frame
(`HubService.Session.Runtime.calling_move`); dropping it is `HubService.Session.Runtime.cancel_cases`.
The slot comes from the runtime's calls being in step (`HubService.Session.Runtime.Wf`), and the
answer from `HubService.Session.Runtime.answers_handed`.
-/

namespace HubService.Session

open HubService.Wire HubService.Json

namespace Runtime

section Life

variable (rt : Runtime) (i : Nat) (frame : Tag → Frame) (timeout : Duration)
  (f : Except CallError Fields → Outcome)

/-- The task making a call whose result it reports through `f`, at progress `p`. -/
def callTask (p : Progress) : Task :=
  { program := .exchange frame timeout fun r => .finish (f r), progress := p }

/-- The task of a call dropped before it returned. -/
def droppedTask : Task := { callTask frame timeout f .idle with cancelled := true }

/-- The tag a registration draws after the first `j` of the moves `ms`. -/
def tagAfter (ms : List Move) (j : Nat) : Tag :=
  (rt.moves (ms.take j)).pending.fresh (rt.moves (ms.take j)).pending.drawn

/-- The `j`-th of the moves `ms` is the run at which task `i`'s call registers: the call has no
tag yet, and the tag it draws has no slot. -/
def Registers (ms : List Move) (j : Nat) : Prop :=
  ms[j]? = some (.runTask i) ∧
    (rt.moves (ms.take j)).tasks[i]? = some (callTask frame timeout f .idle) ∧
    (rt.moves (ms.take j)).pending.contains (rt.tagAfter ms j) = false

/-- The `k`-th of the moves `ms` is the last run of task `i`'s call: it returns `r`. -/
def LastRun (ms : List Move) (k : Nat) (r : Except CallError Fields) : Prop :=
  ms[k]? = some (.runTask i) ∧ ∃ p,
    (rt.moves (ms.take k)).tasks[i]? = some (callTask frame timeout f p) ∧
      ((rt.moves (ms.take k)).pursue i frame timeout p).2 = .inl r

/-- The task after one step of its call: finished with what it reports of the call's result, or
still calling, as far as it got. -/
def stepped : Except CallError Fields ⊕ Progress → Task
  | .inl r => { program := .finish (f r) }
  | .inr p => callTask frame timeout f p

/-- What a call under way after the moves `ms` has behind it: it registered at some run, under
the tag drawn then, with its deadline `timeout` after the clock then; it has queued its own frame
once if the frame went in, and nothing otherwise; and its timer has fired only after the deadline
passed. -/
structure Track (ms : List Move) (tag : Tag) (deadline : Nat) (sent fired : Bool) : Prop where
  registered : ∃ j, Registers rt i frame timeout f ms j ∧ tag = rt.tagAfter ms j ∧
    deadline = (rt.moves (ms.take j)).now + timeout.millis
  frames : rt.framesBy i ms = if sent then [frame tag] else []
  fired_late : fired = true → deadline ≤ (rt.moves ms).now

/-- A call under way after the moves `ms`, under `tag`, with its deadline, whether its frame is
queued, its answer, and whether its timer has fired. -/
structure Waiting (ms : List Move) (tag : Tag) (deadline : Nat) (sent : Bool)
    (answer : Option Fields) (fired : Bool) : Prop
    extends Track rt i frame timeout f ms tag deadline sent fired where
  /-- It holds a slot under its tag only while it has no answer. -/
  slot : (tag, i) ∈ (rt.moves ms).pending.slots → answer = none
  /-- Its answer is the payload of a response for its own tag. -/
  answer_handed : ∀ d, answer = some d → rt.Handed ms tag d
  /-- Once its timer has fired, its next run returns, whatever the queue; -/
  fired_returns : fired = true → ∃ r,
    ((rt.moves ms).pursue i frame timeout (.calling tag deadline sent answer fired)).2 = .inl r
  /-- and its timer fires when the due timers are next looked at after the deadline. -/
  fires_when_due : fired = false → deadline ≤ (rt.moves ms).now →
    ((rt.moves ms).move .fireDue).tasks[i]? =
      some (callTask frame timeout f (.calling tag deadline sent answer true))

/-- A call that registered at the `j`-th of the moves `ms` and returned `r` at the `k`-th. -/
structure Returned (ms : List Move) (j k : Nat) (r : Except CallError Fields) : Prop where
  /-- Right after its last run its tag has no slot. -/
  slot_gone : (rt.moves (ms.take (k + 1))).pending.contains (rt.tagAfter ms j) = false
  /-- It queued its own frame, or nothing. -/
  frames : rt.framesBy i ms = [] ∨ rt.framesBy i ms = [frame (rt.tagAfter ms j)]
  /-- It returned a payload only one of a response for its tag, after its frame went in. -/
  ok : ∀ d, r = .ok d →
    rt.Handed (ms.take k) (rt.tagAfter ms j) d ∧ rt.framesBy i ms = [frame (rt.tagAfter ms j)]
  /-- It failed as disconnected exactly when its frame never went in and the queue was closed at
  its last run. -/
  disconnected : r = .error .disconnected ↔
    rt.framesBy i ms = [] ∧ (rt.moves (ms.take k)).outbound.closed = true
  /-- Otherwise it got no response: under its own tag, after its own `timeout`, once the clock
  passed its deadline or once its slot was gone. -/
  noResponse : ∀ tag waited, r = .error (.noResponse tag waited) →
    tag = rt.tagAfter ms j ∧ waited = timeout ∧
      ((rt.moves (ms.take j)).now + timeout.millis ≤ (rt.moves (ms.take k)).now ∨
        (rt.tagAfter ms j, i) ∉ (rt.moves (ms.take k)).pending.slots)

/-- A call dropped at the `c`-th of the moves `ms`, before it returned. -/
structure Dropped (ms : List Move) (c : Nat) : Prop where
  at_cancel : ms[c]? = some (.cancel i)
  /-- It was dropped before it registered, having queued nothing; or after it registered at the
  `j`-th move, having queued its own frame at most, and right after the drop its tag has no
  slot. -/
  state : ((rt.moves (ms.take c)).tasks[i]? = some (callTask frame timeout f .idle) ∧
      rt.framesBy i ms = []) ∨
    ∃ j, Registers rt i frame timeout f ms j ∧ j < c ∧
      (rt.framesBy i ms = [] ∨ rt.framesBy i ms = [frame (rt.tagAfter ms j)]) ∧
      (rt.moves (ms.take (c + 1))).pending.contains (rt.tagAfter ms j) = false

/-- The life of task `i`'s call after the moves `ms`: not yet registered, waiting, returned, or
dropped. -/
structure ExchangeLife (ms : List Move) : Prop where
  idle : (rt.moves ms).tasks[i]? = some (callTask frame timeout f .idle) → rt.framesBy i ms = []
  waiting : ∀ tag deadline sent answer fired,
    (rt.moves ms).tasks[i]? = some (callTask frame timeout f (.calling tag deadline sent answer fired)) →
      Waiting rt i frame timeout f ms tag deadline sent answer fired
  returned : ∀ o, ((rt.moves ms).tasks[i]?).map Task.program = some (.finish o) →
    ∃ j k r, j ≤ k ∧ Registers rt i frame timeout f ms j ∧ LastRun rt i frame timeout f ms k r ∧
      o = f r ∧ Returned rt i frame timeout ms j k r
  dropped : (rt.moves ms).tasks[i]? = some (droppedTask frame timeout f) →
    ∃ c, Dropped rt i frame timeout f ms c

/-- Where task `i`'s call stands after the moves `ms`, with what it has behind it: the invariant
carried along a run. -/
inductive Phase (ms : List Move) : Prop
  | idle : (rt.moves ms).tasks[i]? = some (callTask frame timeout f .idle) →
      rt.framesBy i ms = [] → Phase ms
  | waiting (tag : Tag) (deadline : Nat) (sent : Bool) (answer : Option Fields) (fired : Bool) :
      (rt.moves ms).tasks[i]? =
        some (callTask frame timeout f (.calling tag deadline sent answer fired)) →
      Track rt i frame timeout f ms tag deadline sent fired → Phase ms
  | returned (j k : Nat) (r : Except CallError Fields) :
      (rt.moves ms).tasks[i]? = some { program := .finish (f r) } → j ≤ k →
      Registers rt i frame timeout f ms j → LastRun rt i frame timeout f ms k r →
      Returned rt i frame timeout ms j k r → Phase ms
  | dropped (c : Nat) : (rt.moves ms).tasks[i]? = some (droppedTask frame timeout f) →
      Dropped rt i frame timeout f ms c → Phase ms

/-- A call about to take a step at the move after `ms`: the call the task held, or the one its
run has just registered. -/
structure Poised (ms : List Move) (tag : Tag) (deadline : Nat) (sent : Bool)
    (answer : Option Fields) (fired : Bool) : Prop where
  registered : ∃ j, Registers rt i frame timeout f (ms ++ [Move.runTask i]) j ∧
    tag = rt.tagAfter (ms ++ [Move.runTask i]) j ∧
    deadline = (rt.moves ((ms ++ [Move.runTask i]).take j)).now + timeout.millis
  frames : rt.framesBy i ms = if sent then [frame tag] else []
  fired_late : fired = true → deadline ≤ (rt.moves ms).now
  answer_handed : ∀ d, answer = some d → rt.Handed ms tag d

end Life

section Steps

variable {rt : Runtime} {i : Nat} {frame : Tag → Frame} {timeout : Duration}
  {f : Except CallError Fields → Outcome}

/-! ### The call's task, move by move -/

@[simp] theorem stepped_inl (r : Except CallError Fields) :
    stepped frame timeout f (.inl r) = { program := .finish (f r) } := rfl

@[simp] theorem stepped_inr (p : Progress) :
    stepped frame timeout f (.inr p) = callTask frame timeout f p := rfl

@[simp] theorem callTask_inj {p p' : Progress} :
    callTask frame timeout f p = callTask frame timeout f p' ↔ p = p' := by
  simp [callTask]

@[simp] theorem callTask_ne_droppedTask (p : Progress) :
    callTask frame timeout f p ≠ droppedTask frame timeout f := by
  simp [callTask, droppedTask]

@[simp] theorem callTask_ne_finish (p : Progress) (o : Outcome) :
    callTask frame timeout f p ≠ { program := .finish o } := by
  simp [callTask]

@[simp] theorem droppedTask_ne_finish (o : Outcome) :
    droppedTask frame timeout f ≠ { program := .finish o } := by
  simp [droppedTask, callTask]

@[simp] theorem finish_ne_callTask (p : Progress) (o : Outcome) :
    { program := .finish o } ≠ callTask frame timeout f p := (callTask_ne_finish p o).symm

@[simp] theorem finish_ne_droppedTask (o : Outcome) :
    { program := .finish o } ≠ droppedTask frame timeout f := (droppedTask_ne_finish o).symm

@[simp] theorem droppedTask_ne_callTask (p : Progress) :
    droppedTask frame timeout f ≠ callTask frame timeout f p := (callTask_ne_droppedTask p).symm

theorem callAt_callTask {s : Runtime} {p : Progress}
    (h : s.tasks[i]? = some (callTask frame timeout f p)) : s.callAt i = p.call? := by
  simp [callAt, h, callTask]

theorem Task.eq_of_withoutAnswer {t t' : Task} (hidle : t.progress = .idle)
    (h : t'.withoutAnswer = t) : t' = t := by
  obtain ⟨prog, p, c⟩ := t'
  cases p with
  | idle => simpa [Task.withoutAnswer] using h
  | calling tag deadline sent answer fired =>
    subst h
    simp [Task.withoutAnswer] at hidle

theorem eq_callTask_of_withoutAnswer {t : Task} {tag : Tag} {deadline : Nat} {sent : Bool}
    {answer : Option Fields} {fired : Bool}
    (h : t.withoutAnswer =
      (callTask frame timeout f (.calling tag deadline sent answer fired)).withoutAnswer) :
    ∃ a, t = callTask frame timeout f (.calling tag deadline sent a fired) := by
  obtain ⟨prog, p, c⟩ := t
  cases p with
  | idle => simp [Task.withoutAnswer, callTask] at h
  | calling tag' deadline' sent' answer' fired' =>
    simp only [Task.withoutAnswer, callTask, Task.mk.injEq, Progress.calling.injEq] at h
    obtain ⟨rfl, ⟨rfl, rfl, rfl, -, rfl⟩, rfl⟩ := h
    exact ⟨answer', rfl⟩

/-- A move that neither runs nor drops a task with no call under way leaves it as it is. -/
theorem entry_move_of_idle {s : Runtime} {m : Move} {t : Task} (h : s.tasks[i]? = some t)
    (hidle : t.progress = .idle) (hrun : m ≠ .runTask i) (hdrop : m ≠ .cancel i) :
    (s.move m).tasks[i]? = some t := by
  have hsize : i < s.tasks.size := (Array.getElem?_eq_some_iff.mp h).1
  by_cases hfire : m = .fireDue
  · subst hfire
    rw [tasks_fireDue, h]
    split <;> simp [Task.fire, hidle]
  · have hw := withoutAnswer_move hsize hrun hdrop hfire
    rw [h] at hw
    obtain ⟨t', ht', heq⟩ := Option.map_eq_some_iff.mp hw
    -- with no call under way, the task is its own part that no response touches
    have hself : t.withoutAnswer = t := by simp [Task.withoutAnswer, hidle]
    rw [ht', Task.eq_of_withoutAnswer hidle (heq.trans hself)]

/-- A task that is over, and that its own run leaves as it is, stays as it is. -/
theorem entry_move_over {s : Runtime} {t : Task} (h : s.tasks[i]? = some t)
    (hidle : t.progress = .idle) (hover : t.finished = true) (hrun : s.runTask i = s) (m : Move) :
    (s.move m).tasks[i]? = some t := by
  by_cases hr : m = .runTask i
  · subst hr
    rw [move, hrun]
    exact h
  by_cases hdrop : m = .cancel i
  · subst hdrop
    rw [move, cancel_of_finished h hover]
    exact h
  exact entry_move_of_idle h hidle hr hdrop

/-- **A move that neither runs nor drops the call's task keeps its tag, deadline and queued
frame**; only firing the due timers fires its timer, and only once its deadline has passed. -/
theorem calling_move {s : Runtime} {m : Move} {tag : Tag} {deadline : Nat} {sent : Bool}
    {answer : Option Fields} {fired : Bool}
    (h : s.tasks[i]? = some (callTask frame timeout f (.calling tag deadline sent answer fired)))
    (hrun : m ≠ .runTask i) (hdrop : m ≠ .cancel i) :
    ∃ answer' fired', (s.move m).tasks[i]? =
        some (callTask frame timeout f (.calling tag deadline sent answer' fired')) ∧
      (fired' = true → fired = true ∨ deadline ≤ s.now) := by
  have hsize : i < s.tasks.size := (Array.getElem?_eq_some_iff.mp h).1
  by_cases hfire : m = .fireDue
  · subst hfire
    rw [tasks_fireDue, h]
    split
    · rename_i hdue
      refine ⟨answer, true, by simp [Task.fire, callTask], fun _ => ?_⟩
      obtain ⟨t, d, ht, -, hd, hle⟩ := mem_due.mp hdue
      rw [h, Option.some.injEq] at ht
      subst ht
      cases fired with
      | true => exact .inl rfl
      | false =>
        simp only [Task.deadline?, callTask, Bool.false_eq_true, if_false, Option.some.injEq] at hd
        exact .inr (hd ▸ hle)
    · exact ⟨answer, fired, rfl, fun hf => .inl hf⟩
  · have hw := withoutAnswer_move hsize hrun hdrop hfire
    rw [h] at hw
    obtain ⟨t', ht', heq⟩ := Option.map_eq_some_iff.mp hw
    obtain ⟨a, rfl⟩ := eq_callTask_of_withoutAnswer heq
    exact ⟨a, fired, ht', fun hf => .inl hf⟩

/-- Running the call's task takes the call one step; the task is what the step left. -/
theorem runTask_callTask {s : Runtime} {p : Progress}
    (h : s.tasks[i]? = some (callTask frame timeout f p)) :
    s.runTask i = { (s.pursue i frame timeout p).1 with
      tasks := (s.pursue i frame timeout p).1.tasks.set! i
        (stepped frame timeout f (s.pursue i frame timeout p).2) } := by
  rw [runTask_of_live h rfl]
  simp only [callTask]
  rw [advance]
  obtain ⟨s', res⟩ := s.pursue i frame timeout p
  cases res <;> rfl

theorem tasks_runTask_callTask {s : Runtime} {p : Progress}
    (h : s.tasks[i]? = some (callTask frame timeout f p)) (n : Nat) :
    (s.runTask i).tasks[n]? = if n = i then
      some (stepped frame timeout f (s.pursue i frame timeout p).2) else s.tasks[n]? := by
  have hsize : i < s.tasks.size := (Array.getElem?_eq_some_iff.mp h).1
  rw [runTask_callTask h]
  simp only [Array.set!_eq_setIfInBounds, Array.getElem?_setIfInBounds, pursue_tasks]
  by_cases hn : n = i
  · subst hn
    simp [hsize]
  · simp [hn, Ne.symm hn]

/-- Running a finished task changes nothing. -/
theorem runTask_finished {s : Runtime} {o : Outcome}
    (h : s.tasks[i]? = some { program := .finish o }) : s.runTask i = s := by
  rw [runTask_of_live h rfl]
  obtain ⟨hlt, heq⟩ := Array.getElem?_eq_some_iff.mp h
  have hset : s.tasks.set! i { program := .finish o } = s.tasks := by
    rw [Array.set!_eq_setIfInBounds, ← heq]
    simp [Array.setIfInBounds, hlt]
  simp only [advance, hset]

/-- A task whose run changes nothing queues nothing, whatever the move. -/
theorem queuedBy_of_runTask_eq {s : Runtime} (hrun : s.runTask i = s) (m : Move) :
    s.queuedBy i m = [] := by
  by_cases hr : m = .runTask i
  · subst hr
    simp [queuedBy, hrun]
  · exact queuedBy_of_ne _ hr

/-- Dropping the call's task leaves it dropped, with the slot under the call's tag removed if it
had one. -/
theorem cancel_callTask {s : Runtime} {p : Progress}
    (h : s.tasks[i]? = some (callTask frame timeout f p)) :
    (s.cancel i).tasks[i]? = some (droppedTask frame timeout f) ∧
      ∀ tag a, p.call? = some (tag, a) → (s.cancel i).pending = s.pending.remove tag := by
  obtain ⟨-, -, -, ⟨hover, -⟩ | ⟨t, ht, -, htasks, hcall⟩⟩ := s.cancel_cases i
  · have hf := hover _ h
    simp [callTask, Task.finished] at hf
  rw [h, Option.some.injEq] at ht
  subst ht
  refine ⟨?_, fun tag a hp => ?_⟩
  · rw [htasks, Array.set!_eq_setIfInBounds,
      Array.getElem?_setIfInBounds_self_of_lt (Array.getElem?_eq_some_iff.mp h).1]
    rfl
  · rcases hcall with ⟨hnone, -⟩ | ⟨tag', a', hsome, hpend⟩
    · have hnone : p.call? = none := hnone
      rw [hnone] at hp
      cases hp
    · have hsome : p.call? = some (tag', a') := hsome
      rw [hsome, Option.some.injEq, Prod.mk.injEq] at hp
      rw [hpend, hp.1]

/-- Firing the due timers fires the call's timer once its deadline has passed. -/
theorem fireDue_calling {s : Runtime} {tag : Tag} {deadline : Nat} {sent : Bool}
    {answer : Option Fields}
    (h : s.tasks[i]? = some (callTask frame timeout f (.calling tag deadline sent answer false)))
    (hle : deadline ≤ s.now) :
    (s.move .fireDue).tasks[i]? =
      some (callTask frame timeout f (.calling tag deadline sent answer true)) := by
  have hdue : i ∈ s.due := mem_due.mpr ⟨_, deadline, h, rfl, rfl, hle⟩
  rw [tasks_fireDue, if_pos hdue, h]
  rfl

/-- Once its timer has fired, a call's next step returns, whatever the queue. -/
theorem pursueCall_fired (s : Runtime) (tag : Tag) (deadline : Nat) (sent : Bool)
    (answer : Option Fields) :
    ∃ r, (s.pursueCall i frame timeout tag deadline sent answer true).2 = .inl r := by
  obtain ⟨-, hcases⟩ := pursueCall_cases (Prod.mk.eta (p := s.pursueCall i frame timeout
    tag deadline sent answer true)).symm
  rcases hcases with ⟨-, -, hr, -⟩ | ⟨-, -, ⟨d, -, hr, -⟩ | ⟨-, -, hr, -⟩ | ⟨-, hf, -⟩⟩ |
      ⟨-, -, -, ⟨-, hr, -⟩ | ⟨hf, -⟩⟩
  · exact ⟨_, hr⟩
  · exact ⟨_, hr⟩
  · exact ⟨_, hr⟩
  · cases hf
  · exact ⟨_, hr⟩
  · cases hf

/-- A call holds a slot under its tag only while it has no answer. -/
theorem slot_of_entry {s : Runtime} (hwf : s.Wf) {tag : Tag} {deadline : Nat} {sent : Bool}
    {answer : Option Fields} {fired : Bool}
    (h : s.tasks[i]? = some (callTask frame timeout f (.calling tag deadline sent answer fired)))
    (hmem : (tag, i) ∈ s.pending.slots) : answer = none := by
  have hi : s.callAt i = some (tag, answer) := callAt_callTask h
  rw [hwf.agree.owned tag i hmem, Option.some.injEq, Prod.mk.injEq] at hi
  exact hi.2.symm

end Steps

/-! ### Prefixes of a run -/

section Prefixes

variable {rt : Runtime} {i : Nat} {frame : Tag → Frame} {timeout : Duration}
  {f : Except CallError Fields → Outcome} {ms : List Move}

theorem tagAfter_snoc {j : Nat} (hj : j ≤ ms.length) (m : Move) :
    rt.tagAfter (ms ++ [m]) j = rt.tagAfter ms j := by
  rw [tagAfter, tagAfter, moves_take_append_singleton rt m hj]

theorem Registers.lt_length {j : Nat} (h : Registers rt i frame timeout f ms j) : j < ms.length :=
  (List.getElem?_eq_some_iff.mp h.1).1

theorem Registers.snoc {j : Nat} (h : Registers rt i frame timeout f ms j) (m : Move) :
    Registers rt i frame timeout f (ms ++ [m]) j := by
  obtain ⟨hj, hentry, hfree⟩ := h
  have hlt : j < ms.length := (List.getElem?_eq_some_iff.mp hj).1
  refine ⟨by rw [getElem?_append_singleton m hlt]; exact hj, ?_, ?_⟩
  · rw [moves_take_append_singleton rt m hlt.le]
    exact hentry
  · rw [moves_take_append_singleton rt m hlt.le, tagAfter_snoc hlt.le]
    exact hfree

theorem LastRun.lt_length {k : Nat} {r : Except CallError Fields}
    (h : LastRun rt i frame timeout f ms k r) : k < ms.length :=
  (List.getElem?_eq_some_iff.mp h.1).1

theorem LastRun.snoc {k : Nat} {r : Except CallError Fields}
    (h : LastRun rt i frame timeout f ms k r) (m : Move) :
    LastRun rt i frame timeout f (ms ++ [m]) k r := by
  obtain ⟨hk, p, hentry, hr⟩ := h
  have hlt : k < ms.length := (List.getElem?_eq_some_iff.mp hk).1
  refine ⟨by rw [getElem?_append_singleton m hlt]; exact hk, p, ?_, ?_⟩
  · rw [moves_take_append_singleton rt m hlt.le]; exact hentry
  · rw [moves_take_append_singleton rt m hlt.le]; exact hr

theorem registered_snoc {tag : Tag} {deadline : Nat}
    (h : ∃ j, Registers rt i frame timeout f ms j ∧ tag = rt.tagAfter ms j ∧
      deadline = (rt.moves (ms.take j)).now + timeout.millis) (m : Move) :
    ∃ j, Registers rt i frame timeout f (ms ++ [m]) j ∧ tag = rt.tagAfter (ms ++ [m]) j ∧
      deadline = (rt.moves ((ms ++ [m]).take j)).now + timeout.millis := by
  obtain ⟨j, hreg, htag, hdeadline⟩ := h
  refine ⟨j, hreg.snoc m, ?_, ?_⟩
  · rw [tagAfter_snoc hreg.lt_length.le]; exact htag
  · rw [moves_take_append_singleton rt m hreg.lt_length.le]; exact hdeadline

theorem Track.snoc {m : Move} {tag : Tag} {deadline : Nat} {sent fired fired' : Bool}
    (h : Track rt i frame timeout f ms tag deadline sent fired) (hrun : m ≠ .runTask i)
    (hfired : fired' = true → fired = true ∨ deadline ≤ (rt.moves ms).now) :
    Track rt i frame timeout f (ms ++ [m]) tag deadline sent fired' where
  registered := registered_snoc h.registered m
  frames := by
    rw [framesBy_append_singleton, queuedBy_of_ne _ hrun, List.append_nil]
    exact h.frames
  fired_late hf := by
    rw [moves_append_singleton]
    rcases hfired hf with hf | hle
    · exact le_trans (h.fired_late hf) (now_le_move _ m)
    · exact le_trans hle (now_le_move _ m)

theorem Returned.snoc {m : Move} {j k : Nat} {r : Except CallError Fields}
    (h : Returned rt i frame timeout ms j k r) (hj : j < ms.length) (hk : k < ms.length)
    (hq : (rt.moves ms).queuedBy i m = []) :
    Returned rt i frame timeout (ms ++ [m]) j k r := by
  have hframes : rt.framesBy i (ms ++ [m]) = rt.framesBy i ms := by
    rw [framesBy_append_singleton, hq, List.append_nil]
  have htag : rt.tagAfter (ms ++ [m]) j = rt.tagAfter ms j := tagAfter_snoc hj.le m
  have hprefix := moves_take_append_singleton rt m hk.le
  refine ⟨?_, ?_, fun d hd => ?_, ?_, fun tag waited hr => ?_⟩
  · rw [htag, moves_take_append_singleton rt m hk]
    exact h.slot_gone
  · rw [hframes, htag]
    exact h.frames
  · rw [hframes, htag, List.take_append_of_le_length hk.le]
    exact h.ok d hd
  · rw [hframes, hprefix]
    exact h.disconnected
  · rw [htag, hprefix, moves_take_append_singleton rt m hj.le]
    exact h.noResponse tag waited hr

theorem Dropped.snoc {m : Move} {c : Nat} (h : Dropped rt i frame timeout f ms c)
    (hq : (rt.moves ms).queuedBy i m = []) : Dropped rt i frame timeout f (ms ++ [m]) c := by
  have hc : c < ms.length := (List.getElem?_eq_some_iff.mp h.at_cancel).1
  have hframes : rt.framesBy i (ms ++ [m]) = rt.framesBy i ms := by
    rw [framesBy_append_singleton, hq, List.append_nil]
  refine ⟨by rw [getElem?_append_singleton m hc]; exact h.at_cancel, ?_⟩
  rcases h.state with ⟨hidle, hnil⟩ | ⟨j, hreg, hjc, hown, hgone⟩
  · refine .inl ⟨?_, by rw [hframes]; exact hnil⟩
    rw [moves_take_append_singleton rt m hc.le]
    exact hidle
  · refine .inr ⟨j, hreg.snoc m, hjc, ?_, ?_⟩
    · rw [hframes, tagAfter_snoc hreg.lt_length.le]
      exact hown
    · rw [tagAfter_snoc hreg.lt_length.le, moves_take_append_singleton rt m hc]
      exact hgone

end Prefixes

/-! ### The phases of a call -/

section Phases

variable {rt : Runtime} {i : Nat} {frame : Tag → Frame} {timeout : Duration}
  {f : Except CallError Fields → Outcome} {ms : List Move}

/-- An answer a call holds is the payload of a response for its own tag: the call had none at
the start. -/
theorem answer_handed_of_entry (hr : rt.Reachable) (hstart : rt.callAt i = none) {tag : Tag}
    {deadline : Nat} {sent : Bool} {answer : Option Fields} {fired : Bool}
    (h : (rt.moves ms).tasks[i]? =
      some (callTask frame timeout f (.calling tag deadline sent answer fired))) :
    ∀ d, answer = some d → rt.Handed ms tag d := by
  rintro d rfl
  rcases (answers_handed hr ms).answer i tag d (callAt_callTask h) with h | h
  · rw [hstart] at h
    cases h
  · exact h

theorem Waiting.of_track (hwf : (rt.moves ms).Wf) (hr : rt.Reachable) (hstart : rt.callAt i = none)
    {tag : Tag} {deadline : Nat} {sent : Bool} {answer : Option Fields} {fired : Bool}
    (hentry : (rt.moves ms).tasks[i]? =
      some (callTask frame timeout f (.calling tag deadline sent answer fired)))
    (h : Track rt i frame timeout f ms tag deadline sent fired) :
    Waiting rt i frame timeout f ms tag deadline sent answer fired where
  toTrack := h
  slot := slot_of_entry hwf hentry
  answer_handed := answer_handed_of_entry hr hstart hentry
  fired_returns hf := by
    subst hf
    exact pursueCall_fired _ _ _ _ _
  fires_when_due hf hle := by
    subst hf
    exact fireDue_calling hentry hle

/-- A call not yet registered whose run draws a tag with no slot is poised to register under it,
with its deadline `timeout` from now. -/
theorem Poised.of_idle (hclock : (rt.moves ms).timersAt ≤ (rt.moves ms).now)
    (hentry : (rt.moves ms).tasks[i]? = some (callTask frame timeout f .idle))
    (hframes : rt.framesBy i ms = [])
    (hfree : (rt.moves ms).pending.contains
      ((rt.moves ms).pending.fresh (rt.moves ms).pending.drawn) = false) :
    Poised rt i frame timeout f ms ((rt.moves ms).pending.fresh (rt.moves ms).pending.drawn)
      ((rt.moves ms).now + timeout.millis) false none
      (decide ((rt.moves ms).now + timeout.millis ≤ (rt.moves ms).timersAt)) where
  registered := by
    have htake : (ms ++ [Move.runTask i]).take ms.length = ms := by simp
    refine ⟨ms.length, ⟨by simp, ?_, ?_⟩, ?_, ?_⟩
    · rw [htake]
      exact hentry
    · rw [tagAfter, htake]
      exact hfree
    · rw [tagAfter, htake]
    · rw [htake]
  frames := by simpa using hframes
  fired_late hf := le_trans (of_decide_eq_true hf) hclock
  answer_handed d hd := by cases hd

/-- A call under way is poised to take its next step. -/
theorem Poised.of_waiting (hr : rt.Reachable) (hstart : rt.callAt i = none) {tag : Tag}
    {deadline : Nat} {sent : Bool} {answer : Option Fields} {fired : Bool}
    (hentry : (rt.moves ms).tasks[i]? =
      some (callTask frame timeout f (.calling tag deadline sent answer fired)))
    (h : Track rt i frame timeout f ms tag deadline sent fired) :
    Poised rt i frame timeout f ms tag deadline sent answer fired where
  registered := registered_snoc h.registered _
  frames := h.frames
  fired_late := h.fired_late
  answer_handed := answer_handed_of_entry hr hstart hentry

/-- A poised call whose run after `ms` returns `r`, leaving no slot under its tag, has returned,
and `r` is a result its history allows. -/
theorem Phase.of_returned {p : Progress} {s' : Runtime} {tag : Tag} {deadline : Nat} {sent : Bool}
    {answer : Option Fields} {fired : Bool} {r : Except CallError Fields}
    (hentry : (rt.moves ms).tasks[i]? = some (callTask frame timeout f p))
    (hp : (rt.moves ms).pursue i frame timeout p = (s', .inl r))
    (hgone : s'.pending.contains tag = false)
    (hpoised : Poised rt i frame timeout f ms tag deadline sent answer fired)
    (hfr : rt.framesBy i (ms ++ [Move.runTask i]) = [] ∨
      rt.framesBy i (ms ++ [Move.runTask i]) = [frame tag])
    (hok : ∀ d, r = .ok d →
      rt.Handed ms tag d ∧ rt.framesBy i (ms ++ [Move.runTask i]) = [frame tag])
    (hdisc : r = .error .disconnected ↔
      rt.framesBy i (ms ++ [Move.runTask i]) = [] ∧ (rt.moves ms).outbound.closed = true)
    (hno : ∀ tag' waited, r = .error (.noResponse tag' waited) →
      tag' = tag ∧ waited = timeout ∧
        (deadline ≤ (rt.moves ms).now ∨ (tag, i) ∉ (rt.moves ms).pending.slots)) :
    Phase rt i frame timeout f (ms ++ [Move.runTask i]) := by
  obtain ⟨j, hreg, htag, hdeadline⟩ := hpoised.registered
  have hj : j ≤ ms.length := Nat.le_of_lt_succ (by simpa using hreg.lt_length)
  have htake : (ms ++ [Move.runTask i]).take ms.length = ms := by simp
  have htake' : (ms ++ [Move.runTask i]).take (ms.length + 1) = ms ++ [Move.runTask i] :=
    List.take_of_length_le (by simp)
  have hmoves : rt.moves (ms ++ [Move.runTask i]) = (rt.moves ms).runTask i := by
    rw [moves_append_singleton]
    rfl
  have hentry' : ((rt.moves ms).runTask i).tasks[i]? = some { program := .finish (f r) } := by
    rw [tasks_runTask_callTask hentry, if_pos rfl, hp]
    rfl
  have hlast : LastRun rt i frame timeout f (ms ++ [Move.runTask i]) ms.length r :=
    ⟨by simp, p, by rw [htake]; exact hentry, by rw [htake, hp]⟩
  refine .returned j ms.length r (by rw [hmoves, hentry']) hj hreg hlast
    ⟨?_, ?_, fun d hd => ?_, ?_, fun tag' waited hr' => ?_⟩
  · rw [← htag, htake', hmoves, runTask_callTask hentry, hp]
    exact hgone
  · rw [← htag]
    exact hfr
  · rw [← htag, htake]
    exact hok d hd
  · rw [htake]
    exact hdisc
  · rw [← htag, htake, ← hdeadline]
    exact hno tag' waited hr'

/-- A poised call whose run after `ms` leaves it waiting is waiting, with its history extended
by the frame it queued, if it did. -/
theorem Phase.of_waiting {p : Progress} {s' : Runtime} {tag : Tag} {deadline : Nat}
    {sent sent' : Bool} {answer answer' : Option Fields} {fired : Bool}
    (hentry : (rt.moves ms).tasks[i]? = some (callTask frame timeout f p))
    (hp : (rt.moves ms).pursue i frame timeout p =
      (s', .inr (.calling tag deadline sent' answer' false)))
    (hpoised : Poised rt i frame timeout f ms tag deadline sent answer fired)
    (hfr : rt.framesBy i (ms ++ [Move.runTask i]) = if sent' then [frame tag] else []) :
    Phase rt i frame timeout f (ms ++ [Move.runTask i]) := by
  have hmoves : rt.moves (ms ++ [Move.runTask i]) = (rt.moves ms).runTask i := by
    rw [moves_append_singleton]
    rfl
  refine .waiting tag deadline sent' answer' false ?_ ⟨hpoised.registered, hfr, fun h => by cases h⟩
  rw [hmoves, tasks_runTask_callTask hentry, if_pos rfl, hp]
  rfl

/-- **The call's own step.** A call poised to step from a runtime `s₀` with the queue after `ms`,
which has a slot for it only if the runtime after `ms` has one, either returns, with the result
its history allows, or waits on, with its history extended. -/
theorem Phase.run {p : Progress} {s₀ : Runtime} {tag : Tag} {deadline : Nat} {sent : Bool}
    {answer : Option Fields} {fired : Bool}
    (hentry : (rt.moves ms).tasks[i]? = some (callTask frame timeout f p))
    (hp : (rt.moves ms).pursue i frame timeout p =
      s₀.pursueCall i frame timeout tag deadline sent answer fired)
    (houtbound : s₀.outbound = (rt.moves ms).outbound)
    (hslot : (tag, i) ∉ s₀.pending.slots → (tag, i) ∉ (rt.moves ms).pending.slots)
    (hpoised : Poised rt i frame timeout f ms tag deadline sent answer fired) :
    Phase rt i frame timeout f (ms ++ [Move.runTask i]) := by
  generalize hq : s₀.pursueCall i frame timeout tag deadline sent answer fired = q at hp
  obtain ⟨s', res⟩ := q
  obtain ⟨-, hcases⟩ := pursueCall_cases hq
  -- what the call's run queues is what it adds at the back of the queue
  have hframes : ∀ new, s'.outbound.frames = s₀.outbound.frames ++ new →
      rt.framesBy i (ms ++ [Move.runTask i]) = rt.framesBy i ms ++ new := by
    intro new hnew
    have hq : (rt.moves ms).queuedBy i (.runTask i) = new := by
      apply queuedBy_runTask
      rw [runTask_callTask hentry, hp, ← houtbound]
      exact hnew
    rw [framesBy_append_singleton, hq]
  have hgone : (s₀.pending.remove tag).contains tag = false := PendingTable.contains_remove _ _
  rcases hcases with ⟨hsent, hclosed, hr, hfr, hpend⟩ | ⟨-, hfr, hres⟩ |
      ⟨hsent, hopen, hfr, hres⟩
  · -- the queue is closed: the call fails as disconnected, having queued nothing
    subst hsent hr
    have hnil : rt.framesBy i (ms ++ [Move.runTask i]) = [] := by
      rw [hframes [] (by rw [hfr, List.append_nil]), hpoised.frames]
      rfl
    exact Phase.of_returned hentry hp (hpend ▸ hgone) hpoised (.inl hnil) (fun d hd => by cases hd)
      ⟨fun _ => ⟨hnil, houtbound ▸ hclosed⟩, fun _ => rfl⟩ (fun _ _ h => by cases h)
  · -- the frame is in the queue, once
    have hone : rt.framesBy i (ms ++ [Move.runTask i]) = [frame tag] := by
      rw [hframes _ hfr, hpoised.frames]
      cases sent <;> rfl
    have hnot : ¬(rt.framesBy i (ms ++ [Move.runTask i]) = [] ∧
        (rt.moves ms).outbound.closed = true) := fun h => by
      rw [hone] at h
      cases h.1
    rcases hres with ⟨d, hd, hr, hpend⟩ | ⟨-, hf, hr, hpend⟩ | ⟨-, -, -, hr, -⟩ <;> subst hr
    · refine Phase.of_returned hentry hp (hpend ▸ hgone) hpoised (.inr hone) (fun d' hd' => ?_)
        ⟨fun h => (by cases h), fun h => absurd h hnot⟩ (fun _ _ h => by cases h)
      cases hd'
      exact ⟨hpoised.answer_handed d hd, hone⟩
    · refine Phase.of_returned hentry hp (hpend ▸ hgone) hpoised (.inr hone) (fun _ h => by cases h)
        ⟨fun h => (by cases h), fun h => absurd h hnot⟩ (fun tag' waited h => ?_)
      cases h
      -- no response comes once the timer fired or the slot is gone
      exact ⟨rfl, rfl, hf.imp hpoised.fired_late hslot⟩
    · exact Phase.of_waiting hentry hp hpoised hone
  · -- the frame waits for room
    subst hsent
    have hnil : rt.framesBy i (ms ++ [Move.runTask i]) = [] := by
      rw [hframes [] (by rw [hfr, List.append_nil]), hpoised.frames]
      rfl
    rcases hres with ⟨hf, hr, hpend⟩ | ⟨-, hr, -⟩ <;> subst hr
    · refine Phase.of_returned hentry hp (hpend ▸ hgone) hpoised (.inl hnil) (fun _ h => by cases h)
        ⟨fun h => (by cases h), fun h => (by rw [← houtbound, hopen] at h; cases h.2)⟩
        (fun tag' waited h => ?_)
      cases h
      exact ⟨rfl, rfl, .inl (hpoised.fired_late hf)⟩
    · exact Phase.of_waiting hentry hp hpoised hnil

/-- A call not yet registered: its run draws, and registers under a tag with no slot or draws
again at its next run; dropping it drops a call that queued nothing; any other move leaves it as
it is. -/
theorem Phase.move_idle {m : Move} (hclock : (rt.moves ms).timersAt ≤ (rt.moves ms).now)
    (hentry : (rt.moves ms).tasks[i]? = some (callTask frame timeout f .idle))
    (hframes : rt.framesBy i ms = []) : Phase rt i frame timeout f (ms ++ [m]) := by
  by_cases hrun : m = .runTask i
  · subst hrun
    rcases (rt.moves ms).pursue_idle i frame timeout with ⟨tag, t', hdraw, hp⟩ | ⟨t', hdraw, hp⟩
    · obtain ⟨hfree, rfl, rfl⟩ := PendingTable.draw_eq_some hdraw
      -- the slot was registered just before the step, so the call still has it
      exact Phase.run hentry hp rfl
        (fun hnot => absurd (List.mem_append_right _ (List.mem_singleton_self _)) hnot)
        (Poised.of_idle hclock hentry hframes hfree)
    · -- the tag drawn is in use: it is put back, and the task will draw again
      have hsame : ((rt.moves ms).runTask i).outbound.frames = (rt.moves ms).outbound.frames ++ [] := by
        rw [runTask_callTask hentry, hp, List.append_nil]
        simp
      refine .idle ?_ ?_
      · rw [moves_append_singleton, move, tasks_runTask_callTask hentry, if_pos rfl, hp]
        rfl
      · rw [framesBy_append_singleton, hframes, queuedBy_runTask hsame]
        rfl
  by_cases hdrop : m = .cancel i
  · subst hdrop
    have htake : (ms ++ [Move.cancel i]).take ms.length = ms := by simp
    refine .dropped ms.length (by rw [moves_append_singleton]; exact (cancel_callTask hentry).1)
      ⟨by simp, .inl ⟨by rw [htake]; exact hentry, ?_⟩⟩
    rw [framesBy_append_singleton, queuedBy_of_ne _ (by simp), hframes]
    rfl
  refine .idle ?_ ?_
  · rw [moves_append_singleton]
    exact entry_move_of_idle hentry rfl hrun hdrop
  · rw [framesBy_append_singleton, queuedBy_of_ne _ hrun, hframes]
    rfl

/-- A call under way: its run takes its step; dropping it removes the slot under its tag; any
other move keeps its history. -/
theorem Phase.move_waiting {m : Move} (hreach : rt.Reachable)
    (hstart : rt.callAt i = none) {tag : Tag} {deadline : Nat} {sent : Bool}
    {answer : Option Fields} {fired : Bool}
    (hentry : (rt.moves ms).tasks[i]? =
      some (callTask frame timeout f (.calling tag deadline sent answer fired)))
    (htrack : Track rt i frame timeout f ms tag deadline sent fired) :
    Phase rt i frame timeout f (ms ++ [m]) := by
  by_cases hrun : m = .runTask i
  · subst hrun
    exact Phase.run hentry rfl rfl id (Poised.of_waiting hreach hstart hentry htrack)
  by_cases hdrop : m = .cancel i
  · subst hdrop
    obtain ⟨hdropped, hpend⟩ := cancel_callTask hentry
    obtain ⟨j, hreg, htag, -⟩ := htrack.registered
    have htake : (ms ++ [Move.cancel i]).take (ms.length + 1) = ms ++ [Move.cancel i] :=
      List.take_of_length_le (by simp)
    refine .dropped ms.length (by rw [moves_append_singleton]; exact hdropped)
      ⟨by simp, .inr ⟨j, hreg.snoc _, hreg.lt_length, ?_, ?_⟩⟩
    · rw [framesBy_append_singleton, queuedBy_of_ne _ (by simp), List.append_nil, htrack.frames,
        tagAfter_snoc hreg.lt_length.le, ← htag]
      cases sent
      · exact .inl rfl
      · exact .inr rfl
    · rw [tagAfter_snoc hreg.lt_length.le, ← htag, htake, moves_append_singleton, move,
        hpend tag answer rfl]
      exact PendingTable.contains_remove _ _
  obtain ⟨answer', fired', hentry', hfired⟩ := calling_move hentry hrun hdrop
  exact .waiting tag deadline sent answer' fired' (by rw [moves_append_singleton]; exact hentry')
    (htrack.snoc hrun hfired)

/-- **What one move does to the call's phase.** A call not yet registered or under way takes
the move as `Phase.move_idle` and `Phase.move_waiting` say; a call that returned, or was
dropped, is over, and stays as it is. -/
theorem Phase.move {m : Move} (h : Phase rt i frame timeout f ms)
    (hstart : rt.tasks[i]? = some (callTask frame timeout f .idle)) (hreach : rt.Reachable)
    (hclock : (rt.moves ms).timersAt ≤ (rt.moves ms).now) :
    Phase rt i frame timeout f (ms ++ [m]) := by
  cases h with
  | idle hentry hframes => exact Phase.move_idle hclock hentry hframes
  | waiting tag deadline sent answer fired hentry htrack =>
    exact Phase.move_waiting hreach (callAt_callTask hstart) hentry htrack
  | returned j k r hentry hjk hreg hlast hret =>
    have hrun := runTask_finished hentry
    refine .returned j k r ?_ hjk (hreg.snoc m) (hlast.snoc m)
      (hret.snoc hreg.lt_length hlast.lt_length (queuedBy_of_runTask_eq hrun m))
    rw [moves_append_singleton]
    exact entry_move_over hentry rfl rfl hrun m
  | dropped c hentry hdropped =>
    have hrun := runTask_of_cancelled hentry rfl
    refine .dropped c ?_ (hdropped.snoc (queuedBy_of_runTask_eq hrun m))
    rw [moves_append_singleton]
    exact entry_move_over hentry rfl rfl hrun m

/-- **The phase of a call along every run**, by induction on the moves, one step at a time. -/
theorem phase_moves (hreach : rt.Reachable) (hclock : rt.timersAt ≤ rt.now)
    (hstart : rt.tasks[i]? = some (callTask frame timeout f .idle)) (ms : List Move) :
    Phase rt i frame timeout f ms := by
  induction ms using List.reverseRecOn with
  | nil => exact .idle hstart rfl
  | append_singleton ms m ih => exact ih.move hstart hreach (timersAt_le_now_moves hclock ms)

/-- What a phase says of the call, in the words of `ExchangeLife`. -/
theorem Phase.life (h : Phase rt i frame timeout f ms) (hr : rt.Reachable)
    (hstart : rt.callAt i = none) : ExchangeLife rt i frame timeout f ms := by
  cases h with
  | idle hentry hframes =>
    refine ⟨fun _ => hframes, fun _ _ _ _ _ h => ?_, fun _ ho => ?_, fun h => ?_⟩
    · simp [hentry] at h
    · simp [hentry, callTask] at ho
    · simp [hentry] at h
  | waiting tag deadline sent answer fired hentry htrack =>
    refine ⟨fun h => ?_, fun tag' deadline' sent' answer' fired' h => ?_, fun _ ho => ?_,
      fun h => ?_⟩
    · simp [hentry] at h
    · rw [hentry, Option.some.injEq, callTask_inj, Progress.calling.injEq] at h
      obtain ⟨rfl, rfl, rfl, rfl, rfl⟩ := h
      exact Waiting.of_track (hr.moves ms).wf hr hstart hentry htrack
    · simp [hentry, callTask] at ho
    · simp [hentry] at h
  | returned j k r hentry hjk hreg hlast hret =>
    refine ⟨fun h => ?_, fun _ _ _ _ _ h => ?_, fun o ho => ?_, fun h => ?_⟩
    · simp [hentry] at h
    · simp [hentry] at h
    · rw [hentry, Option.map_some, Option.some.injEq, Program.finish.injEq] at ho
      exact ⟨j, k, r, hjk, hreg, hlast, ho.symm, hret⟩
    · simp [hentry] at h
  | dropped c hentry hdropped =>
    refine ⟨fun h => ?_, fun _ _ _ _ _ h => ?_, fun _ ho => ?_, fun _ => ⟨c, hdropped⟩⟩
    · simp [hentry] at h
    · simp [hentry] at h
    · simp [hentry, droppedTask, callTask] at ho

/-- After its last run the call's task is over, with what it reports of the result. -/
theorem LastRun.entry_succ {k : Nat} {r : Except CallError Fields}
    (h : LastRun rt i frame timeout f ms k r) :
    (rt.moves (ms.take (k + 1))).tasks[i]? = some { program := .finish (f r) } := by
  obtain ⟨hk, p, hentry, hr⟩ := h
  rw [List.take_add_one, hk, Option.toList_some, moves_append_singleton, move,
    tasks_runTask_callTask hentry, if_pos rfl, hr]
  rfl

/-- **A call returns once.** -/
theorem LastRun.unique {k k' : Nat} {r r' : Except CallError Fields}
    (h : LastRun rt i frame timeout f ms k r) (h' : LastRun rt i frame timeout f ms k' r') :
    k = k' ∧ r = r' := by
  -- after the last run the task is over, so no later move runs the call
  have hlater : ∀ {k k' : Nat} {r r' : Except CallError Fields},
      LastRun rt i frame timeout f ms k r → LastRun rt i frame timeout f ms k' r' → ¬k < k' := by
    intro k k' r r' h h' hlt
    have hover := moves_take_of_le
      (P := fun s => s.tasks[i]? = some { program := .finish (f r) })
      (fun s m hs => entry_move_over hs rfl rfl (runTask_finished hs) m) rt ms hlt h.entry_succ
    obtain ⟨-, p, hentry, -⟩ := h'
    rw [hover] at hentry
    simp at hentry
  obtain rfl : k = k' := by
    rcases lt_trichotomy k k' with hlt | heq | hgt
    · exact absurd hlt (hlater h h')
    · exact heq
    · exact absurd hgt (hlater h' h)
  obtain ⟨-, p, hentry, hr⟩ := h
  obtain ⟨-, p', hentry', hr'⟩ := h'
  rw [hentry, Option.some.injEq, callTask_inj] at hentry'
  subst hentry'
  rw [hr] at hr'
  exact ⟨rfl, Sum.inl.inj hr'⟩

end Phases

/-! ### The life of a call -/

section Life

variable {rt : Runtime} {i : Nat} {frame : Tag → Frame} {timeout : Duration}
  {f : Except CallError Fields → Outcome}

/-- What a user lookup reports for the result of its call. -/
def lookupOutcome (r : Except CallError Fields) : Outcome :=
  .user (match r with
    | .ok data => UserRecord.ofLookup data
    | .error _ => none)

/-- A user lookup reporting to its task is a call reporting through `lookupOutcome`. -/
theorem lookupUser_eq (user : Uuid) (timeout : Duration) :
    Program.lookupUser user timeout (fun r => .finish (.user r)) =
      (callTask (Frame.userLookup user) timeout lookupOutcome .idle).program := rfl

/-- A user lookup reports a record exactly when its call returned a payload that reads as one. -/
theorem lookupOutcome_eq_user_some {r : Except CallError Fields} {record : UserRecord} :
    lookupOutcome r = .user (some record) ↔
      ∃ d, r = .ok d ∧ UserRecord.ofLookup d = some record := by
  cases r <;> simp [lookupOutcome]

/-- **The life of a call.** Along every run of moves from a reachable runtime whose timers were
not looked at ahead of the clock, a task started as a call, to another service or to the hub
about a user, lives the life `ExchangeLife`: it queues at most its own frame; it returns a
payload only one of a response for its own tag, fails as disconnected exactly when its frame
never went in and the queue was closed at its last run, and otherwise gives up with its own
tag and timeout once its deadline has passed or its slot is gone, also when its frame still
waited for room; right after it returns, or is dropped, the tag it registered has no slot. A
user lookup reports a record exactly when the call returned, at its one last run, a payload that
reads as that record. -/
theorem exchange_life (hreach : rt.Reachable) (hclock : rt.timersAt ≤ rt.now)
    (hstart : rt.tasks[i]? = some (callTask frame timeout f .idle)) (ms : List Move) :
    ExchangeLife rt i frame timeout f ms ∧
      (f = lookupOutcome → ∀ o, ((rt.moves ms).tasks[i]?).map Task.program = some (.finish o) →
        ∀ record, o = .user (some record) ↔ ∃ k d,
          LastRun rt i frame timeout f ms k (.ok d) ∧ UserRecord.ofLookup d = some record) := by
  have hlife := (phase_moves hreach hclock hstart ms).life hreach (callAt_callTask hstart)
  refine ⟨hlife, ?_⟩
  rintro rfl o ho record
  obtain ⟨j, k, r, -, -, hlast, rfl, -⟩ := hlife.returned o ho
  rw [lookupOutcome_eq_user_some]
  constructor
  · rintro ⟨d, rfl, hd⟩
    exact ⟨k, d, hlast, hd⟩
  · rintro ⟨k', d, hlast', hd⟩
    obtain ⟨-, rfl⟩ := hlast.unique hlast'
    exact ⟨d, rfl, hd⟩

/-- A user lookup started with no room in the outbound queue, run, then run again once the clock
has passed its deadline and its timer has fired, then dropped. -/
theorem exchange_life_full_queue :
    ((Runtime.start 0 Tag.issued).spawn
        (Program.lookupUser ⟨0⟩ ⟨5⟩ fun r => .finish (.user r))).1.Reachable ∧
      ((Runtime.start 0 Tag.issued).spawn
        (Program.lookupUser ⟨0⟩ ⟨5⟩ fun r => .finish (.user r))).1.timersAt ≤
      ((Runtime.start 0 Tag.issued).spawn
        (Program.lookupUser ⟨0⟩ ⟨5⟩ fun r => .finish (.user r))).1.now ∧
      ((Runtime.start 0 Tag.issued).spawn
        (Program.lookupUser ⟨0⟩ ⟨5⟩ fun r => .finish (.user r))).1.tasks[0]? =
        some (callTask (Frame.userLookup ⟨0⟩) ⟨5⟩ lookupOutcome .idle) ∧
      ExchangeLife ((Runtime.start 0 Tag.issued).spawn
        (Program.lookupUser ⟨0⟩ ⟨5⟩ fun r => .finish (.user r))).1 0 (Frame.userLookup ⟨0⟩) ⟨5⟩
        lookupOutcome [.runTask 0, .tick ⟨5⟩, .fireDue, .runTask 0, .cancel 0] ∧
      (lookupOutcome = lookupOutcome → ∀ o,
        ((((Runtime.start 0 Tag.issued).spawn
          (Program.lookupUser ⟨0⟩ ⟨5⟩ fun r => .finish (.user r))).1.moves
            [.runTask 0, .tick ⟨5⟩, .fireDue, .runTask 0, .cancel 0]).tasks[0]?).map
            Task.program = some (.finish o) →
        ∀ record, o = .user (some record) ↔ ∃ k d,
          LastRun ((Runtime.start 0 Tag.issued).spawn
            (Program.lookupUser ⟨0⟩ ⟨5⟩ fun r => .finish (.user r))).1 0 (Frame.userLookup ⟨0⟩)
            ⟨5⟩ lookupOutcome [.runTask 0, .tick ⟨5⟩, .fireDue, .runTask 0, .cancel 0] k (.ok d) ∧
          UserRecord.ofLookup d = some record) := by
  have hreach := Reachable.spawn (Program.lookupUser ⟨0⟩ ⟨5⟩ fun r => .finish (.user r))
    (Reachable.start 0 Tag.issued)
  exact ⟨hreach, le_refl 0, rfl, exchange_life hreach (le_refl 0) rfl _⟩

end Life

end Runtime

end HubService.Session
