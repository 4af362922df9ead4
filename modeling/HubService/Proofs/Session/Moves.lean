import HubService.Proofs.Session.Delivery
import HubService.Proofs.Session.Runs

/-!
# Runs of the runtime, move by move

`HubService.Session.Runtime.Reachable` says which runtimes a service can reach. To say what
happens *along* a run, the moves are named (`HubService.Session.Runtime.Move`) and made one
after another (`HubService.Session.Runtime.moves`). They are the moves of a running service: the
world starts a task, hands on a response, queues a refusal's reply, drops a task, moves the
clock, takes the queued frames or goes away; the scheduler picks the woken tasks, runs a task,
or fires the timers whose deadline has come and notes the time. Unlike `Reachable`, a run fires
no timer early, so the timers are never looked at after the clock
(`HubService.Session.Runtime.timersAt_le_now_moves`).

What a run of one task does is said once (`HubService.Session.Runtime.RunFacts`,
`HubService.Session.Runtime.advance_facts`): it is a run of the task's program; every
answer it gives a call is a response it hands on; the task ends with the call it had or a new
one under a tag drawn in the run; a slot it takes away is under a tag it hands a response for,
or under the tag of the call the task had, or is the task's own; and a tag gets a slot in it
only by being drawn in it. From that:

* **A move leaves the tasks it does not run or drop almost as they are**
  (`HubService.Session.Runtime.withoutAnswer_move`): their programs, and the tag, deadline and
  queued frame of their calls, stay; a response may answer a call, and firing the due timers
  marks a call's timer fired.
* **Answers come from responses** (`HubService.Session.Runtime.answers_handed`): every answer a
  call holds along a run is the payload of a response for its tag, handed on by the reader
  during the run or in the program of a task (`HubService.Session.Runtime.Handed`).

The frames a task puts in the outbound queue are counted move by move
(`HubService.Session.Runtime.framesBy`): running a task only ever adds frames at the back of the
queue (`HubService.Session.Runtime.advance_frame`).
-/

namespace HubService.Session

open HubService.Wire HubService.Json

/-! ### What a response cannot change -/

/-- The task with its call's response forgotten: the part of a task that no response touches. -/
def Task.withoutAnswer (t : Task) : Task :=
  match t.progress with
  | .calling tag deadline sent _ fired => { t with progress := .calling tag deadline sent none fired }
  | .idle => t

@[simp] theorem Task.answered_withoutAnswer (data : Fields) (t : Task) :
    (t.answered data).withoutAnswer = t.withoutAnswer := by
  obtain ⟨prog, p, c⟩ := t
  cases p <;> rfl

@[simp] theorem Task.withoutAnswer_program (t : Task) : t.withoutAnswer.program = t.program := by
  obtain ⟨prog, p, c⟩ := t
  cases p <;> rfl

/-- A program hands `data` to the call waiting under `tag` in some run of it. -/
def Program.Hands (p : Program) (tag : Tag) (data : Fields) : Prop :=
  ∃ es q, Reaches p es q ∧ Event.resolved tag data ∈ es

/-- What a program hands on after a run, it hands on from the start. -/
theorem Reaches.hands {p q : Program} {es : List Event} (h : Reaches p es q) {tag : Tag}
    {data : Fields} (hq : q.Hands tag data) : p.Hands tag data := by
  obtain ⟨es', q', h', hmem⟩ := hq
  exact ⟨es ++ es', q', h.trans h', List.mem_append_right _ hmem⟩

namespace Runtime

/-! ### Moves -/

@[simp] theorem moves_nil (rt : Runtime) : rt.moves [] = rt := rfl

@[simp] theorem moves_append_singleton (rt : Runtime) (ms : List Move) (m : Move) :
    rt.moves (ms ++ [m]) = (rt.moves ms).move m := by
  simp [moves, List.foldl_append]

/-- The prefixes of a run with one more move leave the earlier ones as they were. -/
theorem moves_take_append_singleton (rt : Runtime) {ms : List Move} {k : Nat} (m : Move)
    (hk : k ≤ ms.length) : rt.moves ((ms ++ [m]).take k) = rt.moves (ms.take k) := by
  rw [List.take_append_of_le_length hk]

theorem getElem?_append_singleton {ms : List Move} {k : Nat} (m : Move) (hk : k < ms.length) :
    (ms ++ [m])[k]? = ms[k]? :=
  List.getElem?_append_left hk

/-- Every move of a run is one of `Reachable`. -/
theorem Reachable.move {rt : Runtime} (hr : rt.Reachable) : ∀ m, (rt.move m).Reachable
  | .spawn p => hr.spawn p
  | .resolve tag data => hr.resolve tag data
  | .tryQueue frame => hr.tryQueue frame
  | .runTask id => hr.runTask id
  | .cancel id => hr.cancel id
  | .fireDue => (hr.fireAll rt.due).schedule _ rt.now
  | .tick d => hr.tick d
  | .drain => hr.drain
  | .close => hr.close
  | .schedule ready => hr.schedule ready rt.timersAt

theorem Reachable.moves {rt : Runtime} (hr : rt.Reachable) (ms : List Move) :
    (rt.moves ms).Reachable := by
  induction ms using List.reverseRecOn with
  | nil => exact hr
  | append_singleton ms m ih =>
    rw [moves_append_singleton]
    exact ih.move m

theorem moves_append (rt : Runtime) (ms ms' : List Move) :
    rt.moves (ms ++ ms') = (rt.moves ms).moves ms' := by
  simp [moves, List.foldl_append]

/-! ### A call's step -/

/-- A call's step leaves the clock and the timers, and adds frames only at the back of the
queue. -/
theorem pursue_frame (rt : Runtime) (id : Nat) (frame : Tag → Frame) (timeout : Duration)
    (p : Progress) :
    (∃ new, (rt.pursue id frame timeout p).1.outbound.frames = rt.outbound.frames ++ new) ∧
      (rt.pursue id frame timeout p).1.now = rt.now ∧
      (rt.pursue id frame timeout p).1.timersAt = rt.timersAt := by
  -- a call under way, on a runtime with the queue, the clock and the timers of `rt`
  have key : ∀ s : Runtime, s.outbound = rt.outbound → s.now = rt.now →
      s.timersAt = rt.timersAt → ∀ tag deadline sent answer fired,
      (∃ new, (s.pursueCall id frame timeout tag deadline sent answer fired).1.outbound.frames =
          rt.outbound.frames ++ new) ∧
        (s.pursueCall id frame timeout tag deadline sent answer fired).1.now = rt.now ∧
        (s.pursueCall id frame timeout tag deadline sent answer fired).1.timersAt = rt.timersAt := by
    intro s hout hnow htimers tag deadline sent answer fired
    obtain ⟨⟨-, hnow', htimers'⟩, hcases⟩ := pursueCall_cases (Prod.mk.eta
      (p := s.pursueCall id frame timeout tag deadline sent answer fired)).symm
    refine ⟨?_, hnow'.trans hnow, htimers'.trans htimers⟩
    rw [← hout]
    rcases hcases with ⟨-, -, -, hf, -⟩ | ⟨-, hf, -⟩ | ⟨-, -, hf, -⟩
    · exact ⟨[], by simp [hf]⟩
    · exact ⟨_, hf⟩
    · exact ⟨[], by simp [hf]⟩
  cases p with
  | calling tag deadline sent answer fired => exact key rt rfl rfl rfl _ _ _ _ _
  | idle =>
    rcases rt.pursue_idle id frame timeout with ⟨tag, t', -, hp⟩ | ⟨t', -, hp⟩ <;> rw [hp]
    · exact key { rt with pending := t' } rfl rfl rfl _ _ _ _ _
    · exact ⟨⟨[], by simp⟩, by simp, by simp⟩

/-! ### Handing a response on -/

theorem resolve_frame (rt : Runtime) (tag : Tag) (data : Fields) :
    (rt.resolve tag data).outbound = rt.outbound ∧ (rt.resolve tag data).now = rt.now ∧
      (rt.resolve tag data).timersAt = rt.timersAt := by
  unfold resolve
  split <;> simp

/-- A response takes away the slot under its tag, if there is one, and no other. -/
theorem resolve_pending (rt : Runtime) (tag : Tag) (data : Fields) :
    (rt.resolve tag data).pending = rt.pending ∨
      (rt.resolve tag data).pending = rt.pending.remove tag := by
  unfold resolve
  split
  · exact .inr (by simp)
  · exact .inl rfl

@[simp] theorem resolve_fresh (rt : Runtime) (tag : Tag) (data : Fields) :
    (rt.resolve tag data).pending.fresh = rt.pending.fresh := by
  rcases rt.resolve_pending tag data with h | h <;> simp [h]

@[simp] theorem resolve_drawn (rt : Runtime) (tag : Tag) (data : Fields) :
    (rt.resolve tag data).pending.drawn = rt.pending.drawn := by
  rcases rt.resolve_pending tag data with h | h <;> simp [h]

/-- A response changes no task but the answer of the call it goes to. -/
theorem withoutAnswer_resolve (rt : Runtime) (tag : Tag) (data : Fields) (k : Nat) :
    (rt.resolve tag data).tasks[k]?.map Task.withoutAnswer = rt.tasks[k]?.map Task.withoutAnswer := by
  unfold resolve
  split
  · simp only [wake_tasks, Array.getElem?_modify]
    split
    · cases rt.tasks[k]? with
      | none => rfl
      | some t => exact congrArg some (Task.answered_withoutAnswer data t)
    · rfl
  · rfl

/-! ### What a run of a task does -/

/-- **Running a task touches the others only through responses**, leaves the clock, and adds
frames only at the back of the queue: by induction on its program. -/
theorem advance_frame (id : Nat) (prog : Program) :
    ∀ (p : Progress) (rt : Runtime),
      (∀ k : Nat, (advance id prog p rt).1.tasks[k]?.map Task.withoutAnswer =
        rt.tasks[k]?.map Task.withoutAnswer) ∧
      (∃ new, (advance id prog p rt).1.outbound.frames = rt.outbound.frames ++ new) ∧
      (advance id prog p rt).1.now = rt.now ∧ (advance id prog p rt).1.timersAt = rt.timersAt := by
  induction prog with
  | finish o => intro p rt; exact ⟨fun _ => rfl, ⟨[], (List.append_nil _).symm⟩, rfl, rfl⟩
  | send frame next ih =>
    intro p rt
    rw [advance]
    have hcases := Outbound.offer_cases rt.outbound id frame
    generalize rt.outbound.offer id frame = o at hcases ⊢
    obtain ⟨q, a⟩ := o
    -- the frame goes in, or not; either way what follows runs on the new queue
    have hnext : ∀ b, (∃ new, q.frames = rt.outbound.frames ++ new) →
        (∀ k : Nat, (advance id (next b) .idle { rt with outbound := q }).1.tasks[k]?.map
            Task.withoutAnswer = rt.tasks[k]?.map Task.withoutAnswer) ∧
          (∃ new, (advance id (next b) .idle { rt with outbound := q }).1.outbound.frames =
            rt.outbound.frames ++ new) ∧
          (advance id (next b) .idle { rt with outbound := q }).1.now = rt.now ∧
          (advance id (next b) .idle { rt with outbound := q }).1.timersAt = rt.timersAt := by
      rintro b ⟨new, hq⟩
      obtain ⟨h1, ⟨new', h2⟩, h3, h4⟩ := ih b .idle { rt with outbound := q }
      exact ⟨h1, ⟨new ++ new', by rw [h2]; simp [hq]⟩, h3, h4⟩
    rcases hcases with ⟨-, ha, hf⟩ | ⟨-, ha, hf⟩ | ⟨-, ha, hf⟩ <;> dsimp only at ha hf <;> subst ha
    · exact hnext false ⟨[], by simp [hf]⟩
    · exact hnext true ⟨_, hf⟩
    · exact ⟨fun _ => rfl, ⟨[], by simp [hf]⟩, rfl, rfl⟩
  | exchange frame timeout next ih =>
    intro p rt
    rw [advance]
    have htasks := rt.pursue_tasks id frame timeout p
    obtain ⟨⟨new, hf⟩, hnow, htimers⟩ := rt.pursue_frame id frame timeout p
    generalize rt.pursue id frame timeout p = r at htasks hf hnow htimers ⊢
    obtain ⟨rt', res⟩ := r
    cases res with
    | inl e =>
      obtain ⟨h1, ⟨new', h2⟩, h3, h4⟩ := ih e .idle rt'
      exact ⟨fun k => by rw [h1 k, htasks], ⟨new ++ new', by rw [h2, hf]; simp⟩,
        h3.trans hnow, h4.trans htimers⟩
    | inr p' => exact ⟨fun k => by rw [htasks], ⟨new, hf⟩, hnow, htimers⟩
  | resolve tag data next ih =>
    intro p rt
    rw [advance]
    obtain ⟨h1, ⟨new, h2⟩, h3, h4⟩ := ih .idle (rt.resolve tag data)
    obtain ⟨ho, hn, ht⟩ := rt.resolve_frame tag data
    exact ⟨fun k => (h1 k).trans (rt.withoutAnswer_resolve tag data k), ⟨new, by rw [h2, ho]⟩,
      h3.trans hn, h4.trans ht⟩

/-- What a run of task `id` did, from `rt` with program `prog` and progress `p` to `rt'` with the
task left at `prog'` and `p'`, going through the events `es`. -/
structure RunFacts (rt rt' : Runtime) (prog prog' : Program) (p p' : Progress) (es : List Event) :
    Prop where
  /-- It is a run of the program; -/
  reaches : Reaches prog es prog'
  /-- every answer a call holds after it, that it did not hold before, was handed on in it; -/
  answers : ∀ k tag d, rt'.callAt k = some (tag, some d) →
    rt.callAt k = some (tag, some d) ∨ Event.resolved tag d ∈ es
  /-- the task ends with the call it had, or with a new one, unanswered, under a tag drawn in it; -/
  call : ∀ tag a, p'.call? = some (tag, a) → p.call? = some (tag, a) ∨
    (a = none ∧ ∃ n, rt.pending.drawn ≤ n ∧ n < rt'.pending.drawn ∧ rt.pending.fresh n = tag)
  /-- a slot it took away was under a tag it handed a response for, or under the tag of the call
  the task had; -/
  slots : ∀ tag k, (tag, k) ∈ rt.pending.slots → (tag, k) ∉ rt'.pending.slots →
    (∃ d, Event.resolved tag d ∈ es) ∨ ∃ a, p.call? = some (tag, a)
  /-- a tag that got a slot in it was drawn in it; -/
  keys : ∀ tag, rt.pending.contains tag = false → rt'.pending.contains tag = true →
    ∃ n, rt.pending.drawn ≤ n ∧ n < rt'.pending.drawn ∧ rt.pending.fresh n = tag
  /-- and the source of tags stays, its draws only added to. -/
  fresh : rt'.pending.fresh = rt.pending.fresh
  drawn_le : rt.pending.drawn ≤ rt'.pending.drawn

namespace RunFacts

variable {rt rt₁ rt' : Runtime} {prog prog₁ prog' : Program} {p p' : Progress} {es : List Event}

/-- A run that stops at its first step, which moves no task. -/
theorem last (htasks : rt'.tasks = rt.tasks)
    (hcall : ∀ tag a, p'.call? = some (tag, a) → p.call? = some (tag, a) ∨
      (a = none ∧ ∃ n, rt.pending.drawn ≤ n ∧ n < rt'.pending.drawn ∧ rt.pending.fresh n = tag))
    (hslots : ∀ tag k, (tag, k) ∈ rt.pending.slots → (tag, k) ∉ rt'.pending.slots →
      ∃ a, p.call? = some (tag, a))
    (hkeys : ∀ tag, rt.pending.contains tag = false → rt'.pending.contains tag = true →
      ∃ n, rt.pending.drawn ≤ n ∧ n < rt'.pending.drawn ∧ rt.pending.fresh n = tag)
    (hfresh : rt'.pending.fresh = rt.pending.fresh) (hdrawn : rt.pending.drawn ≤ rt'.pending.drawn) :
    RunFacts rt rt' prog prog p p' [] :=
  ⟨.refl prog, fun _ _ _ hk => .inl (callAt_congr htasks ▸ hk), hcall,
    fun tag k hk hk' => .inr (hslots tag k hk hk'), hkeys, hfresh, hdrawn⟩

/-- A first step, through the event `e`, that leaves the task with no call and adds no slot,
then a run. -/
theorem cons {e : Event} (h : RunFacts rt₁ rt' prog₁ prog' .idle p' es)
    (hreach : Reaches prog (e :: es) prog')
    (hanswers : ∀ k tag d, rt₁.callAt k = some (tag, some d) →
      rt.callAt k = some (tag, some d) ∨ e = .resolved tag d)
    (hslots : ∀ tag k, (tag, k) ∈ rt.pending.slots → (tag, k) ∉ rt₁.pending.slots →
      (∃ d, e = .resolved tag d) ∨ ∃ a, p.call? = some (tag, a))
    (hkeys : ∀ tag, rt₁.pending.contains tag = true → rt.pending.contains tag = true)
    (hfresh : rt₁.pending.fresh = rt.pending.fresh) (hdrawn : rt.pending.drawn ≤ rt₁.pending.drawn) :
    RunFacts rt rt' prog prog' p p' (e :: es) := by
  refine ⟨hreach, fun k tag d hk => ?_, fun tag a ha => ?_, fun tag k hk hk' => ?_,
    fun tag hc hc' => ?_, h.fresh.trans hfresh, hdrawn.trans h.drawn_le⟩
  · rcases h.answers k tag d hk with hk | hmem
    · exact (hanswers k tag d hk).imp_right fun he => by subst he; exact List.mem_cons_self
    · exact .inr (List.mem_cons_of_mem _ hmem)
  · rcases h.call tag a ha with hc | ⟨rfl, n, hn, hlt, hf⟩
    · simp [Progress.call?] at hc
    · exact .inr ⟨rfl, n, hdrawn.trans hn, hlt, by rw [← hfresh]; exact hf⟩
  · by_cases hk₁ : (tag, k) ∈ rt₁.pending.slots
    · rcases h.slots tag k hk₁ hk' with ⟨d, hd⟩ | ⟨a, ha⟩
      · exact .inl ⟨d, List.mem_cons_of_mem _ hd⟩
      · simp [Progress.call?] at ha
    · rcases hslots tag k hk hk₁ with ⟨d, rfl⟩ | ha
      · exact .inl ⟨d, List.mem_cons_self⟩
      · exact .inr ha
  · have hc₁ : rt₁.pending.contains tag = false := Bool.eq_false_iff.mpr fun h₁ => by
      rw [hkeys tag h₁] at hc
      cases hc
    obtain ⟨n, hn, hlt, hf⟩ := h.keys tag hc₁ hc'
    exact ⟨n, hdrawn.trans hn, hlt, by rw [← hfresh]; exact hf⟩

end RunFacts

/-- **What a run of a task does**, by induction on its program, one operation at a time. -/
theorem advance_facts {rt : Runtime} {id : Nat} {prog : Program} {p : Progress}
    (h : Running rt id prog p) :
    ∃ es, RunFacts rt (advance id prog p rt).1 prog (advance id prog p rt).2.program p
      (advance id prog p rt).2.progress es := by
  induction prog generalizing p rt with
  | finish o =>
    refine ⟨[], RunFacts.last rfl (fun tag a ha => ?_) (fun tag k hk hk' => absurd hk hk')
      (fun tag hc hc' => ?_) rfl le_rfl⟩
    · simp [advance, Progress.call?] at ha
    · simp only [advance] at hc'
      rw [hc] at hc'
      cases hc'
  | send frame next ih =>
    have hnone : p.call? = none := h.own.resolve_right (by simp [Program.isExchange])
    rw [advance]
    generalize rt.outbound.offer id frame = o
    obtain ⟨q, admission⟩ := o
    have hq : Running { rt with outbound := q } id (.send frame next) p := h.congr rfl rfl
    -- what follows the offer runs on the new queue, from no call
    have hnext : ∀ b, ∃ es, RunFacts rt (advance id (next b) .idle { rt with outbound := q }).1
        (.send frame next) (advance id (next b) .idle { rt with outbound := q }).2.program p
        (advance id (next b) .idle { rt with outbound := q }).2.progress es := by
      intro b
      obtain ⟨es, hes⟩ := ih b (hq.reprog (next b) .idle hnone.symm (.inl rfl))
      exact ⟨.sent frame b :: es, hes.cons (.send b hes.reaches) (fun k tag d hk => .inl hk)
        (fun tag k hk hk' => absurd hk hk') (fun tag hc => hc) rfl le_rfl⟩
    cases admission with
    | queued => exact hnext true
    | refused => exact hnext false
    | waiting =>
      exact ⟨[], RunFacts.last rfl (fun tag a ha => .inl ha) (fun tag k hk hk' => absurd hk hk')
        (fun tag hc hc' => by rw [hc] at hc'; cases hc') rfl le_rfl⟩
  | resolve tag data next ih =>
    have hnone : p.call? = none := h.own.resolve_right (by simp [Program.isExchange])
    rw [advance]
    have hidle := h.reprog (.resolve tag data next) .idle hnone.symm (.inl rfl)
    obtain ⟨es, hes⟩ := ih (hidle.resolve tag data next)
    refine ⟨.resolved tag data :: es, hes.cons (.resolve hes.reaches) (fun k tag' d hk => ?_)
      (fun tag' k hk hk' => ?_) (fun tag' hc => ?_) (rt.resolve_fresh tag data)
      (rt.resolve_drawn tag data).ge⟩
    · rcases hidle.callAt_resolve_answer hk with hk | ⟨rfl, rfl⟩
      · exact .inl hk
      · exact .inr rfl
    · rcases rt.resolve_pending tag data with hp | hp <;> rw [hp] at hk'
      · exact absurd hk hk'
      · exact .inl ⟨data, by rw [PendingTable.eq_of_mem_remove hk hk']⟩
    · rcases rt.resolve_pending tag data with hp | hp <;> rw [hp] at hc
      · exact hc
      · exact PendingTable.contains_of_contains_remove hc
  | exchange frame timeout next ih =>
    rw [advance]
    obtain ⟨hinl, hinr⟩ := h.exchange_step
    cases p with
    | calling tag₀ deadline sent answer fired =>
      generalize hq : rt.pursue id frame timeout (.calling tag₀ deadline sent answer fired) = q
        at hinl hinr ⊢
      obtain ⟨rt₁, res⟩ := q
      obtain ⟨htasks, hcases⟩ := pursueCall_ends_or_waits hq
      rcases hcases with ⟨r, rfl, hpend⟩ | ⟨p', rfl, hcall, hpend⟩
      · -- the call ends, dropping its tag; what follows runs on from no call
        obtain ⟨es, hes⟩ := ih r (hinl r rfl (next r))
        refine ⟨.called (frame tag₀) r :: es, hes.cons (.exchange tag₀ r hes.reaches)
          (fun k tag d hk => .inl (callAt_congr htasks ▸ hk)) (fun tag k hk hk' => ?_)
          (fun tag hc => ?_) (by rw [hpend]; rfl) (by rw [hpend]; rfl)⟩
        · rw [hpend] at hk'
          exact .inr ⟨answer, by rw [PendingTable.eq_of_mem_remove hk hk']; rfl⟩
        · rw [hpend] at hc
          exact PendingTable.contains_of_contains_remove hc
      · -- the call waits on under its tag
        refine ⟨[], RunFacts.last htasks (fun tag a ha => .inl (hcall.symm.trans ha))
          (fun tag k hk hk' => absurd (hpend ▸ hk) hk') (fun tag hc hc' => ?_)
          (by rw [hpend]) (by rw [hpend])⟩
        rw [hpend, hc] at hc'
        cases hc'
    | idle =>
      rcases rt.pursue_idle id frame timeout with ⟨T, t', hd, hp⟩ | ⟨t', hd, hp⟩
      · obtain ⟨hfree, rfl, rfl⟩ := PendingTable.draw_eq_some hd
        rw [hp] at hinl hinr ⊢
        generalize hq : Runtime.pursueCall _ id frame timeout _ _ false none _ = q at hinl hinr ⊢
        obtain ⟨rt₁, res⟩ := q
        obtain ⟨htasks, hcases⟩ := pursueCall_ends_or_waits hq
        rcases hcases with ⟨r, rfl, hpend⟩ | ⟨p', rfl, hcall, hpend⟩
        · -- the call ended at once: the slot it took is gone again
          rw [PendingTable.remove_keep hfree] at hpend
          obtain ⟨es, hes⟩ := ih r (hinl r rfl (next r))
          refine ⟨.called (frame (rt.pending.fresh rt.pending.drawn)) r :: es,
            hes.cons (.exchange _ r hes.reaches) (fun k tag d hk => .inl (callAt_congr htasks ▸ hk))
            (fun tag k hk hk' => absurd (hpend ▸ hk) hk') (fun tag hc => by rwa [hpend] at hc)
            (by rw [hpend]) (by rw [hpend]; exact Nat.le_succ _)⟩
        · -- the call waits under the tag it drew
          refine ⟨[], RunFacts.last htasks (fun tag a ha => ?_) (fun tag k hk hk' => ?_)
            (fun tag hc hc' => ?_) (by rw [hpend]) (by rw [hpend]; exact Nat.le_succ _)⟩
          · rw [hcall, Option.some.injEq, Prod.mk.injEq] at ha
            obtain ⟨rfl, rfl⟩ := ha
            exact .inr ⟨rfl, rt.pending.drawn, le_rfl, by rw [hpend]; exact Nat.lt_succ_self _, rfl⟩
          · rw [hpend] at hk'
            exact absurd (List.mem_append_left _ hk) hk'
          · rw [hpend] at hc'
            obtain rfl := PendingTable.eq_of_contains_keep hc hc'
            exact ⟨rt.pending.drawn, le_rfl, by rw [hpend]; exact Nat.lt_succ_self _, rfl⟩
      · -- the tag drawn is in use: it is put back, and the task stays without a call
        obtain ⟨-, rfl⟩ := PendingTable.draw_eq_none hd
        rw [hp]
        refine ⟨[], RunFacts.last (by simp) (fun tag a ha => by simp [Progress.call?] at ha)
          (fun tag k hk hk' => absurd hk (by simpa using hk')) (fun tag hc hc' => ?_) (by simp)
          (by simp)⟩
        simp only [wake_pending] at hc'
        rw [PendingTable.contains] at hc hc'
        rw [hc] at hc'
        cases hc'

/-! ### What a move does to the tasks it does not run -/

theorem Task.fire_fire (t : Task) : t.fire.fire = t.fire := by
  obtain ⟨prog, p, c⟩ := t
  cases p <;> rfl

theorem fireAll_tasks (rt : Runtime) (ids : List Nat) (k : Nat) :
    (rt.fireAll ids).tasks[k]? = if k ∈ ids then rt.tasks[k]?.map Task.fire else rt.tasks[k]? := by
  induction ids generalizing rt with
  | nil => simp [fireAll]
  | cons id ids ih =>
    rw [fireAll_cons, ih]
    simp only [wake_tasks, Array.getElem?_modify, List.mem_cons]
    by_cases hk : k = id
    · subst hk
      cases rt.tasks[k]? <;> simp [Task.fire_fire]
    · simp [hk, Ne.symm hk]

theorem fireAll_frame (rt : Runtime) (ids : List Nat) :
    (rt.fireAll ids).outbound = rt.outbound ∧ (rt.fireAll ids).now = rt.now := by
  induction ids generalizing rt with
  | nil => exact ⟨rfl, rfl⟩
  | cons id ids ih =>
    rw [fireAll_cons]
    obtain ⟨h1, h2⟩ := ih (({ rt with tasks := rt.tasks.modify id Task.fire } : Runtime).wake id)
    exact ⟨h1.trans (wake_outbound _ _), h2.trans (wake_now _ _)⟩

theorem wakeAll_frame (rt : Runtime) (ids : List Nat) :
    (rt.wakeAll ids).outbound = rt.outbound ∧ (rt.wakeAll ids).now = rt.now ∧
      (rt.wakeAll ids).timersAt = rt.timersAt := by
  induction ids generalizing rt with
  | nil => exact ⟨rfl, rfl, rfl⟩
  | cons id ids ih =>
    obtain ⟨h1, h2, h3⟩ := ih (rt.wake id)
    exact ⟨h1.trans (wake_outbound _ _), h2.trans (wake_now _ _), h3.trans (wake_timersAt _ _)⟩

/-- The timers due are those of the unfinished calls whose deadline has come and whose timer
has not fired. -/
theorem mem_due {rt : Runtime} {k : Nat} :
    k ∈ rt.due ↔ ∃ t d, rt.tasks[k]? = some t ∧ t.finished = false ∧ t.deadline? = some d ∧
      d ≤ rt.now := by
  unfold due
  simp only [List.mem_map, List.mem_mergeSort, List.mem_filterMap, List.mem_range]
  constructor
  · rintro ⟨⟨d, j⟩, ⟨j', hj', hf⟩, rfl⟩
    split at hf
    · rename_i t ht
      split at hf
      · rename_i d' hd
        split at hf
        · rename_i hc
          simp only [Option.some.injEq, Prod.mk.injEq] at hf
          obtain ⟨rfl, rfl⟩ := hf
          simp only [Bool.and_eq_true, Bool.not_eq_true', decide_eq_true_eq] at hc
          exact ⟨t, d', ht, hc.1, hd, hc.2⟩
        · cases hf
      · cases hf
    · cases hf
  · rintro ⟨t, d, ht, hfin, hd, hle⟩
    refine ⟨(d, k), ⟨k, (Array.getElem?_eq_some_iff.mp ht).1, ?_⟩, rfl⟩
    simp [ht, hd, hfin, hle]

/-- **A move leaves the tasks it does not run or drop as they were, but for answers**, unless it
fires the timers. -/
theorem withoutAnswer_move {rt : Runtime} {m : Move} {k : Nat} (hk : k < rt.tasks.size)
    (hrun : m ≠ .runTask k) (hdrop : m ≠ .cancel k) (hfire : m ≠ .fireDue) :
    (rt.move m).tasks[k]?.map Task.withoutAnswer = rt.tasks[k]?.map Task.withoutAnswer := by
  cases m with
  | spawn p =>
    simp only [move, spawn_fst, wake_tasks, Array.getElem?_push]
    rw [if_neg (Nat.ne_of_lt hk)]
  | resolve tag data => exact withoutAnswer_resolve rt tag data k
  | tryQueue frame => rfl
  | runTask j =>
    have hjk : j ≠ k := fun h => hrun (h ▸ rfl)
    rcases rt.runTask_cases j with ⟨-, hr⟩ | ⟨t, ht, -, hr⟩ <;> simp only [move, hr]
    simp only [Array.set!_eq_setIfInBounds, Array.getElem?_setIfInBounds_ne hjk]
    exact (advance_frame j t.program t.progress rt).1 k
  | cancel j =>
    have hjk : j ≠ k := fun h => hdrop (h ▸ rfl)
    obtain ⟨-, -, -, ⟨-, hc⟩ | ⟨t, -, -, htasks, -⟩⟩ := rt.cancel_cases j <;> simp only [move]
    · rw [hc]
    · rw [htasks, Array.set!_eq_setIfInBounds, Array.getElem?_setIfInBounds_ne hjk]
  | fireDue => exact absurd rfl hfire
  | tick d => rfl
  | drain => simp [move, drain_snd, (wakeAll_tasks_pending _).1]
  | close => simp [move, closeOutbound_eq, (wakeAll_tasks_pending _).1]
  | schedule ready => rfl

/-- Firing the due timers marks them fired, and leaves every other task as it was. -/
theorem tasks_fireDue (rt : Runtime) (k : Nat) :
    (rt.move .fireDue).tasks[k]? = if k ∈ rt.due then rt.tasks[k]?.map Task.fire else rt.tasks[k]? :=
  fireAll_tasks rt rt.due k

/-! ### The clock and the counter -/

theorem now_le_move (rt : Runtime) : ∀ m, rt.now ≤ (rt.move m).now
  | .spawn p => by simp [move, spawn_fst]
  | .resolve tag data => (rt.resolve_frame tag data).2.1.ge
  | .tryQueue frame => le_rfl
  | .runTask j => by
    rcases rt.runTask_cases j with ⟨-, hr⟩ | ⟨t, -, -, hr⟩ <;> simp only [move, hr]
    · exact le_rfl
    · exact (advance_frame j t.program t.progress rt).2.2.1.ge
  | .cancel j => (rt.cancel_cases j).1.ge
  | .fireDue => (rt.fireAll_frame rt.due).2.ge
  | .tick d => Nat.le_add_right _ _
  | .drain => le_of_eq (wakeAll_frame ({ rt with outbound := rt.outbound.takeAll.2.1 } : Runtime)
      rt.outbound.takeAll.2.2).2.1.symm
  | .close => le_of_eq (wakeAll_frame ({ rt with outbound := rt.outbound.close.1 } : Runtime)
      rt.outbound.close.2).2.1.symm
  | .schedule ready => le_rfl

/-- The timers are never looked at after the clock: a move fires only the timers that are due,
noting the clock's time. -/
theorem timersAt_le_now_move {rt : Runtime} (h : rt.timersAt ≤ rt.now) :
    ∀ m, (rt.move m).timersAt ≤ (rt.move m).now
  | .spawn p => by simpa [move, spawn_fst] using h
  | .resolve tag data => by
    simp only [move]
    rw [(rt.resolve_frame tag data).2.1, (rt.resolve_frame tag data).2.2]
    exact h
  | .tryQueue frame => h
  | .runTask j => by
    rcases rt.runTask_cases j with ⟨-, hr⟩ | ⟨t, -, -, hr⟩ <;> simp only [move, hr]
    · exact h
    · rw [(advance_frame j t.program t.progress rt).2.2.1,
        (advance_frame j t.program t.progress rt).2.2.2]
      exact h
  | .cancel j => by
    simp only [move]
    rw [(rt.cancel_cases j).1, (rt.cancel_cases j).2.1]
    exact h
  | .fireDue => (rt.fireAll_frame rt.due).2.ge
  | .tick d => le_trans h (Nat.le_add_right _ _)
  | .drain => by
    simp only [move, drain_snd]
    rw [(wakeAll_frame _ _).2.1, (wakeAll_frame _ _).2.2]
    exact h
  | .close => by
    simp only [move, closeOutbound_eq]
    rw [(wakeAll_frame _ _).2.1, (wakeAll_frame _ _).2.2]
    exact h
  | .schedule ready => h

/-- What every move keeps, a run keeps, from any prefix of the run to a longer one. -/
theorem moves_take_of_le {P : Runtime → Prop} (hP : ∀ s m, P s → P (s.move m)) (rt : Runtime)
    (ms : List Move) {j k : Nat} (hjk : j ≤ k) (h : P (rt.moves (ms.take j))) :
    P (rt.moves (ms.take k)) := by
  have hrun : ∀ (s : Runtime) (ms : List Move), P s → P (s.moves ms) := by
    intro s ms hs
    induction ms using List.reverseRecOn with
    | nil => exact hs
    | append_singleton ms m ih =>
      rw [moves_append_singleton]
      exact hP _ m ih
  have hsplit : ms.take k = ms.take j ++ (ms.take k).drop j := by
    conv_lhs => rw [← List.take_append_drop j (ms.take k)]
    rw [List.take_take, Nat.min_eq_left hjk]
  rw [hsplit, moves_append]
  exact hrun _ _ h

theorem timersAt_le_now_moves {rt : Runtime} (h : rt.timersAt ≤ rt.now) (ms : List Move) :
    (rt.moves ms).timersAt ≤ (rt.moves ms).now := by
  induction ms using List.reverseRecOn with
  | nil => exact h
  | append_singleton ms m ih =>
    rw [moves_append_singleton]
    exact timersAt_le_now_move ih m

/-! ### Answers come from responses -/

/-- A response for `tag` with payload `data` along the moves `ms` from `rt`: one the reader
hands on, or one in the program of a task, started during the run or before it. -/
def Handed (rt : Runtime) (ms : List Move) (tag : Tag) (data : Fields) : Prop :=
  Move.resolve tag data ∈ ms ∨ (∃ p, Move.spawn p ∈ ms ∧ p.Hands tag data) ∨
    ∃ (k : Nat) (t : Task), rt.tasks[k]? = some t ∧ t.program.Hands tag data

theorem Handed.append {rt : Runtime} {ms : List Move} {tag : Tag} {data : Fields}
    (h : rt.Handed ms tag data) (ms' : List Move) : rt.Handed (ms ++ ms') tag data := by
  rcases h with h | ⟨p, hp, hh⟩ | h
  · exact .inl (List.mem_append_left _ h)
  · exact .inr (.inl ⟨p, List.mem_append_left _ hp, hh⟩)
  · exact .inr (.inr h)

/-- Along the moves `ms` from `rt`, to `s`: every answer a call holds that it did not hold at the
start, and every response in the program of a task, is a response of the run. -/
structure AnswersHanded (rt : Runtime) (ms : List Move) (s : Runtime) : Prop where
  answer : ∀ k tag d, s.callAt k = some (tag, some d) →
    rt.callAt k = some (tag, some d) ∨ rt.Handed ms tag d
  program : ∀ (k : Nat) (t : Task), s.tasks[k]? = some t → ∀ tag d, t.program.Hands tag d →
    rt.Handed ms tag d

theorem program_of_withoutAnswer {a b : Option Task} {t : Task}
    (h : a.map Task.withoutAnswer = b.map Task.withoutAnswer) (ha : a = some t) :
    ∃ t', b = some t' ∧ t.program = t'.program := by
  subst ha
  obtain ⟨t', hb, heq⟩ := Option.map_eq_some_iff.mp h.symm
  exact ⟨t', hb, by rw [← Task.withoutAnswer_program t, ← heq, Task.withoutAnswer_program]⟩

namespace AnswersHanded

variable {rt s s' : Runtime} {ms : List Move}

/-- A move that leaves the tasks as they are. -/
theorem of_tasks (h : AnswersHanded rt ms s) (htasks : s'.tasks = s.tasks) (ms' : List Move) :
    AnswersHanded rt (ms ++ ms') s' := by
  have hcall : s'.callAt = s.callAt := callAt_congr htasks
  refine ⟨fun k tag d hk => ?_, fun k t hk tag d hh => ?_⟩
  · exact (h.answer k tag d (hcall ▸ hk)).imp_right (·.append ms')
  · exact (h.program k t (htasks ▸ hk) tag d hh).append ms'

/-- A task runs: the answers it hands on are in its program, and its program after the run is
what its program was, run on. -/
theorem runTask (h : AnswersHanded rt ms s) (hwf : s.Wf) (j : Nat) (ms' : List Move) :
    AnswersHanded rt (ms ++ ms') (s.runTask j) := by
  rcases s.runTask_cases j with ⟨-, hr⟩ | ⟨t, ht, -, hr⟩
  · exact h.of_tasks (by rw [hr]) ms'
  rw [hr]
  obtain ⟨es, hes⟩ := advance_facts (Running.of_wf hwf ht)
  have hsize : j < (advance j t.program t.progress s).1.tasks.size := by
    rw [size_advance]
    exact (Array.getElem?_eq_some_iff.mp ht).1
  refine ⟨fun k tag d hk => ?_, fun k t' hk tag d hh => ?_⟩
  · simp only [callAt, Array.set!_eq_setIfInBounds] at hk
    by_cases hjk : k = j
    · -- the run task's own call: the one it had, or a new one with no answer yet
      subst hjk
      rw [Array.getElem?_setIfInBounds_self_of_lt hsize, Option.bind_some] at hk
      rcases hes.call tag (some d) hk with hk | ⟨hk, -⟩
      · exact (h.answer k tag d (by simp [callAt, ht, hk])).imp_right (·.append ms')
      · cases hk
    · rw [Array.getElem?_setIfInBounds_ne (Ne.symm hjk)] at hk
      rcases hes.answers k tag d hk with hk | hmem
      · exact (h.answer k tag d hk).imp_right (·.append ms')
      · exact .inr ((h.program j t ht tag d ⟨es, _, hes.reaches, hmem⟩).append ms')
  · simp only [Array.set!_eq_setIfInBounds] at hk
    by_cases hjk : k = j
    · subst hjk
      rw [Array.getElem?_setIfInBounds_self_of_lt hsize, Option.some.injEq] at hk
      subst hk
      exact (h.program k t ht tag d (hes.reaches.hands hh)).append ms'
    · rw [Array.getElem?_setIfInBounds_ne (Ne.symm hjk)] at hk
      obtain ⟨t₀, ht₀, hprog⟩ :=
        program_of_withoutAnswer ((advance_frame j t.program t.progress s).1 k) hk
      exact (h.program k t₀ ht₀ tag d (hprog ▸ hh)).append ms'

/-- A task is dropped: its call goes, its program stays. -/
theorem cancel (h : AnswersHanded rt ms s) (j : Nat) (ms' : List Move) :
    AnswersHanded rt (ms ++ ms') (s.cancel j) := by
  obtain ⟨-, -, -, ⟨-, hc⟩ | ⟨t, ht, -, htasks, -⟩⟩ := s.cancel_cases j
  · exact h.of_tasks (by rw [hc]) ms'
  refine ⟨fun k tag d hk => ?_, fun k t' hk tag d hh => ?_⟩
  · simp only [callAt, htasks, Array.set!_eq_setIfInBounds, Array.getElem?_setIfInBounds] at hk
    split at hk
    · split at hk <;> simp [Progress.call?] at hk
    · exact (h.answer k tag d hk).imp_right (·.append ms')
  · simp only [htasks, Array.set!_eq_setIfInBounds, Array.getElem?_setIfInBounds] at hk
    split at hk
    · split at hk
      · rw [Option.some.injEq] at hk
        subst hk
        exact (h.program j t ht tag d hh).append ms'
      · cases hk
    · exact (h.program k t' hk tag d hh).append ms'

/-- **Each move keeps the answers among the responses of the run.** -/
theorem move (h : AnswersHanded rt ms s) (hwf : s.Wf) : ∀ m, AnswersHanded rt (ms ++ [m]) (s.move m)
  | .spawn p => by
    refine ⟨fun k tag d hk => ?_, fun k t hk tag d hh => ?_⟩
    · simp only [callAt, Runtime.move, spawn_fst, wake_tasks, Array.getElem?_push] at hk
      split at hk
      · simp [Progress.call?] at hk
      · exact (h.answer k tag d hk).imp_right (·.append _)
    · simp only [Runtime.move, spawn_fst, wake_tasks, Array.getElem?_push] at hk
      split at hk
      · cases hk
        exact .inr (.inl ⟨p, List.mem_append_right _ (List.mem_singleton_self _), hh⟩)
      · exact (h.program k t hk tag d hh).append _
  | .resolve tag data => by
    refine ⟨fun k tag' d hk => ?_, fun k t hk tag' d hh => ?_⟩
    · rcases (hwf.running_past (.finish .delivered)).callAt_resolve_answer hk with hk | ⟨rfl, rfl⟩
      · exact (h.answer k tag' d hk).imp_right (·.append _)
      · exact .inr (.inl (List.mem_append_right _ (List.mem_singleton_self _)))
    · obtain ⟨t₀, ht₀, hprog⟩ := program_of_withoutAnswer (s.withoutAnswer_resolve tag data k) hk
      exact (h.program k t₀ ht₀ tag' d (hprog ▸ hh)).append _
  | .tryQueue frame => h.of_tasks (by simp [Runtime.move, tryQueue]) _
  | .runTask j => h.runTask hwf j _
  | .cancel j => h.cancel j _
  | .fireDue => by
    refine ⟨fun k tag d hk => ?_, fun k t hk tag d hh => ?_⟩
    · obtain ⟨t, ht, hc⟩ := callAt_eq_some.mp hk
      rw [tasks_fireDue] at ht
      split at ht
      · obtain ⟨t₀, ht₀, rfl⟩ := Option.map_eq_some_iff.mp ht
        rw [Task.fire_call?] at hc
        exact (h.answer k tag d (callAt_eq_some.mpr ⟨t₀, ht₀, hc⟩)).imp_right (·.append _)
      · exact (h.answer k tag d (callAt_eq_some.mpr ⟨t, ht, hc⟩)).imp_right (·.append _)
    · rw [tasks_fireDue] at hk
      split at hk
      · obtain ⟨t₀, ht₀, rfl⟩ := Option.map_eq_some_iff.mp hk
        rw [Task.fire_program] at hh
        exact (h.program k t₀ ht₀ tag d hh).append _
      · exact (h.program k t hk tag d hh).append _
  | .tick d => h.of_tasks (show (s.move (.tick d)).tasks = s.tasks from rfl) _
  | .drain => h.of_tasks (by simp [Runtime.move, drain_snd, (wakeAll_tasks_pending _).1]) _
  | .close => h.of_tasks (by simp [Runtime.move, closeOutbound_eq, (wakeAll_tasks_pending _).1]) _
  | .schedule ready => h.of_tasks (show (s.move (.schedule ready)).tasks = s.tasks from rfl) _

end AnswersHanded

/-- **Answers come from responses**: along every run from a reachable runtime, a call holds an
answer it did not hold at the start only if the answer is the payload of a response for its tag,
handed on by the reader during the run or in the program of a task. -/
theorem answers_handed {rt : Runtime} (hr : rt.Reachable) (ms : List Move) :
    AnswersHanded rt ms (rt.moves ms) := by
  induction ms using List.reverseRecOn with
  | nil => exact ⟨fun k tag d hk => .inl hk, fun k t hk tag d hh => .inr (.inr ⟨k, t, hk, hh⟩)⟩
  | append_singleton ms m ih =>
    rw [moves_append_singleton]
    exact ih.move (hr.moves ms).wf m

/-! ### The frames a task queues -/

/-- The frames task `i` puts in the outbound queue during the move `m`. -/
def queuedBy (rt : Runtime) (i : Nat) : Move → List Frame
  | .runTask j =>
    if j = i then (rt.runTask i).outbound.frames.drop rt.outbound.frames.length else []
  | _ => []

/-- The frames task `i` puts in the outbound queue along the moves `ms`, in order. -/
def framesBy (rt : Runtime) (i : Nat) : List Move → List Frame
  | [] => []
  | m :: ms => rt.queuedBy i m ++ (rt.move m).framesBy i ms

@[simp] theorem framesBy_nil (rt : Runtime) (i : Nat) : rt.framesBy i [] = [] := rfl

theorem framesBy_append_singleton (rt : Runtime) (i : Nat) (ms : List Move) (m : Move) :
    rt.framesBy i (ms ++ [m]) = rt.framesBy i ms ++ (rt.moves ms).queuedBy i m := by
  induction ms generalizing rt with
  | nil => simp [framesBy]
  | cons m' ms ih =>
    simp only [List.cons_append, framesBy, ih, List.append_assoc]
    rfl

/-- Only the task's own runs put its frames in the queue. -/
theorem queuedBy_of_ne (rt : Runtime) {i : Nat} {m : Move} (h : m ≠ .runTask i) :
    rt.queuedBy i m = [] := by
  cases m with
  | runTask j =>
    have hji : j ≠ i := fun hji => h (hji ▸ rfl)
    simp [queuedBy, hji]
  | _ => rfl

/-- A run of the task that adds `new` at the back of the queue queues `new`. -/
theorem queuedBy_runTask {rt : Runtime} {i : Nat} {new : List Frame}
    (h : (rt.runTask i).outbound.frames = rt.outbound.frames ++ new) :
    rt.queuedBy i (.runTask i) = new := by
  simp [queuedBy, h]

end Runtime

end HubService.Session
