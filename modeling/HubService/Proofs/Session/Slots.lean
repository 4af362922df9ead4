import HubService.Proofs.Session.Moves

/-!
# Which call a slot answers

A call registers a slot under the tag it draws, and the reader hands a response to the call whose
slot holds the response's tag. Along every run of the runtime's moves from a fresh start,
whatever tags the source returns (`HubService.Session.PendingTable.fresh`), the slots and the
calls are as `HubService.Session.Runtime.CallsSound` says
(`HubService.Session.Runtime.calls_sound`):

* a registration never hands out a tag that has a slot, and no two slots share a tag;
* a slot is held for a call under way, under its tag, with no answer; a response with a slot is
  handed to that call and to no other, and the slot goes; a response with no slot changes
  nothing; no response replaces an answer a call holds, and every answer a call holds is the
  payload of a response for its tag handed on during the run;
* a call that ends leaves no slot under its tag, nor does a call that is dropped;
* a tag that gets a slot in a move was drawn in it;
* the slot of a call under way goes only with a response for its tag, or with a run or a drop of
  a task whose call holds its tag; two calls hold one tag only if the source returned it twice,
  so as long as it has not, the slot goes only with the call's own response, run or drop.

That last proviso cannot be dropped. A call that has its answer keeps its tag until its task
runs, but holds no slot, so a new call may draw the same tag again; when the first call then
runs and ends, it removes the slot under its tag, which is by then the new call's
(`HubService.Session.Runtime.slot_taken_by_repeated_tag`). The new call, live and unanswered,
has lost its slot, and its response will find none. A random tag repeats only rarely, but
nothing in the registration rules it out.
-/

namespace HubService.Session

open HubService.Wire HubService.Json

/-- A task with a call under way is not over. -/
theorem Task.Settled.finished_eq_false {t : Task} (h : t.Settled) {c : Tag × Option Fields}
    (hc : t.progress.call? = some c) : t.finished = false := by
  rcases h with hnone | ⟨hex, hlive⟩
  · rw [hnone] at hc
    cases hc
  · obtain ⟨prog, p, cancelled⟩ := t
    cases prog <;> simp_all [Task.finished, Program.isExchange]

namespace Runtime

/-- What the slots and the calls of a runtime satisfy, step by step. -/
structure CallsSound (rt : Runtime) : Prop where
  /-- A registration never hands out a tag that has a slot, -/
  vacant : ∀ id tag t', rt.pending.draw id = (some tag, t') → rt.pending.contains tag = false
  /-- and no two slots share a tag. -/
  keys : (rt.pending.slots.map Prod.fst).Nodup
  /-- A slot is held for a call under way under its tag, with no answer. -/
  owned : ∀ tag k, (tag, k) ∈ rt.pending.slots → rt.callAt k = some (tag, none)
  /-- A response with a slot is handed to the call the slot is for, and to no other; the slot
  goes. -/
  deliver : ∀ tag data k, (tag, k) ∈ rt.pending.slots →
    (rt.resolve tag data).callAt = Function.update rt.callAt k (some (tag, some data)) ∧
      (rt.resolve tag data).pending = rt.pending.remove tag
  /-- A response with no slot changes nothing. -/
  ignore : ∀ tag data, rt.pending.contains tag = false → rt.resolve tag data = rt
  /-- No response replaces an answer a call holds. -/
  once : ∀ k tag d tag' data, rt.callAt k = some (tag, some d) →
    (rt.resolve tag' data).callAt k = some (tag, some d)
  /-- A call that ends leaves no slot under its tag, -/
  ended : ∀ id frame timeout tag deadline sent answer fired rt' r,
    rt.pursueCall id frame timeout tag deadline sent answer fired = (rt', .inl r) →
      rt'.pending.contains tag = false
  /-- nor does a call that is dropped. -/
  dropped : ∀ id tag a, rt.callAt id = some (tag, a) → (rt.cancel id).pending.contains tag = false
  /-- A tag that gets a slot in a move was drawn in it. -/
  keyed : ∀ m tag, rt.pending.contains tag = false → (rt.move m).pending.contains tag = true →
    ∃ n, rt.pending.drawn ≤ n ∧ n < (rt.move m).pending.drawn ∧ rt.pending.fresh n = tag
  /-- Two calls hold one tag only if the source returned it twice. -/
  shared : ∀ i j tag a b, rt.callAt i = some (tag, a) → rt.callAt j = some (tag, b) → i ≠ j →
    rt.pending.Repeated tag
  /-- The slot of a call goes only with a response for its tag, handed on by the move or by the
  program of the task it runs, or with a run or a drop of a task whose call holds its tag; -/
  removed : ∀ m tag k, (tag, k) ∈ rt.pending.slots → (tag, k) ∉ (rt.move m).pending.slots →
    (∃ d, m = .resolve tag d) ∨
      (∃ j t d, m = .runTask j ∧ rt.tasks[j]? = some t ∧ t.program.Hands tag d) ∨
      ∃ j a, (m = .runTask j ∨ m = .cancel j) ∧ rt.callAt j = some (tag, a)
  /-- so while the source has not returned its tag twice, only with the call's own response,
  run or drop. -/
  removed_own : ∀ m tag k, ¬rt.pending.Repeated tag → (tag, k) ∈ rt.pending.slots →
    (tag, k) ∉ (rt.move m).pending.slots →
      (∃ d, m = .resolve tag d) ∨
        (∃ j t d, m = .runTask j ∧ rt.tasks[j]? = some t ∧ t.program.Hands tag d) ∨
        m = .runTask k ∨ m = .cancel k

/-! ### What each move does to the slots -/

/-- A move hands on a response, runs a task, drops one, or leaves the slots as they are. -/
theorem pending_move_cases (rt : Runtime) (m : Move) :
    (∃ tag d, m = .resolve tag d) ∨ (∃ j, m = .runTask j) ∨ (∃ j, m = .cancel j) ∨
      (rt.move m).pending = rt.pending := by
  cases m with
  | spawn p => exact .inr (.inr (.inr (by simp [move, spawn_fst])))
  | resolve tag d => exact .inl ⟨tag, d, rfl⟩
  | tryQueue frame => exact .inr (.inr (.inr rfl))
  | runTask j => exact .inr (.inl ⟨j, rfl⟩)
  | cancel j => exact .inr (.inr (.inl ⟨j, rfl⟩))
  | fireDue => exact .inr (.inr (.inr (by simp [move, fireAll_pending])))
  | tick d => exact .inr (.inr (.inr rfl))
  | drain => exact .inr (.inr (.inr (by simp [move, drain_snd, (wakeAll_tasks_pending _).2])))
  | close => exact .inr (.inr (.inr (by simp [move, closeOutbound_eq, (wakeAll_tasks_pending _).2])))
  | schedule ready => exact .inr (.inr (.inr rfl))

section Sound

variable {rt : Runtime}

/-- Dropping a task whose call is under way takes away the slot under the call's tag. -/
theorem Wf.contains_cancel (hwf : rt.Wf) {id : Nat} {tag : Tag} {a : Option Fields}
    (h : rt.callAt id = some (tag, a)) : (rt.cancel id).pending.contains tag = false := by
  obtain ⟨t, ht, hcall⟩ := callAt_eq_some.mp h
  obtain ⟨-, -, -, ⟨hover, -⟩ | ⟨t', ht', -, -, hpend⟩⟩ := rt.cancel_cases id
  · have hf := Task.Settled.finished_eq_false (hwf.settled id t ht) hcall
    rw [hover t ht] at hf
    cases hf
  rw [ht, Option.some.injEq] at ht'
  subst ht'
  rcases hpend with ⟨hnone, -⟩ | ⟨tag', a', hsome, hp⟩
  · rw [hnone] at hcall
    cases hcall
  · rw [hsome, Option.some.injEq, Prod.mk.injEq] at hcall
    rw [hp, hcall.1]
    exact PendingTable.contains_remove _ _

/-- A call that ends leaves no slot under its tag. -/
theorem contains_pursueCall_inl {rt' : Runtime} {id : Nat} {frame : Tag → Frame}
    {timeout : Duration} {tag : Tag} {deadline : Nat} {sent : Bool} {answer : Option Fields}
    {fired : Bool} {r : Except CallError Fields}
    (h : rt.pursueCall id frame timeout tag deadline sent answer fired = (rt', .inl r)) :
    rt'.pending.contains tag = false := by
  obtain ⟨-, ⟨r', -, hp⟩ | ⟨p', hp', -⟩⟩ := pursueCall_ends_or_waits h
  · rw [hp]
    exact PendingTable.contains_remove _ _
  · cases hp'

/-- No response replaces an answer a call holds: the call a response goes to holds no answer. -/
theorem Wf.callAt_resolve_of_answered (hwf : rt.Wf) {k : Nat} {tag : Tag} {d : Fields}
    (hk : rt.callAt k = some (tag, some d)) (tag' : Tag) (data : Fields) :
    (rt.resolve tag' data).callAt k = some (tag, some d) := by
  cases hc : rt.pending.contains tag' with
  | false =>
    rw [resolve_of_contains_eq_false hc]
    exact hk
  | true =>
    obtain ⟨j, hj⟩ := (PendingTable.contains_iff _ _).mp hc
    have hkj : k ≠ j := by
      rintro rfl
      rw [hwf.agree.owned tag' k hj] at hk
      simp at hk
    rw [hwf.callAt_resolve hj data, Function.update_of_ne hkj]
    exact hk

/-- **A tag that gets a slot in a move was drawn in it**: only a run of a task draws, and every
other move keeps the slots or takes some away. -/
theorem Wf.keyed_move (hwf : rt.Wf) (m : Move) {tag : Tag} (hc : rt.pending.contains tag = false)
    (hc' : (rt.move m).pending.contains tag = true) :
    ∃ n, rt.pending.drawn ≤ n ∧ n < (rt.move m).pending.drawn ∧ rt.pending.fresh n = tag := by
  -- a table that only lost slots has no new key
  have hnone : ∀ t : PendingTable, (t = rt.pending ∨ ∃ tag', t = rt.pending.remove tag') →
      t.contains tag = true → False := by
    rintro t (rfl | ⟨tag', rfl⟩) ht
    · rw [hc] at ht
      cases ht
    · rw [PendingTable.contains_of_contains_remove ht] at hc
      cases hc
  rcases pending_move_cases rt m with ⟨tag', d, rfl⟩ | ⟨j, rfl⟩ | ⟨j, rfl⟩ | hsame
  · exact (hnone _ ((rt.resolve_pending tag' d).imp id fun h => ⟨tag', h⟩) hc').elim
  · rcases rt.runTask_cases j with ⟨-, hr⟩ | ⟨t, ht, -, hr⟩
    · rw [move, hr] at hc'
      exact (hnone _ (.inl rfl) hc').elim
    · obtain ⟨es, hes⟩ := advance_facts (Running.of_wf hwf ht)
      rw [move, hr] at hc' ⊢
      exact hes.keys tag hc hc'
  · obtain ⟨-, -, -, ⟨-, hr⟩ | ⟨t, -, -, -, ⟨-, hp⟩ | ⟨tag', a, -, hp⟩⟩⟩ := rt.cancel_cases j
    · rw [move, hr] at hc'
      exact (hnone _ (.inl rfl) hc').elim
    · exact (hnone _ (.inl hp) hc').elim
    · exact (hnone _ (.inr ⟨tag', hp⟩) hc').elim
  · exact (hnone _ (.inl hsame) hc').elim

/-- **How a slot goes.** The slot under `tag` goes in a move only with a response for `tag`,
handed on by the move or by the program of the task it runs, or with a run or a drop of a task
whose call holds `tag`. -/
theorem Wf.removed_move (hwf : rt.Wf) (m : Move) {tag : Tag} {k : Nat}
    (hk : (tag, k) ∈ rt.pending.slots) (hk' : (tag, k) ∉ (rt.move m).pending.slots) :
    (∃ d, m = .resolve tag d) ∨
      (∃ j t d, m = .runTask j ∧ rt.tasks[j]? = some t ∧ t.program.Hands tag d) ∨
      ∃ j a, (m = .runTask j ∨ m = .cancel j) ∧ rt.callAt j = some (tag, a) := by
  -- a slot taken away by `remove tag'` was under `tag'`
  have hunder : ∀ tag', (tag, k) ∉ (rt.pending.remove tag').slots → tag = tag' := by
    intro tag' hgone
    by_contra hne
    exact hgone ((PendingTable.mem_remove _ _).mpr ⟨hk, hne⟩)
  rcases pending_move_cases rt m with ⟨tag', d, rfl⟩ | ⟨j, rfl⟩ | ⟨j, rfl⟩ | hsame
  · rcases rt.resolve_pending tag' d with hp | hp <;> rw [move, hp] at hk'
    · exact absurd hk hk'
    · exact .inl ⟨d, by rw [hunder tag' hk']⟩
  · rcases rt.runTask_cases j with ⟨-, hr⟩ | ⟨t, ht, -, hr⟩
    · rw [move, hr] at hk'
      exact absurd hk hk'
    · obtain ⟨es, hes⟩ := advance_facts (Running.of_wf hwf ht)
      rw [move, hr] at hk'
      rcases hes.slots tag k hk hk' with ⟨d, hd⟩ | ⟨a, ha⟩
      · exact .inr (.inl ⟨j, t, d, rfl, ht, ⟨es, _, hes.reaches, hd⟩⟩)
      · exact .inr (.inr ⟨j, a, .inl rfl, callAt_eq_some.mpr ⟨t, ht, ha⟩⟩)
  · obtain ⟨-, -, -, ⟨-, hr⟩ | ⟨t, ht, -, -, ⟨-, hp⟩ | ⟨tag', a, hsome, hp⟩⟩⟩ := rt.cancel_cases j
    · rw [move, hr] at hk'
      exact absurd hk hk'
    · rw [move, hp] at hk'
      exact absurd hk hk'
    · rw [move, hp] at hk'
      obtain rfl := hunder tag' hk'
      exact .inr (.inr ⟨j, a, .inr rfl, callAt_eq_some.mpr ⟨t, ht, hsome⟩⟩)
  · rw [hsame] at hk'
    exact absurd hk hk'

/-- While the source has not returned a tag twice, its slot goes only with the call's own
response, run or drop: a task whose call holds the tag is the slot's own. -/
theorem Wf.removed_own_move (hwf : rt.Wf) (m : Move) {tag : Tag} {k : Nat}
    (hrep : ¬rt.pending.Repeated tag) (hk : (tag, k) ∈ rt.pending.slots)
    (hk' : (tag, k) ∉ (rt.move m).pending.slots) :
    (∃ d, m = .resolve tag d) ∨
      (∃ j t d, m = .runTask j ∧ rt.tasks[j]? = some t ∧ t.program.Hands tag d) ∨
      m = .runTask k ∨ m = .cancel k := by
  rcases hwf.removed_move m hk hk' with hres | hhands | ⟨j, a, hm, hj⟩
  · exact .inl hres
  · exact .inr (.inl hhands)
  -- the task whose call holds the tag is the one the slot is for
  obtain rfl : j = k := by
    by_contra hne
    exact hrep (hwf.agree.shared j k tag a none hj (hwf.agree.owned tag k hk) hne)
  rcases hm with rfl | rfl
  · exact .inr (.inr (.inl rfl))
  · exact .inr (.inr (.inr rfl))

/-- **The slots and the calls of a runtime in step are sound.** -/
theorem Wf.callsSound (hwf : rt.Wf) : rt.CallsSound where
  vacant _ _ _ h := (PendingTable.draw_eq_some h).1
  keys := hwf.agree.keys
  owned := hwf.agree.owned
  deliver _ data _ hk := ⟨hwf.callAt_resolve hk data, hwf.pending_resolve hk data⟩
  ignore _ _ hc := resolve_of_contains_eq_false hc
  once _ _ _ tag' data hk := hwf.callAt_resolve_of_answered hk tag' data
  ended _ _ _ _ _ _ _ _ _ _ h := contains_pursueCall_inl h
  dropped _ _ _ h := hwf.contains_cancel h
  keyed m _ hc hc' := hwf.keyed_move m hc hc'
  shared := hwf.agree.shared
  removed m _ _ hk hk' := hwf.removed_move m hk hk'
  removed_own m _ _ hrep hk hk' := hwf.removed_own_move m hrep hk hk'

end Sound

/-! ### Along every run -/

/-- **Every call's response goes to it alone, once.** Along every run of moves from a fresh
start, whatever the room in the outbound queue and whatever tags the source returns, the slots
and the calls are sound: a registration hands out no tag that has a slot; a response is handed
to the call whose slot holds its tag, to no other, and takes the slot away, and one with no slot
changes nothing; no response replaces an answer, and every answer a call holds is the payload
of a response for its tag handed on during the run; a call that ends or is dropped leaves no
slot under its tag; and the slot of a live, unanswered call goes only with a response for its
tag or a run or drop of a task whose call holds that tag, which is the call's own task as long as
the source has not returned the tag twice. -/
theorem calls_sound (capacity : Nat) (fresh : Nat → Tag) (ms : List Move) :
    ((Runtime.start capacity fresh).moves ms).CallsSound ∧
      AnswersHanded (Runtime.start capacity fresh) ms ((Runtime.start capacity fresh).moves ms) :=
  ⟨((Reachable.start capacity fresh).moves ms).wf.callsSound,
    answers_handed (Reachable.start capacity fresh) ms⟩

/-- A source of tags that returns one tag at every draw. -/
def repeatingTag : Nat → Tag := fun _ => Tag.issued 0

/-- A user lookup that reports what it learnt. -/
def lookupCall : Program := Program.lookupUser ⟨0⟩ ⟨5⟩ fun r => .finish (.user r)

/-- **A repeated tag takes a live call's slot away.** With a source that returns one tag twice:
a first lookup registers under it, and its response arrives; before its task runs again, a second
lookup draws the same tag, which has no slot, and registers under it. When the first lookup's
task then runs, its call ends and removes the slot under its tag, which is the second lookup's:
the second call is still under way with no answer, it lost its slot though neither its response
came nor its own task ran or was dropped, and a response for its tag now reaches no call. -/
theorem slot_taken_by_repeated_tag :
    ((Runtime.start 1 repeatingTag).moves [.spawn lookupCall, .runTask 0, .drain,
        .resolve (Tag.issued 0) [], .spawn lookupCall, .runTask 1]).pending.Repeated
        (Tag.issued 0) ∧
      (Tag.issued 0, 1) ∈ ((Runtime.start 1 repeatingTag).moves [.spawn lookupCall, .runTask 0,
        .drain, .resolve (Tag.issued 0) [], .spawn lookupCall, .runTask 1]).pending.slots ∧
      (Tag.issued 0, 1) ∉ ((Runtime.start 1 repeatingTag).moves [.spawn lookupCall, .runTask 0,
        .drain, .resolve (Tag.issued 0) [], .spawn lookupCall, .runTask 1, .runTask 0]).pending.slots ∧
      ((Runtime.start 1 repeatingTag).moves [.spawn lookupCall, .runTask 0, .drain,
        .resolve (Tag.issued 0) [], .spawn lookupCall, .runTask 1, .runTask 0]).callAt 1 =
        some (Tag.issued 0, none) ∧
      ((Runtime.start 1 repeatingTag).moves [.spawn lookupCall, .runTask 0, .drain,
        .resolve (Tag.issued 0) [], .spawn lookupCall, .runTask 1, .runTask 0,
        .resolve (Tag.issued 0) []]).callAt 1 = some (Tag.issued 0, none) := by
  refine ⟨⟨0, 1, by decide, by decide, rfl, rfl⟩, by decide, by decide, rfl, rfl⟩

end Runtime

end HubService.Session
