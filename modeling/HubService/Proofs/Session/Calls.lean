import HubService.Session.Basic
import Mathlib

/-!
# Calls in step with their slots

A call out of the service registers a slot under a tag it draws
(`HubService.Session.PendingTable.draw`) and waits, as the progress of its task
(`HubService.Session.Progress.calling`), for the response under that tag. The slots and the calls
under way are in step (`HubService.Session.CallsAgree`) when

* no tag has two slots, and every slot is for the call its task has under way, waiting
  unanswered under the slot's tag;
* every call's tag was drawn, and two calls share a tag only if the source of tags returned it
  at two draws.

Nothing here assumes that the source never repeats itself. A call whose tag another call shares
can lose its slot to that call's drop, so the invariant says what a slot means, and not that every
call waiting unanswered has one.

Each thing a call does keeps them in step: its drawn tag is kept or put back, it is answered, or
it ends and drops its tag (`HubService.Session.CallsAgree.keep`,
`HubService.Session.CallsAgree.putBack`, `HubService.Session.CallsAgree.answer`,
`HubService.Session.CallsAgree.drop`).

The runtime runs a task with its progress held apart from the task list
(`HubService.Session.Runtime.advance`), so while a task runs its entry in the list is stale. A
slot names the task it is for, and a task hands a response on only with no call of its own, so
the task answered is never the running one (`HubService.Session.Running.resolve`).
`HubService.Session.Running.advance` carries all this through a whole run of a task, one
operation of its program at a time.
-/

namespace HubService.Session

open HubService.Wire HubService.Json

/-! ### The calls under way -/

/-- The call a progress has under way: its tag, and its response if one came. -/
def Progress.call? : Progress → Option (Tag × Option Fields)
  | .calling tag _ _ answer _ => some (tag, answer)
  | .idle => none

/-- Whether a program waits on a call at its head. -/
def Program.isExchange : Program → Bool
  | .exchange .. => true
  | _ => false

/-- The call task `i` has under way, if any. -/
def Runtime.callAt (rt : Runtime) (i : Nat) : Option (Tag × Option Fields) :=
  rt.tasks[i]?.bind fun t => t.progress.call?

/-- A task has a call under way only while its program waits on one and it was not dropped. -/
def Task.Settled (t : Task) : Prop :=
  t.progress.call? = none ∨ (t.program.isExchange = true ∧ t.cancelled = false)

namespace PendingTable

/-- The source has returned `tag` at one of the draws made so far. -/
def Drawn (t : PendingTable) (tag : Tag) : Prop := ∃ n < t.drawn, t.fresh n = tag

/-- The source has returned `tag` at two of the draws made so far. -/
def Repeated (t : PendingTable) (tag : Tag) : Prop :=
  ∃ j k, j < k ∧ k < t.drawn ∧ t.fresh j = tag ∧ t.fresh k = tag

end PendingTable

/-- The slots of `pending` and the calls under way, `call i` for task `i`, are in step. -/
structure CallsAgree (pending : PendingTable) (call : Nat → Option (Tag × Option Fields)) :
    Prop where
  /-- No tag has two slots. -/
  keys : (pending.slots.map Prod.fst).Nodup
  /-- Every slot is for the call its task has under way, waiting unanswered under its tag. -/
  owned : ∀ tag k, (tag, k) ∈ pending.slots → call k = some (tag, none)
  /-- Every call's tag was drawn. -/
  drawn : ∀ i tag a, call i = some (tag, a) → pending.Drawn tag
  /-- Two calls share a tag only if it was drawn twice. -/
  shared : ∀ i j tag a b, call i = some (tag, a) → call j = some (tag, b) → i ≠ j →
    pending.Repeated tag

/-! ### The pending table, operation by operation -/

namespace PendingTable

variable (t : PendingTable) (tag : Tag)

theorem contains_iff : t.contains tag = true ↔ ∃ k, (tag, k) ∈ t.slots := by
  simp [contains]

theorem contains_eq_false : t.contains tag = false ↔ ∀ k, (tag, k) ∉ t.slots := by
  rw [← Bool.not_eq_true, contains_iff, not_exists]

@[simp] theorem remove_fresh : (t.remove tag).fresh = t.fresh := rfl

@[simp] theorem remove_drawn : (t.remove tag).drawn = t.drawn := rfl

theorem mem_remove {p : Tag × Nat} : p ∈ (t.remove tag).slots ↔ p ∈ t.slots ∧ p.1 ≠ tag := by
  simp [remove]

/-- After the removal no slot is under the tag. -/
theorem contains_remove : (t.remove tag).contains tag = false :=
  (contains_eq_false _ tag).mpr fun _ hmem => ((t.mem_remove tag).mp hmem).2 rfl

/-- A removal keeps the tags of the slots apart. -/
theorem keys_remove (h : (t.slots.map Prod.fst).Nodup) :
    ((t.remove tag).slots.map Prod.fst).Nodup :=
  List.Nodup.sublist (List.Sublist.map Prod.fst List.filter_sublist) h

variable {t tag}

/-- With the tags of the slots apart, the owner found is the one task with a slot under the tag. -/
theorem owner?_eq_some (h : (t.slots.map Prod.fst).Nodup) {k : Nat} :
    t.owner? tag = some k ↔ (tag, k) ∈ t.slots := by
  unfold owner?
  constructor
  · intro hk
    obtain ⟨p, hp, rfl⟩ := Option.map_eq_some_iff.mp hk
    have hmem := List.mem_of_find?_eq_some hp
    have htag : p.1 = tag := by simpa using List.find?_some hp
    rw [← htag]
    exact hmem
  · intro hmem
    cases hp : t.slots.find? (·.1 == tag) with
    | none =>
      have := List.find?_eq_none.mp hp (tag, k) hmem
      simp at this
    | some p =>
      have htag : p.1 = tag := by simpa using List.find?_some hp
      -- the slot found and the given one share their tag, so they are one slot
      have heq : p = (tag, k) :=
        List.inj_on_of_nodup_map h (List.mem_of_find?_eq_some hp) hmem htag
      simp [heq]

theorem owner?_eq_none : t.owner? tag = none ↔ t.contains tag = false := by
  simp [owner?, contains]

/-- A slot that a removal takes away is under the tag removed. -/
theorem eq_of_mem_remove {tag' : Tag} {k : Nat} (h : (tag', k) ∈ t.slots)
    (h' : (tag', k) ∉ (t.remove tag).slots) : tag' = tag := by
  by_contra hne
  exact h' ((t.mem_remove tag).mpr ⟨h, hne⟩)

theorem contains_of_contains_remove {tag' : Tag} (h : (t.remove tag).contains tag' = true) :
    t.contains tag' = true := by
  obtain ⟨k, hk⟩ := (contains_iff _ _).mp h
  exact (contains_iff _ _).mpr ⟨k, ((t.mem_remove tag).mp hk).1⟩

/-- A tag kept and removed again leaves the slots as they were. -/
theorem remove_keep {id : Nat} (hfree : t.contains tag = false) :
    ({ t with slots := t.slots ++ [(tag, id)], drawn := t.drawn + 1 } : PendingTable).remove tag =
      { t with drawn := t.drawn + 1 } := by
  have hout := (contains_eq_false t tag).mp hfree
  simp only [remove, List.filter_append, List.filter_cons, bne_self_eq_false, Bool.false_eq_true,
    if_false, List.filter_nil, List.append_nil, PendingTable.mk.injEq, and_true]
  refine List.filter_eq_self.mpr fun p hp => ?_
  have hne : p.1 ≠ tag := fun heq => hout p.2 (by rw [← heq]; exact hp)
  simpa using hne

/-- The one tag a kept slot adds is the tag kept. -/
theorem eq_of_contains_keep {id : Nat} {tag' : Tag} (hc : t.contains tag' = false)
    (hc' : ({ t with slots := t.slots ++ [(tag, id)], drawn := t.drawn + 1 } : PendingTable).contains
      tag' = true) : tag' = tag := by
  obtain ⟨k, hk⟩ := (contains_iff _ _).mp hc'
  rcases List.mem_append.mp hk with hk | hk
  · exact absurd hk ((contains_eq_false t tag').mp hc k)
  · exact (Prod.mk.inj (List.mem_singleton.mp hk)).1

theorem Drawn.mono {t' : PendingTable} (h : t.Drawn tag) (hf : t'.fresh = t.fresh)
    (hd : t.drawn ≤ t'.drawn) : t'.Drawn tag := by
  obtain ⟨n, hn, rfl⟩ := h
  exact ⟨n, by omega, by rw [hf]⟩

theorem Repeated.mono {t' : PendingTable} (h : t.Repeated tag) (hf : t'.fresh = t.fresh)
    (hd : t.drawn ≤ t'.drawn) : t'.Repeated tag := by
  obtain ⟨j, k, hjk, hk, rfl, hkt⟩ := h
  exact ⟨j, k, hjk, by omega, by rw [hf], by rw [hf, hkt]⟩

end PendingTable

/-! ### Keeping the slots and the calls in step -/

namespace CallsAgree

variable {pending : PendingTable} {call : Nat → Option (Tag × Option Fields)} {id : Nat}

/-- A call once task `id`'s is gone is another task's, and was there before. -/
theorem of_update_none {i : Nat} {c : Tag × Option Fields} (hi : Function.update call id none i = some c) :
    i ≠ id ∧ call i = some c := by
  by_cases hii : i = id
  · subst hii
    simp at hi
  · rw [Function.update_of_ne hii] at hi
    exact ⟨hii, hi⟩

/-- A call that changed only its response held its tag before. -/
theorem exists_of_update {tag t : Tag} {a b : Option Fields} {x : Option Fields} {i : Nat}
    (hid : call id = some (tag, a)) (hi : Function.update call id (some (tag, x)) i = some (t, b)) :
    ∃ b', call i = some (t, b') := by
  by_cases hii : i = id
  · subst hii
    simp only [Function.update_self, Option.some.injEq, Prod.mk.injEq] at hi
    exact ⟨a, hi.1 ▸ hid⟩
  · rw [Function.update_of_ne hii] at hi
    exact ⟨b, hi⟩

/-- A task with a slot has its call under way. -/
theorem ne_of_mem {tag : Tag} {k : Nat} (h : CallsAgree pending call) (hid : call id = none)
    (hmem : (tag, k) ∈ pending.slots) : k ≠ id := by
  rintro rfl
  rw [h.owned tag k hmem] at hid
  cases hid

/-- **A drawn tag is put back**: only the count of draws moves. -/
theorem putBack (h : CallsAgree pending call) :
    CallsAgree { pending with drawn := pending.drawn + 1 } call :=
  ⟨h.keys, h.owned, fun i tag a hi => (h.drawn i tag a hi).mono rfl (by simp),
    fun i j tag a b hi hj hij => (h.shared i j tag a b hi hj hij).mono rfl (by simp)⟩

/-- **A drawn tag is kept**: task `id`, with no call under way, takes a slot under the tag drawn,
which has none, and waits unanswered under it. -/
theorem keep (h : CallsAgree pending call) (hid : call id = none)
    (hfree : pending.contains (pending.fresh pending.drawn) = false) :
    CallsAgree
      { pending with
        slots := pending.slots ++ [(pending.fresh pending.drawn, id)]
        drawn := pending.drawn + 1 }
      (Function.update call id (some (pending.fresh pending.drawn, none))) := by
  -- a call of another task under the tag drawn held a tag drawn before: it is drawn twice now
  have htwice : ∀ j b, call j = some (pending.fresh pending.drawn, b) →
      PendingTable.Repeated { pending with drawn := pending.drawn + 1 }
        (pending.fresh pending.drawn) := by
    intro j b hj
    obtain ⟨n, hn, hnt⟩ := h.drawn j _ b hj
    exact ⟨n, pending.drawn, hn, by simp, hnt, rfl⟩
  refine ⟨?_, ?_, ?_, ?_⟩
  · rw [List.map_append, List.map_singleton]
    refine List.nodup_append.mpr ⟨h.keys, List.nodup_singleton _, ?_⟩
    intro a ha b hb
    rw [List.mem_singleton.mp hb]
    obtain ⟨⟨tag, k⟩, hmem, rfl⟩ := List.mem_map.mp ha
    intro heq
    have htag : tag = pending.fresh pending.drawn := heq
    rw [htag] at hmem
    exact (PendingTable.contains_eq_false _ _).mp hfree k hmem
  · intro tag k hmem
    rcases List.mem_append.mp hmem with hmem | hnew
    · rw [Function.update_of_ne (h.ne_of_mem hid hmem)]
      exact h.owned tag k hmem
    · obtain ⟨rfl, rfl⟩ := Prod.mk.inj (List.mem_singleton.mp hnew)
      simp
  · intro i tag a hi
    by_cases hii : i = id
    · subst hii
      simp only [Function.update_self, Option.some.injEq, Prod.mk.injEq] at hi
      obtain ⟨rfl, rfl⟩ := hi
      exact ⟨pending.drawn, by simp, rfl⟩
    · rw [Function.update_of_ne hii] at hi
      exact (h.drawn i tag a hi).mono rfl (by simp)
  · intro i j tag a b hi hj hij
    by_cases hii : i = id
    · subst hii
      rw [Function.update_of_ne (Ne.symm hij)] at hj
      simp only [Function.update_self, Option.some.injEq, Prod.mk.injEq] at hi
      obtain ⟨rfl, rfl⟩ := hi
      exact htwice j b hj
    · by_cases hjj : j = id
      · subst hjj
        rw [Function.update_of_ne hij] at hi
        simp only [Function.update_self, Option.some.injEq, Prod.mk.injEq] at hj
        obtain ⟨rfl, rfl⟩ := hj
        exact htwice i a hi
      · rw [Function.update_of_ne hii] at hi
        rw [Function.update_of_ne hjj] at hj
        exact (h.shared i j tag a b hi hj hij).mono rfl (by simp)

/-- **A call ends**: task `id` drops its call under `tag`, and the slot under `tag` goes, whichever
task it was for. -/
theorem drop (h : CallsAgree pending call) {tag : Tag} {a : Option Fields}
    (hid : call id = some (tag, a)) :
    CallsAgree (pending.remove tag) (Function.update call id none) := by
  refine ⟨pending.keys_remove tag h.keys, fun t k hmem => ?_,
    fun i t b hi => h.drawn i t b (of_update_none hi).2,
    fun i j t b c hi hj hij => h.shared i j t b c (of_update_none hi).2 (of_update_none hj).2 hij⟩
  obtain ⟨hmem, hne⟩ := (pending.mem_remove tag).mp hmem
  have hk := h.owned t k hmem
  -- the slot left is under another tag, so it is not the dropping task's
  have hkid : k ≠ id := by
    rintro rfl
    rw [hid, Option.some.injEq, Prod.mk.injEq] at hk
    exact hne hk.1.symm
  rw [Function.update_of_ne hkid]
  exact hk

/-- **A response is delivered**: the task with the slot under `tag` gets `data`, and the slot
goes. -/
theorem answer (h : CallsAgree pending call) {tag : Tag} {k : Nat} (hk : (tag, k) ∈ pending.slots)
    (data : Fields) :
    CallsAgree (pending.remove tag) (Function.update call k (some (tag, some data))) := by
  have hkc := h.owned tag k hk
  refine ⟨pending.keys_remove tag h.keys, fun t j hmem => ?_, fun i t b hi => ?_,
    fun i j t b c hi hj hij => ?_⟩
  · obtain ⟨hmem, hne⟩ := (pending.mem_remove tag).mp hmem
    have hj := h.owned t j hmem
    have hjk : j ≠ k := by
      rintro rfl
      rw [hkc, Option.some.injEq, Prod.mk.injEq] at hj
      exact hne hj.1.symm
    rw [Function.update_of_ne hjk]
    exact hj
  · obtain ⟨b', hi'⟩ := exists_of_update hkc hi
    exact h.drawn i t b' hi'
  · obtain ⟨b', hi'⟩ := exists_of_update hkc hi
    obtain ⟨c', hj'⟩ := exists_of_update hkc hj
    exact h.shared i j t b' c' hi' hj' hij

/-- No slots and no calls, whatever the source of tags. -/
theorem empty (fresh : Nat → Tag) : CallsAgree { fresh } fun _ => none :=
  ⟨List.nodup_nil, fun _ _ h => (List.not_mem_nil h).elim,
    fun _ _ _ h => (Option.some_ne_none _ h.symm).elim,
    fun _ _ _ _ _ h => (Option.some_ne_none _ h.symm).elim⟩

end CallsAgree

/-! ### The runtime's calls -/

namespace Runtime

variable {rt rt' : Runtime}

@[simp] theorem wake_tasks (id : Nat) : (rt.wake id).tasks = rt.tasks := by
  unfold wake
  split <;> rfl

@[simp] theorem wake_pending (id : Nat) : (rt.wake id).pending = rt.pending := by
  unfold wake
  split <;> rfl

@[simp] theorem wakeGranted_tasks (granted : Option Nat) : (rt.wakeGranted granted).tasks = rt.tasks := by
  cases granted <;> simp [wakeGranted]

@[simp] theorem wakeGranted_pending (granted : Option Nat) :
    (rt.wakeGranted granted).pending = rt.pending := by
  cases granted <;> simp [wakeGranted]

theorem wakeAll_tasks_pending (ids : List Nat) :
    (rt.wakeAll ids).tasks = rt.tasks ∧ (rt.wakeAll ids).pending = rt.pending := by
  induction ids generalizing rt with
  | nil => exact ⟨rfl, rfl⟩
  | cons id ids ih =>
    obtain ⟨h1, h2⟩ := @ih (rt.wake id)
    exact ⟨h1.trans (wake_tasks id), h2.trans (wake_pending id)⟩

@[simp] theorem dropCall_tasks (id : Nat) (tag : Tag) : (rt.dropCall id tag).tasks = rt.tasks := by
  unfold dropCall
  split
  · split <;> simp
  · rfl

@[simp] theorem dropCall_pending (id : Nat) (tag : Tag) :
    (rt.dropCall id tag).pending = rt.pending.remove tag := by
  unfold dropCall
  split
  · split <;> simp
  · rfl

theorem callAt_congr (h : rt'.tasks = rt.tasks) : rt'.callAt = rt.callAt := by
  funext i
  simp only [callAt, h]

theorem callAt_eq_none (i : Nat) (hi : rt.tasks.size ≤ i) : rt.callAt i = none := by
  simp [callAt, Array.getElem?_eq_none hi]

theorem callAt_eq_some {i : Nat} {c : Tag × Option Fields} :
    rt.callAt i = some c ↔ ∃ t, rt.tasks[i]? = some t ∧ t.progress.call? = some c := by
  simp [callAt, Option.bind_eq_some_iff]

/-- The calls under way while task `id` runs with progress `p`: its own is `p`'s, the others'
are in the task list. -/
def callsWith (rt : Runtime) (id : Nat) (p : Progress) : Nat → Option (Tag × Option Fields) :=
  Function.update rt.callAt id p.call?

/-- A runtime whose slots and calls are in step, and whose tasks are settled. -/
structure Wf (rt : Runtime) : Prop where
  agree : CallsAgree rt.pending rt.callAt
  settled : ∀ (i : Nat) (t : Task), rt.tasks[i]? = some t → t.Settled

theorem Wf.congr (h : rt.Wf) (htasks : rt'.tasks = rt.tasks) (hpending : rt'.pending = rt.pending) :
    rt'.Wf := by
  refine ⟨?_, fun i t hi => h.settled i t (htasks ▸ hi)⟩
  rw [callAt_congr htasks, hpending]
  exact h.agree

end Runtime

namespace Outbound

/-- An offer is refused exactly when the queue is closed; a queued frame goes at the back. -/
theorem offer_cases (q : Outbound) (id : Nat) (frame : Frame) :
    (q.closed = true ∧ (q.offer id frame).2 = .refused ∧ (q.offer id frame).1.frames = q.frames) ∨
    (q.closed = false ∧ (q.offer id frame).2 = .queued ∧
      (q.offer id frame).1.frames = q.frames ++ [frame]) ∨
    (q.closed = false ∧ (q.offer id frame).2 = .waiting ∧ (q.offer id frame).1.frames = q.frames) := by
  unfold offer
  split_ifs with hc hg hw
  · exact .inl ⟨hc, rfl, rfl⟩
  · exact .inr (.inl ⟨by simpa using hc, rfl, rfl⟩)
  · exact .inr (.inr ⟨by simpa using hc, rfl, rfl⟩)
  · split
    · exact .inr (.inl ⟨by simpa using hc, rfl, rfl⟩)
    · exact .inr (.inr ⟨by simpa using hc, rfl, rfl⟩)

theorem withdraw_frames (q : Outbound) (id : Nat) : (q.withdraw id).1.frames = q.frames := by
  unfold withdraw release
  split_ifs
  · dsimp only
    split <;> rfl
  · rfl

end Outbound

namespace Runtime

variable (rt : Runtime)

@[simp] theorem wake_outbound (id : Nat) : (rt.wake id).outbound = rt.outbound := by
  unfold wake
  split <;> rfl

@[simp] theorem wake_now (id : Nat) : (rt.wake id).now = rt.now := by
  unfold wake
  split <;> rfl

@[simp] theorem wake_timersAt (id : Nat) : (rt.wake id).timersAt = rt.timersAt := by
  unfold wake
  split <;> rfl

@[simp] theorem wakeGranted_outbound (granted : Option Nat) :
    (rt.wakeGranted granted).outbound = rt.outbound := by
  cases granted <;> simp [wakeGranted]

@[simp] theorem wakeGranted_now (granted : Option Nat) : (rt.wakeGranted granted).now = rt.now := by
  cases granted <;> simp [wakeGranted]

@[simp] theorem wakeGranted_timersAt (granted : Option Nat) :
    (rt.wakeGranted granted).timersAt = rt.timersAt := by
  cases granted <;> simp [wakeGranted]

@[simp] theorem dropCall_outbound (id : Nat) (tag : Tag) :
    (rt.dropCall id tag).outbound = rt.outbound := by
  unfold dropCall
  split
  · split <;> simp
  · rfl

@[simp] theorem dropCall_now (id : Nat) (tag : Tag) : (rt.dropCall id tag).now = rt.now := by
  unfold dropCall
  split
  · split <;> simp
  · rfl

@[simp] theorem dropCall_timersAt (id : Nat) (tag : Tag) :
    (rt.dropCall id tag).timersAt = rt.timersAt := by
  unfold dropCall
  split
  · split <;> simp
  · rfl

end Runtime

section Pursue

variable (rt : Runtime) (id : Nat) (frame : Tag → Frame) (timeout : Duration)

/-- **What one step of a call under way does.** A call whose frame is not yet queued offers it:
to a closed queue, and it fails as disconnected; into the queue, at its back; or it waits for
room. Once its frame is queued, the call returns its response if one came, gives up if its timer
has fired or its slot is gone, and otherwise waits on. A call still waiting for room gives up if
its timer has fired. Every way it ends drops its tag; the task list, the clock and the timers
stay as they were. -/
theorem Runtime.pursueCall_cases {rt rt' : Runtime} {id : Nat} {frame : Tag → Frame}
    {timeout : Duration} {tag : Tag} {deadline : Nat} {sent : Bool} {answer : Option Fields}
    {fired : Bool} {res : Except CallError Fields ⊕ Progress}
    (h : rt.pursueCall id frame timeout tag deadline sent answer fired = (rt', res)) :
    (rt'.tasks = rt.tasks ∧ rt'.now = rt.now ∧ rt'.timersAt = rt.timersAt) ∧
    ((sent = false ∧ rt.outbound.closed = true ∧ res = .inl (.error .disconnected) ∧
        rt'.outbound.frames = rt.outbound.frames ∧ rt'.pending = rt.pending.remove tag) ∨
      ((sent = true ∨ rt.outbound.closed = false) ∧
        rt'.outbound.frames = rt.outbound.frames ++ (if sent then [] else [frame tag]) ∧
        ((∃ d, answer = some d ∧ res = .inl (.ok d) ∧ rt'.pending = rt.pending.remove tag) ∨
          (answer = none ∧ (fired = true ∨ (tag, id) ∉ rt.pending.slots) ∧
            res = .inl (.error (.noResponse tag timeout)) ∧ rt'.pending = rt.pending.remove tag) ∨
          (answer = none ∧ fired = false ∧ (tag, id) ∈ rt.pending.slots ∧
            res = .inr (.calling tag deadline true none false) ∧ rt'.pending = rt.pending))) ∨
      (sent = false ∧ rt.outbound.closed = false ∧ rt'.outbound.frames = rt.outbound.frames ∧
        ((fired = true ∧ res = .inl (.error (.noResponse tag timeout)) ∧
            rt'.pending = rt.pending.remove tag) ∨
          (fired = false ∧ res = .inr (.calling tag deadline false answer false) ∧
            rt'.pending = rt.pending)))) := by
  cases sent with
  | true =>
    simp only [Runtime.pursueCall, if_true] at h
    cases answer with
    | some d =>
      obtain ⟨rfl, rfl⟩ := Prod.mk.inj h
      exact ⟨by simp, .inr (.inl ⟨.inl rfl, by simp, .inl ⟨d, rfl, rfl, by simp⟩⟩)⟩
    | none =>
      dsimp only at h
      split at h
      · rename_i hgone
        obtain ⟨rfl, rfl⟩ := Prod.mk.inj h
        refine ⟨by simp, .inr (.inl ⟨.inl rfl, by simp, .inr (.inl ⟨rfl, ?_, rfl, by simp⟩)⟩)⟩
        simpa using hgone
      · rename_i hkeep
        obtain ⟨rfl, rfl⟩ := Prod.mk.inj h
        have hkeep : fired = false ∧ (tag, id) ∈ rt.pending.slots := by simpa using hkeep
        exact ⟨by simp, .inr (.inl ⟨.inl rfl, by simp, .inr (.inr ⟨rfl, hkeep.1, hkeep.2, rfl, rfl⟩)⟩)⟩
  | false =>
    simp only [Runtime.pursueCall, Bool.false_eq_true, if_false] at h
    -- the frame is offered; the three answers of the queue
    rcases Outbound.offer_cases rt.outbound id (frame tag) with
      ⟨hc, ha, hf⟩ | ⟨hc, ha, hf⟩ | ⟨hc, ha, hf⟩ <;> rw [ha] at h
    · obtain ⟨rfl, rfl⟩ := Prod.mk.inj h
      exact ⟨by simp, .inl ⟨rfl, hc, rfl, by simp [hf], by simp⟩⟩
    · cases answer with
      | some d =>
        obtain ⟨rfl, rfl⟩ := Prod.mk.inj h
        exact ⟨by simp, .inr (.inl ⟨.inr hc, by simpa using hf, .inl ⟨d, rfl, rfl, by simp⟩⟩)⟩
      | none =>
        dsimp only at h
        split at h
        · rename_i hgone
          obtain ⟨rfl, rfl⟩ := Prod.mk.inj h
          refine ⟨by simp, .inr (.inl ⟨.inr hc, by simpa using hf,
            .inr (.inl ⟨rfl, ?_, rfl, by simp⟩)⟩)⟩
          simpa using hgone
        · rename_i hkeep
          obtain ⟨rfl, rfl⟩ := Prod.mk.inj h
          have hkeep : fired = false ∧ (tag, id) ∈ rt.pending.slots := by simpa using hkeep
          exact ⟨by simp, .inr (.inl ⟨.inr hc, by simpa using hf,
            .inr (.inr ⟨rfl, hkeep.1, hkeep.2, rfl, rfl⟩)⟩)⟩
    · dsimp only at h
      split at h
      · rename_i hfired
        obtain ⟨rfl, rfl⟩ := Prod.mk.inj h
        exact ⟨by simp, .inr (.inr ⟨rfl, hc, by simp [Outbound.withdraw_frames, hf],
          .inl ⟨hfired, rfl, by simp⟩⟩)⟩
      · rename_i hfired
        obtain ⟨rfl, rfl⟩ := Prod.mk.inj h
        exact ⟨by simp, .inr (.inr ⟨rfl, hc, hf, .inr ⟨by simpa using hfired, rfl, rfl⟩⟩)⟩

/-- **A call under way** either ends, dropping its tag, or waits on under it. -/
theorem Runtime.pursueCall_ends_or_waits {rt rt' : Runtime} {id : Nat} {frame : Tag → Frame}
    {timeout : Duration} {tag : Tag} {deadline : Nat} {sent : Bool} {answer : Option Fields}
    {fired : Bool} {res : Except CallError Fields ⊕ Progress}
    (h : rt.pursueCall id frame timeout tag deadline sent answer fired = (rt', res)) :
    rt'.tasks = rt.tasks ∧
      ((∃ r, res = .inl r ∧ rt'.pending = rt.pending.remove tag) ∨
        (∃ p', res = .inr p' ∧ p'.call? = some (tag, answer) ∧ rt'.pending = rt.pending)) := by
  obtain ⟨⟨htasks, -, -⟩, hcases⟩ := Runtime.pursueCall_cases h
  refine ⟨htasks, ?_⟩
  rcases hcases with ⟨-, -, rfl, -, hp⟩ |
      ⟨-, -, ⟨d, rfl, rfl, hp⟩ | ⟨rfl, -, rfl, hp⟩ | ⟨rfl, -, -, rfl, hp⟩⟩ |
      ⟨-, -, -, ⟨-, rfl, hp⟩ | ⟨-, rfl, hp⟩⟩
  · exact .inl ⟨_, rfl, hp⟩
  · exact .inl ⟨_, rfl, hp⟩
  · exact .inl ⟨_, rfl, hp⟩
  · exact .inr ⟨_, rfl, rfl, hp⟩
  · exact .inl ⟨_, rfl, hp⟩
  · exact .inr ⟨_, rfl, rfl, hp⟩

/-- **A new call draws a tag**: one that is free is kept and the call goes on under it; one in
use is put back, and the task is woken to draw again. -/
theorem Runtime.pursue_idle :
    (∃ tag t', rt.pending.draw id = (some tag, t') ∧
      rt.pursue id frame timeout .idle =
        ({ rt with pending := t' } : Runtime).pursueCall id frame timeout tag
          (rt.now + timeout.millis) false none (decide (rt.now + timeout.millis ≤ rt.timersAt))) ∨
    (∃ t', rt.pending.draw id = (none, t') ∧
      rt.pursue id frame timeout .idle = (({ rt with pending := t' } : Runtime).wake id, .inr .idle)) := by
  cases hd : rt.pending.draw id with
  | mk o t' =>
    cases o with
    | some tag => exact .inl ⟨tag, t', rfl, by rw [Runtime.pursue, hd]⟩
    | none => exact .inr ⟨t', rfl, by rw [Runtime.pursue, hd]⟩

end Pursue

theorem Runtime.pursue_tasks (rt : Runtime) (id : Nat) (frame : Tag → Frame) (timeout : Duration)
    (p : Progress) : (rt.pursue id frame timeout p).1.tasks = rt.tasks := by
  cases p with
  | idle =>
    rcases rt.pursue_idle id frame timeout with ⟨tag, t', -, hp⟩ | ⟨t', -, hp⟩ <;> rw [hp]
    · exact (Runtime.pursueCall_ends_or_waits (Prod.mk.eta (p := Runtime.pursueCall _ _ _ _ _ _ _ _ _)).symm).1
    · exact Runtime.wake_tasks id
  | calling tag deadline sent answer fired =>
    exact (Runtime.pursueCall_ends_or_waits (Prod.mk.eta (p := Runtime.pursueCall _ _ _ _ _ _ _ _ _)).symm).1

theorem Runtime.resolve_size (rt : Runtime) (tag : Tag) (data : Fields) :
    (rt.resolve tag data).tasks.size = rt.tasks.size := by
  unfold Runtime.resolve
  split <;> simp

/-- Running a task starts no task and ends none. -/
theorem Runtime.size_advance (id : Nat) (prog : Program) :
    ∀ (p : Progress) (rt : Runtime), (advance id prog p rt).1.tasks.size = rt.tasks.size := by
  induction prog with
  | finish o => intro p rt; rfl
  | send frame next ih =>
    intro p rt
    rw [advance]
    generalize rt.outbound.offer id frame = o
    obtain ⟨q, admission⟩ := o
    cases admission with
    | queued => exact ih true .idle { rt with outbound := q }
    | refused => exact ih false .idle { rt with outbound := q }
    | waiting => rfl
  | exchange frame timeout next ih =>
    intro p rt
    rw [advance]
    have htasks := rt.pursue_tasks id frame timeout p
    generalize rt.pursue id frame timeout p = r at htasks
    obtain ⟨rt', res⟩ := r
    cases res with
    | inl r => exact (ih r .idle rt').trans (congrArg Array.size htasks)
    | inr p' => exact congrArg Array.size htasks
  | resolve tag data next ih =>
    intro p rt
    rw [advance]
    exact (ih .idle _).trans (rt.resolve_size tag data)

/-- A task is put back from a run not dropped. -/
theorem Runtime.advance_cancelled (id : Nat) (prog : Program) :
    ∀ (p : Progress) (rt : Runtime), (advance id prog p rt).2.cancelled = false := by
  induction prog with
  | finish o => intro p rt; rfl
  | send frame next ih =>
    intro p rt
    rw [advance]
    generalize rt.outbound.offer id frame = o
    obtain ⟨q, admission⟩ := o
    cases admission with
    | queued => exact ih true .idle { rt with outbound := q }
    | refused => exact ih false .idle { rt with outbound := q }
    | waiting => rfl
  | exchange frame timeout next ih =>
    intro p rt
    rw [advance]
    generalize rt.pursue id frame timeout p = r
    obtain ⟨rt', res⟩ := r
    cases res with
    | inl r => exact ih r .idle rt'
    | inr p' => rfl
  | resolve tag data next ih =>
    intro p rt
    rw [advance]
    exact ih .idle _

/-! ### Handing a response on -/

/-- A task with its call answered by `data`. -/
def Task.answered (data : Fields) (t : Task) : Task :=
  match t.progress with
  | .calling tag deadline sent _ fired => { t with progress := .calling tag deadline sent (some data) fired }
  | .idle => t

theorem Task.answered_call? (data : Fields) (t : Task) :
    (t.answered data).progress.call? = t.progress.call?.map fun c => (c.1, some data) := by
  unfold Task.answered
  split <;> simp_all [Progress.call?]

theorem Task.answered_program (data : Fields) (t : Task) : (t.answered data).program = t.program := by
  unfold Task.answered
  split <;> rfl

theorem Task.answered_cancelled (data : Fields) (t : Task) :
    (t.answered data).cancelled = t.cancelled := by
  unfold Task.answered
  split <;> rfl

theorem Task.Settled.answered {t : Task} (h : t.Settled) (data : Fields) :
    (t.answered data).Settled := by
  unfold Task.Settled at h ⊢
  rw [Task.answered_call?, Task.answered_program, Task.answered_cancelled]
  rcases h with h | h
  · exact .inl (by rw [h]; rfl)
  · exact .inr h

namespace Runtime

variable {rt : Runtime} {tag : Tag} {data : Fields}

/-- A response whose tag has a slot goes to the slot's task, and the slot goes. -/
theorem resolve_of_owner {k : Nat} (hk : rt.pending.owner? tag = some k) :
    rt.resolve tag data =
      ({ rt with
          pending := rt.pending.remove tag
          tasks := rt.tasks.modify k (Task.answered data) } : Runtime).wake k := by
  rw [resolve, hk]
  rfl

/-- A response whose tag has no slot is dropped. -/
theorem resolve_of_contains_eq_false (hc : rt.pending.contains tag = false) :
    rt.resolve tag data = rt := by
  rw [resolve, PendingTable.owner?_eq_none.mpr hc]

/-- The calls once task `k`, waiting unanswered under `tag`, has its response: its own is
answered, the others are as they were. -/
theorem callAt_answered {k : Nat} {t : Task} (pending : PendingTable) (ht : rt.tasks[k]? = some t)
    (hc : t.progress.call? = some (tag, none)) :
    (({ rt with pending := pending, tasks := rt.tasks.modify k (Task.answered data) } : Runtime).wake
      k).callAt = Function.update rt.callAt k (some (tag, some data)) := by
  funext i
  simp only [callAt, wake_tasks, Array.getElem?_modify, Function.update_apply]
  by_cases hi : i = k
  · subst hi
    simp [ht, Task.answered_call?, hc]
  · simp [hi, Ne.symm hi]

end Runtime

/-! ### A task at work -/

/-- What holds while task `id` runs program `prog` with progress `p`. -/
structure Running (rt : Runtime) (id : Nat) (prog : Program) (p : Progress) : Prop where
  agree : CallsAgree rt.pending (rt.callsWith id p)
  settled : ∀ (i : Nat) (t : Task), i ≠ id → rt.tasks[i]? = some t → t.Settled
  own : p.call? = none ∨ prog.isExchange = true

namespace Running

variable {rt : Runtime} {id : Nat} {prog : Program} {p : Progress}

/-- A task starts running from its entry in the task list. -/
theorem of_wf (h : rt.Wf) {t : Task} (ht : rt.tasks[id]? = some t) :
    Running rt id t.program t.progress := by
  have hcall : rt.callAt id = t.progress.call? := by simp [Runtime.callAt, ht]
  refine ⟨?_, fun i t' _ hi => h.settled i t' hi, (h.settled id t ht).imp_right (·.1)⟩
  rw [Runtime.callsWith, ← hcall, Function.update_eq_self]
  exact h.agree

/-- A task that has stopped running is put back in the task list. -/
theorem wf_set {t : Task} (h : Running rt id t.program t.progress) (hsettled : t.Settled)
    (hsize : id < rt.tasks.size) :
    ({ rt with tasks := rt.tasks.set! id t } : Runtime).Wf := by
  have hcall : ({ rt with tasks := rt.tasks.set! id t } : Runtime).callAt = rt.callsWith id t.progress := by
    funext i
    simp only [Runtime.callAt, Runtime.callsWith, Array.set!_eq_setIfInBounds,
      Array.getElem?_setIfInBounds, Function.update_apply]
    by_cases hi : i = id
    · subst hi
      simp [hsize]
    · simp [Ne.symm hi, hi]
  refine ⟨hcall ▸ h.agree, fun i t' hi => ?_⟩
  simp only [Array.set!_eq_setIfInBounds, Array.getElem?_setIfInBounds] at hi
  by_cases hid : id = i
  · subst hid
    simp only [hsize, if_true, Option.some.injEq] at hi
    subst hi
    exact hsettled
  · rw [if_neg hid] at hi
    exact h.settled i t' (Ne.symm hid) hi

/-- The running task goes on with progress `p'` in a runtime `rt'` whose task list is unchanged,
once the calls are shown in step. -/
theorem step_of {rt' : Runtime} {prog' : Program} {p' : Progress} (h : Running rt id prog p)
    (htasks : rt'.tasks = rt.tasks)
    (hagree : CallsAgree rt'.pending (Function.update rt.callAt id p'.call?))
    (hown : p'.call? = none ∨ prog'.isExchange = true) : Running rt' id prog' p' := by
  refine ⟨?_, fun i t hi ht => h.settled i t hi (htasks ▸ ht), hown⟩
  rw [Runtime.callsWith, Runtime.callAt_congr htasks]
  exact hagree

/-- What the running task does to the outbound queue, or to who is woken, leaves the calls as
they are. -/
theorem congr (h : Running rt id prog p) {rt' : Runtime} (htasks : rt'.tasks = rt.tasks)
    (hpending : rt'.pending = rt.pending) : Running rt' id prog p :=
  h.step_of htasks (hpending ▸ h.agree) h.own

/-- Only the running task's call matters, not the program it runs or the rest of its progress. -/
theorem reprog (h : Running rt id prog p) (prog' : Program) (p' : Progress)
    (hcall : p'.call? = p.call?) (hown : p'.call? = none ∨ prog'.isExchange = true) :
    Running rt id prog' p' :=
  h.step_of rfl (hcall ▸ h.agree) hown

/-- With no call under way, the running task may run any program. -/
theorem idle (h : Running rt id prog .idle) (prog' : Program) : Running rt id prog' .idle :=
  h.reprog prog' .idle rfl (.inl rfl)

/-- **A response is handed on while a task runs with no call of its own**: the task with the
slot under its tag gets it, and that task is not the running one; with no slot, nothing
changes. -/
theorem resolve (h : Running rt id prog .idle) (tag : Tag) (data : Fields) (prog' : Program) :
    Running (rt.resolve tag data) id prog' .idle := by
  cases hk : rt.pending.owner? tag with
  | none =>
    rw [Runtime.resolve_of_contains_eq_false (PendingTable.owner?_eq_none.mp hk)]
    exact h.idle prog'
  | some k =>
    have hmem : (tag, k) ∈ rt.pending.slots := (PendingTable.owner?_eq_some h.agree.keys).mp hk
    -- the slot's task waits unanswered under the tag, so it is not the running task
    have hkc := h.agree.owned tag k hmem
    have hkid : k ≠ id := h.agree.ne_of_mem (by simp [Runtime.callsWith, Progress.call?]) hmem
    rw [Runtime.callsWith, Function.update_of_ne hkid] at hkc
    obtain ⟨t, ht, hc⟩ := Runtime.callAt_eq_some.mp hkc
    rw [Runtime.resolve_of_owner hk]
    refine ⟨?_, fun i t' hi ht' => ?_, .inl rfl⟩
    · rw [Runtime.callsWith, Runtime.callAt_answered _ ht hc, Function.update_comm hkid,
        Runtime.wake_pending]
      exact h.agree.answer hmem data
    · simp only [Runtime.wake_tasks, Array.getElem?_modify] at ht'
      by_cases hik : k = i
      · subst hik
        simp only [if_true, ht, Option.map_some, Option.some.injEq] at ht'
        subst ht'
        exact (h.settled k t hkid ht).answered data
      · rw [if_neg hik] at ht'
        exact h.settled i t' hi ht'

/-- A response handed on while a task runs with no call answers only the call waiting under its
tag, with its payload. -/
theorem callAt_resolve_answer (h : Running rt id prog .idle) {tag tag' : Tag} {data d : Fields}
    {k : Nat} (hk : (rt.resolve tag data).callAt k = some (tag', some d)) :
    rt.callAt k = some (tag', some d) ∨ (tag' = tag ∧ d = data) := by
  cases ho : rt.pending.owner? tag with
  | none =>
    rw [Runtime.resolve_of_contains_eq_false (PendingTable.owner?_eq_none.mp ho)] at hk
    exact .inl hk
  | some j =>
    have hmem := (PendingTable.owner?_eq_some h.agree.keys).mp ho
    -- the slot's task waits unanswered under the tag, and is not the running task
    have hjc := h.agree.owned tag j hmem
    have hjid : j ≠ id := h.agree.ne_of_mem (by simp [Runtime.callsWith, Progress.call?]) hmem
    rw [Runtime.callsWith, Function.update_of_ne hjid] at hjc
    obtain ⟨t, ht, hc⟩ := Runtime.callAt_eq_some.mp hjc
    rw [Runtime.resolve_of_owner ho, Runtime.callAt_answered _ ht hc] at hk
    by_cases hkj : k = j
    · subst hkj
      simp only [Function.update_self, Option.some.injEq, Prod.mk.injEq] at hk
      exact .inr ⟨hk.1.symm, hk.2.symm⟩
    · rw [Function.update_of_ne hkj] at hk
      exact .inl hk

section Exchange

variable {frame : Tag → Frame} {timeout : Duration} {next : Except CallError Fields → Program}

/-- **A call under way is taken a step further**: it ends, dropping its tag, or waits on, and the
slots and calls stay in step. -/
theorem pursueCall (h : Running rt id (.exchange frame timeout next) p) {tag : Tag}
    {answer : Option Fields} (hp : p.call? = some (tag, answer)) (deadline : Nat) (sent fired : Bool) :
    (∀ r, (rt.pursueCall id frame timeout tag deadline sent answer fired).2 = .inl r →
        ∀ prog', Running (rt.pursueCall id frame timeout tag deadline sent answer fired).1 id prog' .idle) ∧
      (∀ p', (rt.pursueCall id frame timeout tag deadline sent answer fired).2 = .inr p' →
        Running (rt.pursueCall id frame timeout tag deadline sent answer fired).1 id
          (.exchange frame timeout next) p') := by
  have hid : rt.callsWith id p id = some (tag, answer) := by simp [Runtime.callsWith, hp]
  obtain ⟨htasks, hcases⟩ := Runtime.pursueCall_ends_or_waits (Prod.mk.eta
    (p := rt.pursueCall id frame timeout tag deadline sent answer fired)).symm
  rcases hcases with ⟨r, hr, hpend⟩ | ⟨p'', hp'', hcall, hpend⟩
  · -- the call ends, and the slot under its tag goes
    refine ⟨fun _ _ prog' => h.step_of htasks ?_ (.inl rfl),
      fun p' hp' => (Sum.inl_ne_inr (hr.symm.trans hp')).elim⟩
    have hgone := h.agree.drop hid
    rw [Runtime.callsWith, Function.update_idem] at hgone
    exact hpend ▸ hgone
  · -- the call waits on under its tag
    refine ⟨fun r hr _ => (Sum.inr_ne_inl (hp''.symm.trans hr)).elim, fun p' hp' => ?_⟩
    rw [hp''] at hp'
    cases hp'
    exact h.step_of htasks (by rw [hpend, hcall, ← hp]; exact h.agree) (.inr rfl)

/-- **A call is taken a step further**: it draws a tag, ends, or waits on, and the slots and
calls stay in step. -/
theorem exchange_step (h : Running rt id (.exchange frame timeout next) p) :
    (∀ r, (rt.pursue id frame timeout p).2 = .inl r →
        ∀ prog', Running (rt.pursue id frame timeout p).1 id prog' .idle) ∧
      (∀ p', (rt.pursue id frame timeout p).2 = .inr p' →
        Running (rt.pursue id frame timeout p).1 id (.exchange frame timeout next) p') := by
  cases p with
  | calling tag deadline sent answer fired => exact h.pursueCall rfl deadline sent fired
  | idle =>
    have hnone : rt.callsWith id .idle id = none := by simp [Runtime.callsWith, Progress.call?]
    rcases rt.pursue_idle id frame timeout with ⟨tag, t', hd, hp⟩ | ⟨t', hd, hp⟩ <;> rw [hp]
    · -- the tag drawn is kept, and the new call goes on under it
      obtain ⟨hfree, rfl, rfl⟩ := PendingTable.draw_eq_some hd
      have hkept := h.agree.keep hnone hfree
      rw [Runtime.callsWith, Function.update_idem] at hkept
      have hreg : Running { rt with pending := { rt.pending with
          slots := rt.pending.slots ++ [(rt.pending.fresh rt.pending.drawn, id)],
          drawn := rt.pending.drawn + 1 } } id (.exchange frame timeout next)
          (.calling (rt.pending.fresh rt.pending.drawn) (rt.now + timeout.millis) false none
            (decide (rt.now + timeout.millis ≤ rt.timersAt))) :=
        h.step_of rfl hkept (.inr rfl)
      exact hreg.pursueCall rfl _ false _
    · -- the tag drawn is put back, and the task draws again when it next runs
      obtain ⟨-, rfl⟩ := PendingTable.draw_eq_none hd
      refine ⟨fun r hr => (Sum.inr_ne_inl hr).elim, fun p' hp' => ?_⟩
      cases hp'
      exact h.step_of (Runtime.wake_tasks id) (by simpa [Runtime.callsWith] using h.agree.putBack)
        (.inl rfl)

end Exchange

/-- **A task runs until it finishes or must wait**, and the slots and calls stay in step
throughout: by induction on its program, one operation at a time. -/
theorem advance (h : Running rt id prog p) :
    Running (Runtime.advance id prog p rt).1 id (Runtime.advance id prog p rt).2.program
      (Runtime.advance id prog p rt).2.progress := by
  induction prog generalizing p rt with
  | finish o =>
    -- a finished task has no call under way
    have hnone : p.call? = none := h.own.resolve_right (by simp [Program.isExchange])
    exact h.reprog (.finish o) .idle hnone.symm (.inl rfl)
  | send frame next ih =>
    have hnone : p.call? = none := h.own.resolve_right (by simp [Program.isExchange])
    rw [Runtime.advance]
    generalize rt.outbound.offer id frame = o
    obtain ⟨q, admission⟩ := o
    have hq : Running { rt with outbound := q } id (.send frame next) p := h.congr rfl rfl
    cases admission with
    | queued => exact ih true (hq.reprog (next true) .idle hnone.symm (.inl rfl))
    | refused => exact ih false (hq.reprog (next false) .idle hnone.symm (.inl rfl))
    | waiting => exact hq
  | exchange frame timeout next ih =>
    rw [Runtime.advance]
    obtain ⟨hinl, hinr⟩ := h.exchange_step
    generalize rt.pursue id frame timeout p = r at hinl hinr ⊢
    obtain ⟨rt', res⟩ := r
    cases res with
    | inl e => exact ih e (hinl e rfl _)
    | inr p' => exact hinr p' rfl
  | resolve tag data next ih =>
    have hnone : p.call? = none := h.own.resolve_right (by simp [Program.isExchange])
    rw [Runtime.advance]
    exact ih ((h.reprog (.resolve tag data next) .idle hnone.symm (.inl rfl)).resolve tag data next)

/-- A task past the last one, with no call under way, leaves the calls as the task list has
them. -/
theorem wf_past (h : Running rt id prog .idle) (hid : rt.tasks.size ≤ id) : rt.Wf := by
  have hupd : rt.callsWith id .idle = rt.callAt :=
    Function.update_eq_self_iff.mpr (Runtime.callAt_eq_none id hid).symm
  refine ⟨hupd ▸ h.agree, fun i t ht => h.settled i t ?_ ht⟩
  rintro rfl
  have := (Array.getElem?_eq_some_iff.mp ht).1
  omega

end Running

end HubService.Session
