import HubService.Wire.Tag

/-!
# Calls that await a response

A call out of the service registers a *slot* under a tag before its frame is queued, and the
slot is what makes an inbound frame with that tag a response rather than a request. A slot is
kept for the task whose call it answers.

Tags come from `Tag::fresh`, a random UUID at every draw, and nothing keeps two draws apart. A
registration draws until it finds a tag that no slot holds: a drawn tag in use is put back and
another one drawn (`HubService.Session.PendingTable.draw`). So a registration never hands out a
tag that has a slot, but it may hand out the tag of a call that still waits to take the response
it was given.

A slot goes when the response for its tag arrives, and when a call stops waiting – it returned,
its deadline passed, or it was dropped – the slot under the call's tag is removed
(`HubService.Session.PendingTable.remove`), whichever call that slot belongs to by then.
-/

namespace HubService.Session

open HubService.Wire

/-- The slots of the calls that await a response, in the order they were registered, each
under its tag and for the task whose call it answers; the tags `Tag::fresh` returns, draw after
draw; and how many have been drawn. -/
structure PendingTable where
  slots : List (Tag × Nat) := []
  fresh : Nat → Tag := Tag.issued
  drawn : Nat := 0

namespace PendingTable

/-- Whether a slot is kept under this tag. -/
def contains (t : PendingTable) (tag : Tag) : Bool := t.slots.any (·.1 == tag)

/-- The task whose call the slot under this tag answers. -/
def owner? (t : PendingTable) (tag : Tag) : Option Nat := (t.slots.find? (·.1 == tag)).map (·.2)

/-- One draw of a registration for task `id`: the tag drawn is kept, with a slot for the task's
call, if no slot holds it; otherwise it is put back, and the registration draws again. -/
def draw (t : PendingTable) (id : Nat) : Option Tag × PendingTable :=
  let tag := t.fresh t.drawn
  if t.contains tag then (none, { t with drawn := t.drawn + 1 })
  else (some tag, { t with slots := t.slots ++ [(tag, id)], drawn := t.drawn + 1 })

/-- Removes the slot under a tag, if there is one, whichever call it is for. -/
def remove (t : PendingTable) (tag : Tag) : PendingTable :=
  { t with slots := t.slots.filter (·.1 != tag) }

/-- The number of calls that await a response. -/
def size (t : PendingTable) : Nat := t.slots.length

/-- **A registration never hands out a tag in use**: a tag it keeps is the one drawn, had no
slot, and has one now, for the registering task. -/
theorem draw_eq_some {t t' : PendingTable} {id : Nat} {tag : Tag} (h : t.draw id = (some tag, t')) :
    t.contains tag = false ∧ tag = t.fresh t.drawn ∧
      t' = { t with slots := t.slots ++ [(tag, id)], drawn := t.drawn + 1 } := by
  unfold draw at h
  dsimp only at h
  split at h
  · cases h
  · rename_i hc
    obtain ⟨htag, rfl⟩ := Prod.mk.inj h
    cases Option.some.inj htag
    exact ⟨Bool.eq_false_iff.mpr hc, rfl, rfl⟩

/-- A drawn tag that is put back was in use, and only the count of draws moves. -/
theorem draw_eq_none {t t' : PendingTable} {id : Nat} (h : t.draw id = (none, t')) :
    t.contains (t.fresh t.drawn) = true ∧ t' = { t with drawn := t.drawn + 1 } := by
  unfold draw at h
  dsimp only at h
  split at h
  · rename_i hc
    exact ⟨hc, (Prod.mk.inj h).2.symm⟩
  · cases h

end PendingTable

end HubService.Session
