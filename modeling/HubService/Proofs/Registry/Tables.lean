import HubService.Registry.Basic
import Mathlib.Data.List.Nodup

/-!
# One endpoint per path

Registration refuses a path its table already holds, and a descriptor whose keys and kinds do
not pair up, leaving the builder as it was. So every table of a builder that registration made
holds each path at most once (`HubService.Registry.Builder.Registered.distinct`), and looking a
path up in such a table finds exactly the endpoint registered at that path
(`HubService.Registry.Table.find?_eq_some_iff`), or nothing when none is
(`HubService.Registry.Table.find?_eq_none_iff`).
-/

namespace HubService.Registry

open HubService.Wire

namespace Table

variable {H : Type}

/-- The table holds each path at most once. -/
def Distinct (t : Table H) : Prop := t.paths.Nodup

theorem find?_eq_none_iff {t : Table H} {path : EndpointPath} :
    t.find? path = none ↔ ∀ ep, (path, ep) ∉ t.entries := by
  simp only [find?, Option.map_eq_none_iff, List.find?_eq_none, decide_eq_true_eq]
  exact ⟨fun h ep hmem => h _ hmem rfl, fun h entry hmem hpath => h entry.2 (hpath ▸ hmem)⟩

/-- **Lookup finds the endpoint registered at exactly the path**, in a table that holds each path
once. -/
theorem find?_eq_some_iff {t : Table H} (hd : t.Distinct) {path : EndpointPath} {ep : Endpoint H} :
    t.find? path = some ep ↔ (path, ep) ∈ t.entries := by
  constructor
  · intro h
    obtain ⟨entry, hfind, rfl⟩ := Option.map_eq_some_iff.mp h
    have hpath : entry.1 = path := by simpa using List.find?_some hfind
    rw [← hpath]
    exact List.mem_of_find?_eq_some hfind
  · intro hmem
    -- some entry has the path, and the only one is `(path, ep)`
    obtain ⟨entry, hfind⟩ : ∃ entry, t.entries.find? (·.1 = path) = some entry := by
      rw [← Option.isSome_iff_exists, List.find?_isSome]
      exact ⟨_, hmem, by simp⟩
    have hpath : entry.1 = path := by simpa using List.find?_some hfind
    have heq : entry = (path, ep) :=
      List.inj_on_of_nodup_map hd (List.mem_of_find?_eq_some hfind) hmem hpath
    simp [find?, hfind, heq]

/-- A table that holds each path once holds one endpoint at a path. -/
theorem Distinct.eq_of_mem {t : Table H} (hd : t.Distinct) {path : EndpointPath}
    {ep ep' : Endpoint H} (h : (path, ep) ∈ t.entries) (h' : (path, ep') ∈ t.entries) :
    ep = ep' := by
  have := ((find?_eq_some_iff hd).mpr h).symm.trans ((find?_eq_some_iff hd).mpr h')
  exact Option.some.inj this

theorem distinct_insert {t t' : Table H} (hd : t.Distinct) {path : EndpointPath}
    {keys : List String} {kinds : List ValueKind} {handler : H}
    (h : t.insert path keys kinds handler = .ok t') : t'.Distinct := by
  unfold insert at h
  split at h
  · cases h
  · rename_i descriptor _
    split at h
    · cases h
    · rename_i hnew
      cases h
      -- the new path is none of the old ones
      have hout : path ∉ t.paths := by
        intro hp
        obtain ⟨⟨p, ep⟩, hmem, rfl⟩ := List.mem_map.mp hp
        have : (t.find? p).isSome := by
          rw [Option.isSome_iff_exists]
          exact ⟨ep, (find?_eq_some_iff hd).mpr hmem⟩
        exact hnew this
      have hnodup : (t.paths ++ [path]).Nodup :=
        List.nodup_append_comm.mpr (List.nodup_cons.mpr ⟨hout, hd⟩)
      simpa [Distinct, paths] using hnodup

end Table

namespace Builder

variable {H : Type}

/-- The builders that registration makes, starting from the empty one. -/
inductive Registered : Builder H → Prop
  | empty : Registered {}
  | register {b b' : Builder H} {origin : Origin} {path : EndpointPath} {keys : List String}
      {kinds : List ValueKind} {handler : H} :
      Registered b → b.register origin path keys kinds handler = .ok b' → Registered b'

/-- **Every table of a registered builder holds each path once.** -/
theorem Registered.distinct {b : Builder H} (hb : b.Registered) :
    b.user.Distinct ∧ b.service.Distinct := by
  induction hb with
  | empty => exact ⟨List.nodup_nil, List.nodup_nil⟩
  | @register b b' origin path keys kinds handler _ hreg ih =>
    cases origin with
    | user =>
      cases ht : b.user.insert path keys kinds handler with
      | error e => simp [Builder.register, ht, Except.map] at hreg
      | ok t =>
        simp only [Builder.register, ht, Except.map, Except.ok.injEq] at hreg
        subst hreg
        exact ⟨Table.distinct_insert ih.1 ht, ih.2⟩
    | service =>
      cases ht : b.service.insert path keys kinds handler with
      | error e => simp [Builder.register, ht, Except.map] at hreg
      | ok t =>
        simp only [Builder.register, ht, Except.map, Except.ok.injEq] at hreg
        subst hreg
        exact ⟨ih.1, Table.distinct_insert ih.2 ht⟩

end Builder

end HubService.Registry
