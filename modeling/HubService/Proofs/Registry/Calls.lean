import HubService.Proofs.Registry.Tables
import Mathlib

/-!
# Registration, call after call

A program registers its endpoints by a sequence of calls on one builder, interleaving the two
tables as it likes (`HubService.Registry.Builder.registerAll`). What each call returns is decided
by the calls before it alone (`HubService.Registry.Registration.expected`): a call whose keys and
kinds differ in number is refused for its arity, whatever else holds, since the descriptor is
checked first; otherwise it is refused as a duplicate exactly when an earlier call that was
accepted registered the same path, segment for segment, in the same table; otherwise it is
accepted.

The builder is a faithful record of the accepted calls (`HubService.Registry.Builder.Tracks`):
each table holds, in order, the entries of the calls accepted into it and nothing else. A refused
call changes neither table. So after any sequence of calls the registry finds, at a path, exactly
the descriptor of the one call accepted there, pairing its keys with its kinds position by
position; nothing at any other path, however it is written; and it counts the calls accepted into
each table (`HubService.Registry.Builder.registerAll_exact`).
-/

namespace HubService.Registry

open HubService.Wire

variable {H : Type}

/-- The registration calls made so far, each with what it returned. -/
abbrev History (H : Type) := List (Registration H × Except RegistryError Unit)

namespace Registration

/-- The descriptor a call asks for: its keys paired with its kinds, position by position. -/
def descriptor (c : Registration H) : EndpointDescriptor := ⟨c.keys.zip c.kinds⟩

/-- The entry a call adds to its table when it is accepted. -/
def entry (c : Registration H) : EndpointPath × Endpoint H :=
  (c.path, ⟨c.descriptor, c.handler⟩)

/-- What a call must return after the calls of `earlier`: a refusal for its arity when its keys
and kinds differ in number, whatever else holds; else a refusal as a duplicate when a call of
`earlier` that was accepted registered the same path in the same table; else acceptance. -/
def expected (c : Registration H) (earlier : History H) : Except RegistryError Unit :=
  if c.keys.length ≠ c.kinds.length then
    .error (.descriptorArity c.origin c.path c.keys.length c.kinds.length)
  else if ∃ e ∈ earlier, e.2 = .ok () ∧ e.1.origin = c.origin ∧ e.1.path = c.path then
    .error (.duplicate c.origin c.path)
  else .ok ()

end Registration

/-- The calls of a history that were accepted into the table of `origin`, in order. -/
def accepted (origin : Origin) (hist : History H) : List (Registration H) :=
  (hist.filter fun e => decide (e.2 = .ok () ∧ e.1.origin = origin)).map (·.1)

theorem accepted_append_error {hist : History H} {c : Registration H}
    {r : Except RegistryError Unit} (hr : r ≠ .ok ()) (origin : Origin) :
    accepted origin (hist ++ [(c, r)]) = accepted origin hist := by
  simp [accepted, hr]

theorem accepted_append_ok (hist : History H) (c : Registration H) (origin : Origin) :
    accepted origin (hist ++ [(c, .ok ())]) =
      accepted origin hist ++ if c.origin = origin then [c] else [] := by
  by_cases h : c.origin = origin <;> simp [accepted, h]

theorem mem_accepted {hist : History H} {origin : Origin} {a : Registration H} :
    a ∈ accepted origin hist ↔ ∃ r, (a, r) ∈ hist ∧ r = .ok () ∧ a.origin = origin := by
  simp [accepted]

/-! ### One table -/

namespace Table

theorem find?_isSome_iff {t : Table H} {path : EndpointPath} :
    (t.find? path).isSome ↔ path ∈ t.paths := by
  simp [find?, paths, List.find?_isSome]

/-- **What an insertion returns**: a refusal for the arity first, then for a path the table
holds, else the table with the new entry at the end. -/
theorem insert_eq (t : Table H) (path : EndpointPath) (keys : List String)
    (kinds : List ValueKind) (handler : H) :
    t.insert path keys kinds handler =
      if keys.length ≠ kinds.length then
        .error (.descriptorArity t.origin path keys.length kinds.length)
      else if path ∈ t.paths then .error (.duplicate t.origin path)
      else
        .ok { t with entries := t.entries ++ [(path, ⟨⟨keys.zip kinds⟩, handler⟩)] } := by
  unfold insert EndpointDescriptor.ofLists?
  by_cases hlen : keys.length = kinds.length
  · by_cases hpath : path ∈ t.paths
    · simp [hlen, hpath, find?_isSome_iff]
    · simp [hlen, hpath, find?_isSome_iff]
  · simp [hlen]

end Table

/-! ### The builder, call by call -/

namespace Builder

/-- The builder with the table of `origin` replaced. -/
def withTable (b : Builder H) : Origin → Table H → Builder H
  | .user, t => { b with user := t }
  | .service, t => { b with service := t }

theorem table_withTable (b : Builder H) (origin origin' : Origin) (t : Table H) :
    (b.withTable origin t).build.table origin' =
      if origin' = origin then t else b.build.table origin' := by
  cases origin <;> cases origin' <;> rfl

theorem register_eq (b : Builder H) (origin : Origin) (path : EndpointPath)
    (keys : List String) (kinds : List ValueKind) (handler : H) :
    b.register origin path keys kinds handler =
      ((b.build.table origin).insert path keys kinds handler).map (b.withTable origin) := by
  cases origin <;> rfl

theorem call_of_insert_ok {b : Builder H} {c : Registration H} {t : Table H}
    (h : (b.build.table c.origin).insert c.path c.keys c.kinds c.handler = .ok t) :
    b.call c = (b.withTable c.origin t, .ok ()) := by
  rw [call, register_eq, h]
  rfl

theorem call_of_insert_error {b : Builder H} {c : Registration H} {e : RegistryError}
    (h : (b.build.table c.origin).insert c.path c.keys c.kinds c.handler = .error e) :
    b.call c = (b, .error e) := by
  rw [call, register_eq, h]
  rfl

/-- The builder records the accepted calls of `hist`: each table, of its own origin, holds the
entries of the calls accepted into it, in order. -/
def Tracks (b : Builder H) (hist : History H) : Prop :=
  ∀ origin, (b.build.table origin).origin = origin ∧
    (b.build.table origin).entries = (accepted origin hist).map Registration.entry

theorem tracks_empty : Tracks ({} : Builder H) [] := by
  intro origin
  cases origin <;> exact ⟨rfl, rfl⟩

/-- In a builder that records `hist`, a table holds a path exactly when a call accepted into it
registered that path. -/
theorem Tracks.mem_paths_iff {b : Builder H} {hist : History H} (h : Tracks b hist)
    (origin : Origin) (path : EndpointPath) :
    path ∈ (b.build.table origin).paths ↔
      ∃ e ∈ hist, e.2 = .ok () ∧ e.1.origin = origin ∧ e.1.path = path := by
  rw [Table.paths, (h origin).2, List.map_map, List.mem_map]
  constructor
  · rintro ⟨a, ha, rfl⟩
    obtain ⟨r, hmem, hr, ho⟩ := mem_accepted.mp ha
    exact ⟨(a, r), hmem, hr, ho, rfl⟩
  · rintro ⟨⟨a, r⟩, hmem, hr, ho, rfl⟩
    exact ⟨a, mem_accepted.mpr ⟨r, hmem, hr, ho⟩, rfl⟩

/-- **One call**: on a builder that records `hist`, a call returns what the calls of `hist`
decide, and the builder after it records `hist` with the call added. -/
theorem Tracks.call {b : Builder H} {hist : History H} (h : Tracks b hist) (c : Registration H) :
    (b.call c).2 = c.expected hist ∧ Tracks (b.call c).1 (hist ++ [(c, (b.call c).2)]) := by
  obtain ⟨horigin, hentries⟩ := h c.origin
  have hins := Table.insert_eq (b.build.table c.origin) c.path c.keys c.kinds c.handler
  simp only [horigin, h.mem_paths_iff] at hins
  by_cases hlen : c.keys.length ≠ c.kinds.length
  · -- refused for its arity: nothing changes
    rw [if_pos hlen] at hins
    rw [call_of_insert_error hins, Registration.expected, if_pos hlen]
    refine ⟨rfl, fun origin => ?_⟩
    rw [accepted_append_error (by simp)]
    exact h origin
  by_cases hdup : ∃ e ∈ hist, e.2 = .ok () ∧ e.1.origin = c.origin ∧ e.1.path = c.path
  · -- refused as a duplicate: nothing changes
    rw [if_neg hlen, if_pos hdup] at hins
    rw [call_of_insert_error hins, Registration.expected, if_neg hlen, if_pos hdup]
    refine ⟨rfl, fun origin => ?_⟩
    rw [accepted_append_error (by simp)]
    exact h origin
  · -- accepted: the entry goes at the end of its own table
    rw [if_neg hlen, if_neg hdup] at hins
    rw [call_of_insert_ok hins, Registration.expected, if_neg hlen, if_neg hdup]
    refine ⟨rfl, fun origin => ?_⟩
    rw [table_withTable, accepted_append_ok]
    by_cases ho : origin = c.origin
    · subst ho
      rw [if_pos rfl, if_pos rfl, List.map_append, ← hentries]
      exact ⟨rfl, rfl⟩
    · simp only [if_neg ho, if_neg (Ne.symm ho), List.append_nil]
      exact h origin

/-- A refused call returns the builder it was given. -/
theorem call_fst_of_refused {b : Builder H} {c : Registration H} (h : (b.call c).2 ≠ .ok ()) :
    (b.call c).1 = b := by
  unfold call at h ⊢
  split
  · next b' hreg =>
    -- an accepted call returned `ok`
    rw [hreg] at h
    exact absurd rfl h
  · rfl

/-- A call on a builder that registration made leaves one that registration made. -/
theorem call_registered {b : Builder H} (hb : b.Registered) (c : Registration H) :
    (b.call c).1.Registered := by
  unfold call
  split
  · next b' hreg => exact .register hb hreg
  · exact hb

/-! ### Runs of calls -/

theorem registerAll_append_singleton (b : Builder H) (cs : List (Registration H))
    (c : Registration H) :
    b.registerAll (cs ++ [c]) =
      (((b.registerAll cs).1.call c).1,
        (b.registerAll cs).2 ++ [((b.registerAll cs).1.call c).2]) := by
  rw [registerAll, List.foldl_append]
  rfl

theorem length_registerAll (b : Builder H) (cs : List (Registration H)) :
    (b.registerAll cs).2.length = cs.length := by
  induction cs using List.reverseRecOn with
  | nil => rfl
  | append_singleton cs c ih => simp [registerAll_append_singleton, ih]

/-- **Every run records its calls**: the builder after any sequence of calls from the empty one
records the calls with what they returned, and is one that registration makes. -/
theorem tracks_registerAll (cs : List (Registration H)) :
    Tracks (({} : Builder H).registerAll cs).1 (cs.zip (({} : Builder H).registerAll cs).2) ∧
      (({} : Builder H).registerAll cs).1.Registered := by
  induction cs using List.reverseRecOn with
  | nil => exact ⟨tracks_empty, .empty⟩
  | append_singleton cs c ih =>
    obtain ⟨htracks, hreg⟩ := ih
    rw [registerAll_append_singleton, List.zip_append (by rw [length_registerAll])]
    exact ⟨(htracks.call c).2, call_registered hreg c⟩

/-! ### The registry a run builds -/

/-- Each table of a registered builder holds a path at most once. -/
theorem Registered.distinct_table {b : Builder H} (hb : b.Registered) (origin : Origin) :
    (b.build.table origin).Distinct := by
  cases origin
  · exact hb.distinct.1
  · exact hb.distinct.2

/-- In a registered builder that records `hist`, the calls accepted into one table have
distinct paths. -/
theorem Tracks.nodup_paths {b : Builder H} {hist : History H} (h : Tracks b hist)
    (hb : b.Registered) (origin : Origin) :
    ((accepted origin hist).map (·.path)).Nodup := by
  have hd := hb.distinct_table origin
  rw [Table.Distinct, Table.paths, (h origin).2, List.map_map] at hd
  exact hd

/-- In a registered builder that records `hist`, the descriptor at a path is that of the call
accepted at that path, if any. -/
theorem Tracks.descriptor_eq_some_iff {b : Builder H} {hist : History H} (h : Tracks b hist)
    (hb : b.Registered) (origin : Origin) (path : EndpointPath) (d : EndpointDescriptor) :
    b.build.descriptor origin path = some d ↔
      ∃ a ∈ accepted origin hist, a.path = path ∧ d = a.descriptor := by
  have hd := hb.distinct_table origin
  rw [EndpointRegistry.descriptor, EndpointRegistry.lookup, Option.map_eq_some_iff]
  constructor
  · rintro ⟨ep, hfind, rfl⟩
    have hmem := (Table.find?_eq_some_iff hd).mp hfind
    rw [(h origin).2] at hmem
    obtain ⟨a, ha, hentry⟩ := List.mem_map.mp hmem
    simp only [Registration.entry, Prod.mk.injEq] at hentry
    exact ⟨a, ha, hentry.1, by rw [← hentry.2]⟩
  · rintro ⟨a, ha, rfl, rfl⟩
    refine ⟨⟨a.descriptor, a.handler⟩, (Table.find?_eq_some_iff hd).mpr ?_, rfl⟩
    rw [(h origin).2]
    exact List.mem_map_of_mem ha

/-- **Registration is atomic and lookup is exact.** For every sequence of registration calls
from an empty builder, over both tables, and every call `c` made after it:

* `c` returns what the calls before it decide (`HubService.Registry.Registration.expected`):
  a refusal for its arity when its keys and kinds differ in number, else a refusal as a duplicate
  when an accepted call before it registered the same path in the same table, else acceptance;
* a refused `c` leaves the builder, both tables included, as it was;
* after the sequence, in each table, the accepted calls have distinct paths, the descriptor at a
  path is that of the call accepted at exactly that path (its keys paired with its kinds) and
  there is none at any other path, and the table counts its accepted calls. -/
theorem registerAll_exact (cs : List (Registration H)) (c : Registration H) :
    let run := ({} : Builder H).registerAll cs
    let hist := cs.zip run.2
    run.2.length = cs.length ∧
    (({} : Builder H).registerAll (cs ++ [c])).2 = run.2 ++ [c.expected hist] ∧
    (c.expected hist ≠ .ok () → (({} : Builder H).registerAll (cs ++ [c])).1 = run.1) ∧
    ∀ origin,
      ((accepted origin hist).map (·.path)).Nodup ∧
      (∀ path d, run.1.build.descriptor origin path = some d ↔
        ∃ a ∈ accepted origin hist, a.path = path ∧ d = a.descriptor) ∧
      run.1.build.len origin = (accepted origin hist).length := by
  intro run hist
  obtain ⟨htracks, hreg⟩ := tracks_registerAll (H := H) cs
  have hcall := htracks.call c
  refine ⟨length_registerAll _ _, ?_, ?_, fun origin => ⟨?_, ?_, ?_⟩⟩
  · rw [registerAll_append_singleton, hcall.1]
  · intro hrefused
    rw [registerAll_append_singleton]
    exact call_fst_of_refused (hcall.1 ▸ hrefused)
  · exact htracks.nodup_paths hreg origin
  · exact htracks.descriptor_eq_some_iff hreg origin
  · rw [EndpointRegistry.len, (htracks origin).2, List.length_map]

/- Paths written alike are told apart: `/a/b` registered as one segment is not found as two,
nor the root as the empty segment. -/
example :
    EndpointPath.display ⟨["a/b"]⟩ = EndpointPath.display ⟨["a", "b"]⟩ ∧
      (({} : Builder Unit).registerAll [⟨.user, ⟨["a/b"]⟩, [], [], ()⟩,
        ⟨.user, ⟨[]⟩, [], [], ()⟩]).1.build.descriptor .user ⟨["a", "b"]⟩ = none ∧
      (({} : Builder Unit).registerAll [⟨.user, ⟨["a/b"]⟩, [], [], ()⟩,
        ⟨.user, ⟨[]⟩, [], [], ()⟩]).1.build.descriptor .user ⟨[""]⟩ = none := by
  decide

end Builder

end HubService.Registry
