import HubService.Registry.Descriptor
import Mathlib

/-!
# Validation reports the first unmet requirement

A descriptor lists the keys an endpoint requires, each with the kind of value it must hold, and
validation walks that list in declaration order
(`HubService.Registry.EndpointDescriptor.validate`). Read in terms of the list alone, the walk
decides three things:

* the data passes exactly when every requirement is met: the key is present, and its value is
  of the required kind;
* otherwise the refusal names the *least* position whose requirement is unmet: its key, its
  kind, and the kind found there, none when the key is absent;
* only the required keys are ever looked at, so data that agrees on them is judged alike.

A descriptor made from a key list and a kind list of one length pairs them position by position,
so all three read the same with `keys[i]` and `kinds[i]`
(`HubService.Registry.EndpointDescriptor.ofLists_reports_first_unmet`).
-/

namespace HubService.Registry

open HubService.Json

namespace EndpointDescriptor

/-- The kind of the value the data holds under a key; none when the key is absent. -/
def foundKind (data : Fields) (key : String) : Option ValueKind := (data.get? key).map ValueKind.of

/-- The data meets a requirement: its key is present, with a value of its kind. -/
def Meets (data : Fields) (req : String × ValueKind) : Prop := foundKind data req.1 = some req.2

instance (data : Fields) (req : String × ValueKind) : Decidable (Meets data req) :=
  inferInstanceAs (Decidable (foundKind data req.1 = some req.2))

/-- The refusal for a requirement the data does not meet. -/
def mismatchAt (data : Fields) (req : String × ValueKind) : ParameterMismatch :=
  ⟨req.1, req.2, foundKind data req.1⟩

section Walk

variable {data : Fields}

theorem firstMismatch_cons (req : String × ValueKind) (rest : List (String × ValueKind)) :
    firstMismatch data (req :: rest) =
      if Meets data req then firstMismatch data rest else some (mismatchAt data req) := rfl

/-- **The walk passes exactly the data that meets every requirement.** -/
theorem firstMismatch_eq_none_iff {reqs : List (String × ValueKind)} :
    firstMismatch data reqs = none ↔ ∀ req ∈ reqs, Meets data req := by
  induction reqs with
  | nil => simp [firstMismatch]
  | cons req rest ih =>
    rw [firstMismatch_cons, List.forall_mem_cons]
    by_cases hmeets : Meets data req
    · rw [if_pos hmeets, ih]
      exact ⟨fun h => ⟨hmeets, h⟩, fun h => h.2⟩
    · rw [if_neg hmeets]
      exact ⟨fun h => absurd h (Option.some_ne_none _), fun h => absurd h.1 hmeets⟩

/-- **The walk refuses at the least unmet requirement**, with what it found there. -/
theorem firstMismatch_eq_some_iff {reqs : List (String × ValueKind)} {m : ParameterMismatch} :
    firstMismatch data reqs = some m ↔
      ∃ j, ∃ hj : j < reqs.length, (∀ i (hi : i < j), Meets data reqs[i]) ∧
        ¬Meets data reqs[j] ∧ m = mismatchAt data reqs[j] := by
  induction reqs with
  | nil => simp [firstMismatch]
  | cons req rest ih =>
    rw [firstMismatch_cons]
    by_cases hmeets : Meets data req
    · -- the head is met: the least unmet position is one of the rest's, shifted by one
      rw [if_pos hmeets, ih]
      constructor
      · rintro ⟨j, hj, hbefore, hat, rfl⟩
        refine ⟨j + 1, by simpa using hj, fun i hi => ?_, hat, rfl⟩
        cases i with
        | zero => exact hmeets
        | succ i => exact hbefore i (by omega)
      · rintro ⟨j, hj, hbefore, hat, rfl⟩
        cases j with
        | zero => exact absurd hmeets hat
        | succ j =>
          exact ⟨j, by simpa using hj, fun i hi => hbefore (i + 1) (by omega), hat, rfl⟩
    · -- the head is unmet: it is the least unmet position
      rw [if_neg hmeets, Option.some.injEq]
      constructor
      · rintro rfl
        exact ⟨0, by simp, fun i hi => absurd hi (Nat.not_lt_zero i), hmeets, rfl⟩
      · rintro ⟨j, hj, hbefore, hat, rfl⟩
        cases j with
        | zero => rfl
        | succ j => exact absurd (hbefore 0 (Nat.succ_pos j)) hmeets

/-- **Only the required keys are looked at**: data that agrees on them is walked alike. -/
theorem firstMismatch_congr {data' : Fields} {reqs : List (String × ValueKind)}
    (h : ∀ req ∈ reqs, data'.get? req.1 = data.get? req.1) :
    firstMismatch data' reqs = firstMismatch data reqs := by
  induction reqs with
  | nil => rfl
  | cons req rest ih =>
    obtain ⟨key, kind⟩ := req
    simp only [List.forall_mem_cons] at h
    simp only [firstMismatch, h.1, ih h.2]

end Walk

/-! ### Descriptors paired from two lists -/

/-- What validation against the descriptor paired from `keys` and `kinds` decides, position by
position. -/
structure ReportsFirstUnmet (keys : List String) (kinds : List ValueKind)
    (d : EndpointDescriptor) : Prop where
  /-- Data passes exactly when every key is present with a value of its kind. -/
  ok_iff : ∀ data, d.validate data = .ok () ↔
    ∀ i (hk : i < keys.length) (hd : i < kinds.length), foundKind data keys[i] = some kinds[i]
  /-- Otherwise the refusal names the least position whose requirement is unmet. -/
  error_iff : ∀ data m, d.validate data = .error m ↔
    ∃ j, ∃ (hk : j < keys.length) (hd : j < kinds.length),
      (∀ i (hik : i < keys.length) (hid : i < kinds.length), i < j →
        foundKind data keys[i] = some kinds[i]) ∧
      foundKind data keys[j] ≠ some kinds[j] ∧
      m = ⟨keys[j], kinds[j], foundKind data keys[j]⟩
  /-- Keys that are not required never change the verdict. -/
  ignores_others : ∀ data data', (∀ key ∈ keys, data'.get? key = data.get? key) →
    d.validate data' = d.validate data

theorem ofLists?_of_length_eq {keys : List String} {kinds : List ValueKind}
    (hlen : keys.length = kinds.length) : ofLists? keys kinds = some ⟨keys.zip kinds⟩ := by
  rw [ofLists?, if_pos hlen]

theorem validate_eq_ok_iff {reqs : List (String × ValueKind)} {data : Fields} :
    validate ⟨reqs⟩ data = .ok () ↔ firstMismatch data reqs = none := by
  unfold validate
  split <;> simp_all

theorem validate_eq_error_iff {reqs : List (String × ValueKind)} {data : Fields}
    {m : ParameterMismatch} :
    validate ⟨reqs⟩ data = .error m ↔ firstMismatch data reqs = some m := by
  unfold validate
  split <;> simp_all

/-- **Validation reports the first unmet requirement**: for a key list and a kind list of one
length, the descriptor they make passes exactly the data holding every key with a value of its
kind, refuses other data naming the least unmet position with the kind found there, and never
looks at keys it does not require. -/
theorem ofLists_reports_first_unmet (keys : List String) (kinds : List ValueKind)
    (hlen : keys.length = kinds.length) :
    ∃ d, ofLists? keys kinds = some d ∧ ReportsFirstUnmet keys kinds d := by
  refine ⟨⟨keys.zip kinds⟩, ofLists?_of_length_eq hlen, ?ok, ?error, ?others⟩
  case ok =>
    intro data
    rw [validate_eq_ok_iff, firstMismatch_eq_none_iff, List.forall_mem_iff_getElem]
    constructor
    · intro h i hk hd
      have hmeets := h i (by rw [List.length_zip, Nat.lt_min]; exact ⟨hk, hd⟩)
      rwa [Meets, List.getElem_zip] at hmeets
    · intro h i hi
      have hbounds : i < keys.length ∧ i < kinds.length := by
        rwa [List.length_zip, Nat.lt_min] at hi
      simpa [Meets, List.getElem_zip] using h i hbounds.1 hbounds.2
  case error =>
    intro data m
    rw [validate_eq_error_iff, firstMismatch_eq_some_iff]
    constructor
    · rintro ⟨j, hj, hbefore, hat, rfl⟩
      have hbounds : j < keys.length ∧ j < kinds.length := by
        rwa [List.length_zip, Nat.lt_min] at hj
      refine ⟨j, hbounds.1, hbounds.2, fun i hik hid hij => ?_, ?_, ?_⟩
      · simpa [Meets, List.getElem_zip] using hbefore i hij
      · simpa [Meets, List.getElem_zip] using hat
      · simp [mismatchAt, List.getElem_zip]
    · rintro ⟨j, hk, hd, hbefore, hat, rfl⟩
      have hj : j < (keys.zip kinds).length := by
        rw [List.length_zip, Nat.lt_min]
        exact ⟨hk, hd⟩
      refine ⟨j, hj, fun i hi => ?_, ?_, ?_⟩
      · simpa [Meets, List.getElem_zip] using hbefore i (by omega) (by omega) hi
      · simpa [Meets, List.getElem_zip] using hat
      · simp [mismatchAt, List.getElem_zip]
  case others =>
    intro data data' h
    rw [validate, validate, firstMismatch_congr]
    intro req hreq
    exact h _ (List.of_mem_zip hreq).1

/-- The descriptor of a name and a hidden flag. -/
theorem ofLists_reports_first_unmet_name_hidden :
    ["name", "hidden"].length = [ValueKind.string, .boolean].length ∧
      ∃ d, ofLists? ["name", "hidden"] [.string, .boolean] = some d ∧
        ReportsFirstUnmet ["name", "hidden"] [.string, .boolean] d :=
  ⟨rfl, ofLists_reports_first_unmet _ _ rfl⟩

/- A name that is a number is refused, with the kind found; a flag that is absent is not
reached. -/
example :
    validate ⟨[("name", .string), ("hidden", .boolean)]⟩ [("name", .number (.posInt 5))] =
      .error ⟨"name", .string, some .integer⟩ := by
  decide

end EndpointDescriptor

end HubService.Registry
