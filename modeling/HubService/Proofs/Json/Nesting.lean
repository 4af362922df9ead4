import HubService.Proofs.Json.Reread

/-!
# The reader refuses text nested to its limit

The reader counts open brackets on the path it is reading and refuses the bracket that brings
the count to `HubService.Json.nestingLimit`. Of the compact text of an exact value it therefore
refuses exactly the values nested that deep or deeper: `HubService.Json.parse_compact_deep`
says it refuses them, `HubService.Json.parse_compact` that it reads all the others back, and
`HubService.Json.parse_compact_isOk` puts the two together.

The proof runs along the text as `HubService.Json.value_compact` does. Of the items of an array
(or the values of an object) those that stay below the room left are read back whole, and the
first one that does not is refused, one bracket deeper each time, until the room runs out at an
open bracket.
-/

namespace HubService.Json

section Nesting

variable {src : ByteArray}

/-! ### The bracket at the limit -/

theorem value_array_refused {fuel room j : Nat} (h : Holds src j [91]) (hr : room ≤ 1) :
    value src (fuel + 1) room j = .error (.past src .recursionLimit j) := by
  rw [value, skipBlanks_of_holds h rfl, (holds_cons.mp h).1]
  simp only [if_pos hr]

theorem value_object_refused {fuel room j : Nat} (h : Holds src j [123]) (hr : room ≤ 1) :
    value src (fuel + 1) room j = .error (.past src .recursionLimit j) := by
  rw [value, skipBlanks_of_holds h rfl, (holds_cons.mp h).1]
  simp only [if_pos hr]

/-! ### Refusing a value nested too deep -/

mutual

/-- **The reader refuses the compact text of an exact value nested as deep as the room it has
left**, or deeper. -/
theorem value_deep (v : Value) (fuel room i : Nat) (hx : v.isExact = true) (hpos : 0 < room)
    (hr : room ≤ v.depth) (hf : v.compact.toUTF8.data.toList.length < fuel)
    (h : Holds src i v.compact.toUTF8.data.toList) :
    ∃ e, value src fuel room i = .error e := by
  obtain ⟨fuel, rfl⟩ : ∃ g, fuel = g + 1 := ⟨fuel - 1, by omega⟩
  cases v with
  | array items =>
    rw [compact_array] at h hf
    simp only [List.length_cons] at hf
    by_cases hroom : room ≤ 1
    · exact ⟨_, value_array_refused h.head hroom⟩
    have hrs : room - 1 ≤ itemsDepth items := by
      simp only [Value.depth] at hr
      omega
    obtain ⟨e, he⟩ := items_deep items fuel (room - 1) (i + 1) hx (by omega) hrs (by omega)
      (holds_cons.mp h).2
    rw [value_array h.head (by omega), he]
    exact ⟨e, rfl⟩
  | object fields =>
    rw [compact_object] at h hf
    simp only [List.length_cons] at hf
    by_cases hroom : room ≤ 1
    · exact ⟨_, value_object_refused h.head hroom⟩
    have hrs : room - 1 ≤ fieldsDepth fields := by
      simp only [Value.depth] at hr
      omega
    have hxs : fieldsExact fields = true := by
      simp only [Value.isExact, Bool.and_eq_true] at hx
      exact hx.2
    obtain ⟨e, he⟩ := fields_deep fields fuel (room - 1) (i + 1) hxs (by omega) hrs (by omega)
      (holds_cons.mp h).2
    rw [value_object h.head (by omega), he]
    exact ⟨e, rfl⟩
  -- a scalar has no depth, and the room is never empty
  | null | bool _ | number _ | string _ =>
    simp only [Value.depth] at hr
    omega

/-- The items of an array nested too deep, read from just past its open bracket. -/
theorem items_deep (vs : List Value) (fuel room j : Nat) (hx : itemsExact vs = true)
    (hpos : 0 < room) (hr : room ≤ itemsDepth vs)
    (hf : (itemsText vs ++ "]").toUTF8.data.toList.length < fuel)
    (h : Holds src j (itemsText vs ++ "]").toUTF8.data.toList) :
    ∃ e, items src fuel room j true [] = .error e := by
  obtain ⟨fuel, rfl⟩ : ∃ g, fuel = g + 1 := ⟨fuel - 1, by omega⟩
  cases vs with
  | nil =>
    simp only [itemsDepth] at hr
    omega
  | cons w vs =>
    have hxw : w.isExact = true ∧ itemsExact vs = true := by
      simpa only [itemsExact, Bool.and_eq_true] using hx
    rw [itemsClose_cons] at h hf
    simp only [List.length_append] at hf
    obtain ⟨hw, hvs⟩ := holds_append.mp h
    obtain ⟨b, bs, hbs, nb, h93⟩ := compact_head w hxw.1
    have hvspos := itemsRest_length_pos vs
    have hfirst : src[j]? = some b := (holds_cons.mp (hbs ▸ hw : Holds src j (b :: bs))).1
    by_cases hdeep : room ≤ w.depth
    · -- the first item is too deep itself
      obtain ⟨e, he⟩ := value_deep w fuel room j hxw.1 hpos hdeep (by omega) hw
      refine ⟨e, ?_⟩
      rw [items_first hfirst nb h93, he]
      rfl
    · -- the first item reads back, and a later one is too deep
      have hrs : room ≤ itemsDepth vs := by
        simp only [itemsDepth] at hr
        omega
      have hwpos := compact_length_pos hxw.1
      obtain ⟨e, he⟩ := itemsRest_deep vs fuel room _ [w] hxw.2 hpos hrs (by omega) hvs
      refine ⟨e, ?_⟩
      rw [items_first hfirst nb h93,
        value_compact w fuel room j hxw.1 (by omega) (by omega) hw (delimited_itemsRest hvs)]
      exact he

/-- The items of an array nested too deep after one of them, read from just past it. -/
theorem itemsRest_deep (vs : List Value) (fuel room j : Nat) (acc : List Value)
    (hx : itemsExact vs = true) (hpos : 0 < room) (hr : room ≤ itemsDepth vs)
    (hf : (itemsRest vs).toUTF8.data.toList.length < fuel)
    (h : Holds src j (itemsRest vs).toUTF8.data.toList) :
    ∃ e, items src fuel room j false acc = .error e := by
  obtain ⟨fuel, rfl⟩ : ∃ g, fuel = g + 1 := ⟨fuel - 1, by omega⟩
  cases vs with
  | nil =>
    simp only [itemsDepth] at hr
    omega
  | cons w vs =>
    have hxw : w.isExact = true ∧ itemsExact vs = true := by
      simpa only [itemsExact, Bool.and_eq_true] using hx
    rw [itemsRest_cons] at h hf
    simp only [List.length_cons, List.length_append] at hf
    obtain ⟨hcomma, hrest⟩ := holds_cons.mp h
    obtain ⟨hw, hvs⟩ := holds_append.mp hrest
    obtain ⟨b, bs, hbs, nb, h93⟩ := compact_head w hxw.1
    have hvspos := itemsRest_length_pos vs
    have hpair : Holds src j [44, b] :=
      holds_cons.mpr ⟨hcomma, (hbs ▸ hw : Holds src (j + 1) (b :: bs)).head⟩
    by_cases hdeep : room ≤ w.depth
    · obtain ⟨e, he⟩ := value_deep w fuel room (j + 1) hxw.1 hpos hdeep (by omega) hw
      refine ⟨e, ?_⟩
      rw [items_next hpair nb h93, he]
      rfl
    · have hrs : room ≤ itemsDepth vs := by
        simp only [itemsDepth] at hr
        omega
      have hwpos := compact_length_pos hxw.1
      obtain ⟨e, he⟩ := itemsRest_deep vs fuel room _ (w :: acc) hxw.2 hpos hrs (by omega) hvs
      refine ⟨e, ?_⟩
      rw [items_next hpair nb h93,
        value_compact w fuel room (j + 1) hxw.1 (by omega) (by omega) hw (delimited_itemsRest hvs)]
      exact he

/-- The fields of an object nested too deep, read from just past its open brace. -/
theorem fields_deep (fs : Fields) (fuel room j : Nat) (hx : fieldsExact fs = true)
    (hpos : 0 < room) (hr : room ≤ fieldsDepth fs)
    (hf : (fieldsText fs ++ "\x7d").toUTF8.data.toList.length < fuel)
    (h : Holds src j (fieldsText fs ++ "\x7d").toUTF8.data.toList) :
    ∃ e, fields src fuel room j true [] = .error e := by
  obtain ⟨fuel, rfl⟩ : ∃ g, fuel = g + 1 := ⟨fuel - 1, by omega⟩
  cases fs with
  | nil =>
    simp only [fieldsDepth] at hr
    omega
  | cons f fs =>
    obtain ⟨k, w⟩ := f
    have hxw : w.isExact = true ∧ fieldsExact fs = true := by
      simpa only [fieldsExact, Bool.and_eq_true] using hx
    rw [fieldsClose_cons] at h hf
    simp only [List.length_append, List.length_cons, List.length_nil] at hf
    obtain ⟨hkw, hfs⟩ := holds_append.mp h
    obtain ⟨hkey, hw⟩ := holds_append.mp hkw
    simp only [List.length_append, List.length_singleton, ← Nat.add_assoc] at hw hfs
    have hfspos := fieldsRest_length_pos fs
    by_cases hdeep : room ≤ w.depth
    · obtain ⟨e, he⟩ := value_deep w fuel room _ hxw.1 hpos hdeep (by omega) hw
      refine ⟨e, ?_⟩
      rw [fields_first hkey, he]
      rfl
    · have hrs : room ≤ fieldsDepth fs := by
        simp only [fieldsDepth] at hr
        omega
      have hwpos := compact_length_pos hxw.1
      obtain ⟨e, he⟩ := fieldsRest_deep fs fuel room _ (Fields.insert k w []) hxw.2 hpos hrs
        (by omega) hfs
      refine ⟨e, ?_⟩
      rw [fields_first hkey,
        value_compact w fuel room _ hxw.1 (by omega) (by omega) hw (delimited_fieldsRest hfs)]
      exact he

/-- The fields of an object nested too deep after one of them, read from just past it. -/
theorem fieldsRest_deep (fs : Fields) (fuel room j : Nat) (acc : Fields)
    (hx : fieldsExact fs = true) (hpos : 0 < room) (hr : room ≤ fieldsDepth fs)
    (hf : (fieldsRest fs).toUTF8.data.toList.length < fuel)
    (h : Holds src j (fieldsRest fs).toUTF8.data.toList) :
    ∃ e, fields src fuel room j false acc = .error e := by
  obtain ⟨fuel, rfl⟩ : ∃ g, fuel = g + 1 := ⟨fuel - 1, by omega⟩
  cases fs with
  | nil =>
    simp only [fieldsDepth] at hr
    omega
  | cons f fs =>
    obtain ⟨k, w⟩ := f
    have hxw : w.isExact = true ∧ fieldsExact fs = true := by
      simpa only [fieldsExact, Bool.and_eq_true] using hx
    rw [fieldsRest_cons] at h hf
    simp only [List.length_cons, List.length_append, List.length_nil] at hf
    obtain ⟨hcomma, hrest⟩ := holds_cons.mp h
    obtain ⟨hkw, hfs⟩ := holds_append.mp hrest
    obtain ⟨hkey, hw⟩ := holds_append.mp hkw
    simp only [List.length_append, List.length_singleton, ← Nat.add_assoc] at hw hfs
    have hfspos := fieldsRest_length_pos fs
    by_cases hdeep : room ≤ w.depth
    · obtain ⟨e, he⟩ := value_deep w fuel room _ hxw.1 hpos hdeep (by omega) hw
      refine ⟨e, ?_⟩
      rw [fields_next (holds_cons.mpr ⟨hcomma, hkey⟩), he]
      rfl
    · have hrs : room ≤ fieldsDepth fs := by
        simp only [fieldsDepth] at hr
        omega
      have hwpos := compact_length_pos hxw.1
      obtain ⟨e, he⟩ := fieldsRest_deep fs fuel room _ (Fields.insert k w acc) hxw.2 hpos hrs
        (by omega) hfs
      refine ⟨e, ?_⟩
      rw [fields_next (holds_cons.mpr ⟨hcomma, hkey⟩),
        value_compact w fuel room _ hxw.1 (by omega) (by omega) hw (delimited_fieldsRest hfs)]
      exact he

end

end Nesting

/-! ### Whole texts -/

/-- **The reader refuses the compact text of an exact value nested to its limit.** -/
theorem parse_compact_deep (v : Value) (hx : v.isExact = true) (hr : nestingLimit ≤ v.depth) :
    ∃ e, parse v.compact.toUTF8 = .error e := by
  obtain ⟨e, he⟩ := value_deep v (2 * v.compact.toUTF8.size + 2) nestingLimit 0 hx (by decide) hr
    (by rw [length_toList_toUTF8]; omega) (holds_toUTF8 _)
  exact ⟨e, by rw [parse, he]⟩

/-- **The compact text of an exact value reads back exactly when the value nests below the
reader's limit.** -/
theorem parse_compact_iff (v : Value) (hx : v.isExact = true) :
    parse v.compact.toUTF8 = .ok v ↔ v.depth < nestingLimit := by
  constructor
  · intro hok
    by_contra hdeep
    obtain ⟨e, he⟩ := parse_compact_deep v hx (Nat.le_of_not_lt hdeep)
    rw [hok] at he
    cases he
  · exact parse_compact v hx

/-- The reader refuses an object, written in any order of its keys, that nests to its limit. -/
theorem parse_object_deep (fs : Fields) (hx : fieldsExact fs = true)
    (hr : nestingLimit ≤ fieldsDepth fs + 1) :
    ∃ e, parse (Value.object fs).compact.toUTF8 = .error e := by
  have h := holds_toUTF8 (Value.object fs).compact
  have hlen := length_toList_toUTF8 (Value.object fs).compact
  rw [compact_object] at h hlen
  simp only [List.length_cons] at hlen
  obtain ⟨g, hg⟩ : ∃ g, 2 * (Value.object fs).compact.toUTF8.size + 2 = g + 1 := ⟨_, rfl⟩
  obtain ⟨e, he⟩ := fields_deep fs g (nestingLimit - 1) 1 hx (by decide) (by omega) (by omega)
    (holds_cons.mp h).2
  refine ⟨e, ?_⟩
  rw [parse, hg, value_object h.head (by decide), he]
  rfl

end HubService.Json
