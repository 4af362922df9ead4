import HubService.Proofs.Json.Tokens

/-!
# Compact JSON text reads back

The reader returns every value from the text the printer writes for it
(`HubService.Json.parse_compact`), provided the value is *exact* and does not nest too deep.
Exact (`HubService.Json.Value.isExact`) leaves out what the two sides do not agree on exactly:
a double, whose text is the shortest decimal that reads back to it, a negative integer that is
not below zero, and an object whose keys are not strictly increasing, since the reader keeps the
fields of an object sorted by key. Depth (`HubService.Json.Value.depth`) counts the brackets on
the deepest path; the reader refuses the one that reaches `HubService.Json.nestingLimit`.

The proof follows the reader. One lemma covers each step it takes at an open bracket, an item, a
comma, a key and a closing bracket. One mutual induction then runs over the value, the items of
an array and the fields of an object, with the fuel bounded by the length of the text still to
read. An object written in any order of keys is read as the object
`HubService.Json.Fields.ofList` builds from its fields (`HubService.Json.parse_object_compact`):
the frames a service writes need this, since their fields come in a fixed order that is not the
order of their keys.
-/

namespace HubService.Json

mutual
/-- How deep brackets nest in a value: none for a scalar, one more than the deepest item or
field for an array or an object. -/
def Value.depth : Value → Nat
  | .array items => itemsDepth items + 1
  | .object fields => fieldsDepth fields + 1
  | _ => 0
/-- The deepest nesting among items. -/
def itemsDepth : List Value → Nat
  | [] => 0
  | v :: rest => max v.depth (itemsDepth rest)
/-- The deepest nesting among the values of fields. -/
def fieldsDepth : List (String × Value) → Nat
  | [] => 0
  | (_, v) :: rest => max v.depth (fieldsDepth rest)
end

mutual
/-- **A value its compact text gives back exactly**: no double anywhere, every negative integer
below zero, and the keys of every object strictly increasing. -/
def Value.isExact : Value → Bool
  | .number (.negInt n) => decide (n.toInt < 0)
  | .number (.float _) => false
  | .array items => itemsExact items
  | .object fields => decide ((fields.map Prod.fst).Pairwise (· < ·)) && fieldsExact fields
  | _ => true
/-- Every item is exact. -/
def itemsExact : List Value → Bool
  | [] => true
  | v :: rest => v.isExact && itemsExact rest
/-- The value of every field is exact. -/
def fieldsExact : List (String × Value) → Bool
  | [] => true
  | (_, v) :: rest => v.isExact && fieldsExact rest
end

/-! ### The compact text, piece by piece -/

theorem itemsText_cons (v : Value) (rest : List Value) :
    itemsText (v :: rest) = v.compact ++ String.join (rest.map fun w => "," ++ w.compact) := by
  induction rest generalizing v with
  | nil => simp [itemsText]
  | cons w rest ih => simp [itemsText, ih, String.append_assoc]

theorem fieldsText_cons (k : String) (v : Value) (rest : List (String × Value)) :
    fieldsText ((k, v) :: rest) =
      quote k ++ ":" ++ v.compact ++
        String.join (rest.map fun f => "," ++ quote f.1 ++ ":" ++ f.2.compact) := by
  induction rest generalizing k v with
  | nil => simp [fieldsText]
  | cons f rest ih =>
    obtain ⟨k', v'⟩ := f
    simp [fieldsText, ih, String.append_assoc]

/-- The text of an array after its first item: each further item after a comma, then the
closing bracket. -/
def itemsRest (vs : List Value) : String := String.join (vs.map fun w => "," ++ w.compact) ++ "]"

/-- The text of an object after its first field: each further field after a comma, then the
closing brace. -/
def fieldsRest (fs : Fields) : String :=
  String.join (fs.map fun f => "," ++ quote f.1 ++ ":" ++ f.2.compact) ++ "\x7d"

theorem itemsRest_nil : (itemsRest []).toUTF8.data.toList = [93] := rfl

theorem itemsRest_cons (w : Value) (vs : List Value) :
    (itemsRest (w :: vs)).toUTF8.data.toList =
      44 :: (w.compact.toUTF8.data.toList ++ (itemsRest vs).toUTF8.data.toList) := by
  simp only [itemsRest, List.map_cons, String.join_cons, toUTF8_append_toList, List.append_assoc]
  rfl

theorem fieldsRest_nil : (fieldsRest []).toUTF8.data.toList = [125] := rfl

theorem fieldsRest_cons (k : String) (w : Value) (fs : Fields) :
    (fieldsRest ((k, w) :: fs)).toUTF8.data.toList =
      44 :: ((quote k).toUTF8.data.toList ++ [58] ++ w.compact.toUTF8.data.toList ++
        (fieldsRest fs).toUTF8.data.toList) := by
  simp only [fieldsRest, List.map_cons, String.join_cons, toUTF8_append_toList, List.append_assoc]
  rfl

theorem itemsClose_nil : (itemsText [] ++ "]").toUTF8.data.toList = [93] := rfl

theorem itemsClose_cons (w : Value) (vs : List Value) :
    (itemsText (w :: vs) ++ "]").toUTF8.data.toList =
      w.compact.toUTF8.data.toList ++ (itemsRest vs).toUTF8.data.toList := by
  simp only [itemsText_cons, itemsRest, toUTF8_append_toList, List.append_assoc]

theorem fieldsClose_nil : (fieldsText [] ++ "\x7d").toUTF8.data.toList = [125] := rfl

theorem fieldsClose_cons (k : String) (w : Value) (fs : Fields) :
    (fieldsText ((k, w) :: fs) ++ "\x7d").toUTF8.data.toList =
      (quote k).toUTF8.data.toList ++ [58] ++ w.compact.toUTF8.data.toList ++
        (fieldsRest fs).toUTF8.data.toList := by
  simp only [fieldsText_cons, fieldsRest, toUTF8_append_toList, List.append_assoc]
  rfl

theorem compact_array (vs : List Value) :
    (Value.array vs).compact.toUTF8.data.toList = 91 :: (itemsText vs ++ "]").toUTF8.data.toList := by
  simp only [Value.compact, toUTF8_append_toList, List.append_assoc]
  rfl

theorem compact_object (fs : Fields) :
    (Value.object fs).compact.toUTF8.data.toList =
      123 :: (fieldsText fs ++ "\x7d").toUTF8.data.toList := by
  simp only [Value.compact, toUTF8_append_toList, List.append_assoc]
  rfl

/-! ### Scalars -/

theorem quote_toList (t : String) : (quote t).toUTF8.data.toList =
    34 :: ((String.join (t.toList.map escapeChar)).toUTF8.data.toList ++ [34]) := by
  simp only [quote, toUTF8_append_toList]
  rfl

theorem isBlank_of_isDigit (b : UInt8) (h : isDigit b = true) : isBlank b = false := by
  simp only [isDigit, Bool.and_eq_true, decide_eq_true_eq, UInt8.le_iff_toNat_le,
    UInt8.reduceToNat] at h
  simp only [isBlank, Bool.or_eq_false_iff, beq_eq_false_iff_ne, ne_eq, ← UInt8.toNat_inj,
    UInt8.reduceToNat]
  omega

theorem ne_93_of_isDigit {b : UInt8} (h : isDigit b = true) : b ≠ 93 := by
  rintro rfl
  exact absurd h (by decide)

/-- **The compact text of an exact value starts with a byte that is not a blank**, nor the
closing bracket of an array. -/
theorem compact_head (v : Value) (hx : v.isExact = true) :
    ∃ b bs, v.compact.toUTF8.data.toList = b :: bs ∧ isBlank b = false ∧ b ≠ 93 := by
  cases v with
  | null => exact ⟨110, _, rfl, rfl, by decide⟩
  | bool b =>
    cases b with
    | true => exact ⟨116, _, rfl, rfl, by decide⟩
    | false => exact ⟨102, _, rfl, rfl, by decide⟩
  | number n =>
    cases n with
    | posInt n =>
      obtain ⟨d, rest, hds⟩ := List.exists_cons_of_ne_nil (Nat.toDigits_ne_nil : Nat.toDigits 10 n.toNat ≠ [])
      have hdigit : isDigit (UInt8.ofNat d.toNat) = true :=
        isDigit_ofNat (isDigit_of_toDigits (hds ▸ List.mem_cons_self))
      refine ⟨_, rest.map fun c => UInt8.ofNat c.toNat, ?_, isBlank_of_isDigit _ hdigit,
        ne_93_of_isDigit hdigit⟩
      show (Number.posInt n).text.toUTF8.data.toList = _
      rw [Number.text, toUTF8_toString_nat, hds, List.map_cons]
    | negInt n =>
      obtain ⟨k, -, htext⟩ := negInt_text (of_decide_eq_true hx : n.toInt < 0)
      exact ⟨45, _, htext, rfl, by decide⟩
    | float bits => cases hx
  | string t => exact ⟨34, _, quote_toList t, rfl, by decide⟩
  | array items => exact ⟨91, _, compact_array items, rfl, by decide⟩
  | object fields => exact ⟨123, _, compact_object fields, rfl, by decide⟩

section Scalars

variable {src : ByteArray} {fuel room i : Nat}

theorem value_null (h : Holds src i (Value.null.compact.toUTF8.data.toList)) :
    value src (fuel + 1) room i = .ok (.null, i + Value.null.compact.toUTF8.data.toList.length) := by
  have h' : Holds src i [110, 117, 108, 108] := h
  obtain ⟨hc, hrest⟩ := holds_cons.mp h'
  rw [value, skipBlanks_of_holds h' rfl, hc]
  simp only [literal_of_holds hrest]
  rfl

theorem value_bool (b : Bool) (h : Holds src i ((Value.bool b).compact.toUTF8.data.toList)) :
    value src (fuel + 1) room i =
      .ok (.bool b, i + (Value.bool b).compact.toUTF8.data.toList.length) := by
  cases b with
  | true =>
    have h' : Holds src i [116, 114, 117, 101] := h
    obtain ⟨hc, hrest⟩ := holds_cons.mp h'
    rw [value, skipBlanks_of_holds h' rfl, hc]
    simp only [literal_of_holds hrest]
    rfl
  | false =>
    have h' : Holds src i [102, 97, 108, 115, 101] := h
    obtain ⟨hc, hrest⟩ := holds_cons.mp h'
    rw [value, skipBlanks_of_holds h' rfl, hc]
    simp only [literal_of_holds hrest]
    rfl

theorem value_string (t : String) (h : Holds src i ((Value.string t).compact.toUTF8.data.toList)) :
    value src (fuel + 1) room i =
      .ok (.string t, i + (Value.string t).compact.toUTF8.data.toList.length) := by
  have h' : Holds src i (quote t).toUTF8.data.toList := h
  rw [quote_toList] at h'
  rw [value, skipBlanks_of_holds h' rfl, (holds_cons.mp h').1]
  simp only [Value.compact, string_quote t h]
  rfl

/-- A value that starts with a digit is a number. -/
theorem value_of_digit {b : UInt8} (hb : src[i]? = some b) (hd : isDigit b = true) :
    value src (fuel + 1) room i = (number src true i).map fun (n, k) => (.number n, k) := by
  have hs : skipBlanks src i = i :=
    skipBlanks_of_holds (holds_cons.mpr ⟨hb, holds_nil src (i + 1)⟩) (isBlank_of_isDigit b hd)
  rw [value, hs, hb]
  -- a byte that opens a literal, a string, a negative number or a bracket is not a digit
  split <;> rename_i heq <;> cases heq
  all_goals first
    | exact absurd hd (by decide)
    | rw [if_pos hd]

theorem value_posInt (n : UInt64) (h : Holds src i (Value.number (.posInt n)).compact.toUTF8.data.toList)
    (hd : Delimited src (i + (Value.number (.posInt n)).compact.toUTF8.data.toList.length)) :
    value src (fuel + 1) room i =
      .ok (.number (.posInt n), i + (Value.number (.posInt n)).compact.toUTF8.data.toList.length) := by
  have h' : Holds src i (Number.posInt n).text.toUTF8.data.toList := h
  -- the first byte is the leading decimal digit
  obtain ⟨d, rest, hds⟩ := List.exists_cons_of_ne_nil (Nat.toDigits_ne_nil : Nat.toDigits 10 n.toNat ≠ [])
  have hfirst : src[i]? = some (UInt8.ofNat d.toNat) := by
    rw [Number.text, toUTF8_toString_nat, hds, List.map_cons] at h'
    exact (holds_cons.mp h').1
  have hdigit : isDigit (UInt8.ofNat d.toNat) = true :=
    isDigit_ofNat (isDigit_of_toDigits (hds ▸ List.mem_cons_self))
  rw [value_of_digit hfirst hdigit, number_posInt n h' hd]
  rfl

theorem value_negInt (n : Int64) (hn : n.toInt < 0)
    (h : Holds src i (Value.number (.negInt n)).compact.toUTF8.data.toList)
    (hd : Delimited src (i + (Value.number (.negInt n)).compact.toUTF8.data.toList.length)) :
    value src (fuel + 1) room i =
      .ok (.number (.negInt n), i + (Value.number (.negInt n)).compact.toUTF8.data.toList.length) := by
  obtain ⟨hminus, hnum⟩ := number_negInt n hn h hd
  have hs : skipBlanks src i = i := skipBlanks_of_holds (holds_cons.mpr ⟨hminus, holds_nil src (i + 1)⟩) rfl
  rw [value, hs, hminus]
  simp only [hnum]
  rfl

end Scalars

section Steps
variable {src : ByteArray} {fuel room j : Nat}

/-! One step of the reader inside an array or an object. -/

theorem value_array (h : Holds src j [91]) (hr : 1 < room) :
    value src (fuel + 1) room j =
      (items src fuel (room - 1) (j + 1) true []).map fun (xs, k) => (.array xs, k) := by
  rw [value, skipBlanks_of_holds h rfl, (holds_cons.mp h).1]
  simp only [if_neg (Nat.not_le.mpr hr)]

theorem value_object (h : Holds src j [123]) (hr : 1 < room) :
    value src (fuel + 1) room j =
      (fields src fuel (room - 1) (j + 1) true []).map fun (fs, k) => (.object fs, k) := by
  rw [value, skipBlanks_of_holds h rfl, (holds_cons.mp h).1]
  simp only [if_neg (Nat.not_le.mpr hr)]

theorem items_close {first : Bool} {acc : List Value} (h : Holds src j [93]) :
    items src (fuel + 1) room j first acc = .ok (acc.reverse, j + 1) := by
  rw [items, skipBlanks_of_holds h rfl, (holds_cons.mp h).1]
  rfl

theorem fields_close {first : Bool} {acc : Fields} (h : Holds src j [125]) :
    fields src (fuel + 1) room j first acc = .ok (acc, j + 1) := by
  rw [fields, skipBlanks_of_holds h rfl, (holds_cons.mp h).1]
  rfl

theorem items_first {b : UInt8} {acc : List Value} (hb : src[j]? = some b)
    (nb : isBlank b = false) (h93 : b ≠ 93) :
    items src (fuel + 1) room j true acc =
      (value src fuel room j).bind fun r => items src fuel room r.2 false (r.1 :: acc) := by
  rw [items, skipBlanks_of_holds (holds_cons.mpr ⟨hb, holds_nil src (j + 1)⟩) nb, hb]
  split <;> rename_i heq <;> cases heq
  · exact absurd rfl h93
  · rw [if_pos rfl]
    cases value src fuel room j <;> rfl

theorem items_next {b : UInt8} {acc : List Value} (h : Holds src j [44, b])
    (nb : isBlank b = false) (h93 : b ≠ 93) :
    items src (fuel + 1) room j false acc =
      (value src fuel room (j + 1)).bind fun r => items src fuel room r.2 false (r.1 :: acc) := by
  obtain ⟨h44, hb⟩ := holds_cons.mp h
  rw [items, skipBlanks_of_holds h rfl, h44]
  simp only [Bool.false_eq_true, if_false]
  rw [skipBlanks_of_holds hb nb, (holds_cons.mp hb).1]
  split <;> rename_i heq
  · cases heq
  · exact absurd heq (by decide)
  · cases heq
    simp only [beq_self_eq_true, if_true]
    cases value src fuel room (j + 1) <;> rfl

theorem fields_first {key : String} {acc : Fields}
    (h : Holds src j ((quote key).toUTF8.data.toList ++ [58])) :
    fields src (fuel + 1) room j true acc =
      (value src fuel room (j + (quote key).toUTF8.data.toList.length + 1)).bind
        fun r => fields src fuel room r.2 false (Fields.insert key r.1 acc) := by
  obtain ⟨hq, hcolon⟩ := holds_append.mp h
  have hopen := hq
  rw [quote_toList] at hopen
  rw [fields, skipBlanks_of_holds hopen rfl, (holds_cons.mp hopen).1]
  split <;> rename_i heq
  · cases heq
  · exact absurd heq (by decide)
  · cases heq
    simp only [beq_self_eq_true, if_true]
    rw [string_quote key hq]
    simp only
    rw [skipBlanks_of_holds hcolon rfl, (holds_cons.mp hcolon).1]
    simp only
    cases value src fuel room _ <;> rfl

theorem fields_next {key : String} {acc : Fields}
    (h : Holds src j (44 :: ((quote key).toUTF8.data.toList ++ [58]))) :
    fields src (fuel + 1) room j false acc =
      (value src fuel room (j + 1 + (quote key).toUTF8.data.toList.length + 1)).bind
        fun r => fields src fuel room r.2 false (Fields.insert key r.1 acc) := by
  obtain ⟨h44, hrest⟩ := holds_cons.mp h
  obtain ⟨hq, hcolon⟩ := holds_append.mp hrest
  have hopen := hq
  rw [quote_toList] at hopen
  rw [fields, skipBlanks_of_holds h rfl, h44]
  split <;> rename_i heq
  · cases heq
  · exact absurd heq (by decide)
  · cases heq
    simp only [Bool.false_eq_true, if_false, beq_self_eq_true, if_true]
    rw [skipBlanks_of_holds hopen rfl, (holds_cons.mp hopen).1]
    simp only
    rw [string_quote key hq]
    simp only
    rw [skipBlanks_of_holds hcolon rfl, (holds_cons.mp hcolon).1]
    simp only
    cases value src fuel room _ <;> rfl

end Steps

/-! ### Fields already in order -/

theorem insert_of_lt {key : String} {v : Value} {acc : Fields}
    (hk : ∀ k ∈ acc.map Prod.fst, k < key) : Fields.insert key v acc = acc ++ [(key, v)] := by
  induction acc with
  | nil => rfl
  | cons f acc ih =>
    obtain ⟨k, w⟩ := f
    have hlt : k < key := hk k List.mem_cons_self
    rw [Fields.insert, if_neg (ne_of_gt hlt), if_neg (lt_asymm hlt),
      ih fun k' hk' => hk k' (List.mem_cons_of_mem _ hk')]
    rfl

/-- Inserting fields whose keys come in increasing order, after fields whose keys are smaller,
appends them. -/
theorem foldl_insert_of_sorted (fs : Fields) {acc : Fields}
    (h : ((acc ++ fs).map Prod.fst).Pairwise (· < ·)) :
    fs.foldl (fun a f => Fields.insert f.1 f.2 a) acc = acc ++ fs := by
  induction fs generalizing acc with
  | nil => simp
  | cons f fs ih =>
    have hlt : ∀ k ∈ acc.map Prod.fst, k < f.1 := by
      rw [List.map_append, List.pairwise_append] at h
      exact fun k hk => h.2.2 k hk f.1 (List.mem_map_of_mem List.mem_cons_self)
    rw [List.foldl_cons, insert_of_lt hlt, ih (by simpa using h)]
    simp

/-- **Fields in increasing order of key are kept as they are.** -/
theorem ofList_of_sorted (fs : Fields) (h : (fs.map Prod.fst).Pairwise (· < ·)) :
    Fields.ofList fs = fs :=
  foldl_insert_of_sorted fs (by simpa using h)

/-! ### Reading back a whole value -/

section Reread
variable {src : ByteArray}

theorem delimited_itemsRest {vs : List Value} {j : Nat} (h : Holds src j (itemsRest vs).toUTF8.data.toList) :
    Delimited src j := by
  cases vs with
  | nil =>
    rw [itemsRest_nil] at h
    exact Or.inr (Or.inr (Or.inl (holds_cons.mp h).1))
  | cons w vs =>
    rw [itemsRest_cons] at h
    exact Or.inr (Or.inl (holds_cons.mp h).1)

theorem delimited_fieldsRest {fs : Fields} {j : Nat} (h : Holds src j (fieldsRest fs).toUTF8.data.toList) :
    Delimited src j := by
  cases fs with
  | nil =>
    rw [fieldsRest_nil] at h
    exact Or.inr (Or.inr (Or.inr (holds_cons.mp h).1))
  | cons f fs =>
    obtain ⟨k, w⟩ := f
    rw [fieldsRest_cons] at h
    exact Or.inr (Or.inl (holds_cons.mp h).1)

theorem itemsRest_length_pos (vs : List Value) : 0 < (itemsRest vs).toUTF8.data.toList.length := by
  cases vs with
  | nil => rw [itemsRest_nil]; decide
  | cons w vs => rw [itemsRest_cons]; exact Nat.succ_pos _

theorem fieldsRest_length_pos (fs : Fields) : 0 < (fieldsRest fs).toUTF8.data.toList.length := by
  cases fs with
  | nil => rw [fieldsRest_nil]; decide
  | cons f fs => obtain ⟨k, w⟩ := f; rw [fieldsRest_cons]; exact Nat.succ_pos _

theorem compact_length_pos {v : Value} (hx : v.isExact = true) : 0 < v.compact.toUTF8.data.toList.length := by
  obtain ⟨b, bs, hbs, -⟩ := compact_head v hx
  rw [hbs]
  exact Nat.succ_pos _

mutual

/-- **The compact text of an exact value is read back as that value**, given more fuel than the
text has bytes and more room than the value has depth, whatever delimiter follows it. -/
theorem value_compact (v : Value) (fuel room i : Nat) (hx : v.isExact = true)
    (hr : v.depth < room) (hf : v.compact.toUTF8.data.toList.length < fuel)
    (h : Holds src i v.compact.toUTF8.data.toList)
    (hd : Delimited src (i + v.compact.toUTF8.data.toList.length)) :
    value src fuel room i = .ok (v, i + v.compact.toUTF8.data.toList.length) := by
  obtain ⟨fuel, rfl⟩ : ∃ g, fuel = g + 1 := ⟨fuel - 1, by omega⟩
  cases v with
  | null => exact value_null h
  | bool b => exact value_bool b h
  | number n =>
    cases n with
    | posInt n => exact value_posInt n h hd
    | negInt n => exact value_negInt n (of_decide_eq_true hx) h hd
    | float bits => cases hx
  | string t => exact value_string t h
  | array items =>
    have hroom : 1 < room := by
      simp only [Value.depth] at hr
      omega
    have hrs : itemsDepth items < room - 1 := by
      simp only [Value.depth] at hr
      omega
    rw [compact_array] at h hf ⊢
    simp only [List.length_cons] at hf ⊢
    rw [value_array h.head hroom,
      items_compact items fuel (room - 1) (i + 1) hx hrs (by omega) (holds_cons.mp h).2]
    simp only [Except.map]
    congr 2
    omega
  | object fields =>
    have hroom : 1 < room := by
      simp only [Value.depth] at hr
      omega
    have hrs : fieldsDepth fields < room - 1 := by
      simp only [Value.depth] at hr
      omega
    obtain ⟨hsorted, hxs⟩ : (fields.map Prod.fst).Pairwise (· < ·) ∧ fieldsExact fields = true := by
      simpa only [Value.isExact, Bool.and_eq_true, decide_eq_true_eq] using hx
    rw [compact_object] at h hf ⊢
    simp only [List.length_cons] at hf ⊢
    rw [value_object h.head hroom,
      fields_compact fields fuel (room - 1) (i + 1) hxs hrs (by omega) (holds_cons.mp h).2]
    -- the reader keeps the fields sorted, and these already are
    simp only [Except.map, ofList_of_sorted fields hsorted]
    congr 2
    omega

/-- The items of an array, read from just past its open bracket. -/
theorem items_compact (vs : List Value) (fuel room j : Nat) (hx : itemsExact vs = true)
    (hr : itemsDepth vs < room) (hf : (itemsText vs ++ "]").toUTF8.data.toList.length < fuel)
    (h : Holds src j (itemsText vs ++ "]").toUTF8.data.toList) :
    items src fuel room j true [] = .ok (vs, j + (itemsText vs ++ "]").toUTF8.data.toList.length) := by
  obtain ⟨fuel, rfl⟩ : ∃ g, fuel = g + 1 := ⟨fuel - 1, by omega⟩
  cases vs with
  | nil =>
    rw [itemsClose_nil] at h ⊢
    rw [items_close h]
    rfl
  | cons w vs =>
    have hxw : w.isExact = true ∧ itemsExact vs = true := by
      simpa only [itemsExact, Bool.and_eq_true] using hx
    have hrw : w.depth < room ∧ itemsDepth vs < room := by
      simp only [itemsDepth] at hr
      omega
    rw [itemsClose_cons] at h hf ⊢
    simp only [List.length_append] at hf ⊢
    obtain ⟨hw, hvs⟩ := holds_append.mp h
    obtain ⟨b, bs, hbs, nb, h93⟩ := compact_head w hxw.1
    have hwpos := compact_length_pos hxw.1
    have hvspos := itemsRest_length_pos vs
    have hwv := value_compact w fuel room j hxw.1 hrw.1 (by omega) hw (delimited_itemsRest hvs)
    have hfirst : src[j]? = some b := (holds_cons.mp (hbs ▸ hw : Holds src j (b :: bs))).1
    rw [items_first hfirst nb h93, hwv, Except.bind,
      itemsRest_compact vs fuel room _ [w] hxw.2 hrw.2 (by omega) hvs]
    simp only [List.reverse_singleton, List.singleton_append, Nat.add_assoc]

/-- The items of an array after one of them, read from just past it. -/
theorem itemsRest_compact (vs : List Value) (fuel room j : Nat) (acc : List Value)
    (hx : itemsExact vs = true) (hr : itemsDepth vs < room)
    (hf : (itemsRest vs).toUTF8.data.toList.length < fuel)
    (h : Holds src j (itemsRest vs).toUTF8.data.toList) :
    items src fuel room j false acc =
      .ok (acc.reverse ++ vs, j + (itemsRest vs).toUTF8.data.toList.length) := by
  obtain ⟨fuel, rfl⟩ : ∃ g, fuel = g + 1 := ⟨fuel - 1, by omega⟩
  cases vs with
  | nil =>
    rw [itemsRest_nil] at h ⊢
    rw [items_close h]
    simp
  | cons w vs =>
    have hxw : w.isExact = true ∧ itemsExact vs = true := by
      simpa only [itemsExact, Bool.and_eq_true] using hx
    have hrw : w.depth < room ∧ itemsDepth vs < room := by
      simp only [itemsDepth] at hr
      omega
    rw [itemsRest_cons] at h hf ⊢
    simp only [List.length_cons, List.length_append] at hf ⊢
    obtain ⟨hcomma, hrest⟩ := holds_cons.mp h
    obtain ⟨hw, hvs⟩ := holds_append.mp hrest
    obtain ⟨b, bs, hbs, nb, h93⟩ := compact_head w hxw.1
    have hwpos := compact_length_pos hxw.1
    have hvspos := itemsRest_length_pos vs
    have hwv := value_compact w fuel room (j + 1) hxw.1 hrw.1 (by omega) hw (delimited_itemsRest hvs)
    have hpair : Holds src j [44, b] :=
      holds_cons.mpr ⟨hcomma, (hbs ▸ hw : Holds src (j + 1) (b :: bs)).head⟩
    rw [items_next hpair nb h93, hwv, Except.bind,
      itemsRest_compact vs fuel room _ (w :: acc) hxw.2 hrw.2 (by omega) hvs]
    simp only [List.reverse_cons, List.append_assoc, List.singleton_append]
    congr 2
    omega

/-- The fields of an object, read from just past its open brace: the object the reader builds
from them, field by field. -/
theorem fields_compact (fs : Fields) (fuel room j : Nat) (hx : fieldsExact fs = true)
    (hr : fieldsDepth fs < room) (hf : (fieldsText fs ++ "\x7d").toUTF8.data.toList.length < fuel)
    (h : Holds src j (fieldsText fs ++ "\x7d").toUTF8.data.toList) :
    fields src fuel room j true [] =
      .ok (Fields.ofList fs, j + (fieldsText fs ++ "\x7d").toUTF8.data.toList.length) := by
  obtain ⟨fuel, rfl⟩ : ∃ g, fuel = g + 1 := ⟨fuel - 1, by omega⟩
  cases fs with
  | nil =>
    rw [fieldsClose_nil] at h ⊢
    rw [fields_close h]
    rfl
  | cons f fs =>
    obtain ⟨k, w⟩ := f
    have hxw : w.isExact = true ∧ fieldsExact fs = true := by
      simpa only [fieldsExact, Bool.and_eq_true] using hx
    have hrw : w.depth < room ∧ fieldsDepth fs < room := by
      simp only [fieldsDepth] at hr
      omega
    rw [fieldsClose_cons] at h hf ⊢
    simp only [List.length_append, List.length_cons, List.length_nil] at hf ⊢
    obtain ⟨hkw, hfs⟩ := holds_append.mp h
    obtain ⟨hkey, hw⟩ := holds_append.mp hkw
    simp only [List.length_append, List.length_singleton, ← Nat.add_assoc] at hw hfs
    have hwpos := compact_length_pos hxw.1
    have hfspos := fieldsRest_length_pos fs
    have hwv := value_compact w fuel room _ hxw.1 hrw.1 (by omega) hw (delimited_fieldsRest hfs)
    rw [fields_first hkey, hwv, Except.bind, fieldsRest_compact fs fuel room _ _ hxw.2 hrw.2 (by omega) hfs]
    simp only [Fields.ofList, List.foldl_cons]
    congr 2
    omega

/-- The fields of an object after one of them, read from just past it: the reader inserts
each into what it has so far. -/
theorem fieldsRest_compact (fs : Fields) (fuel room j : Nat) (acc : Fields)
    (hx : fieldsExact fs = true) (hr : fieldsDepth fs < room)
    (hf : (fieldsRest fs).toUTF8.data.toList.length < fuel)
    (h : Holds src j (fieldsRest fs).toUTF8.data.toList) :
    fields src fuel room j false acc =
      .ok (fs.foldl (fun a f => Fields.insert f.1 f.2 a) acc,
        j + (fieldsRest fs).toUTF8.data.toList.length) := by
  obtain ⟨fuel, rfl⟩ : ∃ g, fuel = g + 1 := ⟨fuel - 1, by omega⟩
  cases fs with
  | nil =>
    rw [fieldsRest_nil] at h ⊢
    rw [fields_close h]
    rfl
  | cons f fs =>
    obtain ⟨k, w⟩ := f
    have hxw : w.isExact = true ∧ fieldsExact fs = true := by
      simpa only [fieldsExact, Bool.and_eq_true] using hx
    have hrw : w.depth < room ∧ fieldsDepth fs < room := by
      simp only [fieldsDepth] at hr
      omega
    rw [fieldsRest_cons] at h hf ⊢
    simp only [List.length_cons, List.length_append, List.length_nil] at hf ⊢
    obtain ⟨hcomma, hrest⟩ := holds_cons.mp h
    obtain ⟨hkw, hfs⟩ := holds_append.mp hrest
    obtain ⟨hkey, hw⟩ := holds_append.mp hkw
    simp only [List.length_append, List.length_singleton, ← Nat.add_assoc] at hw hfs
    have hwpos := compact_length_pos hxw.1
    have hfspos := fieldsRest_length_pos fs
    have hwv := value_compact w fuel room _ hxw.1 hrw.1 (by omega) hw (delimited_fieldsRest hfs)
    rw [fields_next (holds_cons.mpr ⟨hcomma, hkey⟩), hwv, Except.bind,
      fieldsRest_compact fs fuel room _ _ hxw.2 hrw.2 (by omega) hfs]
    simp only [List.foldl_cons]
    congr 2
    omega

end

theorem skipBlanks_of_size_le {i : Nat} (h : src.size ≤ i) : skipBlanks src i = i := by
  rw [skipBlanks, dif_neg (Nat.not_lt.mpr h)]

end Reread

/-- What the reader does with a whole text: a value that ends where the text ends is its result. -/
theorem parse_of_value {src : ByteArray} {v : Value}
    (h : value src (2 * src.size + 2) nestingLimit 0 = .ok (v, src.size)) : parse src = .ok v := by
  rw [parse, h]
  simp only [skipBlanks_of_size_le (Nat.le_refl _), Nat.lt_irrefl, if_false]

theorem length_toList_toUTF8 (t : String) : t.toUTF8.data.toList.length = t.toUTF8.size :=
  Array.length_toList

theorem holds_toUTF8 (t : String) : Holds t.toUTF8 0 t.toUTF8.data.toList := List.prefix_refl _

/-- **Compact text reads back**: the reader returns every exact value from its compact text,
provided its nesting stays below the reader's limit. -/
theorem parse_compact (v : Value) (hx : v.isExact = true) (hr : v.depth < nestingLimit) :
    parse v.compact.toUTF8 = .ok v := by
  have hend : Delimited v.compact.toUTF8 (0 + v.compact.toUTF8.data.toList.length) :=
    Or.inl (getElem?_neg _ _ (by rw [length_toList_toUTF8]; omega))
  apply parse_of_value
  rw [value_compact v _ _ 0 hx hr (by rw [length_toList_toUTF8]; omega) (holds_toUTF8 _) hend,
    Nat.zero_add, length_toList_toUTF8]

/-- **An object written in any order of its keys reads back** as the object the reader builds
from its fields one by one, provided it nests below the reader's limit. -/
theorem parse_object_compact (fs : Fields) (hx : fieldsExact fs = true)
    (hr : fieldsDepth fs + 1 < nestingLimit) :
    parse (Value.object fs).compact.toUTF8 = .ok (.object (Fields.ofList fs)) := by
  have h := holds_toUTF8 (Value.object fs).compact
  have hlen := length_toList_toUTF8 (Value.object fs).compact
  rw [compact_object] at h hlen
  simp only [List.length_cons] at hlen
  have hroom : 1 < nestingLimit := by omega
  apply parse_of_value
  obtain ⟨g, hg⟩ : ∃ g, 2 * (Value.object fs).compact.toUTF8.size + 2 = g + 1 := ⟨_, rfl⟩
  rw [hg, value_object h.head hroom,
    fields_compact fs g (nestingLimit - 1) 1 hx (by omega) (by omega) (holds_cons.mp h).2]
  simp only [Except.map]
  congr 2
  omega

end HubService.Json
