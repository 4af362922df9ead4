import HubService.Proofs.Framing.Scan
import HubService.Json.Print

/-!
# Compact JSON text is balanced

A structured frame ends where its outermost bracket closes, counting brackets outside quoted
text only (`HubService.Wire.Scan.bracketMove`). For the frames a service writes to come back out
of a byte stream whole, the text of every value has to be invisible to that count: a scan outside
quoted text and inside at least one bracket comes out of the value's bytes as it went in
(`HubService.Json.Balanced`). This file proves it of every value
(`HubService.Json.balanced_compact`) by following the printer:

* a quoted string opens and closes its quote, and in between every escape is a backslash and one
  more byte, while every other byte is neither a quote nor a backslash
  (`HubService.Json.balanced_quote`);
* numbers, literals and punctuation hold no quote and no bracket (`HubService.Json.Plain`);
* an array or an object goes one level down and comes back up.

A character outside ASCII is written as bytes from `0x80` on, so none of its bytes is taken for
a quote, a backslash or a bracket (`HubService.Json.mem_utf8EncodeChar`).
-/

namespace HubService.Wire.Scan

/-! ### What one byte does to a structured scan -/

/-- The codes of what a structured scan looks at outside quoted text: the quote and the four
brackets. -/
def structuralCodes : List Nat := [34, 91, 93, 123, 125]

section Moves

variable {s : Scan} {b : UInt8}

theorem bracketMove_plain (hs : s.inString = false) (hb : b.toNat ∉ structuralCodes) :
    bracketMove s b = .next s := by
  have hne (v : UInt8) (hv : v.toNat ∈ structuralCodes) : b ≠ v := by
    rintro rfl
    exact hb hv
  simp [bracketMove, quoted, hs, hne 34 (by decide), hne 91 (by decide), hne 93 (by decide),
    hne 123 (by decide), hne 125 (by decide)]

theorem bracketMove_open (hs : s.inString = false) (hb : b = 123 ∨ b = 91) :
    bracketMove s b = .next { s with depth := s.depth + 1 } := by
  rcases hb with rfl | rfl <;> simp [bracketMove, quoted, hs]

theorem bracketMove_close (hs : s.inString = false) (hb : b = 125 ∨ b = 93)
    (hd : 1 < s.depth) : bracketMove s b = .next { s with depth := s.depth - 1 } := by
  have hd' : s.depth - 1 ≠ 0 := by omega
  rcases hb with rfl | rfl <;> simp [bracketMove, quoted, hs, hd']

theorem bracketMove_close_last (hs : s.inString = false) (hb : b = 125 ∨ b = 93)
    (hd : s.depth = 1) : bracketMove s b = .endAfter { s with depth := 0 } := by
  rcases hb with rfl | rfl <;> simp [bracketMove, quoted, hs, hd]

theorem bracketMove_quote_open (hs : s.inString = false) :
    bracketMove s 34 = .next { s with inString := true } := by
  simp [bracketMove, quoted, hs]

theorem bracketMove_quote_close (hs : s.inString = true) (he : s.escaped = false) :
    bracketMove s 34 = .next { s with inString := false } := by
  simp [bracketMove, quoted, hs, he]

theorem bracketMove_backslash (hs : s.inString = true) (he : s.escaped = false) :
    bracketMove s 92 = .next { s with escaped := true } := by
  simp [bracketMove, quoted, hs, he]

theorem bracketMove_escaped (hs : s.inString = true) (he : s.escaped = true) :
    bracketMove s b = .next { s with escaped := false } := by
  simp [bracketMove, quoted, hs, he]

theorem bracketMove_quoted (hs : s.inString = true) (he : s.escaped = false) (h34 : b ≠ 34)
    (h92 : b ≠ 92) : bracketMove s b = .next s := by
  simp [bracketMove, quoted, hs, he, h34, h92]

end Moves

/-! ### Runs over the pieces of JSON text -/

section Runs

variable {s : Scan}

/-- Bytes with no quote and no bracket leave a scan outside quoted text as it was. -/
theorem run_plain (hs : s.inString = false) {xs : List UInt8}
    (h : ∀ b ∈ xs, b.toNat ∉ structuralCodes) : run bracketMove s xs = .running s := by
  induction xs with
  | nil => rfl
  | cons b xs ih =>
    rw [run_cons_next _ (bracketMove_plain hs (h b List.mem_cons_self)),
      ih fun b hb => h b (List.mem_cons_of_mem _ hb)]
    rfl

/-- Bytes with no quote and no backslash leave a scan inside quoted text as it was. -/
theorem run_quoted (hs : s.inString = true) (he : s.escaped = false) {xs : List UInt8}
    (h : ∀ b ∈ xs, b ≠ 34 ∧ b ≠ 92) : run bracketMove s xs = .running s := by
  induction xs with
  | nil => rfl
  | cons b xs ih =>
    obtain ⟨h34, h92⟩ := h b List.mem_cons_self
    rw [run_cons_next _ (bracketMove_quoted hs he h34 h92),
      ih fun b hb => h b (List.mem_cons_of_mem _ hb)]
    rfl

/-- An escape – a backslash and any byte – leaves a scan inside quoted text as it was. -/
theorem run_escape (hs : s.inString = true) (he : s.escaped = false) (b : UInt8) :
    run bracketMove s [92, b] = .running s := by
  have hs' : ({ s with escaped := true } : Scan).inString = true := hs
  rw [run_cons_next _ (bracketMove_backslash hs he),
    run_cons_next _ (bracketMove_escaped hs' rfl)]
  cases s
  simp_all

/-- **A quoted run**: a quote, bytes that keep the quote open, and a closing quote leave a scan
outside quoted text as it was. -/
theorem run_string (hs : s.inString = false) (he : s.escaped = false) {xs : List UInt8}
    (h : run bracketMove { s with inString := true } xs = .running { s with inString := true }) :
    run bracketMove s (34 :: xs ++ [34]) = .running s := by
  rw [List.cons_append, run_cons_next _ (bracketMove_quote_open hs), run_append_of_running _ h,
    run_cons_next _ (bracketMove_quote_close (s := { s with inString := true }) rfl he)]
  cases s
  simp_all

/-- **A bracketed run inside a frame**: from a scan outside quoted text at depth one or more, an
opening bracket, bytes that come back to the scan one level down, and a closing bracket leave the
scan as it was. -/
theorem run_bracketed (hs : s.inString = false) (hd : 0 < s.depth) {o c : UInt8}
    (ho : o = 123 ∨ o = 91) (hc : c = 125 ∨ c = 93) {xs : List UInt8}
    (h : run bracketMove { s with depth := s.depth + 1 } xs =
      .running { s with depth := s.depth + 1 }) :
    run bracketMove s (o :: xs ++ [c]) = .running s := by
  rw [List.cons_append, run_cons_next _ (bracketMove_open hs ho), run_append_of_running _ h,
    run_cons_next _ (bracketMove_close (s := { s with depth := s.depth + 1 }) hs hc
      (by simp only; omega))]
  cases s
  simp_all

/-- **A whole bracketed frame**: from a scan outside quoted text at depth zero, an opening
bracket, bytes that come back to the scan one level down, and a closing bracket end the frame
with its last byte. -/
theorem run_bracketed_frame (hs : s.inString = false) (hd : s.depth = 0) {o c : UInt8}
    (ho : o = 123 ∨ o = 91) (hc : c = 125 ∨ c = 93) {xs : List UInt8}
    (h : run bracketMove { s with depth := s.depth + 1 } xs =
      .running { s with depth := s.depth + 1 }) :
    run bracketMove s (o :: xs ++ [c]) = .ended (o :: xs ++ [c]).length s := by
  rw [List.cons_append, run_cons_next _ (bracketMove_open hs ho), run_append_of_running _ h,
    run_cons_endAfter _ (bracketMove_close_last (s := { s with depth := s.depth + 1 }) hs hc
      (by simp only; omega))]
  simp only [Progress.after_ended, List.length_cons, List.length_append, List.length_nil]
  congr 1
  · omega
  · cases s
    simp_all

end Runs

end HubService.Wire.Scan

namespace HubService.Json

open HubService.Wire

/-! ### The bytes of a text -/

theorem toUTF8_toList (t : String) :
    t.toUTF8.data.toList = t.toList.flatMap String.utf8EncodeChar := by
  rw [String.toUTF8_eq_toByteArray, ← String.utf8Encode_toList, List.utf8Encode,
    List.toList_data_toByteArray]

@[simp] theorem toUTF8_append_toList (a b : String) :
    (a ++ b).toUTF8.data.toList = a.toUTF8.data.toList ++ b.toUTF8.data.toList := by
  simp only [String.toUTF8_eq_toByteArray, String.toByteArray_append, ByteArray.data_append,
    Array.toList_append]

/-- **The bytes of a character**: its code if it is ASCII, and bytes from `0x80` on if not. -/
theorem mem_utf8EncodeChar {c : Char} {b : UInt8} (h : b ∈ String.utf8EncodeChar c) :
    b.toNat = c.toNat ∨ 128 ≤ b.toNat := by
  have hv := c.valid
  have hc : c.toNat = c.val.toNat := rfl
  simp only [String.utf8EncodeChar] at h
  split_ifs at h <;> simp only [List.mem_cons, List.not_mem_nil, or_false] at h <;>
    rcases h with rfl | rfl | rfl | rfl <;> simp [UInt8.toNat_ofNat] <;> omega

/-- A byte of a text is a byte of one of its characters. -/
theorem exists_char_of_mem_toUTF8 {t : String} {b : UInt8} (h : b ∈ t.toUTF8.data.toList) :
    ∃ c ∈ t.toList, b.toNat = c.toNat ∨ 128 ≤ b.toNat := by
  rw [toUTF8_toList, List.mem_flatMap] at h
  obtain ⟨c, hc, hb⟩ := h
  exact ⟨c, hc, mem_utf8EncodeChar hb⟩

/-! ### Balanced text and quoted text -/

/-- **Text a structured scan passes over unchanged**: from any scan outside quoted text, not
waiting on an escape and inside at least one bracket, the run over the text's bytes does not end
the frame and comes back to the same scan. -/
def Balanced (t : String) : Prop :=
  ∀ s : Scan, s.inString = false → s.escaped = false → 0 < s.depth →
    s.run Scan.bracketMove t.toUTF8.data.toList = .running s

/-- **Text that keeps a quote open**: from any scan inside quoted text and not waiting on an
escape, the run over the text's bytes comes back to the same scan. -/
def Quoted (t : String) : Prop :=
  ∀ s : Scan, s.inString = true → s.escaped = false →
    s.run Scan.bracketMove t.toUTF8.data.toList = .running s

theorem Balanced.append {a b : String} (ha : Balanced a) (hb : Balanced b) :
    Balanced (a ++ b) := by
  intro s hs he hd
  rw [toUTF8_append_toList, Scan.run_append_of_running _ (ha s hs he hd), hb s hs he hd]
  rfl

theorem Quoted.append {a b : String} (ha : Quoted a) (hb : Quoted b) : Quoted (a ++ b) := by
  intro s hs he
  rw [toUTF8_append_toList, Scan.run_append_of_running _ (ha s hs he), hb s hs he]
  rfl

/-- Balanced text between an opening and a closing bracket is balanced. -/
theorem Balanced.enclose {t o c : String} (bo bc : UInt8) (ho : o.toUTF8.data.toList = [bo])
    (hc : c.toUTF8.data.toList = [bc]) (hbo : bo = 123 ∨ bo = 91) (hbc : bc = 125 ∨ bc = 93)
    (h : Balanced t) : Balanced (o ++ t ++ c) := by
  intro s hs he hd
  rw [toUTF8_append_toList, toUTF8_append_toList, ho, hc, List.singleton_append]
  exact Scan.run_bracketed hs hd hbo hbc (h _ hs he (Nat.succ_pos _))

theorem quoted_join {ts : List String} (h : ∀ t ∈ ts, Quoted t) : Quoted (String.join ts) := by
  induction ts with
  | nil => intro s _ _; rfl
  | cons t ts ih =>
    rw [String.join_cons]
    exact (h t List.mem_cons_self).append (ih fun u hu => h u (List.mem_cons_of_mem _ hu))

/-- Characters that are neither a quote nor a backslash keep a quote open. -/
theorem quoted_of_chars {t : String} (h : ∀ c ∈ t.toList, c.toNat ≠ 34 ∧ c.toNat ≠ 92) :
    Quoted t := by
  intro s hs he
  apply Scan.run_quoted hs he
  intro b hb
  obtain ⟨c, hc, hbc⟩ := exists_char_of_mem_toUTF8 hb
  have := h c hc
  constructor <;> rintro rfl <;> simp at hbc <;> omega

/-- An escape – a backslash and one more byte – followed by bytes that are neither a quote nor a
backslash keeps a quote open. -/
theorem quoted_of_escape {t : String} (b : UInt8) (rest : List UInt8)
    (h : t.toUTF8.data.toList = [92, b] ++ rest) (hr : ∀ x ∈ rest, x ≠ 34 ∧ x ≠ 92) :
    Quoted t := by
  intro s hs he
  rw [h, Scan.run_append_of_running _ (Scan.run_escape hs he b), Scan.run_quoted hs he hr]
  rfl

theorem toNat_ofNat_of_lt {n : Nat} (h : n < 0xd800) : (Char.ofNat n).toNat = n := by
  have hv : n.isValidChar := Or.inl h
  rw [Char.toNat_ofNat, if_pos hv]

/-- Hex digits keep a quote open. -/
theorem quoted_hexByte (n : Nat) : Quoted (hexByte n) := by
  apply quoted_of_chars
  intro c hc
  simp only [hexByte, String.toList_ofList, List.mem_cons, List.not_mem_nil, or_false] at hc
  have h1 : n / 16 % 16 < 16 := Nat.mod_lt _ (by decide)
  have h2 : n % 16 < 16 := Nat.mod_lt _ (by decide)
  rcases hc with rfl | rfl <;> split <;> rw [toNat_ofNat_of_lt (by omega)] <;> omega

/-- **Every escape keeps a quote open**, whichever character it writes. -/
theorem quoted_escapeChar (c : Char) : Quoted (escapeChar c) := by
  unfold escapeChar
  split_ifs with h34 h92
  · exact quoted_of_escape 34 [] (by decide) (by simp)
  · exact quoted_of_escape 92 [] (by decide) (by simp)
  · exact quoted_of_escape 110 [] (by decide) (by simp)
  · exact quoted_of_escape 114 [] (by decide) (by simp)
  · exact quoted_of_escape 116 [] (by decide) (by simp)
  · exact quoted_of_escape 98 [] (by decide) (by simp)
  · exact quoted_of_escape 102 [] (by decide) (by simp)
  · exact (quoted_of_escape 117 [48, 48] (by decide) (by simp)).append (quoted_hexByte _)
  · -- any other character stands for itself, and it is neither a quote nor a backslash
    apply quoted_of_chars
    intro d hd
    simp only [Char.toString_eq_singleton, String.toList_singleton, List.mem_singleton] at hd
    subst hd
    exact ⟨fun h => h34 (Char.toNat_inj.mp h), fun h => h92 (Char.toNat_inj.mp h)⟩

/-- **A quoted string leaves a scan outside quoted text as it was**, at any depth. -/
theorem run_quote (t : String) {s : Scan} (hs : s.inString = false) (he : s.escaped = false) :
    s.run Scan.bracketMove (quote t).toUTF8.data.toList = .running s := by
  have hq : Quoted (String.join (t.toList.map escapeChar)) := by
    apply quoted_join
    intro u hu
    obtain ⟨c, -, rfl⟩ := List.mem_map.mp hu
    exact quoted_escapeChar c
  have hbytes : (quote t).toUTF8.data.toList =
      34 :: (String.join (t.toList.map escapeChar)).toUTF8.data.toList ++ [34] := by
    simp only [quote, toUTF8_append_toList]
    rfl
  rw [hbytes]
  exact Scan.run_string hs he (hq _ rfl he)

theorem balanced_quote (t : String) : Balanced (quote t) :=
  fun _ hs he _ => run_quote t hs he

/-! ### Numbers and literals -/

/-- **Text with no quote and no bracket.** -/
def Plain (t : String) : Prop := ∀ c ∈ t.toList, c.toNat ∉ Scan.structuralCodes

-- decided over the characters of the text, never over all characters
instance : DecidablePred Plain := fun t =>
  List.decidableBAll (fun c : Char => c.toNat ∉ Scan.structuralCodes) t.toList

theorem balanced_of_plain {t : String} (h : Plain t) : Balanced t := by
  intro s hs _ _
  apply Scan.run_plain hs
  intro b hb
  obtain ⟨c, hc, hbc⟩ := exists_char_of_mem_toUTF8 hb
  have := h c hc
  simp only [Scan.structuralCodes, List.mem_cons, List.not_mem_nil, or_false] at this ⊢
  omega

@[simp] theorem plain_append {a b : String} : Plain (a ++ b) ↔ Plain a ∧ Plain b := by
  simp [Plain, String.toList_append, or_imp, forall_and]

theorem plain_of_digits {l : List Char} (h : ∀ c ∈ l, c.isDigit) : Plain (String.ofList l) := by
  intro c hc
  rw [String.toList_ofList] at hc
  have := Char.isDigit_iff_toNat.mp (h c hc)
  simp only [Scan.structuralCodes, List.mem_cons, List.not_mem_nil, or_false]
  simp only [Char.reduceToNat] at this
  omega

theorem plain_toString_nat (n : Nat) : Plain (toString n) := by
  show Plain n.repr
  rw [Nat.repr_eq_ofList_toDigits]
  exact plain_of_digits fun c hc => Nat.isDigit_of_mem_toDigits (by decide) (by decide) hc

theorem plain_toString_int (i : Int) : Plain (toString i) := by
  rw [Int.toString_eq_repr, Int.repr_eq_if]
  split
  · exact plain_toString_nat _
  · exact plain_append.mpr ⟨by decide, plain_toString_nat _⟩

theorem plain_ofList_of_sublist {t : String} {l : List Char} (ht : Plain t)
    (hl : l.Sublist t.toList) :
    Plain (String.ofList l) := by
  intro c hc
  rw [String.toList_ofList] at hc
  exact ht c (hl.subset hc)

theorem plain_zeros (n : Nat) : Plain (zeros n) := by
  intro c hc
  simp only [zeros, String.toList_ofList, List.mem_replicate] at hc
  rw [hc.2]
  decide

theorem plain_exponentText (layout : FloatLayout) (e : Int) : Plain (layout.exponentText e) := by
  unfold FloatLayout.exponentText
  split_ifs <;> exact plain_append.mpr ⟨by decide, plain_toString_nat _⟩

theorem plain_render (layout : FloatLayout) (d : Decimal) : Plain (layout.render d) := by
  have hds := plain_toString_nat d.digits
  have htake (k : Nat) : Plain (String.ofList ((toString d.digits).toList.take k)) :=
    plain_ofList_of_sublist hds (List.take_sublist _ _)
  have hdrop (k : Nat) : Plain (String.ofList ((toString d.digits).toList.drop k)) :=
    plain_ofList_of_sublist hds (List.drop_sublist _ _)
  unfold FloatLayout.render
  dsimp only
  split_ifs <;>
    simp only [plain_append, hds, htake, hdrop, plain_zeros, plain_exponentText, true_and,
      and_true] <;> decide

theorem plain_floatText (bits : UInt64) : Plain (floatText bits) := by
  unfold floatText
  dsimp only
  -- not finite, a zero of either sign, and a finite nonzero double of either sign
  split_ifs
  · decide
  · decide
  · decide
  · exact plain_append.mpr ⟨by decide, plain_render _ _⟩
  · exact plain_append.mpr ⟨by decide, plain_render _ _⟩

theorem plain_text (n : Number) : Plain n.text := by
  cases n with
  | posInt n => exact plain_toString_nat _
  | negInt n => exact plain_toString_int _
  | float bits => exact plain_floatText bits

/-! ### Values -/

mutual

/-- **The text of every value is balanced.** -/
theorem balanced_compact : (v : Value) → Balanced v.compact
  | .null => balanced_of_plain (by decide)
  | .bool true => balanced_of_plain (by decide)
  | .bool false => balanced_of_plain (by decide)
  | .number n => balanced_of_plain (plain_text n)
  | .string t => balanced_quote t
  | .array items => (balanced_itemsText items).enclose 91 93 rfl rfl (.inr rfl) (.inr rfl)
  | .object fields => (balanced_fieldsText fields).enclose 123 125 rfl rfl (.inl rfl) (.inl rfl)

theorem balanced_itemsText : (items : List Value) → Balanced (itemsText items)
  | [] => balanced_of_plain (by decide)
  | [v] => balanced_compact v
  | v :: w :: rest =>
    ((balanced_compact v).append (balanced_of_plain (by decide))).append
      (balanced_itemsText (w :: rest))

theorem balanced_fieldsText : (fields : List (String × Value)) → Balanced (fieldsText fields)
  | [] => balanced_of_plain (by decide)
  | [(k, v)] => ((balanced_quote k).append (balanced_of_plain (by decide))).append
      (balanced_compact v)
  | (k, v) :: f :: rest =>
    ((((balanced_quote k).append (balanced_of_plain (by decide))).append
      (balanced_compact v)).append (balanced_of_plain (by decide))).append
      (balanced_fieldsText (f :: rest))

end

theorem balanced_fields_compact (fields : Fields) : Balanced fields.compact :=
  balanced_compact (.object fields)

/-- Balanced texts joined by a balanced separator are balanced. -/
theorem balanced_intercalate {sep : String} (hsep : Balanced sep) {ts : List String}
    (h : ∀ t ∈ ts, Balanced t) : Balanced (sep.intercalate ts) := by
  induction ts with
  | nil =>
    rw [String.intercalate_nil]
    exact fun _ _ _ _ => rfl
  | cons t ts ih =>
    have ht := h t List.mem_cons_self
    have hts := ih fun u hu => h u (List.mem_cons_of_mem _ hu)
    cases ts with
    | nil => rwa [String.intercalate_singleton]
    | cons u us =>
      rw [String.intercalate_cons_cons]
      exact (ht.append hsep).append hts

end HubService.Json
