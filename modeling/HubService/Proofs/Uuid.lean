import HubService.Uuid
import Mathlib

/-!
# A UUID reads back from its hyphenated spelling

`HubService.Uuid.parse_render`: the reader takes the lowercase hyphenated spelling
(`HubService.Uuid.render`) back to the UUID it was written from. The spelling is the 32 hex
digits of the bits, padded with zeros, cut into groups of 8-4-4-4-12 and joined by hyphens; the
reader, seeing 36 bytes, splits at the hyphens, checks the lengths of the groups and reads the
digits of the groups joined.

* Splitting: `String.splitOn` at a hyphen cuts the characters as `List.splitOn` does
  (`HubService.Uuid.splitOn_dash`), so groups without a hyphen, joined by hyphens, split back
  into the same groups.
* Digits: every digit `Nat.toDigits 16` writes reads back as its value
  (`HubService.Uuid.hexValue?_toDigits`), and leading zeros add nothing.
-/

namespace HubService.Uuid

/-! ### Splitting at hyphens -/

open String in
/-- The loop of `String.splitOn` with a hyphen for separator, from a point where the part read
so far is `m`: the parts still to come are those of `List.splitOnPPrepend` on what is left. -/
theorem splitOnAux_dash (l m r : List Char) (acc : List String) :
    String.splitOnAux (String.ofList (l ++ m ++ r)) "-" ⟨utf8Len l⟩ ⟨utf8Len l + utf8Len m⟩ 0 acc =
      acc.reverse ++ (List.splitOnPPrepend (· == '-') r m.reverse).map String.ofList := by
  induction r generalizing l m acc with
  | nil =>
    have hend : Pos.Raw.atEnd (ofList (l ++ m ++ [])) ⟨utf8Len l + utf8Len m⟩ = true := by
      rw [← utf8Len_append]
      exact (atEnd_of_valid (l ++ m) []).mpr rfl
    rw [String.splitOnAux, if_pos hend, extract_of_valid l m []]
    simp
  | cons c r ih =>
    have hend : Pos.Raw.atEnd (ofList (l ++ m ++ c :: r)) ⟨utf8Len l + utf8Len m⟩ = false := by
      rw [← utf8Len_append, Bool.eq_false_iff]
      intro h
      exact List.cons_ne_nil _ _ ((atEnd_of_valid (l ++ m) (c :: r)).mp h)
    have hget : Pos.Raw.get (ofList (l ++ m ++ c :: r)) ⟨utf8Len l + utf8Len m⟩ = c := by
      rw [← utf8Len_append]
      exact get_of_valid (l ++ m) (c :: r)
    have hnext : Pos.Raw.next (ofList (l ++ m ++ c :: r)) ⟨utf8Len l + utf8Len m⟩ =
        ⟨utf8Len l + utf8Len m + c.utf8Size⟩ := by
      rw [← utf8Len_append]
      exact next_of_valid (l ++ m) c r
    have hdash : Pos.Raw.get "-" 0 = '-' := rfl
    rw [String.splitOnAux, if_neg (by rw [hend]; exact Bool.false_ne_true), hget, hdash]
    by_cases hc : c = '-'
    · -- a hyphen closes the part read so far and starts an empty one
      subst hc
      have hrest : (ofList (l ++ m ++ '-' :: r)).splitOnAux "-"
          ⟨utf8Len l + utf8Len m + '-'.utf8Size⟩ ⟨utf8Len l + utf8Len m + '-'.utf8Size⟩ 0
          (ofList m :: acc) =
          (ofList m :: acc).reverse ++ (List.splitOnPPrepend (· == '-') r []).map ofList := by
        simpa [Nat.add_assoc] using ih (l ++ m ++ ['-']) [] (ofList m :: acc)
      have hcut : Pos.Raw.unoffsetBy ⟨utf8Len l + utf8Len m + '-'.utf8Size⟩ (Pos.Raw.next "-" 0) =
          ⟨utf8Len l + utf8Len m⟩ := rfl
      have hone : Pos.Raw.atEnd "-" (Pos.Raw.next "-" 0) = true := rfl
      rw [if_pos (beq_self_eq_true _)]
      dsimp only
      rw [hnext, if_pos hone, hcut,
        extract_of_valid l m ('-' :: r), hrest]
      simp [List.splitOnPPrepend_cons_eq_if]
    · have hrest : (ofList (l ++ m ++ c :: r)).splitOnAux "-"
          ⟨utf8Len l⟩ ⟨utf8Len l + utf8Len m + c.utf8Size⟩ 0 acc =
          acc.reverse ++ (List.splitOnPPrepend (· == '-') r (c :: m.reverse)).map ofList := by
        simpa [Nat.add_assoc] using ih l (m ++ [c]) acc
      have hz : Pos.Raw.unoffsetBy ⟨utf8Len l + utf8Len m⟩ 0 = ⟨utf8Len l + utf8Len m⟩ := rfl
      rw [if_neg (by simpa using hc), hz, hnext, hrest]
      simp [List.splitOnPPrepend_cons_eq_if, hc]

/-- **Splitting at a hyphen** cuts the characters of a text as `List.splitOn` does. -/
theorem splitOn_dash (s : String) : s.splitOn "-" = (s.toList.splitOn '-').map String.ofList := by
  have h := splitOnAux_dash [] [] s.toList []
  simp only [List.nil_append, String.ofList_toList, String.utf8Len_nil, Nat.add_zero,
    List.reverse_nil] at h
  rw [String.splitOn, if_neg (by decide)]
  exact h

/-! ### Hex digits -/

/-- Each of the sixteen digits reads back as its value. -/
theorem hexDigit?_digitChar {d : Nat} (hd : d < 16) : hexDigit? (Nat.digitChar d) = some d := by
  interval_cases d <;> decide

theorem digitChar_ne_dash {d : Nat} (hd : d < 16) : Nat.digitChar d ≠ '-' := by
  interval_cases d <;> decide

theorem utf8Size_digitChar {d : Nat} (hd : d < 16) : (Nat.digitChar d).utf8Size = 1 := by
  interval_cases d <;> rfl

/-- Every digit base sixteen writes is one of the sixteen digit characters. -/
theorem mem_toDigits {n : Nat} {c : Char} (h : c ∈ Nat.toDigits 16 n) :
    ∃ d < 16, c = Nat.digitChar d := by
  induction n using Nat.strong_induction_on with
  | _ n ih =>
    rw [Nat.toDigits_eq_if (by omega)] at h
    split at h
    · rename_i hlt
      exact ⟨n, hlt, List.mem_singleton.mp h⟩
    · rcases List.mem_append.mp h with h | h
      · exact ih (n / 16) (by omega) h
      · exact ⟨n % 16, Nat.mod_lt _ (by omega), List.mem_singleton.mp h⟩

theorem hexValue?_append_digit (cs : List Char) {d : Nat} (hd : d < 16) :
    hexValue? (cs ++ [Nat.digitChar d]) = (hexValue? cs).map (· * 16 + d) := by
  unfold hexValue?
  rw [List.foldl_append]
  generalize cs.foldl _ (some 0) = acc
  cases acc <;> simp [hexDigit?_digitChar hd]

/-- **The digits base sixteen writes read back as the number.** -/
theorem hexValue?_toDigits (n : Nat) : hexValue? (Nat.toDigits 16 n) = some n := by
  induction n using Nat.strong_induction_on with
  | _ n ih =>
    rw [Nat.toDigits_eq_if (by omega)]
    split
    · rename_i hlt
      simp [hexValue?, hexDigit?_digitChar hlt]
    · rw [hexValue?_append_digit _ (Nat.mod_lt _ (by omega)), ih (n / 16) (by omega)]
      simp only [Option.map_some]
      congr 1
      omega

/-- Leading zeros add nothing to the value of hex digits. -/
theorem hexValue?_zeros_append (k : Nat) (cs : List Char) :
    hexValue? (List.replicate k '0' ++ cs) = hexValue? cs := by
  unfold hexValue?
  rw [List.foldl_append]
  congr 1
  induction k with
  | zero => rfl
  | succ k ih => rw [List.replicate_succ, List.foldl_cons]; exact ih

/-! ### The spelling -/

/-- The 32 hex digits of a UUID, zero-padded. -/
def hexOf (u : Uuid) : List Char := (hexPadded 32 u.bits.toNat).toList

/-- The five groups of the hyphenated spelling. -/
def groupsOf (u : Uuid) : List (List Char) :=
  [(hexOf u).take 8, ((hexOf u).drop 8).take 4, ((hexOf u).drop 12).take 4,
    ((hexOf u).drop 16).take 4, ((hexOf u).drop 20).take 12]

theorem hexOf_eq (u : Uuid) :
    hexOf u = List.replicate (32 - (Nat.toDigits 16 u.bits.toNat).length) '0' ++
      Nat.toDigits 16 u.bits.toNat := by
  simp [hexOf, hexPadded]

theorem length_hexOf (u : Uuid) : (hexOf u).length = 32 := by
  have hlt : u.bits.toNat < 16 ^ 32 := by
    have := u.bits.isLt
    norm_num at this ⊢
    exact this
  have hle := (Nat.length_toDigits_le_iff (by omega) (by omega)).mpr hlt
  rw [hexOf_eq, List.length_append, List.length_replicate]
  omega

theorem mem_hexOf {u : Uuid} {c : Char} (h : c ∈ hexOf u) : ∃ d < 16, c = Nat.digitChar d := by
  rw [hexOf_eq] at h
  rcases List.mem_append.mp h with h | h
  · exact ⟨0, by omega, (List.eq_of_mem_replicate h).trans rfl⟩
  · exact mem_toDigits h

theorem hexValue?_hexOf (u : Uuid) : hexValue? (hexOf u) = some u.bits.toNat := by
  rw [hexOf_eq, hexValue?_zeros_append, hexValue?_toDigits]

theorem flatten_groupsOf (u : Uuid) : (groupsOf u).flatten = hexOf u := by
  have h := length_hexOf u
  have hlast : ((hexOf u).drop 20).take 12 = (hexOf u).drop 20 :=
    List.take_of_length_le (by simp [h])
  simp only [groupsOf, List.flatten_cons, List.flatten_nil, List.append_nil, hlast]
  -- the first four groups are the first twenty digits
  rw [← List.append_assoc, ← List.append_assoc, ← List.append_assoc, ← List.take_add,
    ← List.take_add, ← List.take_add, List.take_append_drop]

theorem render_toList (u : Uuid) : (render u).toList = ['-'].intercalate (groupsOf u) := by
  simp [render, groupsOf, hexOf, List.intercalate]

theorem mem_groupsOf {u : Uuid} {g : List Char} {c : Char} (hg : g ∈ groupsOf u) (hc : c ∈ g) :
    c ∈ hexOf u := by
  simp only [groupsOf, List.mem_cons, List.not_mem_nil, or_false] at hg
  -- rewrite `hc` rather than substitute `g`: unifying `g` with a group unfolds the spelling
  rcases hg with hg | hg | hg | hg | hg <;> rw [hg] at hc
  · exact List.mem_of_mem_take hc
  all_goals exact List.mem_of_mem_drop (List.mem_of_mem_take hc)

theorem utf8Len_of_ascii {cs : List Char} (h : ∀ c ∈ cs, c.utf8Size = 1) :
    String.utf8Len cs = cs.length := by
  induction cs with
  | nil => rfl
  | cons c cs ih =>
    rw [String.utf8Len_cons, h c List.mem_cons_self, ih fun c hc => h c (List.mem_cons_of_mem _ hc)]
    rfl

/-- A character of groups joined by hyphens is a hyphen or a character of a group. -/
theorem mem_intercalate_dash {gs : List (List Char)} {c : Char} (h : c ∈ ['-'].intercalate gs) :
    c = '-' ∨ ∃ g ∈ gs, c ∈ g := by
  induction gs with
  | nil => cases h
  | cons g gs ih =>
    cases gs with
    | nil => exact Or.inr ⟨g, List.mem_cons_self, by simpa using h⟩
    | cons g' gs =>
      rw [List.intercalate_cons_cons, List.mem_append, List.mem_append] at h
      rcases h with (h | h) | h
      · exact Or.inr ⟨g, List.mem_cons_self, h⟩
      · exact Or.inl (List.mem_singleton.mp h)
      · obtain h | ⟨g'', hg'', hc⟩ := ih h
        · exact Or.inl h
        · exact Or.inr ⟨g'', List.mem_cons_of_mem _ hg'', hc⟩

/-- The characters of the spelling are hyphens and hex digits. -/
theorem mem_render {u : Uuid} {c : Char} (h : c ∈ u.render.toList) :
    c = '-' ∨ ∃ d < 16, c = Nat.digitChar d := by
  rw [render_toList] at h
  obtain h | ⟨g, hg, hc⟩ := mem_intercalate_dash h
  · exact Or.inl h
  · exact Or.inr (mem_hexOf (mem_groupsOf hg hc))

theorem utf8ByteSize_render (u : Uuid) : u.render.utf8ByteSize = 36 := by
  have hascii : ∀ c ∈ u.render.toList, c.utf8Size = 1 := by
    intro c hc
    obtain rfl | ⟨d, hd, rfl⟩ := mem_render hc
    · rfl
    · exact utf8Size_digitChar hd
  rw [← String.utf8Len_toList, utf8Len_of_ascii hascii, render_toList]
  simp [groupsOf, length_hexOf]

theorem ofHyphenated?_render (u : Uuid) : ofHyphenated? u.render.toList = some u := by
  have hsplit : (String.ofList u.render.toList).splitOn "-" = (groupsOf u).map String.ofList := by
    rw [String.ofList_toList, splitOn_dash, render_toList, List.splitOn_intercalate]
    · intro g hg hdash
      obtain ⟨d, hd, heq⟩ := mem_hexOf (mem_groupsOf hg hdash)
      exact digitChar_ne_dash hd heq.symm
    · simp [groupsOf]
  have hsizes : ((groupsOf u).map String.ofList).map String.length = groupSizes := by
    simp [groupsOf, length_hexOf, groupSizes]
  have hjoin : (String.join ((groupsOf u).map String.ofList)).toList = hexOf u := by
    rw [String.toList_join, ← flatten_groupsOf]
    simp [List.flatMap_map]
  unfold ofHyphenated?
  simp only [hsplit]
  rw [if_pos hsizes, hjoin, ofHex?, if_pos (length_hexOf u), hexValue?_hexOf]
  simp

/-- **A UUID reads back from its hyphenated spelling.** -/
theorem parse_render (u : Uuid) : parse u.render = .ok u := by
  unfold parse
  simp only [utf8ByteSize_render]
  rw [if_neg (by decide), if_pos trivial, ofHyphenated?_render]

end HubService.Uuid
