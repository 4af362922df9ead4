import HubService.Json.Parse
import HubService.Proofs.Json.Balanced
import Mathlib

/-!
# Reading the tokens of compact JSON text back

The reader (`HubService.Json.value` and the functions under it) walks bytes from an offset. What
stands in the source from an offset on is said with `HubService.Json.Holds`: a list of bytes is
a prefix of the rest. This file proves, token by token, that what the printer writes is read
back from wherever it stands:

* blanks and the literal words (`HubService.Json.skipBlanks_of_holds`,
  `HubService.Json.literal_of_holds`);
* a quoted string: every escape the printer writes stands for the bytes of its character, and
  the content, being the UTF-8 of a string, passes the check at the closing quote
  (`HubService.Json.string_quote`);
* the decimal text of an integer, when what follows is not a digit
  (`HubService.Json.number_posInt`, `HubService.Json.number_negInt`).
-/

namespace HubService.Json

/-! ### What stands at an offset -/

theorem getElem?_toList (src : ByteArray) (i : Nat) : src[i]? = src.data.toList[i]? := by
  by_cases h : i < src.size
  · rw [getElem?_pos src i h, List.getElem?_eq_getElem (by simpa using h)]
    simp [ByteArray.getElem_eq_getElem_data]
  · rw [getElem?_neg src i h, List.getElem?_eq_none (by simp; omega)]

/-- `src` holds the bytes `bs` from offset `i` on. -/
def Holds (src : ByteArray) (i : Nat) (bs : List UInt8) : Prop := bs <+: src.data.toList.drop i

theorem holds_nil (src : ByteArray) (i : Nat) : Holds src i [] := List.nil_prefix

theorem holds_cons {src : ByteArray} {i : Nat} {b : UInt8} {bs : List UInt8} :
    Holds src i (b :: bs) ↔ src[i]? = some b ∧ Holds src (i + 1) bs := by
  unfold Holds
  rw [getElem?_toList]
  by_cases h : i < src.data.toList.length
  · rw [List.drop_eq_getElem_cons h, List.cons_prefix_cons, List.getElem?_eq_getElem h,
      Option.some.injEq]
    constructor <;> rintro ⟨h1, h2⟩ <;> exact ⟨h1.symm, h2⟩
  · rw [List.drop_eq_nil_of_le (by omega), List.getElem?_eq_none (by omega)]
    simp

theorem holds_append {src : ByteArray} {i : Nat} {a b : List UInt8} :
    Holds src i (a ++ b) ↔ Holds src i a ∧ Holds src (i + a.length) b := by
  induction a generalizing i with
  | nil => simp [holds_nil]
  | cons c a ih =>
    rw [List.cons_append, holds_cons, holds_cons, ih, List.length_cons, Nat.add_right_comm,
      Nat.add_assoc, and_assoc]

theorem Holds.lt_size {src : ByteArray} {i : Nat} {b : UInt8} {bs : List UInt8}
    (h : Holds src i (b :: bs)) : i < src.size := by
  have := (holds_cons.mp h).1
  by_contra hc
  rw [getElem?_neg src i hc] at this
  cases this

theorem Holds.getElem {src : ByteArray} {i : Nat} {b : UInt8} {bs : List UInt8}
    (h : Holds src i (b :: bs)) (hi : i < src.size) : src[i] = b := by
  have := (holds_cons.mp h).1
  rw [getElem?_pos src i hi] at this
  exact Option.some.inj this

theorem Holds.head {src : ByteArray} {j : Nat} {b : UInt8} {bs : List UInt8}
    (h : Holds src j (b :: bs)) : Holds src j [b] :=
  holds_cons.mpr ⟨(holds_cons.mp h).1, holds_nil src (j + 1)⟩

theorem skipBlanks_of_holds {src : ByteArray} {i : Nat} {b : UInt8} {bs : List UInt8}
    (h : Holds src i (b :: bs)) (hb : isBlank b = false) : skipBlanks src i = i := by
  rw [skipBlanks, dif_pos h.lt_size, h.getElem h.lt_size, hb]
  rfl

theorem literal_of_holds {src : ByteArray} {i : Nat} {word : List UInt8} (h : Holds src i word) :
    literal src word i = .ok (i + word.length) := by
  induction word generalizing i with
  | nil => rfl
  | cons c word ih =>
    obtain ⟨hc, hrest⟩ := holds_cons.mp h
    rw [literal, hc]
    simp [ih hrest, Nat.add_assoc, Nat.add_comm 1]

/-! ### Strings -/

theorem toList_foldl_push (buffer : ByteArray) (bs : List UInt8) :
    (bs.foldl ByteArray.push buffer).data.toList = buffer.data.toList ++ bs := by
  induction bs generalizing buffer with
  | nil => simp
  | cons b bs ih => simp [ih]

/-- A byte that stands for itself inside a string is taken into the content. -/
theorem stringRest_raw {src : ByteArray} {buffer : ByteArray} {i : Nat} {b : UInt8}
    {bs : List UInt8} (h : Holds src i (b :: bs)) (h32 : 32 ≤ b) (h34 : b ≠ 34) (h92 : b ≠ 92) :
    stringRest src buffer i = stringRest src (buffer.push b) (i + 1) := by
  rw [stringRest, dif_pos h.lt_size]
  simp only [h.getElem h.lt_size, beq_iff_eq, h34, h92, if_false]
  rw [if_neg (UInt8.not_lt.mpr h32)]

/-- An escape is read from its backslash on, and the content goes on after it. -/
theorem stringRest_escape {src buffer buffer' : ByteArray} {i j : Nat} {bs : List UInt8}
    (h : Holds src i (92 :: bs)) (he : escape src buffer (i + 1) = .ok (buffer', j)) (hij : i < j) :
    stringRest src buffer i = stringRest src buffer' j := by
  rw [stringRest, dif_pos h.lt_size]
  simp only [h.getElem h.lt_size]
  simp [he, hij]

/-- Bytes that stand for themselves are taken into the content one by one. -/
theorem stringRest_raws {src buffer : ByteArray} {i : Nat} {bs : List UInt8} (h : Holds src i bs)
    (hbs : ∀ b ∈ bs, 32 ≤ b ∧ b ≠ 34 ∧ b ≠ 92) :
    stringRest src buffer i = stringRest src (bs.foldl ByteArray.push buffer) (i + bs.length) := by
  induction bs generalizing i buffer with
  | nil => rfl
  | cons b bs ih =>
    obtain ⟨h32, h34, h92⟩ := hbs b List.mem_cons_self
    rw [stringRest_raw h h32 h34 h92, ih (holds_cons.mp h).2 fun b hb => hbs b (List.mem_cons_of_mem _ hb)]
    simp [Nat.add_assoc, Nat.add_comm 1]

theorem hexQuad_of_holds {src : ByteArray} {i : Nat} {a b c d : UInt8} {va vb vc vd : Nat}
    (h : Holds src i [a, b, c, d]) (ha : hexValue a = some va) (hb : hexValue b = some vb)
    (hc : hexValue c = some vc) (hd : hexValue d = some vd) :
    hexQuad src i = .ok (((va * 16 + vb) * 16 + vc) * 16 + vd, i + 4) := by
  obtain ⟨h0, h⟩ := holds_cons.mp h
  obtain ⟨h1, h⟩ := holds_cons.mp h
  obtain ⟨h2, h⟩ := holds_cons.mp h
  obtain ⟨h3, -⟩ := holds_cons.mp h
  have hsize : i + 4 ≤ src.size := by
    have := (holds_cons.mpr ⟨h3, holds_nil src _⟩).lt_size
    omega
  rw [hexQuad, if_pos hsize, h0, h1, h2, h3]
  simp [ha, hb, hc, hd]

/-- A `\u` escape of a code point outside the surrogates stands for that code point. -/
theorem unicodeEscape_of_lt {src buffer : ByteArray} {i j n : Nat} (h : hexQuad src i = .ok (n, j))
    (hn : n < 0xD800) : unicodeEscape src buffer i = .ok (pushCodePoint buffer n, j) := by
  have h1 : ¬(0xDC00 ≤ n ∧ n ≤ 0xDFFF) := by omega
  simp [unicodeEscape, h, h1, hn, bind, Except.bind, pure, Except.pure]

theorem hexByte_values : ∀ n : Nat, n < 32 →
    (hexByte n).toUTF8.data.toList.map hexValue = [some (n / 16), some (n % 16)] := by
  decide

/-- **One character of a string**, as the printer escapes it, is read back as its UTF-8 bytes. -/
theorem stringRest_escapeChar (c : Char) {src buffer : ByteArray} {i : Nat}
    (h : Holds src i (escapeChar c).toUTF8.data.toList) :
    stringRest src buffer i =
      stringRest src ((String.utf8EncodeChar c).foldl ByteArray.push buffer)
        (i + (escapeChar c).toUTF8.data.toList.length) := by
  -- the second byte of a two-byte escape, as `escape` reads it
  have short (x y : UInt8) (hx : Holds src i [92, x])
      (hy : escape src buffer (i + 1) = .ok (buffer.push y, i + 2)) :
      stringRest src buffer i = stringRest src (buffer.push y) (i + 2) :=
    stringRest_escape hx hy (by omega)
  have second {x : UInt8} (hx : Holds src i [92, x]) : src[i + 1]? = some x :=
    (holds_cons.mp (holds_cons.mp hx).2).1
  unfold escapeChar at h ⊢
  split_ifs at h ⊢ with h1 h2 h3 h4 h5 h6 h7 h8
  · subst h1; exact short 34 34 h (by rw [escape, second (h : Holds src i [92, 34])]; rfl)
  · subst h2; exact short 92 92 h (by rw [escape, second (h : Holds src i [92, 92])]; rfl)
  · subst h3; exact short 110 10 h (by rw [escape, second (h : Holds src i [92, 110])]; rfl)
  · subst h4; exact short 114 13 h (by rw [escape, second (h : Holds src i [92, 114])]; rfl)
  · subst h5; exact short 116 9 h (by rw [escape, second (h : Holds src i [92, 116])]; rfl)
  · obtain rfl : c = Char.ofNat 8 := by rw [← h6, Char.ofNat_toNat]
    exact short 98 8 h (by rw [escape, second (h : Holds src i [92, 98])]; rfl)
  · obtain rfl : c = Char.ofNat 12 := by rw [← h7, Char.ofNat_toNat]
    exact short 102 12 h (by rw [escape, second (h : Holds src i [92, 102])]; rfl)
  · -- another control character: a `\u` escape with two zeros and two hex digits
    obtain ⟨x1, x2, hx, hv1, hv2⟩ : ∃ x1 x2, (hexByte c.toNat).toUTF8.data.toList = [x1, x2] ∧
        hexValue x1 = some (c.toNat / 16) ∧ hexValue x2 = some (c.toNat % 16) := by
      have := hexByte_values c.toNat h8
      rcases hL : (hexByte c.toNat).toUTF8.data.toList with _ | ⟨x1, _ | ⟨x2, _ | ⟨x3, _⟩⟩⟩ <;>
        rw [hL] at this <;> simp at this
      exact ⟨x1, x2, rfl, this⟩
    have hbytes : ("\\u00" ++ hexByte c.toNat).toUTF8.data.toList = [92, 117, 48, 48, x1, x2] := by
      rw [toUTF8_append_toList, hx]
      rfl
    rw [hbytes] at h ⊢
    have hquad : Holds src (i + 2) [48, 48, x1, x2] := (holds_cons.mp (holds_cons.mp h).2).2
    have hq : hexQuad src (i + 2) = .ok (c.toNat, i + 2 + 4) := by
      have h48 : hexValue 48 = some 0 := rfl
      rw [hexQuad_of_holds hquad h48 h48 hv1 hv2]
      congr 3
      omega
    have he : escape src buffer (i + 1) = .ok (pushCodePoint buffer c.toNat, i + 6) := by
      rw [escape, second (holds_append.mp (h : Holds src i ([92, 117] ++ [48, 48, x1, x2]))).1]
      exact unicodeEscape_of_lt hq (by omega)
    rw [stringRest_escape h he (by omega), pushCodePoint, Char.ofNat_toNat]
    rfl
  · -- any other character stands for itself, byte by byte
    have hne (d : Char) (hd : c ≠ d) : c.toNat ≠ d.toNat := fun heq =>
      hd (by rw [← Char.ofNat_toNat c, heq, Char.ofNat_toNat])
    have h34 := hne '"' h1
    have h92 := hne '\\' h2
    have hbytes : c.toString.toUTF8.data.toList = String.utf8EncodeChar c := by
      rw [toUTF8_toList]
      simp
    rw [hbytes] at h ⊢
    refine stringRest_raws h fun b hb => ?_
    have hb' := mem_utf8EncodeChar hb
    simp only [Char.reduceToNat] at h34 h92
    refine ⟨UInt8.le_iff_toNat_le.mpr (by simp; omega), fun heq => ?_, fun heq => ?_⟩ <;>
      subst heq <;> simp at hb' <;> omega

/-! ### Well-formed UTF-8 -/

section Sequences

variable {buf : ByteArray} {i stop : Nat} {b b1 b2 b3 : UInt8}

theorem continuesIn_of {lo hi : UInt8} (h : buf[i]? = some b) (hlo : lo.toNat ≤ b.toNat)
    (hhi : b.toNat ≤ hi.toNat) : continuesIn buf i lo hi = true := by
  simp [continuesIn, h, UInt8.le_iff_toNat_le, hlo, hhi]

theorem sequenceLength_one (h0 : buf[i]? = some b) (hb : b.toNat < 0x80) (hs : i + 1 ≤ stop) :
    sequenceLength buf i stop = some 1 := by
  simp [sequenceLength, h0, UInt8.lt_iff_toNat_lt, hb, hs]

theorem sequenceLength_two (h0 : buf[i]? = some b) (hb : 0xC2 ≤ b.toNat ∧ b.toNat ≤ 0xDF)
    (h1 : continuesIn buf (i + 1) 0x80 0xBF = true) (hs : i + 2 ≤ stop) :
    sequenceLength buf i stop = some 2 := by
  have hlt : ¬b.toNat < 0x80 := by omega
  simp [sequenceLength, h0, UInt8.lt_iff_toNat_lt, UInt8.le_iff_toNat_le, hlt, hb, h1, hs]

theorem sequenceLength_three (h0 : buf[i]? = some b) (hb : 0xE0 ≤ b.toNat ∧ b.toNat ≤ 0xEF)
    (h1 : buf[i + 1]? = some b1)
    (hb1 : 0x80 ≤ b1.toNat ∧ b1.toNat ≤ 0xBF ∧ (b.toNat = 0xE0 → 0xA0 ≤ b1.toNat) ∧
      (b.toNat = 0xED → b1.toNat ≤ 0x9F))
    (h2 : continuesIn buf (i + 2) 0x80 0xBF = true) (hs : i + 3 ≤ stop) :
    sequenceLength buf i stop = some 3 := by
  have hlt : ¬b.toNat < 0x80 := by omega
  have hn2 : ¬(0xC2 ≤ b.toNat ∧ b.toNat ≤ 0xDF) := by omega
  simp only [sequenceLength, h0, UInt8.lt_iff_toNat_lt, UInt8.le_iff_toNat_le, Bool.and_eq_true,
    decide_eq_true_eq]
  simp only [show (128 : UInt8).toNat = 128 from rfl, show (194 : UInt8).toNat = 194 from rfl,
    show (223 : UInt8).toNat = 223 from rfl, show (224 : UInt8).toNat = 224 from rfl,
    show (239 : UInt8).toNat = 239 from rfl, hlt, hn2, hb, and_self, if_false, if_true, h2, hs]
  rw [if_pos]
  refine ⟨?_, trivial⟩
  by_cases hE0 : b = 224
  · subst hE0
    exact continuesIn_of h1 (hb1.2.2.1 rfl) hb1.2.1
  · have hE0' : b.toNat ≠ 224 := fun h => hE0 (UInt8.toNat_inj.mp h)
    by_cases hED : b = 237
    · subst hED
      exact continuesIn_of h1 hb1.1 (hb1.2.2.2 rfl)
    · simp only [beq_iff_eq, hE0, hED, if_false]
      exact continuesIn_of h1 hb1.1 hb1.2.1

theorem sequenceLength_four (h0 : buf[i]? = some b) (hb : 0xF0 ≤ b.toNat ∧ b.toNat ≤ 0xF4)
    (h1 : buf[i + 1]? = some b1)
    (hb1 : 0x80 ≤ b1.toNat ∧ b1.toNat ≤ 0xBF ∧ (b.toNat = 0xF0 → 0x90 ≤ b1.toNat) ∧
      (b.toNat = 0xF4 → b1.toNat ≤ 0x8F))
    (h2 : continuesIn buf (i + 2) 0x80 0xBF = true) (h3 : continuesIn buf (i + 3) 0x80 0xBF = true)
    (hs : i + 4 ≤ stop) :
    sequenceLength buf i stop = some 4 := by
  have hlt : ¬b.toNat < 0x80 := by omega
  have hn2 : ¬(0xC2 ≤ b.toNat ∧ b.toNat ≤ 0xDF) := by omega
  have hn3 : ¬(0xE0 ≤ b.toNat ∧ b.toNat ≤ 0xEF) := by omega
  simp only [sequenceLength, h0, UInt8.lt_iff_toNat_lt, UInt8.le_iff_toNat_le, Bool.and_eq_true,
    decide_eq_true_eq]
  simp only [show (128 : UInt8).toNat = 128 from rfl, show (194 : UInt8).toNat = 194 from rfl,
    show (223 : UInt8).toNat = 223 from rfl, show (224 : UInt8).toNat = 224 from rfl,
    show (239 : UInt8).toNat = 239 from rfl, show (240 : UInt8).toNat = 240 from rfl,
    show (244 : UInt8).toNat = 244 from rfl, hlt, hn2, hn3, hb, and_self, if_false, if_true, h2,
    h3, hs]
  rw [if_pos]
  refine ⟨⟨?_, trivial⟩, trivial⟩
  by_cases hF0 : b = 240
  · subst hF0
    exact continuesIn_of h1 (hb1.2.2.1 rfl) hb1.2.1
  · by_cases hF4 : b = 244
    · subst hF4
      exact continuesIn_of h1 hb1.1 (hb1.2.2.2 rfl)
    · simp only [beq_iff_eq, hF0, hF4, if_false]
      exact continuesIn_of h1 hb1.1 hb1.2.1

end Sequences

theorem uint8_toNat_ofNat {n : Nat} (h : n < 256) : (UInt8.ofNat n).toNat = n := by
  simp [Nat.mod_eq_of_lt h]

/-- A byte `10xxxxxx` continues a sequence. -/
theorem continuesIn_continuation {buf : ByteArray} {i n : Nat}
    (h : buf[i]? = some (UInt8.ofNat (n % 64 + 128))) : continuesIn buf i 0x80 0xBF = true :=
  continuesIn_of h (by rw [uint8_toNat_ofNat (by omega)]; simp)
    (by rw [uint8_toNat_ofNat (by omega)]; simp; omega)

/-- **The bytes of a character are a well-formed sequence** as the reader checks them: no
overlong form, no surrogate, nothing past `U+10FFFF`. -/
theorem sequenceLength_utf8EncodeChar {buf : ByteArray} {i stop : Nat} (c : Char)
    (h : Holds buf i (String.utf8EncodeChar c))
    (hstop : i + (String.utf8EncodeChar c).length ≤ stop) :
    sequenceLength buf i stop = some (String.utf8EncodeChar c).length := by
  have hv : c.val.toNat < 0xd800 ∨ (0xdfff < c.val.toNat ∧ c.val.toNat < 0x110000) := c.valid
  dsimp only [String.utf8EncodeChar] at h hstop ⊢
  generalize c.val.toNat = v at h hstop hv ⊢
  -- the four widths; each lead byte and each bound on the second byte is arithmetic on `v`
  split_ifs at h hstop ⊢ with h1 h2 h3
  · obtain ⟨h0, -⟩ := holds_cons.mp h
    exact sequenceLength_one h0 (by rw [uint8_toNat_ofNat (by omega)]; omega) hstop
  · obtain ⟨h0, h⟩ := holds_cons.mp h
    obtain ⟨h1', -⟩ := holds_cons.mp h
    exact sequenceLength_two h0 (by rw [uint8_toNat_ofNat (by omega)]; omega)
      (continuesIn_continuation h1') hstop
  · obtain ⟨h0, h⟩ := holds_cons.mp h
    obtain ⟨h1', h⟩ := holds_cons.mp h
    obtain ⟨h2', -⟩ := holds_cons.mp h
    refine sequenceLength_three h0 (by rw [uint8_toNat_ofNat (by omega)]; omega) h1' ?_
      (continuesIn_continuation h2') hstop
    rw [uint8_toNat_ofNat (by omega), uint8_toNat_ofNat (by omega)]
    omega
  · obtain ⟨h0, h⟩ := holds_cons.mp h
    obtain ⟨h1', h⟩ := holds_cons.mp h
    obtain ⟨h2', h⟩ := holds_cons.mp h
    obtain ⟨h3', -⟩ := holds_cons.mp h
    refine sequenceLength_four h0 (by rw [uint8_toNat_ofNat (by omega)]; omega) h1' ?_
      (continuesIn_continuation h2') (continuesIn_continuation h3') hstop
    rw [uint8_toNat_ofNat (by omega), uint8_toNat_ofNat (by omega)]
    omega

/-- The bytes of characters hold no malformed sequence. -/
theorem firstMalformed_flatMap {buf : ByteArray} {i : Nat} (cs : List Char)
    (h : Holds buf i (cs.flatMap String.utf8EncodeChar)) :
    firstMalformed buf i (i + (cs.flatMap String.utf8EncodeChar).length) = none := by
  induction cs generalizing i with
  | nil => simp [firstMalformed]
  | cons c cs ih =>
    have hlen : String.utf8EncodeChar c ≠ [] := String.utf8EncodeChar_ne_nil
    rw [List.flatMap_cons, holds_append] at h
    rw [firstMalformed, if_pos (by simp [Char.utf8Size_pos]),
      sequenceLength_utf8EncodeChar c h.1 (by simp)]
    obtain ⟨n, hn⟩ : ∃ n, (String.utf8EncodeChar c).length = n + 1 :=
      Nat.exists_eq_add_one.mpr (List.length_pos_iff.mpr hlen)
    rw [hn]
    dsimp only
    have := ih (hn ▸ h.2 : Holds buf (i + (n + 1)) _)
    rw [List.flatMap_cons, List.length_append, hn] at *
    rw [show i + (n + 1 + (cs.flatMap String.utf8EncodeChar).length) =
      i + n + 1 + (cs.flatMap String.utf8EncodeChar).length by omega] 
    simpa [Nat.add_assoc] using this

/-! ### Whole strings -/

theorem fromUTF8?_toUTF8 (t : String) : String.fromUTF8? t.toUTF8 = some t := by
  simp [String.fromUTF8?, t.isValidUTF8, String.fromUTF8]

theorem foldl_push_toUTF8 (t : String) :
    (t.toList.flatMap String.utf8EncodeChar).foldl ByteArray.push ByteArray.empty = t.toUTF8 := by
  apply ByteArray.ext
  apply Array.toList_inj.mp
  rw [toList_foldl_push, toUTF8_toList]
  rfl

/-- The escaped characters of a string are read back as their UTF-8 bytes. -/
theorem stringRest_join {src buffer : ByteArray} {i : Nat} (cs : List Char)
    (h : Holds src i (String.join (cs.map escapeChar)).toUTF8.data.toList) :
    stringRest src buffer i =
      stringRest src ((cs.flatMap String.utf8EncodeChar).foldl ByteArray.push buffer)
        (i + (String.join (cs.map escapeChar)).toUTF8.data.toList.length) := by
  induction cs generalizing i buffer with
  | nil => rfl
  | cons c cs ih =>
    simp only [List.map_cons, String.join_cons, toUTF8_append_toList] at h ⊢
    rw [stringRest_escapeChar c (holds_append.mp h).1, ih (holds_append.mp h).2,
      List.flatMap_cons, List.foldl_append, List.length_append, Nat.add_assoc]

theorem firstMalformed_toUTF8 (t : String) : firstMalformed t.toUTF8 0 t.toUTF8.size = none := by
  have h : Holds t.toUTF8 0 (t.toList.flatMap String.utf8EncodeChar) := by
    rw [Holds, List.drop_zero, toUTF8_toList]
  have hsize : t.toUTF8.size = 0 + (t.toList.flatMap String.utf8EncodeChar).length := by
    rw [Nat.zero_add, ← toUTF8_toList]
    simp
  rw [hsize]
  exact firstMalformed_flatMap _ h

/-- At the closing quote, content that is the UTF-8 of a string is that string. -/
theorem stringRest_close {src : ByteArray} {k : Nat} (t : String) (h : Holds src k [34]) :
    stringRest src t.toUTF8 k = .ok (t, k + 1) := by
  rw [stringRest, dif_pos h.lt_size]
  simp only [h.getElem h.lt_size, beq_self_eq_true, if_true, firstMalformed_toUTF8, fromUTF8?_toUTF8]

/-- **A quoted string is read back**: from its opening quote on, the reader gives the string
and stands past the closing quote. -/
theorem string_quote {src : ByteArray} {i : Nat} (t : String)
    (h : Holds src i (quote t).toUTF8.data.toList) :
    string src (i + 1) = .ok (t, i + (quote t).toUTF8.data.toList.length) := by
  have hq : "\"".toUTF8.data.toList = [34] := rfl
  simp only [quote, toUTF8_append_toList, hq] at h ⊢
  obtain ⟨⟨-, hbody⟩, hclose⟩ := holds_append.mp h |>.imp_left holds_append.mp
  have hstart : i + 1 = i + [(34 : UInt8)].length := rfl
  rw [List.length_append, ← Nat.add_assoc] at hclose
  rw [string, hstart, stringRest_join _ hbody, foldl_push_toUTF8, stringRest_close t hclose]
  simp only [List.length_append, List.length_singleton, Nat.add_assoc]

/-! ### Integers -/

/-- The byte of a character below `0x80`. -/
theorem utf8EncodeChar_of_lt {c : Char} (h : c.toNat < 0x80) :
    String.utf8EncodeChar c = [UInt8.ofNat c.toNat] := by
  have h' : c.val.toNat ≤ 127 := by rw [Char.toNat_val]; omega
  rw [String.utf8EncodeChar, if_pos h', Char.toNat_val]

theorem isDigit_toNat {c : Char} (h : c.isDigit = true) : 48 ≤ c.toNat ∧ c.toNat ≤ 57 := by
  simp only [Char.isDigit, Bool.and_eq_true, decide_eq_true_eq] at h
  exact ⟨h.1, h.2⟩

/-- Decimal digits are written one byte each. -/
theorem toUTF8_ofList_digits {ds : List Char} (hd : ∀ c ∈ ds, c.isDigit = true) :
    (String.ofList ds).toUTF8.data.toList = ds.map fun c => UInt8.ofNat c.toNat := by
  rw [toUTF8_toList, String.toList_ofList]
  induction ds with
  | nil => rfl
  | cons c ds ih =>
    have hc := isDigit_toNat (hd c List.mem_cons_self)
    rw [List.flatMap_cons, utf8EncodeChar_of_lt (by omega),
      ih fun c hc => hd c (List.mem_cons_of_mem _ hc)]
    rfl

theorem isDigit_ofNat {c : Char} (h : c.isDigit = true) : isDigit (UInt8.ofNat c.toNat) = true := by
  have hc := isDigit_toNat h
  simp only [isDigit, Bool.and_eq_true, decide_eq_true_eq, UInt8.le_iff_toNat_le,
    uint8_toNat_ofNat (show c.toNat < 256 by omega)]
  exact ⟨hc.1, hc.2⟩

/-- **Integer digits are accumulated in decimal** while the value stays within 64 bits, up to the
first byte that is not a digit. -/
theorem integerDigits_digits {src : ByteArray} {positive : Bool} {acc i : Nat} (ds : List Char)
    (hd : ∀ c ∈ ds, c.isDigit = true) (h : Holds src i (ds.map fun c => UInt8.ofNat c.toNat))
    (hend : ∀ b, src[i + ds.length]? = some b → isDigit b = false)
    (hmax : Nat.ofDigitChars 10 ds acc ≤ maxUnsigned) :
    integerDigits src positive acc i =
      afterInteger src positive (Nat.ofDigitChars 10 ds acc) (i + ds.length) := by
  induction ds generalizing acc i with
  | nil =>
    rw [integerDigits]
    split
    · rename_i hi
      rw [if_neg (by simpa using hend _ (getElem?_pos src i hi))]
      rfl
    · rfl
  | cons c ds ih =>
    obtain ⟨hc, hrest⟩ := holds_cons.mp h
    have hdc := hd c List.mem_cons_self
    have hdigit : (UInt8.ofNat c.toNat).toNat - 48 = c.toNat - '0'.toNat := by
      rw [uint8_toNat_ofNat (by have := isDigit_toNat hdc; omega)]
      rfl
    have hstep : Nat.ofDigitChars 10 (c :: ds) acc =
        Nat.ofDigitChars 10 ds (acc * 10 + (c.toNat - '0'.toNat)) := by
      rw [Nat.ofDigitChars_cons, Nat.mul_comm]
    -- the value so far never exceeds the final one, so no step overflows
    have hnext : acc * 10 + (c.toNat - '0'.toNat) ≤ maxUnsigned := by
      have hle := Nat.le_mul_of_pos_left (acc * 10 + (c.toNat - '0'.toNat))
        (Nat.pow_pos (show 0 < 10 by omega) : 0 < 10 ^ ds.length)
      rw [hstep, Nat.ofDigitChars_eq_ofDigitChars_zero] at hmax
      omega
    have hhead : Holds src i (UInt8.ofNat c.toNat :: (ds.map fun c => UInt8.ofNat c.toNat)) :=
      holds_cons.mpr ⟨hc, hrest⟩
    rw [integerDigits, dif_pos hhead.lt_size]
    simp only [hhead.getElem hhead.lt_size, isDigit_ofNat hdc, if_true, hdigit]
    rw [if_neg (by omega), hstep, ih (fun c hc => hd c (List.mem_cons_of_mem _ hc)) hrest
      (by simpa [Nat.add_assoc, Nat.add_comm 1] using hend) (hstep ▸ hmax)]
    simp [Nat.add_assoc, Nat.add_comm 1]

/-- The decimal digits of a positive number do not start with a zero. -/
theorem toDigits_head {m : Nat} (hm : 0 < m) : ∃ d rest, Nat.toDigits 10 m = d :: rest ∧ d ≠ '0' := by
  induction m using Nat.strong_induction_on with
  | _ m ih =>
    rw [Nat.toDigits_eq_if (by omega)]
    split
    · rename_i hlt
      refine ⟨_, [], rfl, ?_⟩
      interval_cases m <;> decide
    · obtain ⟨d, rest, hds, hd⟩ := ih (m / 10) (by omega) (by omega)
      exact ⟨d, rest ++ _, by rw [hds]; rfl, hd⟩

theorem isDigit_of_toDigits {m : Nat} {c : Char} (h : c ∈ Nat.toDigits 10 m) : c.isDigit = true :=
  Nat.isDigit_of_mem_toDigits (by omega) (by omega) h

/-- **A natural number written in decimal is read back** as the significand of an integer,
whatever follows that is not a digit. -/
theorem number_toDigits {src : ByteArray} {positive : Bool} {i : Nat} (m : Nat)
    (hm : m ≤ maxUnsigned) (h : Holds src i ((Nat.toDigits 10 m).map fun c => UInt8.ofNat c.toNat))
    (hend : ∀ b, src[i + (Nat.toDigits 10 m).length]? = some b → isDigit b = false) :
    number src positive i = afterInteger src positive m (i + (Nat.toDigits 10 m).length) := by
  rcases Nat.eq_zero_or_pos m with rfl | hpos
  · -- a lone zero: the next byte must not be a digit
    have h0 : Nat.toDigits 10 0 = ['0'] := rfl
    rw [h0] at h hend ⊢
    have hc : src[i]? = some 48 := (holds_cons.mp h).1
    rw [number, hc]
    rcases h1 : src[i + 1]? with _ | b
    · rfl
    · have hb : isDigit b = false := hend b h1
      simp [hb]
  · obtain ⟨d, rest, hds, hd⟩ := toDigits_head hpos
    have hdd : d.isDigit = true := isDigit_of_toDigits (hds ▸ List.mem_cons_self)
    rw [hds] at h hend ⊢
    simp only [List.map_cons] at h
    obtain ⟨hc, hrest⟩ := holds_cons.mp h
    have hne : UInt8.ofNat d.toNat ≠ 48 := by
      intro heq
      apply hd
      have := congrArg UInt8.toNat heq
      rw [uint8_toNat_ofNat (by have := isDigit_toNat hdd; omega)] at this
      rw [← Char.ofNat_toNat d, this]
      rfl
    rw [number, hc]
    have hval : Nat.ofDigitChars 10 rest ((UInt8.ofNat d.toNat).toNat - 48) = m := by
      rw [uint8_toNat_ofNat (by have := isDigit_toNat hdd; omega)]
      have : Nat.ofDigitChars 10 (Nat.toDigits 10 m) 0 = m := Nat.ofDigitChars_ten_toDigits
      rw [hds, Nat.ofDigitChars_cons] at this
      simpa using this
    split
    · rename_i h0
      cases h0
    · rename_i h0
      exact absurd (Option.some.inj h0) hne
    · rename_i b _ h0
      obtain rfl := Option.some.inj h0
      rw [if_pos (isDigit_ofNat hdd),
        integerDigits_digits rest (fun c hc => isDigit_of_toDigits (hds ▸ List.mem_cons_of_mem _ hc))
          hrest (by simpa [Nat.add_assoc, Nat.add_comm 1] using hend) (by rw [hval]; exact hm),
        hval]
      simp [Nat.add_assoc, Nat.add_comm 1]

/-- **What may follow a value in compact text**: nothing, a comma, or a closing bracket. -/
def Delimited (src : ByteArray) (j : Nat) : Prop :=
  src[j]? = none ∨ src[j]? = some 44 ∨ src[j]? = some 93 ∨ src[j]? = some 125

theorem Delimited.not_digit {src : ByteArray} {j : Nat} (h : Delimited src j) :
    ∀ b, src[j]? = some b → isDigit b = false := by
  intro b hb
  rcases h with h | h | h | h <;> rw [h] at hb <;> cases hb <;> rfl

theorem afterInteger_delimited {src : ByteArray} {positive : Bool} {m j : Nat} (h : Delimited src j) :
    afterInteger src positive m j =
      if positive then .ok (.posInt m.toUInt64, j)
      else if m = 0 then .ok (.float (-0.0 : Float).toBits, j)
      else if m ≤ Nat.pow 2 63 then .ok (.negInt (Int64.ofInt (-(m : Int))), j)
      else .ok (.float (-(m.toUInt64.toFloat)).toBits, j) := by
  rcases h with h | h | h | h <;> simp [afterInteger, h]

theorem toUTF8_toString_nat (m : Nat) :
    (toString m).toUTF8.data.toList = (Nat.toDigits 10 m).map fun c => UInt8.ofNat c.toNat :=
  toUTF8_ofList_digits fun _ hc => isDigit_of_toDigits hc

/-- **A non-negative integer is read back** from its decimal text. -/
theorem number_posInt {src : ByteArray} {i : Nat} (n : UInt64)
    (h : Holds src i (Number.posInt n).text.toUTF8.data.toList)
    (hd : Delimited src (i + (Number.posInt n).text.toUTF8.data.toList.length)) :
    number src true i = .ok (.posInt n, i + (Number.posInt n).text.toUTF8.data.toList.length) := by
  simp only [Number.text, toUTF8_toString_nat, List.length_map] at h hd ⊢
  have hmax : n.toNat ≤ maxUnsigned := by
    have := n.toNat_lt
    simp [maxUnsigned]
    omega
  rw [number_toDigits n.toNat hmax h hd.not_digit, afterInteger_delimited hd, if_pos rfl,
    Nat.toUInt64_eq, UInt64.ofNat_toNat]

/-- A negative integer is written as a minus sign and the decimal digits of its magnitude. -/
theorem negInt_text {n : Int64} (hn : n.toInt < 0) :
    ∃ k, n.toInt = Int.negSucc k ∧ (Number.negInt n).text.toUTF8.data.toList =
      45 :: (Nat.toDigits 10 (k + 1)).map fun c => UInt8.ofNat c.toNat := by
  obtain ⟨k, hk⟩ : ∃ k, n.toInt = Int.negSucc k := by
    rcases hv : n.toInt with k | k
    · rw [hv] at hn
      exact absurd hn (Int.not_lt.mpr (Int.natCast_nonneg k))
    · exact ⟨k, rfl⟩
  refine ⟨k, hk, ?_⟩
  rw [Number.text, hk]
  show ("-" ++ toString (k + 1)).toUTF8.data.toList = _
  rw [toUTF8_append_toList, toUTF8_toString_nat]
  rfl

/-- **A negative integer is read back** from a minus sign and its decimal digits. -/
theorem number_negInt {src : ByteArray} {i : Nat} (n : Int64) (hn : n.toInt < 0)
    (h : Holds src i (Number.negInt n).text.toUTF8.data.toList)
    (hd : Delimited src (i + (Number.negInt n).text.toUTF8.data.toList.length)) :
    src[i]? = some 45 ∧
      number src false (i + 1) = .ok (.negInt n, i + (Number.negInt n).text.toUTF8.data.toList.length) := by
  obtain ⟨k, hk, htext⟩ := negInt_text hn
  rw [htext] at h hd ⊢
  obtain ⟨hminus, hdigits⟩ := holds_cons.mp h
  refine ⟨hminus, ?_⟩
  have hlow : -(2 : Int) ^ 63 ≤ n.toInt := Int64.le_toInt n
  rw [hk, Int.negSucc_eq] at hlow
  have hmax : k + 1 ≤ Nat.pow 2 63 := by
    rw [Nat.pow_eq]
    norm_num at hlow ⊢
    omega
  have hval : Int64.ofInt (-((k + 1 : Nat) : Int)) = n := by
    rw [← Int64.ofInt_toInt n, hk, Int.negSucc_eq]
    rfl
  simp only [List.length_cons, List.length_map] at hd ⊢
  rw [number_toDigits (k + 1) (by simp [maxUnsigned] at hmax ⊢; omega) hdigits
      (by simpa [Nat.add_assoc, Nat.add_comm 1] using hd.not_digit),
    afterInteger_delimited (by simpa [Nat.add_assoc, Nat.add_comm 1] using hd),
    if_neg Bool.false_ne_true, if_neg (by omega), if_pos hmax, hval]
  simp [Nat.add_assoc, Nat.add_comm 1]

end HubService.Json
