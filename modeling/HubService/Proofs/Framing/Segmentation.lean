import HubService.Proofs.Framing.Cut

/-!
# Where the stream is cut does not move a structured frame

The chunks a decoder is fed can be cut anywhere, and the decoder behaves differently at their
ends: garbage that reaches the end of a chunk outside quotes is handed out at once, and the next
chunk starts a fresh frame – blanks skipped, the kind chosen by the first byte, the quote state
cleared. This file shows that none of that touches a structured frame: as long as nothing can be
refused, every way of cutting a stream gives the same structured frames, in the same order
(`HubService.Wire.Decoder.structured_feed_chunks_eq`), namely those that calls on the whole
stream at once take (`HubService.Wire.Decoder.structured_feedBytes`).

Two lemmas carry it.

* **Cutting after any prefix** (`HubService.Wire.Decoder.structuredOf_append`): the structured
  frames of `xs ++ ys` are those of `xs`, then those of what the calls on `xs` leave followed by
  `ys`. A frame that ends within `xs` ends at the same byte within `xs ++ ys`; what is left
  waiting is scanned again from its start once more bytes come.
* **Garbage carried on is a fresh start** (`HubService.Wire.Decoder.structuredAfterGarbage_eq`):
  where the calls on `xs` flushed garbage, the calls on `xs ++ ys` carry the garbage on into
  `ys`. A garbage run only sees the quote state (`HubService.Wire.Scan.run_garbage_agree`), and
  outside quotes that state is the fresh one (`HubService.Wire.Scan.Settled`); blanks it takes
  are blanks a fresh decoder skips, and where it stops – before a bracket or a newline – a fresh
  decoder starts a frame too.
-/

namespace HubService.Wire

namespace Decoder

/-! ### Structured frames -/

/-- Whether a frame opens with a bracket, that is, is a structured frame. -/
def opensWithBracket : List UInt8 → Bool
  | b :: _ => b == 123 || b == 91
  | [] => false

/-- The structured frames calls of a decoder take from the bytes, until nothing more comes out. -/
def structuredOf (M : Nat) (xs : List UInt8) : List (List UInt8) :=
  (cutAll M xs).1.filter opensWithBracket

@[simp] theorem structuredOf_nil (M : Nat) : structuredOf M [] = [] := by
  rw [structuredOf, cutAll_of_none (show cut M [] = ([], .ok none) from rfl)]
  rfl

theorem structuredOf_dropWhile (M : Nat) (xs : List UInt8) :
    structuredOf M (xs.dropWhile isAsciiBlank) = structuredOf M xs := by
  rw [structuredOf, structuredOf, cutAll_congr (cut_dropWhile M xs)]

/-- Garbage keeps its first byte when it loses its trailing blanks, so it never opens with a
bracket. -/
theorem opensWithBracket_garbage {b : UInt8} (zs : List UInt8) (hb : isAsciiBlank b = false)
    (hk : FrameKind.ofFirst b = .garbage) :
    opensWithBracket ((b :: zs).rdropWhile isAsciiBlank) = false := by
  have hne : (b :: zs).rdropWhile isAsciiBlank ≠ [] := by
    rw [Ne, List.rdropWhile_eq_nil_iff]
    intro hall
    simp [hb] at hall
  obtain ⟨t, ht⟩ := List.rdropWhile_prefix isAsciiBlank (b :: zs)
  obtain ⟨c, cs, hc⟩ := List.exists_cons_of_ne_nil hne
  rw [hc, List.cons_append, List.cons.injEq] at ht
  rw [hc, ht.1]
  unfold FrameKind.ofFirst at hk
  simp only [opensWithBracket]
  split at hk
  · cases hk
  · rename_i hno
    simpa using hno

/-- The structured frames after a garbage run carried on from `g` over the bytes: none if it
runs to their end, else those of the bytes from where it stops. -/
def structuredAfterGarbage (M : Nat) (g : Scan) (ys : List UInt8) : List (List UInt8) :=
  match Scan.run Scan.garbageMove g ys with
  | .ended n _ => structuredOf M (ys.drop n)
  | .running _ => []

theorem structuredAfterGarbage_congr {M : Nat} {g g' : Scan} (h : g.SameQuotes g')
    (ys : List UInt8) : structuredAfterGarbage M g ys = structuredAfterGarbage M g' ys := by
  have hagree := Scan.run_garbage_agree h ys
  unfold structuredAfterGarbage
  cases hr : Scan.run Scan.garbageMove g ys with
  | ended n s =>
    cases hr' : Scan.run Scan.garbageMove g' ys with
    | ended m s' =>
      rw [hr, hr'] at hagree
      simp only [Scan.Progress.Agree] at hagree
      rw [hagree]
    | running t =>
      rw [hr, hr'] at hagree
      exact hagree.elim
  | running s =>
    cases hr' : Scan.run Scan.garbageMove g' ys with
    | ended m s' =>
      rw [hr, hr'] at hagree
      exact hagree.elim
    | running t => rfl

theorem structuredAfterGarbage_append {M : Nat} {g s : Scan} {p : List UInt8}
    (hr : Scan.run Scan.garbageMove g p = .running s) (ys : List UInt8) :
    structuredAfterGarbage M g (p ++ ys) = structuredAfterGarbage M s ys := by
  unfold structuredAfterGarbage
  rw [Scan.run_append_of_running _ hr]
  cases Scan.run Scan.garbageMove s ys with
  | ended n s' =>
    simp only [Scan.Progress.after_ended]
    rw [← List.drop_drop, List.drop_left]
  | running s' => rfl

/-- **Bytes that open with garbage** give the structured frames after the garbage run. -/
theorem structuredOf_garbage {M : Nat} {b : UInt8} {zs : List UInt8} (hb : isAsciiBlank b = false)
    (hk : FrameKind.ofFirst b = .garbage) (hM : (b :: zs).length ≤ M) :
    structuredOf M (b :: zs) = structuredAfterGarbage M FrameKind.garbage.start (b :: zs) := by
  have hd : (b :: zs).dropWhile isAsciiBlank = b :: zs :=
    List.dropWhile_cons_of_neg (by simp [hb])
  have hlen (n : Nat) (hn : (FrameKind.ofFirst b).length? (b :: zs) = some n) :
      cut M (b :: zs) =
        ((b :: zs).drop n, .ok (some (FrameKind.garbage.trim ((b :: zs).take n)))) := by
    have hle := (FrameKind.length?_bounds hb hn).2
    simp only [List.length_cons] at hM
    unfold cut
    rw [hd]
    dsimp only
    rw [hn]
    dsimp only
    rw [if_neg (by omega), hk]
  have hwait (hn : (FrameKind.ofFirst b).length? (b :: zs) = none) :
      cut M (b :: zs) = (b :: zs, .ok none) := by
    unfold cut
    rw [hd]
    dsimp only
    rw [hn, if_neg (by omega)]
  unfold structuredAfterGarbage
  cases hr : Scan.run Scan.garbageMove FrameKind.garbage.start (b :: zs) with
  | ended n s =>
    have hn : (FrameKind.ofFirst b).length? (b :: zs) = some n := by
      rw [FrameKind.length?, hk, FrameKind.move_garbage, hr]
    obtain ⟨m, rfl⟩ : ∃ m, n = m + 1 :=
      ⟨n - 1, by have := (FrameKind.length?_bounds hb hn).1; omega⟩
    rw [structuredOf, cutAll_of_frame (hlen _ hn), List.filter_cons_of_neg]
    · rfl
    · rw [List.take_succ_cons]
      simpa [FrameKind.trim] using opensWithBracket_garbage (zs.take m) hb hk
  | running s =>
    cases hs : s.inString with
    | true =>
      have hn : (FrameKind.ofFirst b).length? (b :: zs) = none := by
        rw [FrameKind.length?, hk, FrameKind.move_garbage, hr]
        simp [FrameKind.atEnd, hs]
      rw [structuredOf, cutAll_of_none (hwait hn)]
      rfl
    | false =>
      -- garbage to the end of the bytes, with no quote open: one frame and nothing after it
      have hn : (FrameKind.ofFirst b).length? (b :: zs) = some (b :: zs).length := by
        rw [FrameKind.length?, hk, FrameKind.move_garbage, hr]
        simp [FrameKind.atEnd, hs]
      rw [structuredOf, cutAll_of_frame (hlen _ hn), List.filter_cons_of_neg, List.drop_length]
      · exact structuredOf_nil M
      · rw [List.take_length]
        simpa [FrameKind.trim] using opensWithBracket_garbage zs hb hk

/-- **Garbage carried on is a fresh start**: a garbage run carried on from a scan outside quoted
text gives the structured frames a fresh decoder finds in the same bytes. -/
theorem structuredAfterGarbage_eq {M : Nat} {g : Scan} (hg : g.inString = false)
    (he : g.escaped = false) (ys : List UInt8) (hM : ys.length ≤ M) :
    structuredAfterGarbage M g ys = structuredOf M ys := by
  induction ys with
  | nil =>
    rw [structuredOf_nil]
    rfl
  | cons b ys ih =>
    have h34 : b ≠ 34 → g.quoted b = (g, false) := fun h => by simp [Scan.quoted, hg, h]
    by_cases hstop : (b == 123 || b == 91 || b == 10) = true
    · -- the run stops before the byte, where a fresh decoder starts too
      have hb34 : b ≠ 34 := by
        rintro rfl
        simp at hstop
      have hmove : Scan.garbageMove g b = .endBefore := by
        simp [Scan.garbageMove, h34 hb34, hstop]
      unfold structuredAfterGarbage
      rw [Scan.run_cons_endBefore _ hmove]
      rfl
    · by_cases hblank : isAsciiBlank b = true
      · -- a blank goes into the garbage, and a fresh decoder skips it
        have hb34 : b ≠ 34 := by
          rintro rfl
          simp [isAsciiBlank] at hblank
        have hmove : Scan.garbageMove g b = .next g := by
          simp [Scan.garbageMove, h34 hb34, hstop]
        have hskip : structuredOf M (b :: ys) = structuredOf M ys := by
          rw [← structuredOf_dropWhile, List.dropWhile_cons_of_pos hblank, structuredOf_dropWhile]
        rw [hskip, ← ih (by simp only [List.length_cons] at hM; omega)]
        unfold structuredAfterGarbage
        rw [Scan.run_cons_next _ hmove]
        cases Scan.run Scan.garbageMove g ys with
        | ended n s =>
          simp only [Scan.Progress.after_ended]
          rw [Nat.add_comm, List.drop_succ_cons]
        | running s => rfl
      · -- any other byte opens garbage afresh, in the quote state the carried run is in
        have hk : FrameKind.ofFirst b = .garbage := by
          simp only [Bool.or_eq_true, beq_iff_eq, not_or] at hstop
          simp [FrameKind.ofFirst, hstop.1.1, hstop.1.2]
        rw [structuredOf_garbage (by simpa using hblank) hk hM]
        exact structuredAfterGarbage_congr ⟨hg, he⟩ _

/-- Blanks after what a call takes nothing from change nothing either: the bytes it leaves are
the bytes without their leading blanks. -/
theorem dropWhile_append_dropWhile (xs ys : List UInt8) :
    (xs.dropWhile isAsciiBlank ++ ys).dropWhile isAsciiBlank =
      (xs ++ ys).dropWhile isAsciiBlank := by
  rw [List.dropWhile_append, List.dropWhile_append, List.dropWhile_idempotent]

/-- **Cutting the stream after `xs`**: the structured frames of `xs ++ ys` are those calls on `xs`
take, then those of what the calls leave followed by `ys` – as long as nothing is refused. -/
theorem structuredOf_append {M : Nat} {xs ys : List UInt8} (h : (xs ++ ys).length ≤ M) :
    structuredOf M (xs ++ ys) = structuredOf M xs ++ structuredOf M ((cutAll M xs).2.1 ++ ys) := by
  fun_induction cutAll M xs with
  | case1 xs rest f hcut r ih =>
    obtain ⟨b, r', hd, ⟨n, s, hrun, hn, hrest, hf⟩ | ⟨s, hk, hrun, hs, hrest, hf⟩⟩ :=
      cut_frame_cases hcut
    · -- the frame ended within `xs`: the same call on `xs ++ ys` takes it too
      have hnle := Scan.le_length_of_run_eq_ended _ hrun
      have hcut' : cut M (xs ++ ys) = (rest ++ ys, .ok (some f)) := by
        have hlen : (FrameKind.ofFirst b).length? (b :: (r' ++ ys)) = some n := by
          rw [FrameKind.length?, ← List.cons_append, Scan.run_append_of_ended _ hrun]
        unfold cut
        rw [List.dropWhile_append, hd]
        simp only [List.isEmpty_cons, Bool.false_eq_true, ↓reduceIte, List.cons_append]
        rw [hlen]
        dsimp only
        rw [if_neg (by omega), hrest, hf, ← List.cons_append, List.drop_append_of_le_length hnle,
          List.take_append_of_le_length hnle]
      have hlt := length_lt_of_cut hcut
      have key := ih (by simp only [List.length_append] at h ⊢; omega)
      unfold structuredOf at key ⊢
      rw [cutAll_of_frame hcut', cutAll_of_frame hcut]
      dsimp only
      rw [List.filter_cons, List.filter_cons, key]
      split <;> simp [r]
    · -- garbage ran to the end of `xs` outside quotes: on `xs ++ ys` it carries on into `ys`,
      -- which gives what a fresh decoder finds in `ys`
      subst hrest
      have hb := blank_head_dropWhile hd
      have hsettled := Scan.settled_run_garbage (fun _ => rfl) hrun
      have hxs : structuredOf M xs = [] := by
        rw [structuredOf, cutAll_of_frame hcut, List.filter_cons_of_neg]
        · exact structuredOf_nil M
        · rw [hf]
          simpa using opensWithBracket_garbage r' hb hk
      have hlen : (b :: (r' ++ ys)).length ≤ M := by
        have := List.length_dropWhile_le isAsciiBlank xs
        rw [hd] at this
        simp only [List.length_append, List.length_cons] at h this ⊢
        omega
      have hys : ys.length ≤ M := by
        simp only [List.length_append] at h
        omega
      rw [hxs, List.nil_append]
      dsimp only [r]
      rw [cutAll_of_none (show cut M [] = ([], .ok none) from rfl), List.nil_append,
        ← structuredOf_dropWhile M (xs ++ ys), List.dropWhile_append, hd]
      simp only [List.isEmpty_cons, Bool.false_eq_true, ↓reduceIte, List.cons_append]
      rw [structuredOf_garbage hb hk hlen, ← List.cons_append,
        structuredAfterGarbage_append hrun, structuredAfterGarbage_eq hs (hsettled hs) ys hys]
  | case2 xs rest hcut =>
    -- nothing taken: the calls left `xs` without its leading blanks
    have hxs : structuredOf M xs = [] := by
      rw [structuredOf, cutAll_of_none hcut]
      rfl
    dsimp only
    rw [hxs, List.nil_append, eq_dropWhile_of_cut_none hcut,
      ← structuredOf_dropWhile M (xs ++ ys), ← dropWhile_append_dropWhile, structuredOf_dropWhile]
  | case3 xs rest e hcut =>
    have := lt_length_of_cut_error hcut
    simp only [List.length_append] at h
    omega

/-- **What the calls leave holds no structured frame**, when nothing was refused. -/
theorem structuredOf_cutAll_leftover {M : Nat} {xs : List UInt8} (h : xs.length ≤ M) :
    structuredOf M (cutAll M xs).2.1 = [] := by
  fun_induction cutAll M xs with
  | case1 xs rest f hcut r ih => exact ih (Nat.le_trans (Nat.le_of_lt (length_lt_of_cut hcut)) h)
  | case2 xs rest hcut =>
    -- the calls stopped on `rest`, and a call on it stops there again
    have hagain : cut M rest = (rest, .ok none) := by
      rw [eq_dropWhile_of_cut_none hcut, cut_dropWhile, hcut, eq_dropWhile_of_cut_none hcut]
    rw [structuredOf, cutAll_of_none hagain]
    rfl
  | case3 xs rest e hcut =>
    have := lt_length_of_cut_error hcut
    omega

/-- **The structured frames of a stream do not depend on its chunks**: fed in chunks after bytes
left that hold no structured frame, a decoder whose limit is no shorter than all the bytes
releases the structured frames that calls on all of them at once take. -/
theorem structured_feedBytes {M : Nat} {buf : List UInt8} (hbuf : structuredOf M buf = [])
    {chunks : List (List UInt8)} (h : (buf ++ chunks.flatten).length ≤ M) :
    ((feedBytes M buf chunks).2.flatMap (·.1)).filter opensWithBracket =
      structuredOf M (buf ++ chunks.flatten) := by
  induction chunks generalizing buf with
  | nil => simp [feedBytes, hbuf]
  | cons c cs ih =>
    have hle := length_cutAll_le M (buf ++ c)
    have hM : (buf ++ c ++ cs.flatten).length ≤ M := by simpa using h
    simp only [feedBytes, List.flatMap_cons, List.filter_append]
    rw [ih (structuredOf_cutAll_leftover (by simp only [List.length_append] at hM ⊢; omega))
      (by simp only [List.length_append] at hM hle ⊢; omega),
      List.flatten_cons, ← List.append_assoc, structuredOf_append hM]
    rfl

/-! ### Byte arrays -/

theorem map_toList_filter_opensWithBracket (frames : List ByteArray) :
    (frames.filter fun f => opensWithBracket f.data.toList).map (·.data.toList) =
      (frames.map (·.data.toList)).filter opensWithBracket := by
  rw [List.filter_map]
  rfl

/-- **Fed in chunks, a stream gives the structured frames of the whole stream**, when the limit is
no shorter than the stream. -/
theorem structured_feed_eq_structuredOf (M : Nat) (chunks : List ByteArray)
    (hM : (chunks.map (·.data.toList)).flatten.length ≤ M) :
    ((((withMaxFrame M).feed .empty chunks).2.2.flatMap (·.1)).filter
        fun f => opensWithBracket f.data.toList).map (·.data.toList) =
      structuredOf M (chunks.map (·.data.toList)).flatten := by
  have key : ((feedBytes M [] (chunks.map (·.data.toList))).2.flatMap (·.1)).filter
      opensWithBracket = structuredOf M ([] ++ (chunks.map (·.data.toList)).flatten) :=
    structured_feedBytes (structuredOf_nil M) (by simpa using hM)
  obtain ⟨hfeed, -, -⟩ := feed_eq_feedBytes (synced_withMaxFrame M ByteArray.empty) chunks
  generalize (withMaxFrame M).feed ByteArray.empty chunks = r at hfeed ⊢
  change Fed.toLists r = feedBytes M [] _ at hfeed
  rw [map_toList_filter_opensWithBracket, Fed.frames_toLists, hfeed, key, List.nil_append]

/-- **Where a stream is cut does not change its structured frames.** Two ways of cutting the same
bytes into chunks, each fed to a fresh decoder whose limit is no shorter than the bytes, give the
same structured frames in the same order. -/
theorem structured_feed_chunks_eq (M : Nat) (chunks chunks' : List ByteArray)
    (hsame : chunks.foldl (· ++ ·) ByteArray.empty = chunks'.foldl (· ++ ·) ByteArray.empty)
    (hM : (chunks.foldl (· ++ ·) ByteArray.empty).size ≤ M) :
    (((withMaxFrame M).feed .empty chunks).2.2.flatMap (·.1)).filter
        (fun f => opensWithBracket f.data.toList) =
      (((withMaxFrame M).feed .empty chunks').2.2.flatMap (·.1)).filter
        (fun f => opensWithBracket f.data.toList) := by
  have hbytes (cs : List ByteArray) :
      (cs.foldl (· ++ ·) ByteArray.empty).data.toList = (cs.map (·.data.toList)).flatten := by
    simp [toList_foldl_append]
  have hlen : (chunks.map (·.data.toList)).flatten.length ≤ M := by
    rw [← hbytes]
    simpa using hM
  have hsame' : (chunks.map (·.data.toList)).flatten = (chunks'.map (·.data.toList)).flatten := by
    rw [← hbytes, ← hbytes, hsame]
  apply List.map_injective_iff.mpr (fun _ _ => eq_of_toList_eq)
  rw [structured_feed_eq_structuredOf M chunks hlen,
    structured_feed_eq_structuredOf M chunks' (hsame' ▸ hlen), hsame']

/-- Garbage, then an object with a closing brace inside a quoted string, a newline and an array:
fed whole or in four pieces cut inside the quotes, the same structured frames come out. -/
theorem structured_feed_chunks_eq_quoted_brace :
    let whole := ["ab\x7b\"x\":\"\x7d\"\x7d\n[1]".toUTF8]
    let pieces := ["ab\x7b\"x".toUTF8, "\":\"\x7d".toUTF8, "\"\x7d\n[".toUTF8, "1]".toUTF8]
    whole.foldl (· ++ ·) ByteArray.empty = pieces.foldl (· ++ ·) ByteArray.empty ∧
      (whole.foldl (· ++ ·) ByteArray.empty).size ≤ 64 ∧
      (((withMaxFrame 64).feed .empty whole).2.2.flatMap (·.1)).filter
          (fun f => opensWithBracket f.data.toList) =
        (((withMaxFrame 64).feed .empty pieces).2.2.flatMap (·.1)).filter
          (fun f => opensWithBracket f.data.toList) := by
  intro whole pieces
  have hsame : whole.foldl (· ++ ·) ByteArray.empty = pieces.foldl (· ++ ·) ByteArray.empty := by
    decide
  have hM : (whole.foldl (· ++ ·) ByteArray.empty).size ≤ 64 := by decide
  exact ⟨hsame, hM, structured_feed_chunks_eq 64 whole pieces hsame hM⟩

end Decoder

end HubService.Wire
