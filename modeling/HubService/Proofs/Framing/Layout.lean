import HubService.Proofs.Framing.Shape

/-!
# Where the bytes of a stream go

Every byte given to a decoder ends up in exactly one place: among the blanks skipped before a
frame, in a frame handed out, among the blanks trimmed off the end of a garbage frame, or in the
bytes still held. `HubService.Wire.Layout xs fs r` says that the bytes `xs` are laid out as

```
  w₀ g₁ u₁ w₁ g₂ u₂ … wₖ r
```

where `fs = [g₁, …, gₖ]`, every `wᵢ` is blanks, every `gᵢ` is a frame of one of the two shapes
of `HubService.Wire.IsStructuredFrame` and `HubService.Wire.IsGarbageFrame`, and `uᵢ` is the blanks
trimmed off it, none for a structured frame (`HubService.Wire.Trimmed`).

The layout is built call by call. One call takes blanks and a frame off the front of the bytes
(`HubService.Wire.Decoder.cut_layout_frame`), so calls until nothing more comes out lay out what
they were given (`HubService.Wire.Decoder.cutAll_layout`); the layouts of consecutive pieces join
(`HubService.Wire.Layout.join`), and a whole stream fed in chunks is laid out
(`HubService.Wire.Decoder.feed_layout`), refusals included.

At the end of the stream the decoder drops the bytes it holds when no frame comes out of them;
**it drops them only when they hold no whole frame** (`HubService.Wire.HoldsFrame`): neither a
structured frame nor garbage whose end has been seen.
-/

namespace HubService.Wire

/-! ### Blanks, frames and layouts -/

/-- Bytes that are all blanks. -/
def AllBlank (w : List UInt8) : Prop := ∀ b ∈ w, isAsciiBlank b = true

theorem allBlank_nil : AllBlank [] := fun _ h => absurd h List.not_mem_nil

theorem AllBlank.append {w w' : List UInt8} (h : AllBlank w) (h' : AllBlank w') :
    AllBlank (w ++ w') := by
  intro b hb
  rcases List.mem_append.mp hb with hb | hb
  · exact h b hb
  · exact h' b hb

theorem allBlank_takeWhile (xs : List UInt8) : AllBlank (xs.takeWhile isAsciiBlank) :=
  fun _ hb => List.mem_takeWhile_imp hb

theorem allBlank_rtakeWhile (xs : List UInt8) : AllBlank (xs.rtakeWhile isAsciiBlank) :=
  fun _ hb => List.mem_rtakeWhile_imp hb

/-- Bytes are their leading blanks and what follows them. -/
theorem exists_blanks_of_dropWhile {xs ys : List UInt8} (h : xs.dropWhile isAsciiBlank = ys) :
    ∃ w, AllBlank w ∧ xs = w ++ ys :=
  ⟨xs.takeWhile isAsciiBlank, allBlank_takeWhile xs, by rw [← h, List.takeWhile_append_dropWhile]⟩

/-- Blanks before a byte that is no blank are all that skipping blanks drops. -/
theorem dropWhile_blanks_append {w t : List UInt8} {b : UInt8} (hw : AllBlank w)
    (hb : isAsciiBlank b = false) : (w ++ b :: t).dropWhile isAsciiBlank = b :: t := by
  induction w with
  | nil => simp [List.dropWhile_cons_of_neg, hb]
  | cons c w ih =>
    rw [List.cons_append, List.dropWhile_cons_of_pos (hw c List.mem_cons_self)]
    exact ih fun x hx => hw x (List.mem_cons_of_mem c hx)

/-- **A frame as it is handed out**, with the blanks trimmed off its end: a structured frame loses
none, garbage its trailing blanks. -/
inductive Trimmed : List UInt8 → List UInt8 → Prop where
  | structured {g : List UInt8} (h : IsStructuredFrame g) : Trimmed g []
  | garbage {g u : List UInt8} (h : IsGarbageFrame g) (hu : AllBlank u) : Trimmed g u

/-- **The layout of a stream's bytes** `xs`, with the frames `fs` handed out and the bytes `r`
still held: blanks and the bytes held, or blanks, a frame with the blanks trimmed off it, and
the layout of the rest. -/
inductive Layout : List UInt8 → List (List UInt8) → List UInt8 → Prop where
  | rest {w r : List UInt8} (hw : AllBlank w) : Layout (w ++ r) [] r
  | frame {w g u xs : List UInt8} {fs : List (List UInt8)} {r : List UInt8} (hw : AllBlank w)
      (hg : Trimmed g u) (t : Layout xs fs r) : Layout (w ++ g ++ u ++ xs) (g :: fs) r

namespace Layout

theorem self (r : List UInt8) : Layout r [] r := by
  simpa using Layout.rest (r := r) allBlank_nil

/-- More blanks in front change nothing. -/
theorem blanks_append {w xs : List UInt8} {fs : List (List UInt8)} {r : List UInt8}
    (hw : AllBlank w) (h : Layout xs fs r) : Layout (w ++ xs) fs r := by
  cases h with
  | rest hw' =>
    rw [← List.append_assoc]
    exact .rest (hw.append hw')
  | frame hw' hg t =>
    have := Layout.frame (hw.append hw') hg t
    simpa only [List.append_assoc] using this

/-- **Layouts join**: the bytes held at the end of one piece, followed by the next piece, are
laid out again. -/
theorem join {xs ys : List UInt8} {fs gs : List (List UInt8)} {r r' : List UInt8}
    (h : Layout xs fs r) (h' : Layout (r ++ ys) gs r') : Layout (xs ++ ys) (fs ++ gs) r' := by
  induction h with
  | rest hw =>
    rw [List.append_assoc]
    exact h'.blanks_append hw
  | frame hw hg _ ih =>
    have := Layout.frame hw hg (ih h')
    simpa only [List.append_assoc, List.cons_append] using this

end Layout

/-! ### What one call lays out -/

/-- Garbage a call takes, trimmed: the garbage shape and the blanks trimmed off it. -/
theorem trimmed_garbage {b : UInt8} {p : List UInt8} (hb : isAsciiBlank b = false)
    (hk : FrameKind.ofFirst b = .garbage) (hq : StopsQuoted {} (b :: p)) :
    Trimmed ((b :: p).rdropWhile isAsciiBlank) ((b :: p).rtakeWhile isAsciiBlank) :=
  .garbage (isGarbageFrame_rdropWhile hb hk hq) (allBlank_rtakeWhile _)

/-- The first byte of garbage never stops it. -/
theorem isGarbageStop_of_opens {b : UInt8} (hb : isAsciiBlank b = false)
    (hk : FrameKind.ofFirst b = .garbage) : isGarbageStop b = false := by
  have hob := FrameKind.ofFirst_eq_garbage.mp hk
  rw [isAsciiBlank_eq_false] at hb
  simp only [not_or] at hob
  simp [isGarbageStop, hob.1, hob.2, hb.2.2.1]

namespace Decoder

/-- **A call that takes a frame lays it out**: blanks, the frame, the blanks trimmed off it, and
the bytes it leaves. -/
theorem cut_layout_frame {M : Nat} {xs rest f : List UInt8} (h : cut M xs = (rest, .ok (some f))) :
    ∃ w u, AllBlank w ∧ Trimmed f u ∧ xs = w ++ f ++ u ++ rest := by
  obtain ⟨b, r, hd, hcase⟩ := cut_frame_cases h
  have hb := blank_head_dropWhile hd
  obtain ⟨w, hw, rfl⟩ := exists_blanks_of_dropWhile hd
  rcases hcase with ⟨n, s, hrun, -, rfl, rfl⟩ | ⟨s, hk, hrun, -, rfl, rfl⟩
  · cases hk : FrameKind.ofFirst b with
    | structured =>
      -- a structured frame is all the bytes up to where its run ended
      rw [hk, FrameKind.move_structured] at hrun
      refine ⟨w, [], hw, .structured (isStructuredFrame_take hk hrun), ?_⟩
      simp [FrameKind.trim]
    | garbage =>
      -- garbage ends before a stop, which its first byte is not
      rw [hk, FrameKind.move_garbage] at hrun
      obtain ⟨p, c, t, hp, hlen, hq, -, hc⟩ := Scan.run_garbageMove_ended hrun
      have htake : (b :: r).take n = p := by rw [hp, List.take_left' hlen]
      have hdrop : (b :: r).drop n = c :: t := by rw [hp, List.drop_left' hlen]
      cases p with
      | nil =>
        obtain ⟨rfl, -⟩ := List.cons.inj hp
        rw [isGarbageStop_of_opens hb hk] at hc
        cases hc
      | cons b' p =>
        obtain ⟨rfl, -⟩ := List.cons.inj hp
        rw [htake, hdrop]
        refine ⟨w, _, hw, trimmed_garbage hb hk hq, ?_⟩
        rw [FrameKind.trim, List.append_assoc w, List.rdropWhile_append_rtakeWhile, hp]
        simp
  · -- garbage that ran to the end of the bytes outside quoted text
    obtain ⟨-, hq⟩ := Scan.run_garbageMove_running hrun
    refine ⟨w, _, hw, trimmed_garbage hb hk hq, ?_⟩
    rw [List.append_nil, List.append_assoc w, List.rdropWhile_append_rtakeWhile]

/-- A refused call leaves the bytes without their leading blanks. -/
theorem eq_dropWhile_of_cut_error {M : Nat} {xs rest : List UInt8} {e : FrameTooLarge}
    (h : cut M xs = (rest, .error e)) : rest = xs.dropWhile isAsciiBlank := by
  unfold cut at h
  split at h
  · cases h
  · rename_i b r hd
    rw [hd]
    dsimp only at h
    split at h
    · split at h <;> cases h
      rfl
    · split at h <;> cases h
      rfl

theorem layout_dropWhile (xs : List UInt8) : Layout xs [] (xs.dropWhile isAsciiBlank) := by
  have h := Layout.rest (r := xs.dropWhile isAsciiBlank) (allBlank_takeWhile xs)
  rwa [List.takeWhile_append_dropWhile] at h

/-! ### A whole stream -/

/-- **Calls until nothing more comes out lay out the bytes they were given.** -/
theorem cutAll_layout (M : Nat) (xs : List UInt8) :
    Layout xs (cutAll M xs).1 (cutAll M xs).2.1 := by
  fun_induction cutAll M xs with
  | case1 xs rest f hcut r ih =>
    obtain ⟨w, u, hw, hf, rfl⟩ := cut_layout_frame hcut
    exact .frame hw hf ih
  | case2 xs rest hcut =>
    rw [eq_dropWhile_of_cut_none hcut]
    exact layout_dropWhile xs
  | case3 xs rest e hcut =>
    rw [eq_dropWhile_of_cut_error hcut]
    exact layout_dropWhile xs

/-- **Chunks fed one after another lay out the bytes held before and every chunk.** -/
theorem feedBytes_layout (M : Nat) (buf : List UInt8) (chunks : List (List UInt8)) :
    Layout (buf ++ chunks.flatten) ((feedBytes M buf chunks).2.flatMap (·.1))
      (feedBytes M buf chunks).1 := by
  induction chunks generalizing buf with
  | nil => simpa [feedBytes] using Layout.self buf
  | cons chunk chunks ih =>
    simp only [feedBytes, List.flatten_cons, List.flatMap_cons]
    rw [← List.append_assoc]
    exact (cutAll_layout M (buf ++ chunk)).join (ih _)

end Decoder

/-! ### The end of the stream -/

/-- **Bytes that hold a whole frame**: after some blanks, a frame of the structured shape, or
garbage whose end is seen: no stop outside quoted text, no quote left open, and after it either
the end of the bytes or a stop. -/
def HoldsFrame (xs : List UInt8) : Prop :=
  ∃ w g rest, xs = w ++ g ++ rest ∧ AllBlank w ∧
    (IsStructuredFrame g ∨
      (OpensGarbage g ∧ StopsQuoted {} g ∧ (quoteAfter g).inString = false ∧
        (rest = [] ∨ ∃ c t, rest = c :: t ∧ isGarbageStop c = true)))

/-- A stop outside quoted text ends a garbage run before it. -/
theorem garbageMove_of_stop {s : Scan} {c : UInt8} (hs : s.inString = false)
    (hc : isGarbageStop c = true) : Scan.garbageMove s c = .endBefore := by
  have h34 : c ≠ 34 := by
    rintro rfl
    simp [isGarbageStop] at hc
  rw [Scan.garbageMove_eq]
  simp [hs, h34, hc]

/-- A structured frame ends where it ends, whatever follows it. -/
theorem length?_of_isStructuredFrame {b : UInt8} {t : List UInt8}
    (hg : IsStructuredFrame (b :: t)) (rest : List UInt8) :
    (FrameKind.ofFirst b).length? (b :: t ++ rest) = some (b :: t).length := by
  obtain ⟨b', t', hbt, hb⟩ := hg.1
  obtain ⟨rfl, rfl⟩ := List.cons.inj hbt
  obtain ⟨s, hs⟩ := run_of_isStructuredFrame hg rest
  rw [FrameKind.length?, FrameKind.ofFirst_eq_structured.mpr hb, FrameKind.move_structured, hs]

/-- Garbage with no stop outside quoted text and no quote left open ends at the stop after it,
or at the end of the bytes. -/
theorem length?_of_garbage {b : UInt8} {t rest : List UInt8} (hk : FrameKind.ofFirst b = .garbage)
    (hq : StopsQuoted {} (b :: t)) (hout : (quoteAfter (b :: t)).inString = false)
    (hend : rest = [] ∨ ∃ c u, rest = c :: u ∧ isGarbageStop c = true) :
    ∃ n, (FrameKind.ofFirst b).length? (b :: t ++ rest) = some n := by
  -- the run goes on over the garbage and stands outside quoted text after it
  obtain ⟨s, hs, hsq⟩ := Scan.run_garbageMove_of_stopsQuoted (s := FrameKind.garbage.start) hq
  have hsout : s.inString = false := by
    rw [← Scan.quotes_inString, hsq]
    exact hout
  rw [FrameKind.length?, hk, FrameKind.move_garbage, Scan.run_append_of_running _ hs]
  rcases hend with rfl | ⟨c, u, rfl, hc⟩
  · exact ⟨(b :: t).length, by simp [FrameKind.atEnd, hsout]⟩
  · rw [Scan.run_cons_endBefore _ (garbageMove_of_stop hsout hc)]
    exact ⟨_, rfl⟩

/-- **A whole frame at the front of the bytes has an end the scan sees.** -/
theorem length?_of_holdsFrame {xs : List UInt8} (h : HoldsFrame xs) :
    ∃ b t n, xs.dropWhile isAsciiBlank = b :: t ∧
      (FrameKind.ofFirst b).length? (b :: t) = some n := by
  obtain ⟨w, g, rest, rfl, hw, hg⟩ := h
  rcases hg with hg | ⟨⟨b, t, rfl, hb, hb₁, hb₂⟩, hq, hout, hend⟩
  · obtain ⟨b, t, rfl, hb⟩ := hg.1
    have hblank : isAsciiBlank b = false := by rcases hb with rfl | rfl <;> rfl
    refine ⟨b, t ++ rest, _, ?_, length?_of_isStructuredFrame hg rest⟩
    rw [List.append_assoc]
    exact dropWhile_blanks_append hw hblank
  · have hk : FrameKind.ofFirst b = .garbage := FrameKind.ofFirst_eq_garbage.mpr (by
      rintro (rfl | rfl) <;> simp_all)
    obtain ⟨n, hn⟩ := length?_of_garbage hk hq hout hend
    refine ⟨b, t ++ rest, n, ?_, hn⟩
    rw [List.append_assoc]
    exact dropWhile_blanks_append hw hb

namespace Decoder

/-- **A call that takes nothing leaves no whole frame behind.** -/
theorem not_holdsFrame_of_cut_none {M : Nat} {xs rest : List UInt8}
    (h : cut M xs = (rest, .ok none)) : ¬HoldsFrame xs := by
  intro hx
  obtain ⟨b, t, n, hd, hn⟩ := length?_of_holdsFrame hx
  unfold cut at h
  rw [hd] at h
  dsimp only at h
  rw [hn] at h
  dsimp only at h
  split_ifs at h <;> cases h

/-- At the end of the stream, the bytes held are dropped only when a call would take nothing. -/
theorem decode_of_decodeEof_none {d : Decoder} {buf : ByteArray}
    (h : (d.decodeEof buf).2.2 = .ok none) : (d.decode buf).2.2 = .ok none := by
  unfold decodeEof at h
  split at h
  · rename_i hd
    rw [hd]
  · exact h

/-- **The decoder neither loses nor duplicates bytes, and drops only what holds no frame.** For
every stream fed in chunks to a fresh decoder, the bytes given lay out as blanks, the frames
handed out with the blanks trimmed off garbage, and the bytes held; and at the end of the
stream the bytes held are dropped only when they hold no whole frame. -/
theorem feed_layout (M : Nat) (chunks : List ByteArray) :
    Layout (chunks.map (·.data.toList)).flatten
        ((((withMaxFrame M).feed ByteArray.empty chunks).2.2.flatMap (·.1)).map (·.data.toList))
        ((withMaxFrame M).feed ByteArray.empty chunks).2.1.data.toList ∧
      ((((withMaxFrame M).feed ByteArray.empty chunks).1.decodeEof
          ((withMaxFrame M).feed ByteArray.empty chunks).2.1).2.2 = .ok none →
        ¬HoldsFrame ((withMaxFrame M).feed ByteArray.empty chunks).2.1.data.toList) := by
  obtain ⟨hfeed, hsync, hmax⟩ := feed_eq_feedBytes (synced_withMaxFrame M ByteArray.empty) chunks
  generalize (withMaxFrame M).feed ByteArray.empty chunks = r at hfeed hsync hmax ⊢
  change Fed.toLists r = feedBytes M [] _ at hfeed
  refine ⟨?_, fun heof => ?_⟩
  · have h := feedBytes_layout M [] (chunks.map (·.data.toList))
    rw [← hfeed, List.nil_append] at h
    rwa [Fed.frames_toLists]
  · -- the decoder held on to a scan that belongs to the bytes held, so it does what a call does
    have hcut : cut M r.2.1.data.toList = Decoded.toLists (r.1.decode r.2.1) := by
      rw [decode_of_synced hsync, cut_decode, hmax]
      rfl
    simp only [Decoded.toLists, decode_of_decodeEof_none heof, Except.map] at hcut
    exact not_holdsFrame_of_cut_none hcut

end Decoder

end HubService.Wire
