import HubService.Proofs.Framing.Cut
import HubService.Proofs.Json.Balanced
import HubService.Wire.Frame

/-!
# Frames written back to back are read back, however the stream is cut

A service writes its frames one after another with nothing between them
(`HubService.Wire.Frame.writeTo`), and the network hands the bytes over in chunks cut anywhere:
inside a key, between a backslash and the quote it escapes, inside a UUID, between two frames.
The main statement, `HubService.Wire.Decoder.feed_writeTo_chunks`, says that a fresh decoder fed
those chunks gives back exactly the written frames, in order, with no refusal and nothing left
over, whenever each frame fits the decoder's limit.

It rests on two facts:

* the bytes of every frame are one **whole structured frame** (`HubService.Wire.Whole`): they
  open with a brace, and the bracket count outside quoted text first comes back to zero at their
  last byte (`HubService.Wire.Frame.whole_encode`, from the balance of compact JSON text);
* calls of the decoder on whole frames laid end to end, cut anywhere, take the frames the cut
  completes and wait on the rest (`HubService.Wire.Decoder.cutAll_prefix_flatten`), so every
  chunk releases the frames it completes (`HubService.Wire.Decoder.feedBytes_flatten`).
-/

namespace HubService.Wire

open HubService.Json

/-! ### Whole structured frames -/

/-- **A whole structured frame**: bytes that open with a bracket, and whose scan ends the frame
at the last of them. -/
def Whole (e : List UInt8) : Prop :=
  ∃ b rest, e = b :: rest ∧ FrameKind.ofFirst b = .structured ∧
    ∃ s, Scan.run Scan.bracketMove FrameKind.structured.start e = .ended e.length s

theorem Whole.ne_nil {e : List UInt8} (h : Whole e) : e ≠ [] := by
  obtain ⟨b, rest, rfl, -⟩ := h
  exact List.cons_ne_nil _ _

/-- A bracket is no blank. -/
theorem isAsciiBlank_of_structured {b : UInt8} (h : FrameKind.ofFirst b = .structured) :
    isAsciiBlank b = false := by
  unfold FrameKind.ofFirst at h
  split at h
  · rename_i hb
    simp only [Bool.or_eq_true, beq_iff_eq] at hb
    rcases hb with rfl | rfl <;> rfl
  · cases h

/-- **An object written from balanced values is a whole frame.** -/
theorem whole_objectText {fields : List (String × String)} (h : ∀ kv ∈ fields, Balanced kv.2) :
    Whole (Frame.objectText fields).toUTF8.data.toList := by
  have hbody : Balanced (",".intercalate (fields.map fun kv => quote kv.1 ++ ":" ++ kv.2)) := by
    apply balanced_intercalate (balanced_of_plain (by decide))
    intro t ht
    obtain ⟨kv, hkv, rfl⟩ := List.mem_map.mp ht
    exact ((balanced_quote kv.1).append (balanced_of_plain (by decide))).append (h kv hkv)
  have hbytes : (Frame.objectText fields).toUTF8.data.toList =
      123 :: (",".intercalate (fields.map fun kv => quote kv.1 ++ ":" ++ kv.2)).toUTF8.data.toList
        ++ [125] := by
    simp only [Frame.objectText, toUTF8_append_toList]
    rfl
  rw [hbytes]
  exact ⟨123, _, rfl, rfl, _,
    Scan.run_bracketed_frame rfl rfl (.inl rfl) (.inl rfl) (hbody _ rfl rfl (Nat.succ_pos _))⟩

/-- **Every frame a service sends is one whole structured frame.** -/
theorem Frame.whole_encode (f : Frame) : Whole f.encode.toUTF8.data.toList := by
  cases f <;> apply whole_objectText <;>
    simp [balanced_quote, balanced_fields_compact, balanced_compact]

/-! ### Whole frames laid end to end -/

/-- `p` is the start of the first of the frames `es`, short of all of it; nothing when no frame
is left. -/
def Started (p : List UInt8) : List (List UInt8) → Prop
  | [] => p = []
  | e :: _ => p <+: e ∧ p.length < e.length

theorem started_nil {es : List (List UInt8)} (h : ∀ e ∈ es, e ≠ []) : Started [] es := by
  cases es with
  | nil => rfl
  | cons e es =>
    refine ⟨List.nil_prefix, ?_⟩
    exact List.length_pos_of_ne_nil (h e List.mem_cons_self)

namespace Decoder

/-- **A call on a whole frame takes it**, whatever follows. -/
theorem cut_whole_append {M : Nat} {e : List UInt8} (he : Whole e) (hM : e.length ≤ M)
    (ys : List UInt8) : cut M (e ++ ys) = (ys, .ok (some e)) := by
  obtain ⟨b, rest, rfl, hk, s, hrun⟩ := he
  have hb := isAsciiBlank_of_structured hk
  have hrun' : Scan.run (FrameKind.ofFirst b).move (FrameKind.ofFirst b).start
      (b :: rest ++ ys) = .ended (b :: rest).length s := by
    rw [hk, FrameKind.move_structured]
    exact Scan.run_append_of_ended _ hrun ys
  unfold cut
  rw [List.cons_append, List.dropWhile_cons_of_neg (by simp [hb])]
  dsimp only
  rw [FrameKind.length?, ← List.cons_append, hrun']
  dsimp only
  rw [if_neg (by omega)]
  simp [hk, FrameKind.trim]

/-- **A call on the start of a whole frame waits** for the rest of it. -/
theorem cut_start_of_whole {M : Nat} {e p : List UInt8} (he : Whole e) (hM : e.length ≤ M)
    (hp : p <+: e) (hlt : p.length < e.length) : cut M p = (p, .ok none) := by
  obtain ⟨b, rest, rfl, hk, s, hrun⟩ := he
  obtain ⟨q, hq⟩ := hp
  cases p with
  | nil => rfl
  | cons b' p =>
    simp only [List.cons_append, List.cons.injEq] at hq
    obtain ⟨rfl, hrest⟩ := hq
    have hb := isAsciiBlank_of_structured hk
    -- the scan of the whole frame ends only at its last byte, so it has not ended on a prefix
    have hwait : (FrameKind.ofFirst b').length? (b' :: p) = none := by
      rw [hk, FrameKind.length?, FrameKind.move_structured]
      cases hr : Scan.run Scan.bracketMove FrameKind.structured.start (b' :: p) with
      | ended n s' =>
        have hall := Scan.run_append_of_ended _ hr q
        rw [List.cons_append, hrest, hrun] at hall
        have hn := Scan.le_length_of_run_eq_ended _ hr
        simp only [Scan.Progress.ended.injEq] at hall
        omega
      | running s' => rfl
    unfold cut
    rw [List.dropWhile_cons_of_neg (by simp [hb])]
    dsimp only
    rw [hwait]
    dsimp only
    rw [if_neg (by omega)]

/-- **Whole frames laid end to end, cut anywhere**: calls of a decoder on the bytes before the cut
take the frames the cut completes and leave the start of the next, with no refusal, when every
frame fits the limit. -/
theorem cutAll_prefix_flatten {M : Nat} {es : List (List UInt8)}
    (hes : ∀ e ∈ es, Whole e ∧ e.length ≤ M) {P Q : List UInt8} (h : P ++ Q = es.flatten) :
    ∃ done rest p, es = done ++ rest ∧ P = done.flatten ++ p ∧ Started p rest ∧
      cutAll M P = (done, p, none) := by
  induction es generalizing P with
  | nil =>
    obtain ⟨rfl, -⟩ := List.append_eq_nil_iff.mp h
    exact ⟨[], [], [], rfl, rfl, rfl, cutAll_of_none rfl⟩
  | cons e es ih =>
    obtain ⟨hw, hM⟩ := hes e List.mem_cons_self
    rw [List.flatten_cons] at h
    by_cases hlt : P.length < e.length
    · -- the cut falls inside the first frame
      have hp : P <+: e :=
        List.prefix_of_prefix_length_le ⟨Q, h⟩ (List.prefix_append _ _) (Nat.le_of_lt hlt)
      exact ⟨[], e :: es, P, rfl, rfl, ⟨hp, hlt⟩, cutAll_of_none (cut_start_of_whole hw hM hp hlt)⟩
    · -- the first frame is complete before the cut, and the rest is a cut of the others
      obtain ⟨P', rfl⟩ : e <+: P :=
        List.prefix_of_prefix_length_le (List.prefix_append _ _) ⟨Q, h⟩ (by omega)
      have h' : P' ++ Q = es.flatten := by
        rw [List.append_assoc] at h
        exact List.append_cancel_left h
      obtain ⟨done, rest, p, rfl, rfl, hst, hcut⟩ :=
        ih (fun e' he' => hes e' (List.mem_cons_of_mem _ he')) h'
      refine ⟨e :: done, rest, p, rfl, by simp, hst, ?_⟩
      rw [cutAll_of_frame (cut_whole_append hw hM _), hcut]

/-- **Each chunk releases the frames it completes.** Chunks that carry on whole frames laid end to
end, of which the bytes left hold the start of the first, release the rest of the frames, in
order, with no refusal, and leave nothing. -/
theorem feedBytes_flatten {M : Nat} {es : List (List UInt8)}
    (hes : ∀ e ∈ es, Whole e ∧ e.length ≤ M) {p : List UInt8} (hp : Started p es)
    {chunks : List (List UInt8)} (h : p ++ chunks.flatten = es.flatten) :
    (feedBytes M p chunks).1 = [] ∧ (feedBytes M p chunks).2.flatMap (·.1) = es ∧
      ∀ step ∈ (feedBytes M p chunks).2, step.2 = none := by
  induction chunks generalizing p es with
  | nil =>
    -- no chunk is left: the bytes left are every frame not taken yet, and only the start of one
    cases es with
    | nil => exact ⟨hp, rfl, by simp [feedBytes]⟩
    | cons e es =>
      obtain ⟨-, hlt⟩ := hp
      have hlen := congrArg List.length h
      simp only [List.flatten_nil, List.append_nil, List.flatten_cons, List.length_append] at hlen
      omega
  | cons c cs ih =>
    obtain ⟨done, rest, p', rfl, hP, hst, hcut⟩ :=
      cutAll_prefix_flatten hes (P := p ++ c) (Q := cs.flatten) (by simpa using h)
    have h' : p' ++ cs.flatten = rest.flatten := by
      have hall : done.flatten ++ (p' ++ cs.flatten) = done.flatten ++ rest.flatten := by
        rw [← List.append_assoc, ← hP, ← List.flatten_append, ← h]
        simp
      exact List.append_cancel_left hall
    obtain ⟨ih1, ih2, ih3⟩ := ih (fun e he => hes e (List.mem_append_right _ he)) hst h'
    simp only [feedBytes, hcut]
    refine ⟨ih1, by simp [ih2], ?_⟩
    intro step hstep
    rcases List.mem_cons.mp hstep with rfl | hstep
    · rfl
    · exact ih3 step hstep

/-! ### The stream -/

theorem toList_foldl_writeTo (init : ByteArray) (frames : List Frame) :
    (frames.foldl Frame.writeTo init).data.toList =
      init.data.toList ++ (frames.map (·.encode.toUTF8.data.toList)).flatten := by
  induction frames generalizing init with
  | nil => simp
  | cons f fs ih =>
    rw [List.foldl_cons, ih, Frame.writeTo, toList_append]
    simp

/-- **Frames written back to back are read back, however the stream is cut.** Frames written one
after another, each no longer than the limit, and handed to a fresh decoder with that limit in
chunks cut anywhere: the chunks release exactly the frames' bytes, in order, no call is refused,
and the buffer is left empty. -/
theorem feed_writeTo_chunks (M : Nat) (frames : List Frame) (chunks : List ByteArray)
    (hsize : ∀ f ∈ frames, f.encode.toUTF8.size ≤ M)
    (hcut : chunks.foldl (· ++ ·) ByteArray.empty = frames.foldl Frame.writeTo ByteArray.empty) :
    ((withMaxFrame M).feed ByteArray.empty chunks).2.2.flatMap (·.1) =
        frames.map (·.encode.toUTF8) ∧
      (∀ step ∈ ((withMaxFrame M).feed ByteArray.empty chunks).2.2, step.2 = none) ∧
      ((withMaxFrame M).feed ByteArray.empty chunks).2.1 = ByteArray.empty := by
  have hes : ∀ e ∈ frames.map (·.encode.toUTF8.data.toList), Whole e ∧ e.length ≤ M := by
    intro e he
    obtain ⟨f, hf, rfl⟩ := List.mem_map.mp he
    exact ⟨f.whole_encode, by simpa using hsize f hf⟩
  have hbytes : [] ++ (chunks.map (·.data.toList)).flatten =
      (frames.map (·.encode.toUTF8.data.toList)).flatten := by
    have := congrArg (·.data.toList) hcut
    simpa [toList_foldl_append, toList_foldl_writeTo] using this
  obtain ⟨h1, h2, h3⟩ :=
    feedBytes_flatten hes (started_nil fun e he => (hes e he).1.ne_nil) hbytes
  obtain ⟨hfeed, -, -⟩ := feed_eq_feedBytes (synced_withMaxFrame M ByteArray.empty) chunks
  generalize (withMaxFrame M).feed ByteArray.empty chunks = r at hfeed ⊢
  change Fed.toLists r = feedBytes M [] _ at hfeed
  rw [← hfeed] at h1 h2 h3
  simp only [Fed.toLists] at h1 h2 h3
  refine ⟨?_, ?_, eq_of_toList_eq h1⟩
  · -- the frames agree once read as lists of bytes, and reading is injective
    apply List.map_injective_iff.mpr (fun _ _ => eq_of_toList_eq)
    simpa [List.map_flatMap, List.flatMap_map, List.map_map, Function.comp_def] using h2
  · intro step hstep
    exact h3 _ (List.mem_map_of_mem hstep)

/-- A register frame and a notice, cut inside the quoted name of the first, come back whole. -/
theorem feed_writeTo_chunks_inside_name :
    let frames := [Frame.register "echo", Frame.notice .unsupportedFormat]
    let buf := frames.foldl Frame.writeTo .empty
    let chunks := [buf.extract 0 30, buf.extract 30 buf.size]
    (∀ f ∈ frames, f.encode.toUTF8.size ≤ 64) ∧ chunks.foldl (· ++ ·) .empty = buf ∧
      ((withMaxFrame 64).feed .empty chunks).2.2.flatMap (·.1) = frames.map (·.encode.toUTF8) ∧
      (∀ step ∈ ((withMaxFrame 64).feed .empty chunks).2.2, step.2 = none) ∧
      ((withMaxFrame 64).feed .empty chunks).2.1 = .empty := by
  intro frames buf chunks
  have hsize : ∀ f ∈ frames, f.encode.toUTF8.size ≤ 64 := by decide
  have hcut : chunks.foldl (· ++ ·) .empty = buf := by
    simp only [chunks, List.foldl_cons, List.foldl_nil, ByteArray.empty_append,
      ByteArray.extract_append_extract]
    rw [Nat.min_eq_left (Nat.zero_le _), Nat.max_eq_right (by decide), ByteArray.extract_zero_size]
  exact ⟨hsize, hcut, feed_writeTo_chunks 64 frames chunks hsize hcut⟩

end Decoder

end HubService.Wire
