import HubService.Proofs.Framing.Resume

/-!
# The decoder over lists of bytes

Since keeping the scan changes nothing (`HubService.Wire.Decoder.decode_of_synced`), what the
decoder does to a stream is a function of the bytes alone. This file writes that function down
over lists, in three layers that the statements about whole streams use:

* `HubService.Wire.Decoder.cut` – one call: skip the blanks, fix the kind by the first byte, and
  take the frame if it is complete and within the limit (`HubService.Wire.Decoder.cut_decode`);
* `HubService.Wire.Decoder.cutAll` – calls until nothing more comes out, by recursion on the
  bytes left, since every frame takes at least one byte (`HubService.Wire.Decoder.drain_eq_cutAll`);
* `HubService.Wire.Decoder.feedBytes` – the chunks of a stream arriving one after another
  (`HubService.Wire.Decoder.feed_eq_feedBytes`).

The fuel of `HubService.Wire.Decoder.drain` is one more than the bytes in the buffer, and the
proof of `HubService.Wire.Decoder.drain_eq_cutAll` is where it is shown to be enough.
-/

namespace HubService.Wire

/-! ### Blanks and the first byte -/

theorem isAsciiBlank_eq_false {b : UInt8} :
    isAsciiBlank b = false ↔ b ≠ 32 ∧ b ≠ 9 ∧ b ≠ 10 ∧ b ≠ 12 ∧ b ≠ 13 := by
  simp [isAsciiBlank, and_assoc]

theorem getElem?_eq_toList (frame : ByteArray) {n : Nat} (hn : n < frame.data.toList.length) :
    frame[n]? = some frame.data.toList[n] := by
  have hs : n < frame.size := by simpa using hn
  rw [getElem?_pos frame n hs]
  simp [ByteArray.getElem_eq_getElem_data]

theorem trimTrailingBlanks_go_eq (frame : ByteArray) (n : Nat) (hn : n ≤ frame.size) :
    trimTrailingBlanks.go frame n =
      ((frame.data.toList.take n).rdropWhile isAsciiBlank).length := by
  induction n with
  | zero => simp [trimTrailingBlanks.go, List.rdropWhile]
  | succ n ih =>
    have hn' : n < frame.data.toList.length := by simp; omega
    rw [trimTrailingBlanks.go, getElem?_eq_toList frame hn', List.take_add_one,
      List.getElem?_eq_getElem hn']
    simp only [Option.any_some, Option.toList_some]
    by_cases hb : isAsciiBlank frame.data.toList[n] = true
    · rw [if_pos hb, List.rdropWhile_concat_pos _ _ _ hb, ih (by omega)]
    · rw [if_neg hb, List.rdropWhile_concat_neg _ _ _ hb]
      simp
      omega

/-- Trimming a garbage frame drops the longest run of blanks at its end. -/
theorem trimTrailingBlanks_toList (frame : ByteArray) :
    (trimTrailingBlanks frame).data.toList = frame.data.toList.rdropWhile isAsciiBlank := by
  rw [trimTrailingBlanks, toList_extract_zero, trimTrailingBlanks_go_eq frame _ (Nat.le_refl _)]
  have : frame.data.toList.take frame.size = frame.data.toList :=
    List.take_of_length_le (by simp)
  rw [this, ← List.prefix_iff_eq_take.mp (List.rdropWhile_prefix _ _)]

namespace FrameKind

/-- **A frame's first byte moves its scan on**: a byte that is no blank neither ends the frame it
starts nor stops before it. -/
theorem move_first {b : UInt8} (hb : isAsciiBlank b = false) :
    ∃ s', (ofFirst b).move (ofFirst b).start b = .next s' := by
  rw [isAsciiBlank_eq_false] at hb
  obtain ⟨-, -, h10, -, -⟩ := hb
  unfold ofFirst
  by_cases ho : (b == 123 || b == 91) = true
  · have h34 : b ≠ 34 := by
      simp only [Bool.or_eq_true, beq_iff_eq] at ho
      rcases ho with rfl | rfl <;> decide
    simp [ho, move, Scan.bracketMove, Scan.quoted, start, h34]
  · simp only [Bool.or_eq_true, beq_iff_eq, not_or] at ho
    by_cases h34 : b = 34
    · simp [move, Scan.garbageMove, Scan.quoted, start, h34]
    · simp [move, Scan.garbageMove, Scan.quoted, start, h34, ho, h10]

/-- Where a frame of this kind at the front of `ys` is complete: the number of its bytes. -/
def length? (k : FrameKind) (ys : List UInt8) : Option Nat :=
  match Scan.run k.move k.start ys with
  | .ended n _ => some n
  | .running s => k.atEnd s ys.length

/-- A complete frame as it is handed out, over lists. -/
def trim (k : FrameKind) (frame : List UInt8) : List UInt8 :=
  match k with
  | .structured => frame
  | .garbage => frame.rdropWhile isAsciiBlank

theorem finish_toList (k : FrameKind) (frame : ByteArray) :
    (k.finish frame).data.toList = k.trim frame.data.toList := by
  cases k
  · rfl
  · exact trimTrailingBlanks_toList frame

/-- A complete frame takes at least its first byte and at most all of them. -/
theorem length?_bounds {b : UInt8} {rest : List UInt8} {n : Nat} (hb : isAsciiBlank b = false)
    (h : (ofFirst b).length? (b :: rest) = some n) : 1 ≤ n ∧ n ≤ rest.length + 1 := by
  obtain ⟨s', hs'⟩ := move_first hb
  unfold length? at h
  rw [Scan.run_cons_next _ hs'] at h
  cases hr : Scan.run (ofFirst b).move s' rest with
  | ended m t =>
    rw [hr] at h
    have := Scan.le_length_of_run_eq_ended _ hr
    simp only [Scan.Progress.after_ended, Option.some.injEq] at h
    omega
  | running t =>
    rw [hr] at h
    simp only [Scan.Progress.after_running] at h
    cases hk : ofFirst b <;> rw [hk] at h <;> simp only [atEnd] at h
    · cases h
    · split_ifs at h
      cases h
      simp

end FrameKind

namespace Decoder

/-! ### One call -/

/-- **One call of a fresh decoder, over lists**: the blanks are skipped and the first byte fixes
the frame's kind; a complete frame is taken (and refused if longer than the limit), an
unfinished one waits (and is refused once longer than the limit). The bytes left, and the
frame, nothing, or the refusal. -/
def cut (M : Nat) (xs : List UInt8) : List UInt8 × Except FrameTooLarge (Option (List UInt8)) :=
  match xs.dropWhile isAsciiBlank with
  | [] => ([], .ok none)
  | b :: rest =>
    let k := FrameKind.ofFirst b
    match k.length? (b :: rest) with
    | some n =>
      if n > M then (b :: rest, .error ⟨n, M⟩)
      else ((b :: rest).drop n, .ok (some (k.trim ((b :: rest).take n))))
    | none =>
      if (b :: rest).length > M then (b :: rest, .error ⟨(b :: rest).length, M⟩)
      else (b :: rest, .ok none)

/-- The list view of a call's result. -/
def Decoded.toLists (r : Decoder × ByteArray × Decoded) :
    List UInt8 × Except FrameTooLarge (Option (List UInt8)) :=
  (r.2.1.data.toList, r.2.2.map (Option.map (·.data.toList)))

theorem toLists_settle_some (d : Decoder) (k : FrameKind) (buf : ByteArray) (s : Scan)
    (len : Nat) :
    Decoded.toLists (d.settle k buf (s, some len)) =
      if len > d.maxFrame then (buf.data.toList, .error ⟨len, d.maxFrame⟩)
      else (buf.data.toList.drop len, .ok (some (k.trim (buf.data.toList.take len)))) := by
  unfold settle
  simp only [Option.getD_some]
  split_ifs
  · rfl
  · simp only [Decoded.toLists, Except.map, Option.map_some, toList_extract_size,
      toList_extract_zero, FrameKind.finish_toList]

theorem toLists_settle_none (d : Decoder) (k : FrameKind) (buf : ByteArray) (s : Scan) :
    Decoded.toLists (d.settle k buf (s, none)) =
      if buf.data.toList.length > d.maxFrame then
        (buf.data.toList, .error ⟨buf.data.toList.length, d.maxFrame⟩)
      else (buf.data.toList, .ok none) := by
  unfold settle
  simp only [Option.getD_none, Array.length_toList, ByteArray.size_data]
  split_ifs <;> rfl

/-- **A call of a fresh decoder is `cut`.** -/
theorem cut_decode (M : Nat) (buf : ByteArray) :
    cut M buf.data.toList = Decoded.toLists ((withMaxFrame M).decode buf) := by
  rw [decode_of_kind_none rfl]
  cases hb : (buf.extract (leadingBlanks buf) buf.size)[0]? with
  | none =>
    rw [getElem?_zero, toList_skipBlanks, List.head?_eq_none_iff] at hb
    simp only [cut, hb, Decoded.toLists]
    rw [toList_skipBlanks, hb]
    rfl
  | some b =>
    obtain ⟨rest, hys, -⟩ := head_skipBlanks hb
    have hxs : buf.data.toList.dropWhile isAsciiBlank = b :: rest := by
      rwa [← toList_skipBlanks]
    simp only [cut, hxs]
    generalize buf.extract (leadingBlanks buf) buf.size = ys at hys ⊢
    generalize FrameKind.ofFirst b = k
    have hstart : ({ (withMaxFrame M).scan with kind := some k } : Scan) = k.start := rfl
    rw [hstart, k.scanFrom_eq_run, ← hys]
    simp only [FrameKind.start_offset, List.drop_zero, FrameKind.length?]
    cases Scan.run k.move k.start ys.data.toList with
    | ended n s' =>
      rw [toLists_settle_some, Nat.zero_add]
      rfl
    | running s' =>
      simp only [Array.length_toList, ByteArray.size_data]
      cases k.atEnd s' ys.size with
      | some len =>
        rw [toLists_settle_some]
        rfl
      | none =>
        rw [toLists_settle_none]
        rfl

/-! ### Calls until nothing more comes out -/

/-- The first byte after the blanks is no blank. -/
theorem blank_head_dropWhile {xs ys : List UInt8} {b : UInt8}
    (h : xs.dropWhile isAsciiBlank = b :: ys) : isAsciiBlank b = false := by
  have := List.head_dropWhile_not isAsciiBlank (l := xs) (by simp [h])
  simpa [h] using this

/-- **A call that takes a frame leaves fewer bytes.** -/
theorem length_lt_of_cut {M : Nat} {xs rest f : List UInt8}
    (h : cut M xs = (rest, .ok (some f))) : rest.length < xs.length := by
  unfold cut at h
  split at h
  · cases h
  · rename_i b ys hd
    have hb := blank_head_dropWhile hd
    have hle : (b :: ys).length ≤ xs.length := by
      rw [← hd]
      exact List.length_dropWhile_le _ _
    dsimp only at h
    cases hn : (FrameKind.ofFirst b).length? (b :: ys) with
    | none =>
      rw [hn] at h
      by_cases hM : (b :: ys).length > M
      · rw [if_pos hM] at h
        cases h
      · rw [if_neg hM] at h
        cases h
    | some n =>
      rw [hn] at h
      dsimp only at h
      obtain ⟨h1, -⟩ := FrameKind.length?_bounds hb hn
      by_cases hM : n > M
      · rw [if_pos hM] at h
        cases h
      · rw [if_neg hM] at h
        cases h
        simp only [List.length_drop, List.length_cons] at hle ⊢
        omega

/-- **Calls until nothing more comes out, over lists**: the frames taken, the bytes left, and the
refusal that stopped the calls, if one did. -/
def cutAll (M : Nat) (xs : List UInt8) : List (List UInt8) × List UInt8 × Option FrameTooLarge :=
  match _h : cut M xs with
  | (rest, .ok (some f)) =>
    let r := cutAll M rest
    (f :: r.1, r.2.1, r.2.2)
  | (rest, .ok none) => ([], rest, none)
  | (rest, .error e) => ([], rest, some e)
termination_by xs.length
decreasing_by exact length_lt_of_cut _h

theorem cutAll_of_frame {M : Nat} {xs rest f : List UInt8} (h : cut M xs = (rest, .ok (some f))) :
    cutAll M xs = (f :: (cutAll M rest).1, (cutAll M rest).2.1, (cutAll M rest).2.2) := by
  rw [cutAll]
  split <;> simp_all

theorem cutAll_of_none {M : Nat} {xs rest : List UInt8} (h : cut M xs = (rest, .ok none)) :
    cutAll M xs = ([], rest, none) := by
  rw [cutAll]
  split <;> simp_all

theorem cutAll_of_error {M : Nat} {xs rest : List UInt8} {e : FrameTooLarge}
    (h : cut M xs = (rest, .error e)) : cutAll M xs = ([], rest, some e) := by
  rw [cutAll]
  split <;> simp_all

theorem cutAll_congr {M : Nat} {xs ys : List UInt8} (h : cut M xs = cut M ys) :
    cutAll M xs = cutAll M ys := by
  rcases hc : cut M xs with ⟨rest, e | (_ | f)⟩
  · have hc' : cut M ys = (rest, .error e) := h ▸ hc
    rw [cutAll_of_error hc, cutAll_of_error hc']
  · have hc' : cut M ys = (rest, .ok none) := h ▸ hc
    rw [cutAll_of_none hc, cutAll_of_none hc']
  · have hc' : cut M ys = (rest, .ok (some f)) := h ▸ hc
    rw [cutAll_of_frame hc, cutAll_of_frame hc']

/-- Blanks before the bytes change nothing: a call skips them first. -/
theorem cut_dropWhile (M : Nat) (xs : List UInt8) :
    cut M (xs.dropWhile isAsciiBlank) = cut M xs := by
  unfold cut
  rw [List.dropWhile_idempotent]

/-- **A call that takes nothing** leaves the bytes without their leading blanks. -/
theorem eq_dropWhile_of_cut_none {M : Nat} {xs rest : List UInt8}
    (h : cut M xs = (rest, .ok none)) : rest = xs.dropWhile isAsciiBlank := by
  unfold cut at h
  split at h
  · rename_i hd
    cases h
    exact hd.symm
  · rename_i b r hd
    rw [hd]
    dsimp only at h
    split at h
    · split at h <;> cases h
    · split at h <;> cases h
      rfl

/-- A call refuses only bytes longer than the limit. -/
theorem lt_length_of_cut_error {M : Nat} {xs rest : List UInt8} {e : FrameTooLarge}
    (h : cut M xs = (rest, .error e)) : M < xs.length := by
  unfold cut at h
  split at h
  · cases h
  · rename_i b r hd
    have hle : (b :: r).length ≤ xs.length := hd ▸ List.length_dropWhile_le _ _
    dsimp only at h
    split at h
    · rename_i n hn
      have := (FrameKind.length?_bounds (blank_head_dropWhile hd) hn).2
      split at h
      · simp only [List.length_cons] at hle
        omega
      · cases h
    · split at h
      · omega
      · cases h

/-- **What a call that takes a frame saw**: after the blanks, a frame of the kind its first
byte says that ended within the bytes, or garbage that ran to their end outside quotes. -/
theorem cut_frame_cases {M : Nat} {xs rest f : List UInt8} (h : cut M xs = (rest, .ok (some f))) :
    ∃ b r, xs.dropWhile isAsciiBlank = b :: r ∧
      ((∃ n s, Scan.run (FrameKind.ofFirst b).move (FrameKind.ofFirst b).start (b :: r) =
          .ended n s ∧ n ≤ M ∧ rest = (b :: r).drop n ∧
          f = (FrameKind.ofFirst b).trim ((b :: r).take n)) ∨
        (∃ s, FrameKind.ofFirst b = .garbage ∧
          Scan.run Scan.garbageMove FrameKind.garbage.start (b :: r) = .running s ∧
          s.inString = false ∧ rest = [] ∧ f = (b :: r).rdropWhile isAsciiBlank)) := by
  unfold cut at h
  split at h
  · cases h
  · rename_i b r hd
    refine ⟨b, r, hd, ?_⟩
    dsimp only at h
    unfold FrameKind.length? at h
    cases hrun : Scan.run (FrameKind.ofFirst b).move (FrameKind.ofFirst b).start (b :: r) with
    | ended n s =>
      rw [hrun] at h
      dsimp only at h
      split at h
      · cases h
      · cases h
        exact .inl ⟨n, s, rfl, by omega, rfl, rfl⟩
    | running s =>
      rw [hrun] at h
      dsimp only at h
      cases hk : FrameKind.ofFirst b with
      | structured =>
        rw [hk] at h
        simp only [FrameKind.atEnd] at h
        split at h <;> cases h
      | garbage =>
        rw [hk] at h hrun
        simp only [FrameKind.atEnd] at h
        cases hs : s.inString with
        | true =>
          simp only [hs, ↓reduceIte] at h
          split at h <;> cases h
        | false =>
          simp only [hs, Bool.false_eq_true, ↓reduceIte, List.drop_length, List.take_length] at h
          split at h
          · cases h
          · cases h
            exact .inr ⟨s, rfl, hrun, hs, rfl, rfl⟩

/-- A call leaves no more bytes than it was given. -/
theorem length_cut_le (M : Nat) (xs : List UInt8) : (cut M xs).1.length ≤ xs.length := by
  have hle := List.length_dropWhile_le isAsciiBlank xs
  unfold cut
  split
  · exact Nat.zero_le _
  · rename_i b r hd
    rw [hd] at hle
    dsimp only
    split
    · split
      · exact hle
      · simp only [List.length_drop] at hle ⊢; omega
    · split <;> exact hle

theorem length_cutAll_le (M : Nat) (xs : List UInt8) : (cutAll M xs).2.1.length ≤ xs.length := by
  fun_induction cutAll M xs with
  | case1 xs rest f hcut r ih => exact Nat.le_trans ih (Nat.le_of_lt (length_lt_of_cut hcut))
  | case2 xs rest hcut => simpa [hcut] using length_cut_le M xs
  | case3 xs rest e hcut => simpa [hcut] using length_cut_le M xs

/-- The list view of what a drain gives: the frames, the bytes left, and the refusal. -/
def Drained.toLists (r : Decoder × ByteArray × List ByteArray × Option FrameTooLarge) :
    List (List UInt8) × List UInt8 × Option FrameTooLarge :=
  (r.2.2.1.map (·.data.toList), r.2.1.data.toList, r.2.2.2)

theorem drainWith_acc (step : Decoder → ByteArray → Decoder × ByteArray × Decoded)
    (fuel : Nat) (d : Decoder) (buf : ByteArray) (acc : List ByteArray) :
    drainWith step fuel d buf acc =
      let r := drainWith step fuel d buf []
      (r.1, r.2.1, acc.reverse ++ r.2.2.1, r.2.2.2) := by
  induction fuel generalizing d buf acc with
  | zero => simp [drainWith]
  | succ fuel ih =>
    simp only [drainWith]
    rcases step d buf with ⟨d', buf', r⟩
    rcases r with e | (_ | frame)
    · simp
    · simp
    · dsimp only
      rw [ih d' buf' (frame :: acc), ih d' buf' [frame]]
      simp

/-- **The fuel is enough**: a drain with more fuel than bytes in the buffer calls the decoder
until nothing more comes out, and that is `cutAll`. -/
theorem drainWith_decode (fuel : Nat) {d : Decoder} {buf : ByteArray} (hfuel : buf.size < fuel)
    (h : d.Synced buf) :
    Drained.toLists (drainWith decode fuel d buf []) = cutAll d.maxFrame buf.data.toList ∧
      (drainWith decode fuel d buf []).1.Synced (drainWith decode fuel d buf []).2.1 ∧
      (drainWith decode fuel d buf []).1.maxFrame = d.maxFrame := by
  induction fuel generalizing d buf with
  | zero => omega
  | succ fuel ih =>
    have hcut : cut d.maxFrame buf.data.toList = Decoded.toLists (d.decode buf) := by
      rw [decode_of_synced h]
      exact cut_decode _ _
    have hs := synced_decode h
    have hm := maxFrame_decode d buf
    simp only [drainWith]
    rcases hdec : d.decode buf with ⟨d', buf', r⟩
    rw [hdec] at hcut hs hm
    rcases r with e | (_ | frame) <;> dsimp only at hcut hs hm ⊢
    · rw [cutAll_of_error hcut]
      exact ⟨rfl, hs, hm⟩
    · rw [cutAll_of_none hcut]
      exact ⟨rfl, hs, hm⟩
    · -- a frame: the buffer shrinks, and the rest is a drain with one fuel less
      have hlt := length_lt_of_cut hcut
      simp only [Array.length_toList, ByteArray.size_data] at hlt
      obtain ⟨ih1, ih2, ih3⟩ := ih (by omega) hs
      rw [hm] at ih1 ih3
      rw [drainWith_acc, cutAll_of_frame hcut]
      dsimp only
      rw [← ih1]
      exact ⟨rfl, ih2, ih3⟩

/-- **Draining is `cutAll`**, and leaves a scan that belongs to the buffer it leaves. -/
theorem drain_eq_cutAll {d : Decoder} {buf : ByteArray} (h : d.Synced buf) :
    Drained.toLists (d.drain buf) = cutAll d.maxFrame buf.data.toList ∧
      (d.drain buf).1.Synced (d.drain buf).2.1 ∧ (d.drain buf).1.maxFrame = d.maxFrame :=
  drainWith_decode (buf.size + 1) (Nat.lt_succ_self _) h

/-! ### A stream in chunks -/

/-- **Chunks arriving one after another, over lists**: each is appended to the bytes left and
the calls go on until nothing more comes out. The bytes left at the end, and for each chunk the
frames it released and the refusal that stopped its calls, if one did. -/
def feedBytes (M : Nat) (buf : List UInt8) :
    List (List UInt8) → List UInt8 × List (List (List UInt8) × Option FrameTooLarge)
  | [] => (buf, [])
  | chunk :: rest =>
    let r := cutAll M (buf ++ chunk)
    let more := feedBytes M r.2.1 rest
    (more.1, (r.1, r.2.2) :: more.2)

theorem toList_foldl_append (init : ByteArray) (chunks : List ByteArray) :
    (chunks.foldl (· ++ ·) init).data.toList =
      init.data.toList ++ (chunks.map (·.data.toList)).flatten := by
  induction chunks generalizing init with
  | nil => simp
  | cons c cs ih =>
    rw [List.foldl_cons, ih, toList_append]
    simp

/-- The list view of a stream's run: the bytes left, and each chunk's frames and refusal. -/
def Fed.toLists (r : Decoder × ByteArray × List (List ByteArray × Option FrameTooLarge)) :
    List UInt8 × List (List (List UInt8) × Option FrameTooLarge) :=
  (r.2.1.data.toList, r.2.2.map fun step => (step.1.map (·.data.toList), step.2))

/-- The frames of all the chunks, over lists. -/
theorem Fed.frames_toLists
    (r : Decoder × ByteArray × List (List ByteArray × Option FrameTooLarge)) :
    (r.2.2.flatMap (·.1)).map (·.data.toList) = (Fed.toLists r).2.flatMap (·.1) := by
  simp [Fed.toLists, List.map_flatMap, List.flatMap_map]

/-- **A stream's run is `feedBytes`**, whatever the chunks. -/
theorem feed_eq_feedBytes {d : Decoder} {buf : ByteArray} (h : d.Synced buf)
    (chunks : List ByteArray) :
    Fed.toLists (d.feed buf chunks) =
        feedBytes d.maxFrame buf.data.toList (chunks.map (·.data.toList)) ∧
      (d.feed buf chunks).1.Synced (d.feed buf chunks).2.1 ∧
      (d.feed buf chunks).1.maxFrame = d.maxFrame := by
  induction chunks generalizing d buf with
  | nil => exact ⟨rfl, h, rfl⟩
  | cons chunk rest ih =>
    obtain ⟨h1, h2, h3⟩ := drain_eq_cutAll (synced_append h chunk)
    simp only [feed, feedBytes, List.map_cons]
    rcases hdr : d.drain (buf ++ chunk) with ⟨d', buf', frames, err⟩
    rw [hdr] at h1 h2 h3
    dsimp only at h1 h2 h3 ⊢
    obtain ⟨ih1, ih2, ih3⟩ := ih h2
    rw [toList_append] at h1
    rw [← h1, ← h3]
    refine ⟨?_, ih2, ih3⟩
    simp only [Drained.toLists]
    rw [← ih1]
    rfl

end Decoder

end HubService.Wire
