import HubService.Proofs.Framing.Scan

/-!
# Keeping the scan between calls

The decoder remembers how far it has scanned the frame at the front of its buffer, so that a
frame the network cut into pieces is not scanned again from its first byte at every piece. This
file shows that the memory changes nothing a caller can see.

The scan *belongs* to the buffer (`HubService.Wire.Decoder.Synced`) when it is blank between
frames, or, inside a frame, when it is exactly where a fresh run from the frame's first byte
stands after the bytes up to its offset. Then:

* a call of the decoder does what a fresh decoder with the same limit does on the same buffer
  (`HubService.Wire.Decoder.decode_of_synced`) – the result, the bytes left and the scan kept;
* the scan a call leaves belongs to the buffer it leaves (`HubService.Wire.Decoder.synced_decode`),
  and bytes arriving at the end of the buffer keep it belonging
  (`HubService.Wire.Decoder.synced_append`).

So over a whole stream the decoder is a function of its buffer alone, and the later files reason
about a fresh decoder only. The one fact about scans this needs beyond
`HubService.Wire.Scan.run_append` is a frame condition: a scan never reads or changes its offset or its kind
(`HubService.Wire.Scan.run_withOffset`).
-/

namespace HubService.Wire

/-! ### Byte arrays as lists -/

theorem toList_extract_zero (buf : ByteArray) (n : Nat) :
    (buf.extract 0 n).data.toList = buf.data.toList.take n := by
  simp [ByteArray.data_extract]

theorem toList_extract_size (buf : ByteArray) (n : Nat) :
    (buf.extract n buf.size).data.toList = buf.data.toList.drop n := by
  simp [ByteArray.data_extract, List.take_of_length_le]

theorem toList_append (a b : ByteArray) :
    (a ++ b).data.toList = a.data.toList ++ b.data.toList := by
  simp [ByteArray.data_append]

theorem eq_of_toList_eq {a b : ByteArray} (h : a.data.toList = b.data.toList) : a = b := by
  obtain ⟨⟨a⟩⟩ := a
  obtain ⟨⟨b⟩⟩ := b
  simp_all

theorem getElem?_zero (buf : ByteArray) : buf[0]? = buf.data.toList.head? := by
  by_cases h : 0 < buf.size
  · rw [getElem?_pos buf 0 h,
      Scan.drop_eq_getElem_cons (i := 0) h |>.symm.trans (List.drop_zero) |>.symm]
    rfl
  · rw [getElem?_neg buf 0 h]
    have : buf.data.toList = [] := by simpa using Scan.drop_eq_nil (i := 0) h
    rw [this]
    rfl

theorem leadingBlanks_go_eq (buf : ByteArray) (i : Nat) :
    leadingBlanks.go buf i = i + ((buf.data.toList.drop i).takeWhile isAsciiBlank).length := by
  induction h : buf.size - i generalizing i with
  | zero =>
    have hi : ¬i < buf.size := by omega
    rw [leadingBlanks.go, dif_neg hi, Scan.drop_eq_nil hi]
    simp
  | succ k ih =>
    have hi : i < buf.size := by omega
    rw [leadingBlanks.go, dif_pos hi, Scan.drop_eq_getElem_cons hi, List.takeWhile_cons]
    by_cases hb : isAsciiBlank buf[i] = true
    · rw [if_pos hb, if_pos hb, ih (i + 1) (by omega)]
      simp only [List.length_cons]
      omega
    · simp [hb]

/-- The blanks a decoder skips are the longest run of blanks at the front. -/
theorem leadingBlanks_eq (buf : ByteArray) :
    leadingBlanks buf = (buf.data.toList.takeWhile isAsciiBlank).length := by
  simp [leadingBlanks, leadingBlanks_go_eq]

theorem drop_takeWhile_length (p : UInt8 → Bool) (l : List UInt8) :
    l.drop (l.takeWhile p).length = l.dropWhile p := by
  induction l with
  | nil => rfl
  | cons a l ih =>
    by_cases h : p a = true
    · simp [h, ih]
    · simp [h]

/-- After the blanks, the decoder looks at the rest of the bytes. -/
theorem toList_skipBlanks (buf : ByteArray) :
    (buf.extract (leadingBlanks buf) buf.size).data.toList =
      buf.data.toList.dropWhile isAsciiBlank := by
  rw [toList_extract_size, leadingBlanks_eq, drop_takeWhile_length]

/-! ### The two kinds of frame -/

namespace FrameKind

/-- The kind of frame a first byte starts: an opening bracket starts a structured frame, any
other byte garbage. -/
def ofFirst (b : UInt8) : FrameKind := if b == 123 || b == 91 then .structured else .garbage

/-- What a byte does to the scan of a frame of this kind. -/
def move : FrameKind → Scan → UInt8 → Scan.Move
  | .structured => Scan.bracketMove
  | .garbage => Scan.garbageMove

/-- The scan a frame of this kind starts from. -/
def start (k : FrameKind) : Scan := { kind := some k }

/-- The decoder's scan of a frame of this kind, from the scan's own offset. -/
def scanFrom (k : FrameKind) (s : Scan) (buf : ByteArray) : Scan × Option Nat :=
  match k with
  | .structured => s.structured buf s.offset
  | .garbage => s.garbage buf s.offset

/-- Where a frame of this kind is complete when the bytes run out before it ended: garbage is,
unless a quote is open; a structured frame never is. -/
def atEnd (k : FrameKind) (s : Scan) (size : Nat) : Option Nat :=
  match k with
  | .structured => none
  | .garbage => if s.inString then none else some size

/-- A complete frame of this kind as it is handed out: garbage loses its trailing blanks. -/
def finish (k : FrameKind) (frame : ByteArray) : ByteArray :=
  match k with
  | .structured => frame
  | .garbage => trimTrailingBlanks frame

@[simp] theorem start_offset (k : FrameKind) : k.start.offset = 0 := rfl

@[simp] theorem start_kind (k : FrameKind) : k.start.kind = some k := rfl

@[simp] theorem move_structured : structured.move = Scan.bracketMove := rfl

@[simp] theorem move_garbage : garbage.move = Scan.garbageMove := rfl

end FrameKind

/-! ### Scans ignore their offset -/

namespace Scan

/-- The move with its scan's offset set to `o`. -/
def Move.withOffset (o : Nat) : Move → Move
  | .next s => .next { s with offset := o }
  | .endAfter s => .endAfter { s with offset := o }
  | .endBefore => .endBefore

/-- The progress with its scan's offset set to `o`. -/
def Progress.withOffset (o : Nat) : Progress → Progress
  | .ended n s => .ended n { s with offset := o }
  | .running s => .running { s with offset := o }

theorem quoted_withOffset (s : Scan) (o : Nat) (b : UInt8) :
    ({ s with offset := o } : Scan).quoted b =
      ({ (s.quoted b).1 with offset := o }, (s.quoted b).2) := by
  unfold quoted
  split_ifs <;> rfl

theorem bracketMove_withOffset (s : Scan) (o : Nat) (b : UInt8) :
    bracketMove { s with offset := o } b = (bracketMove s b).withOffset o := by
  unfold bracketMove
  rw [quoted_withOffset]
  obtain ⟨s', done⟩ := s.quoted b
  cases done with
  | true => rfl
  | false =>
    simp only [Bool.false_eq_true, ↓reduceIte]
    split_ifs <;> rfl

theorem garbageMove_withOffset (s : Scan) (o : Nat) (b : UInt8) :
    garbageMove { s with offset := o } b = (garbageMove s b).withOffset o := by
  unfold garbageMove
  rw [quoted_withOffset]
  obtain ⟨s', done⟩ := s.quoted b
  cases done with
  | true => rfl
  | false =>
    simp only [Bool.false_eq_true, ↓reduceIte]
    split_ifs <;> rfl

end Scan

namespace FrameKind

theorem move_withOffset (k : FrameKind) (s : Scan) (o : Nat) (b : UInt8) :
    k.move { s with offset := o } b = (k.move s b).withOffset o := by
  cases k
  · exact Scan.bracketMove_withOffset s o b
  · exact Scan.garbageMove_withOffset s o b

/-- **A run does not read its offset**: run from a scan with another offset, it makes the same
progress, the offset carried along unchanged. -/
theorem run_withOffset (k : FrameKind) (s : Scan) (o : Nat) (xs : List UInt8) :
    Scan.run k.move { s with offset := o } xs = (Scan.run k.move s xs).withOffset o := by
  induction xs generalizing s with
  | nil => rfl
  | cons b xs ih =>
    rw [Scan.run, Scan.run, k.move_withOffset]
    cases k.move s b with
    | next s' =>
      simp only [Scan.Move.withOffset]
      rw [ih]
      cases Scan.run k.move s' xs <;> rfl
    | endAfter s' => rfl
    | endBefore => rfl

end FrameKind

namespace Scan

/-- The scan a run stands with: where the frame ended, or where the bytes ran out. -/
def Progress.scan : Progress → Scan
  | .ended _ s => s
  | .running s => s

@[simp] theorem Progress.scan_after (k : Nat) (p : Progress) : (p.after k).scan = p.scan := by
  cases p <;> rfl

/-- The bytes a run reads change only its depth and its quote state. -/
def Similar (s s' : Scan) : Prop := s'.offset = s.offset ∧ s'.kind = s.kind

theorem Similar.refl (s : Scan) : Similar s s := ⟨rfl, rfl⟩

theorem Similar.trans {s s' s'' : Scan} (h : Similar s s') (h' : Similar s' s'') :
    Similar s s'' := ⟨h'.1.trans h.1, h'.2.trans h.2⟩

theorem similar_quoted (s : Scan) (b : UInt8) : Similar s (s.quoted b).1 := by
  unfold quoted
  split_ifs <;> exact ⟨rfl, rfl⟩

end Scan

namespace FrameKind

/-- What a byte leaves of a scan is similar to it. -/
theorem similar_move (k : FrameKind) (s : Scan) (b : UInt8) :
    match k.move s b with
    | .next s' | .endAfter s' => Scan.Similar s s'
    | .endBefore => True := by
  have hq := Scan.similar_quoted s b
  rcases hqb : s.quoted b with ⟨s', done⟩
  rw [hqb] at hq
  cases k with
  | structured =>
    simp only [move, Scan.bracketMove, hqb]
    cases done with
    | true => exact hq
    | false =>
      simp only [Bool.false_eq_true, ↓reduceIte]
      split_ifs <;> exact hq
  | garbage =>
    simp only [move, Scan.garbageMove, hqb]
    cases done with
    | true => exact hq
    | false =>
      simp only [Bool.false_eq_true, ↓reduceIte]
      split_ifs
      · trivial
      · exact hq

theorem similar_run (k : FrameKind) (s : Scan) (xs : List UInt8) :
    Scan.Similar s (Scan.run k.move s xs).scan := by
  induction xs generalizing s with
  | nil => exact Scan.Similar.refl s
  | cons b xs ih =>
    have hm := k.similar_move s b
    rw [Scan.run]
    cases h : k.move s b with
    | next s' =>
      rw [h] at hm
      simpa using hm.trans (ih s')
    | endAfter s' =>
      rw [h] at hm
      exact hm
    | endBefore => exact Scan.Similar.refl s

end FrameKind

/-- The decoder's scan of a frame is the run of its kind over the bytes from the offset on. -/
theorem FrameKind.scanFrom_eq_run (k : FrameKind) (s : Scan) (buf : ByteArray) :
    k.scanFrom s buf =
      match Scan.run k.move s (buf.data.toList.drop s.offset) with
      | .ended n s' => (s', some (s.offset + n))
      | .running s' => ({ s' with offset := buf.size }, k.atEnd s' buf.size) := by
  cases k
  · exact Scan.structured_eq_run buf s s.offset
  · exact Scan.garbage_eq_run buf s s.offset

/-! ### What a call does with a scan -/

namespace Decoder

/-- What a call of the decoder does once the scan of a frame of kind `k` has given `r`: refuse a
frame longer than the limit, wait for the rest of an unfinished one, or take a finished one. -/
def settle (d : Decoder) (k : FrameKind) (buf : ByteArray) (r : Scan × Option Nat) :
    Decoder × ByteArray × Decoded :=
  if r.2.getD buf.size > d.maxFrame then
    ({ d with scan := {} }, buf, .error ⟨r.2.getD buf.size, d.maxFrame⟩)
  else
    match r.2 with
    | none => ({ d with scan := r.1 }, buf, .ok none)
    | some len =>
      ({ d with scan := {} }, buf.extract len buf.size, .ok (some (k.finish (buf.extract 0 len))))

/-- Inside a frame, a call goes on scanning it. -/
theorem decode_of_kind {d : Decoder} {k : FrameKind} (hk : d.scan.kind = some k)
    (buf : ByteArray) : d.decode buf = d.settle k buf (k.scanFrom d.scan buf) := by
  cases k
  · unfold decode
    simp only [hk]
    rfl
  · unfold decode
    simp only [hk]
    rfl

/-- Between frames, a call skips the blanks, and the first byte after them fixes the kind of the
frame it scans. -/
theorem decode_of_kind_none {d : Decoder} (hk : d.scan.kind = none) (buf : ByteArray) :
    d.decode buf =
      match (buf.extract (leadingBlanks buf) buf.size)[0]? with
      | none => (d, buf.extract (leadingBlanks buf) buf.size, .ok none)
      | some b =>
        let d' := { d with scan := { d.scan with kind := some (FrameKind.ofFirst b) } }
        d'.settle (FrameKind.ofFirst b) (buf.extract (leadingBlanks buf) buf.size)
          ((FrameKind.ofFirst b).scanFrom d'.scan (buf.extract (leadingBlanks buf) buf.size)) := by
  unfold decode
  simp only [hk]
  cases (buf.extract (leadingBlanks buf) buf.size)[0]? with
  | none => rfl
  | some b =>
    simp only [FrameKind.ofFirst]
    -- the kind is a test on the first byte: decide it, and both sides compute alike
    by_cases hb : (b == 123 || b == 91) = true
    · simp only [hb, ↓reduceIte]
      rfl
    · simp only [hb, ↓reduceIte, Bool.false_eq_true]
      rfl

/-- A call depends on the scan's result only through where the frame ends, and, while it has not
ended, through the scan kept. -/
theorem settle_congr {d d' : Decoder} {k : FrameKind} {buf : ByteArray} {r r' : Scan × Option Nat}
    (hmax : d.maxFrame = d'.maxFrame) (hend : r.2 = r'.2) (hscan : r.2 = none → r.1 = r'.1) :
    d.settle k buf r = d'.settle k buf r' := by
  obtain ⟨s, c⟩ := r
  obtain ⟨s', c'⟩ := r'
  obtain rfl : c = c' := hend
  cases c with
  | none =>
    obtain rfl : s = s' := hscan rfl
    simp [settle, hmax]
  | some len => simp [settle, hmax]

/-! ### The scan belongs to the buffer -/

/-- **The scan belongs to the buffer.** Between frames the scan is blank. Inside a frame the
buffer starts with the frame's first byte, which is no blank and fixed the frame's kind, the
offset lies within the buffer, and the scan is where the run from the frame's start stands after
the bytes before the offset. -/
def Synced (d : Decoder) (buf : ByteArray) : Prop :=
  match d.scan.kind with
  | none => d.scan = {}
  | some k =>
    ∃ b rest, buf.data.toList = b :: rest ∧ isAsciiBlank b = false ∧ FrameKind.ofFirst b = k ∧
      d.scan.offset ≤ buf.size ∧
      Scan.run k.move k.start (buf.data.toList.take d.scan.offset) =
        .running { d.scan with offset := 0 }

theorem synced_of_scan_eq {d : Decoder} (h : d.scan = {}) (buf : ByteArray) : d.Synced buf := by
  unfold Synced
  rw [h]

/-- A fresh decoder's scan belongs to any buffer. -/
theorem synced_withMaxFrame (M : Nat) (buf : ByteArray) : (withMaxFrame M).Synced buf :=
  synced_of_scan_eq rfl buf

/-- **Arriving bytes keep the scan belonging to the buffer**: they come after the offset. -/
theorem synced_append {d : Decoder} {buf : ByteArray} (h : d.Synced buf) (more : ByteArray) :
    d.Synced (buf ++ more) := by
  unfold Synced at h ⊢
  split at h
  · exact h
  · obtain ⟨b, rest, hbuf, hb, hk, ho, hrun⟩ := h
    refine ⟨b, rest ++ more.data.toList, ?_, hb, hk, ?_, ?_⟩
    · simp [ByteArray.data_append, hbuf]
    · simp only [ByteArray.size_append]
      omega
    · rw [ByteArray.data_append, Array.toList_append,
        List.take_append_of_le_length (by simpa using ho)]
      exact hrun

/-- A scan that belongs to the buffer ends the frame where a fresh scan would, and waits with
the same scan. -/
theorem scanFrom_resumed {k : FrameKind} {s : Scan} {buf : ByteArray} (ho : s.offset ≤ buf.size)
    (hrun : Scan.run k.move k.start (buf.data.toList.take s.offset) =
      .running { s with offset := 0 }) :
    (k.scanFrom s buf).2 = (k.scanFrom k.start buf).2 ∧
      ((k.scanFrom s buf).2 = none → (k.scanFrom s buf).1 = (k.scanFrom k.start buf).1) := by
  -- the fresh scan runs over the bytes before the offset, then resumes where `s` stands
  have hsplit : buf.data.toList.drop k.start.offset =
      buf.data.toList.take s.offset ++ buf.data.toList.drop s.offset := by
    simp
  rw [k.scanFrom_eq_run, k.scanFrom_eq_run, hsplit, Scan.run_append_of_running _ hrun,
    k.run_withOffset s 0, List.length_take_of_le (by simpa using ho)]
  cases Scan.run k.move s (buf.data.toList.drop s.offset) with
  | ended n s' => simp [Scan.Progress.withOffset]
  | running s' =>
    cases k <;> simp [Scan.Progress.withOffset, FrameKind.atEnd]

/-- **Keeping the scan changes nothing**: a decoder whose scan belongs to the buffer does what a
fresh decoder with the same limit does on it. -/
theorem decode_of_synced {d : Decoder} {buf : ByteArray} (h : d.Synced buf) :
    d.decode buf = (withMaxFrame d.maxFrame).decode buf := by
  unfold Synced at h
  split at h
  · -- between frames the decoder is a fresh one
    obtain ⟨scan, maxFrame⟩ := d
    simp only at h
    rw [h]
    rfl
  · rename_i k hk
    obtain ⟨b, rest, hbuf, hb, hkb, ho, hrun⟩ := h
    have hlead : leadingBlanks buf = 0 := by
      rw [leadingBlanks_eq, hbuf]
      simp [hb]
    rw [decode_of_kind hk, decode_of_kind_none rfl, hlead, ByteArray.extract_zero_size,
      getElem?_zero, hbuf]
    simp only [List.head?_cons]
    rw [hkb]
    obtain ⟨h2, h1⟩ := scanFrom_resumed ho hrun
    exact settle_congr rfl h2 h1

theorem maxFrame_settle (d : Decoder) (k : FrameKind) (buf : ByteArray) (r : Scan × Option Nat) :
    (d.settle k buf r).1.maxFrame = d.maxFrame := by
  unfold settle
  split
  · rfl
  · split <;> rfl

theorem scan_settle_of_some {d : Decoder} {k : FrameKind} {buf : ByteArray}
    {r : Scan × Option Nat} {len : Nat} (h : r.2 = some len) : (d.settle k buf r).1.scan = {} := by
  unfold settle
  rw [h]
  split <;> rfl

theorem scan_settle_of_none {d : Decoder} {k : FrameKind} {buf : ByteArray}
    {r : Scan × Option Nat} (h : r.2 = none) :
    (d.settle k buf r).1.scan = if buf.size > d.maxFrame then {} else r.1 := by
  unfold settle
  rw [h]
  simp only [Option.getD_none]
  split_ifs <;> rfl

theorem buf_settle_of_none {d : Decoder} {k : FrameKind} {buf : ByteArray}
    {r : Scan × Option Nat} (h : r.2 = none) : (d.settle k buf r).2.1 = buf := by
  unfold settle
  rw [h]
  split <;> rfl

/-- A call keeps the decoder's limit. -/
@[simp] theorem maxFrame_decode (d : Decoder) (buf : ByteArray) :
    (d.decode buf).1.maxFrame = d.maxFrame := by
  cases hk : d.scan.kind with
  | some k => rw [decode_of_kind hk, maxFrame_settle]
  | none =>
    rw [decode_of_kind_none hk]
    cases (buf.extract (leadingBlanks buf) buf.size)[0]? with
    | none => rfl
    | some b => exact maxFrame_settle _ _ _ _

/-- The first byte after the blanks is no blank. -/
theorem head_skipBlanks {buf : ByteArray} {b : UInt8}
    (h : (buf.extract (leadingBlanks buf) buf.size)[0]? = some b) :
    ∃ rest, (buf.extract (leadingBlanks buf) buf.size).data.toList = b :: rest ∧
      isAsciiBlank b = false := by
  rw [getElem?_zero, toList_skipBlanks] at h
  rw [toList_skipBlanks]
  obtain ⟨rest, hrest⟩ : ∃ rest, buf.data.toList.dropWhile isAsciiBlank = b :: rest := by
    cases hd : buf.data.toList.dropWhile isAsciiBlank with
    | nil => rw [hd] at h; cases h
    | cons a rest => rw [hd] at h; cases h; exact ⟨rest, rfl⟩
  refine ⟨rest, hrest, ?_⟩
  have := List.head_dropWhile_not isAsciiBlank (l := buf.data.toList) (by simp [hrest])
  simpa [hrest] using this

/-- **A fresh decoder leaves a scan that belongs to the buffer it leaves.** -/
theorem synced_decode_withMaxFrame (M : Nat) (buf : ByteArray) :
    ((withMaxFrame M).decode buf).1.Synced ((withMaxFrame M).decode buf).2.1 := by
  rw [decode_of_kind_none rfl]
  cases hb : (buf.extract (leadingBlanks buf) buf.size)[0]? with
  | none => exact synced_withMaxFrame M _
  | some b =>
    obtain ⟨rest, hys, hblank⟩ := head_skipBlanks hb
    simp only
    generalize buf.extract (leadingBlanks buf) buf.size = ys at hys
    generalize hk : FrameKind.ofFirst b = k
    have hstart : ({ (withMaxFrame M).scan with kind := some k } : Scan) = k.start := rfl
    rw [hstart, k.scanFrom_eq_run]
    simp only [FrameKind.start_offset, List.drop_zero]
    have hsim := k.similar_run k.start ys.data.toList
    cases hrun : Scan.run k.move k.start ys.data.toList with
    | ended n s' =>
      -- a finished frame, taken or refused: the scan is blank again
      exact synced_of_scan_eq (scan_settle_of_some rfl) _
    | running s' =>
      rw [hrun] at hsim
      dsimp only [withMaxFrame]
      cases hend : k.atEnd s' ys.size with
      | some len => exact synced_of_scan_eq (scan_settle_of_some rfl) _
      | none =>
        have hscan : (({ scan := k.start, maxFrame := M } : Decoder).settle k ys
            ({ s' with offset := ys.size }, none)).1.scan = _ := scan_settle_of_none rfl
        split_ifs at hscan with hM
        · exact synced_of_scan_eq hscan _
        · -- the frame goes on: the scan kept is the run over all of the buffer
          obtain ⟨hoff, hkind⟩ := hsim
          simp only [Scan.Progress.scan, FrameKind.start_offset, FrameKind.start_kind] at hoff hkind
          unfold Synced
          rw [hscan, buf_settle_of_none rfl]
          simp only [hkind]
          refine ⟨b, rest, hys, hblank, hk, Nat.le_refl _, ?_⟩
          rw [List.take_of_length_le (by simp), hrun]
          congr 1
          cases s'
          simp_all

/-- **Every call leaves a scan that belongs to the buffer it leaves.** -/
theorem synced_decode {d : Decoder} {buf : ByteArray} (h : d.Synced buf) :
    (d.decode buf).1.Synced (d.decode buf).2.1 := by
  rw [decode_of_synced h]
  exact synced_decode_withMaxFrame d.maxFrame buf

end Decoder

end HubService.Wire
