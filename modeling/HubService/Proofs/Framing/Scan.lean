import HubService.Wire.Framing
import Mathlib

/-!
# Scans as runs over a list of bytes

The decoder's two scans, `HubService.Wire.Scan.structured` and `HubService.Wire.Scan.garbage`,
walk a byte array from an offset and stop either at the end of the frame or at the end of what
has arrived. This file reads both as one thing: a **run** over a list of bytes
(`HubService.Wire.Scan.run`), driven by what a single byte does to the scan
(`HubService.Wire.Scan.Move`) – the scan goes on, or the frame ends just after the byte (a
closing bracket at depth one), or just before it (a bracket or newline after garbage).

* `HubService.Wire.Scan.bracketMove` and `HubService.Wire.Scan.garbageMove` are the two kinds of
  byte, and `HubService.Wire.Scan.structured_eq_run`, `HubService.Wire.Scan.garbage_eq_run`
  show that the loops of the decoder are their runs over the bytes from the offset on.
* `HubService.Wire.Scan.run_append` is the fact the rest of the theory leans on: a run over two
  pieces is the run over the first, resumed on the second from the scan it stopped with. It is
  what makes it sound for the decoder to keep its scan between calls.

Quoted text is tracked the same way in both kinds (`HubService.Wire.Scan.quoted`): a byte
changes the scan's quote state, its depth, or nothing.
-/

namespace HubService.Wire

namespace Scan

/-! ### Runs -/

/-- What one byte does to a scan. -/
inductive Move where
  /-- The frame goes on, with this scan. -/
  | next (s : Scan)
  /-- The frame ends just after the byte, leaving this scan. -/
  | endAfter (s : Scan)
  /-- The frame ends just before the byte. -/
  | endBefore

/-- Where a run stands after some bytes: the frame ended after the first `n` of them, with the
scan it ended with, or it has not ended and the scan is `s`. -/
inductive Progress where
  | ended (n : Nat) (s : Scan)
  | running (s : Scan)
  deriving DecidableEq, Repr

/-- The progress of a run that had already taken `k` bytes before. -/
def Progress.after (k : Nat) : Progress → Progress
  | .ended n s => .ended (k + n) s
  | .running s => .running s

@[simp] theorem Progress.after_zero (p : Progress) : p.after 0 = p := by
  cases p <;> simp [Progress.after]

@[simp] theorem Progress.after_after (j k : Nat) (p : Progress) :
    (p.after k).after j = p.after (j + k) := by
  cases p <;> simp [Progress.after, Nat.add_assoc]

@[simp] theorem Progress.after_running (k : Nat) (s : Scan) :
    (Progress.running s).after k = .running s := rfl

@[simp] theorem Progress.after_ended (k n : Nat) (s : Scan) :
    (Progress.ended n s).after k = .ended (k + n) s := rfl

/-- Runs a scan over bytes, one `move` at a time, until the frame ends. -/
def run (move : Scan → UInt8 → Move) : Scan → List UInt8 → Progress
  | s, [] => .running s
  | s, b :: bs =>
    match move s b with
    | .next s' => (run move s' bs).after 1
    | .endAfter s' => .ended 1 s'
    | .endBefore => .ended 0 s

section Run

variable (move : Scan → UInt8 → Move)

@[simp] theorem run_nil (s : Scan) : run move s [] = .running s := rfl

theorem run_cons_next {s s' : Scan} {b : UInt8} (h : move s b = .next s') (bs : List UInt8) :
    run move s (b :: bs) = (run move s' bs).after 1 := by
  rw [run, h]

theorem run_cons_endAfter {s s' : Scan} {b : UInt8} (h : move s b = .endAfter s')
    (bs : List UInt8) : run move s (b :: bs) = .ended 1 s' := by
  rw [run, h]

theorem run_cons_endBefore {s : Scan} {b : UInt8} (h : move s b = .endBefore)
    (bs : List UInt8) : run move s (b :: bs) = .ended 0 s := by
  rw [run, h]

/-- **Resuming a run.** A run over two pieces of bytes is the run over the first; if the frame
has not ended there, the run goes on over the second from the scan it reached. -/
theorem run_append (s : Scan) (xs ys : List UInt8) :
    run move s (xs ++ ys) =
      match run move s xs with
      | .ended n s' => .ended n s'
      | .running s' => (run move s' ys).after xs.length := by
  induction xs generalizing s with
  | nil => simp
  | cons b xs ih =>
    simp only [List.cons_append, run, List.length_cons]
    cases move s b with
    | next s' =>
      dsimp only
      rw [ih s']
      cases run move s' xs <;> simp [Nat.add_comm]
    | endAfter s' => rfl
    | endBefore => rfl

/-- A run that reaches the end of the first piece still running does not look at the second
piece before it. -/
theorem run_append_of_running {s s' : Scan} {xs : List UInt8} (h : run move s xs = .running s')
    (ys : List UInt8) : run move s (xs ++ ys) = (run move s' ys).after xs.length := by
  rw [run_append, h]

/-- A run that ends inside the first piece is not changed by what follows. -/
theorem run_append_of_ended {s s' : Scan} {n : Nat} {xs : List UInt8}
    (h : run move s xs = .ended n s') (ys : List UInt8) :
    run move s (xs ++ ys) = .ended n s' := by
  rw [run_append, h]

/-- A frame ends within the bytes the run has seen. -/
theorem le_length_of_run_eq_ended {s s' : Scan} {n : Nat} {xs : List UInt8}
    (h : run move s xs = .ended n s') : n ≤ xs.length := by
  induction xs generalizing s n with
  | nil => simp at h
  | cons b xs ih =>
    simp only [run] at h
    split at h
    · cases hr : run move _ xs with
      | ended m t =>
        rw [hr] at h
        cases h
        have := ih hr
        simp only [List.length_cons]
        omega
      | running t => rw [hr] at h; cases h
    · cases h; simp
    · cases h; simp

end Run

/-! ### The two kinds of byte -/

/-- A byte of a structured frame: a bracket outside quotes opens or closes one level, and the
closing bracket that brings the depth to zero ends the frame just after it. -/
def bracketMove (s : Scan) (b : UInt8) : Move :=
  let (s, done) := s.quoted b
  if done then .next s
  else if b == 123 || b == 91 then .next { s with depth := s.depth + 1 }
  else if b == 125 || b == 93 then
    let s := { s with depth := s.depth - 1 }
    if s.depth = 0 then .endAfter s else .next s
  else .next s

/-- A byte of a garbage run: an opening bracket or a newline outside quotes ends the run just
before it. -/
def garbageMove (s : Scan) (b : UInt8) : Move :=
  let (s, done) := s.quoted b
  if done then .next s
  else if b == 123 || b == 91 || b == 10 then .endBefore
  else .next s

/-- A byte outside quotes that is no quote leaves the scan as it was. -/
theorem quoted_eq_of_not_done {s s' : Scan} {b : UInt8} (h : s.quoted b = (s', false)) :
    s' = s := by
  unfold quoted at h
  split_ifs at h <;> cases h
  rfl

/-! ### The decoder's loops are runs -/

theorem drop_eq_getElem_cons {buf : ByteArray} {i : Nat} (h : i < buf.size) :
    buf.data.toList.drop i = buf[i] :: buf.data.toList.drop (i + 1) := by
  rw [List.drop_eq_getElem_cons (by simpa using h)]
  simp [ByteArray.getElem_eq_getElem_data]

theorem drop_eq_nil {buf : ByteArray} {i : Nat} (h : ¬i < buf.size) :
    buf.data.toList.drop i = [] := by
  simp only [List.drop_eq_nil_iff, Array.length_toList, ByteArray.size_data]
  omega

/-- A loop over a byte array from an offset that does at each byte what `move` says, and
`finish` at the end of the array, computes the run over the bytes from the offset on. -/
theorem loop_eq_run (move : Scan → UInt8 → Move) (buf : ByteArray)
    (finish : Scan → Scan × Option Nat) (F : Scan → Nat → Scan × Option Nat)
    (hstep : ∀ s i (h : i < buf.size), F s i =
      match move s buf[i] with
      | .next s' => F s' (i + 1)
      | .endAfter s' => (s', some (i + 1))
      | .endBefore => (s, some i))
    (hend : ∀ s i, ¬i < buf.size → F s i = finish s) (s : Scan) (i : Nat) :
    F s i =
      match s.run move (buf.data.toList.drop i) with
      | .ended n s' => (s', some (i + n))
      | .running s' => finish s' := by
  -- the loop stops at the end of the array: induction on the bytes left
  induction h : buf.size - i generalizing s i with
  | zero =>
    have hi : ¬i < buf.size := by omega
    rw [hend s i hi, drop_eq_nil hi, run]
  | succ k ih =>
    have hi : i < buf.size := by omega
    rw [hstep s i hi, drop_eq_getElem_cons hi, run]
    cases move s buf[i] with
    | next s' =>
      dsimp only
      rw [ih s' (i + 1) (by omega)]
      cases run move s' (buf.data.toList.drop (i + 1)) with
      | ended n s'' =>
        simp only [Progress.after]
        congr 2
        omega
      | running s'' => rfl
    | endAfter s' => rfl
    | endBefore => rfl

theorem structured_step (buf : ByteArray) (s : Scan) (i : Nat) (h : i < buf.size) :
    s.structured buf i =
      match bracketMove s buf[i] with
      | .next s' => s'.structured buf (i + 1)
      | .endAfter s' => (s', some (i + 1))
      | .endBefore => (s, some i) := by
  rw [Scan.structured, dif_pos h]
  simp only [bracketMove]
  obtain ⟨s', done⟩ := s.quoted buf[i]
  cases done with
  | true => rfl
  | false =>
    simp only [Bool.false_eq_true, ↓reduceIte]
    split
    · rfl
    · split
      · split <;> rfl
      · rfl

theorem garbage_step (buf : ByteArray) (s : Scan) (i : Nat) (h : i < buf.size) :
    s.garbage buf i =
      match garbageMove s buf[i] with
      | .next s' => s'.garbage buf (i + 1)
      | .endAfter s' => (s', some (i + 1))
      | .endBefore => (s, some i) := by
  rw [Scan.garbage, dif_pos h]
  simp only [garbageMove]
  rcases hq : s.quoted buf[i] with ⟨s', done⟩
  cases done with
  | true => rfl
  | false =>
    -- outside quotes the scan is unchanged, so stopping before the byte keeps it
    obtain rfl := quoted_eq_of_not_done hq
    simp only [Bool.false_eq_true, ↓reduceIte]
    split <;> rfl

/-- **The structured loop is a run.** Scanning a structured frame from offset `i` is the run of
`HubService.Wire.Scan.bracketMove` over the bytes from `i` on; if the frame does not end there,
the scan is kept with the offset moved to the end. -/
theorem structured_eq_run (buf : ByteArray) (s : Scan) (i : Nat) :
    s.structured buf i =
      match s.run bracketMove (buf.data.toList.drop i) with
      | .ended n s' => (s', some (i + n))
      | .running s' => ({ s' with offset := buf.size }, none) :=
  loop_eq_run bracketMove buf _ (fun s i => s.structured buf i) (structured_step buf)
    (fun s i h => by rw [Scan.structured, dif_neg h]) s i

/-- **The garbage loop is a run.** Scanning a garbage run from offset `i` is the run of
`HubService.Wire.Scan.garbageMove` over the bytes from `i` on; if the run does not end there, it
is complete anyway unless a quote is open. -/
theorem garbage_eq_run (buf : ByteArray) (s : Scan) (i : Nat) :
    s.garbage buf i =
      match s.run garbageMove (buf.data.toList.drop i) with
      | .ended n s' => (s', some (i + n))
      | .running s' =>
        ({ s' with offset := buf.size }, if s'.inString then none else some buf.size) :=
  loop_eq_run garbageMove buf _ (fun s i => s.garbage buf i) (garbage_step buf)
    (fun s i h => by rw [Scan.garbage, dif_neg h]) s i

/-! ### Quote states -/

/-- **Two scans in the same quote state**: both inside quoted text or both outside it, and both
waiting on an escape or neither. -/
def SameQuotes (s t : Scan) : Prop := s.inString = t.inString ∧ s.escaped = t.escaped

theorem quoted_sameQuotes {s t : Scan} (h : SameQuotes s t) (b : UInt8) :
    SameQuotes (s.quoted b).1 (t.quoted b).1 ∧ (s.quoted b).2 = (t.quoted b).2 := by
  obtain ⟨h1, h2⟩ := h
  unfold quoted
  rw [h1, h2]
  split_ifs <;> simp [SameQuotes, h1, h2]

/-- Where two runs stand agree: they ended after the same number of bytes, or both go on in the
same quote state. -/
def Progress.Agree : Progress → Progress → Prop
  | .ended n _, .ended m _ => n = m
  | .running s, .running t => SameQuotes s t
  | _, _ => False

@[simp] theorem Progress.after_eq_running {p : Progress} {k : Nat} {s : Scan} :
    p.after k = .running s ↔ p = .running s := by
  cases p <;> simp [Progress.after]

theorem Progress.agree_after {p q : Progress} (h : p.Agree q) (k : Nat) :
    (p.after k).Agree (q.after k) := by
  cases p <;> cases q <;> simp_all [Progress.Agree, Progress.after]

/-- **A garbage run sees only the quote state**: from two scans in the same quote state, the runs
over the same bytes agree. -/
theorem run_garbage_agree {s t : Scan} (h : SameQuotes s t) (xs : List UInt8) :
    (run garbageMove s xs).Agree (run garbageMove t xs) := by
  induction xs generalizing s t with
  | nil => exact h
  | cons b xs ih =>
    obtain ⟨hq, hd⟩ := quoted_sameQuotes h b
    rcases hs : s.quoted b with ⟨s', ds⟩
    rcases ht : t.quoted b with ⟨t', dt⟩
    rw [hs, ht] at hq hd
    simp only at hq hd
    subst hd
    cases ds with
    | true =>
      have hms : garbageMove s b = .next s' := by simp [garbageMove, hs]
      have hmt : garbageMove t b = .next t' := by simp [garbageMove, ht]
      rw [run_cons_next _ hms, run_cons_next _ hmt]
      exact Progress.agree_after (ih hq) 1
    | false =>
      obtain rfl := quoted_eq_of_not_done hs
      obtain rfl := quoted_eq_of_not_done ht
      by_cases hb : (b == 123 || b == 91 || b == 10) = true
      · rw [run_cons_endBefore _ (by simp [garbageMove, hs, hb]),
          run_cons_endBefore _ (by simp [garbageMove, ht, hb])]
        rfl
      · have hms : garbageMove s' b = .next s' := by simp [garbageMove, hs, hb]
        have hmt : garbageMove t' b = .next t' := by simp [garbageMove, ht, hb]
        rw [run_cons_next _ hms, run_cons_next _ hmt]
        exact Progress.agree_after (ih h) 1


/-- **A settled scan**: outside quoted text it is never waiting on an escape. -/
def Settled (s : Scan) : Prop := s.inString = false → s.escaped = false

theorem settled_quoted {s : Scan} (h : Settled s) (b : UInt8) : Settled (s.quoted b).1 := by
  unfold quoted
  split_ifs <;> simp_all [Settled]

/-- A garbage run from a settled scan stays settled. -/
theorem settled_run_garbage {s s' : Scan} (h : Settled s) {xs : List UInt8}
    (hr : run garbageMove s xs = .running s') : Settled s' := by
  induction xs generalizing s with
  | nil => cases hr; exact h
  | cons b xs ih =>
    rcases hq : s.quoted b with ⟨t, done⟩
    have ht : Settled t := by simpa [hq] using settled_quoted h b
    cases done with
    | true =>
      rw [run_cons_next _ (show garbageMove s b = .next t by simp [garbageMove, hq])] at hr
      exact ih ht (by simpa using hr)
    | false =>
      obtain rfl := quoted_eq_of_not_done hq
      by_cases hb : (b == 123 || b == 91 || b == 10) = true
      · rw [run_cons_endBefore _
          (show garbageMove t b = .endBefore by simp [garbageMove, hq, hb])] at hr
        cases hr
      · rw [run_cons_next _ (show garbageMove t b = .next t by simp [garbageMove, hq, hb])] at hr
        exact ih h (by simpa using hr)

end Scan

end HubService.Wire
