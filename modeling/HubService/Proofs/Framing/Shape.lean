import HubService.Proofs.Framing.Cut

/-!
# The shape of a frame

What a frame is, said without the decoder's scans, in the words of the format:

* quoted text is read by `HubService.Wire.QuoteState.step`: outside it a quote opens it; inside
  it a backslash escapes the next byte and an unescaped quote closes it;
* the **bracket depth** (`HubService.Wire.depthAfter`) counts `{` and `[` up and `}` and `]`
  down, outside quoted text only;
* a **structured frame** (`HubService.Wire.IsStructuredFrame`) opens with a bracket and is the
  shortest non-empty prefix of itself at which the depth comes back to zero;
* a **garbage frame** (`HubService.Wire.IsGarbageFrame`) is not empty, opens with a byte that is
  neither a blank nor an opening bracket, has no opening bracket or newline outside quoted text,
  and does not end in a blank.

The scans agree with these words. A structured scan that is at least one level deep goes on
exactly while the depth stays off zero (`HubService.Wire.Scan.run_bracketMove_ended`,
`HubService.Wire.Scan.run_bracketMove_running`), and a garbage scan stops exactly at a bracket
or newline outside quoted text (`HubService.Wire.Scan.run_garbageMove_ended`); so the frames a
call takes have these shapes (`HubService.Wire.isStructuredFrame_take`,
`HubService.Wire.isGarbageFrame_rdropWhile`), and a frame of either shape at the front of the
bytes is one a call takes (`HubService.Wire.run_of_isStructuredFrame`).
-/

namespace HubService.Wire

/-! ### Quoted text and bracket depth -/

/-- Where a reading of bytes stands in quoted text: inside it or not, and waiting on an escape
or not. -/
structure QuoteState where
  inString : Bool := false
  escaped : Bool := false
  deriving DecidableEq, Repr

/-- One byte read: outside quoted text a quote opens it; inside, a backslash escapes the next
byte, and a quote that is not escaped closes it. -/
def QuoteState.step (q : QuoteState) (b : UInt8) : QuoteState :=
  if q.inString then
    if q.escaped then { q with escaped := false }
    else if b = 92 then { q with escaped := true }
    else if b = 34 then { q with inString := false }
    else q
  else if b = 34 then { q with inString := true }
  else q

/-- The quote state after some bytes, read from outside quoted text. -/
def quoteAfter (xs : List UInt8) : QuoteState := xs.foldl QuoteState.step {}

/-- One byte read for the bracket depth: outside quoted text an opening bracket goes one level
down and a closing bracket, of either kind, one level up. -/
def depthStep (st : QuoteState × Int) (b : UInt8) : QuoteState × Int :=
  (st.1.step b,
    if st.1.inString then st.2
    else if b = 123 ∨ b = 91 then st.2 + 1
    else if b = 125 ∨ b = 93 then st.2 - 1
    else st.2)

/-- The bracket depth after some bytes, from depth zero outside quoted text. -/
def depthAfter (xs : List UInt8) : Int := (xs.foldl depthStep ({}, 0)).2

/-- A byte that ends garbage when it stands outside quoted text: an opening bracket or a
newline. -/
def isGarbageStop (b : UInt8) : Bool := b == 123 || b == 91 || b == 10

/-! ### The two shapes -/

/-- **A structured frame**: it opens with a bracket, and it is the shortest non-empty prefix of
itself at which the bracket depth comes back to zero. -/
def IsStructuredFrame (g : List UInt8) : Prop :=
  (∃ b t, g = b :: t ∧ (b = 123 ∨ b = 91)) ∧ depthAfter g = 0 ∧
    ∀ p t, g = p ++ t → p ≠ [] → t ≠ [] → depthAfter p ≠ 0

/-- Bytes read from quote state `q` have an opening bracket or a newline only inside quoted
text. -/
def StopsQuoted (q : QuoteState) (g : List UInt8) : Prop :=
  ∀ p c t, g = p ++ c :: t → isGarbageStop c = true → (p.foldl QuoteState.step q).inString = true

/-- Bytes that open garbage: the first is neither a blank nor an opening bracket. -/
def OpensGarbage (g : List UInt8) : Prop :=
  ∃ b t, g = b :: t ∧ isAsciiBlank b = false ∧ b ≠ 123 ∧ b ≠ 91

/-- **A garbage frame**: not empty, opening with a byte that is neither a blank nor an opening
bracket, with no opening bracket or newline outside quoted text, and not ending in a blank. -/
def IsGarbageFrame (g : List UInt8) : Prop :=
  OpensGarbage g ∧ StopsQuoted {} g ∧ ∀ h : g ≠ [], isAsciiBlank (g.getLast h) = false

theorem stopsQuoted_nil (q : QuoteState) : StopsQuoted q [] := by
  intro p c t h _
  simp at h

theorem stopsQuoted_cons {q : QuoteState} {b : UInt8} {g : List UInt8} :
    StopsQuoted q (b :: g) ↔
      (isGarbageStop b = true → q.inString = true) ∧ StopsQuoted (q.step b) g := by
  constructor
  · intro h
    exact ⟨fun hb => h [] b g rfl hb, fun p c t hg hc => h (b :: p) c t (by simp [hg]) hc⟩
  · rintro ⟨hb, hg⟩ p c t h hc
    rcases List.cons_eq_append_iff.mp h with ⟨rfl, hct⟩ | ⟨p', rfl, hp'⟩
    · obtain ⟨rfl, rfl⟩ := List.cons.inj hct
      exact hb hc
    · exact hg p' c t hp' hc

theorem StopsQuoted.of_append {q : QuoteState} {g t : List UInt8} (h : StopsQuoted q (g ++ t)) :
    StopsQuoted q g := by
  intro p c s hg hc
  exact h p c (s ++ t) (by rw [hg]; simp) hc

/-! ### What a scan reads -/

namespace Scan

/-- The quote state a scan is in. -/
def quotes (s : Scan) : QuoteState := ⟨s.inString, s.escaped⟩

@[simp] theorem quotes_inString (s : Scan) : s.quotes.inString = s.inString := rfl

@[simp] theorem quotes_setDepth (s : Scan) (d : Nat) :
    ({ s with depth := d } : Scan).quotes = s.quotes := rfl

theorem quotes_quoted (s : Scan) (b : UInt8) : (s.quoted b).1.quotes = s.quotes.step b := by
  unfold quoted QuoteState.step quotes
  by_cases h1 : s.inString = true <;> by_cases h2 : s.escaped = true <;>
    by_cases h92 : b = 92 <;> by_cases h34 : b = 34 <;> simp_all

theorem quoted_snd (s : Scan) (b : UInt8) : (s.quoted b).2 = (s.inString || b == 34) := by
  unfold quoted
  split_ifs <;> simp_all

/-! ### Structured scans and the bracket depth -/

/-- A structured scan's step, case by case: a byte inside quoted text or a quote only moves the
quote state; outside, brackets move the depth, and the closing bracket back to depth zero ends
the frame. -/
theorem bracketMove_eq (s : Scan) (b : UInt8) :
    bracketMove s b =
      if s.inString = true ∨ b = 34 then .next (s.quoted b).1
      else if b = 123 ∨ b = 91 then .next { s with depth := s.depth + 1 }
      else if b = 125 ∨ b = 93 then
        if s.depth - 1 = 0 then .endAfter { s with depth := s.depth - 1 }
        else .next { s with depth := s.depth - 1 }
      else .next s := by
  have hdone := quoted_snd s b
  unfold bracketMove
  rcases hq : s.quoted b with ⟨s', done⟩
  rw [hq] at hdone
  cases done with
  | true =>
    have hc : s.inString = true ∨ b = 34 := by simpa using hdone.symm
    simp [hc]
  | false =>
    obtain rfl := quoted_eq_of_not_done hq
    have hc : ¬(s'.inString = true ∨ b = 34) := by simpa using hdone.symm
    simp only [Bool.false_eq_true, ↓reduceIte, hc, Bool.or_eq_true, beq_iff_eq]

section Structured

variable {s s' : Scan} {b : UInt8}

theorem depth_quoted (s : Scan) (b : UInt8) : (s.quoted b).1.depth = s.depth := by
  unfold quoted
  split_ifs <;> rfl

/-- Outside quoted text, a byte that is no quote leaves the quote state. -/
theorem step_quotes_of_outside (hq : ¬(s.inString = true ∨ b = 34)) :
    s.quotes.step b = s.quotes := by
  simp only [not_or, Bool.not_eq_true] at hq
  simp [QuoteState.step, quotes, hq.1, hq.2]

/-- A step of a structured scan at least one level deep that goes on reads the byte as the depth
does, and stays at least one level deep. -/
theorem depthStep_of_next (hd : 1 ≤ s.depth) (h : bracketMove s b = .next s') :
    depthStep (s.quotes, s.depth) b = (s'.quotes, (s'.depth : Int)) ∧ 1 ≤ s'.depth := by
  rw [bracketMove_eq] at h
  split_ifs at h with hq ho hc hz <;> cases h
  · -- inside quoted text, or a quote: only the quote state moves
    refine ⟨?_, by rw [depth_quoted]; exact hd⟩
    rw [quotes_quoted, depth_quoted]
    rcases hq with hq | rfl
    · simp [depthStep, hq]
    · simp [depthStep]
  · -- an opening bracket goes one level down
    have hq' := step_quotes_of_outside hq
    simp only [not_or, Bool.not_eq_true] at hq
    refine ⟨?_, by simp⟩
    have hstep : depthStep (s.quotes, s.depth) b = (s.quotes, (s.depth : Int) + 1) := by
      simp [depthStep, hq', hq.1, ho]
    simp [hstep]
  · -- a closing bracket that does not bring the depth to zero
    have hq' := step_quotes_of_outside hq
    simp only [not_or, Bool.not_eq_true] at hq ho
    refine ⟨?_, by simp only; omega⟩
    have hstep : depthStep (s.quotes, s.depth) b = (s.quotes, (s.depth : Int) - 1) := by
      simp [depthStep, hq', hq.1, ho, hc]
    have hsub : ((s.depth - 1 : Nat) : Int) = (s.depth : Int) - 1 := by omega
    simp [hstep, hsub]
  · -- any other byte outside quoted text
    have hq' := step_quotes_of_outside hq
    simp only [not_or, Bool.not_eq_true] at hq ho hc
    exact ⟨by simp [depthStep, hq', hq.1, ho, hc], hd⟩

/-- A step of a structured scan at least one level deep that ends the frame brings the depth to
zero. -/
theorem depthStep_of_endAfter (hd : 1 ≤ s.depth) (h : bracketMove s b = .endAfter s') :
    (depthStep (s.quotes, s.depth) b).2 = 0 := by
  rw [bracketMove_eq] at h
  -- only a closing bracket outside quoted text at depth one ends the frame
  split_ifs at h with hq ho hc hz
  simp only [not_or, Bool.not_eq_true] at hq ho
  simp [depthStep, hq.1, ho, hc]
  omega

theorem bracketMove_ne_endBefore : bracketMove s b ≠ .endBefore := by
  rw [bracketMove_eq]
  split_ifs <;> simp

/-- **A structured run that goes on keeps the depth off zero**: from a scan at least one level
deep, the bytes a run goes on over leave it in the state they give, and no prefix of them brings
the depth to zero. -/
theorem run_bracketMove_running (hd : 1 ≤ s.depth) {xs : List UInt8}
    (h : run bracketMove s xs = .running s') :
    xs.foldl depthStep (s.quotes, s.depth) = (s'.quotes, (s'.depth : Int)) ∧
      ∀ p t, xs = p ++ t → (p.foldl depthStep (s.quotes, s.depth)).2 ≠ 0 := by
  induction xs generalizing s with
  | nil =>
    cases h
    refine ⟨rfl, ?_⟩
    intro p t hpt
    obtain ⟨rfl, -⟩ := List.append_eq_nil_iff.mp hpt.symm
    simp only [List.foldl_nil]
    omega
  | cons b xs ih =>
    cases hm : bracketMove s b with
    | next s₁ =>
      rw [run_cons_next _ hm, Progress.after_eq_running] at h
      obtain ⟨hstep, hd₁⟩ := depthStep_of_next hd hm
      obtain ⟨ih₁, ih₂⟩ := ih hd₁ h
      refine ⟨by rw [List.foldl_cons, hstep, ih₁], ?_⟩
      intro p t hpt
      rcases List.cons_eq_append_iff.mp hpt with ⟨rfl, -⟩ | ⟨p', rfl, hpt'⟩
      · simp only [List.foldl_nil]
        omega
      · rw [List.foldl_cons, hstep]
        exact ih₂ p' t hpt'
    | endAfter s₁ =>
      rw [run_cons_endAfter _ hm] at h
      cases h
    | endBefore => exact absurd hm bracketMove_ne_endBefore

/-- **A structured run ends where the depth first comes back to zero**: from a scan at least one
level deep, a run that ends after `n` bytes ends at the first prefix of them that brings the depth
to zero. -/
theorem run_bracketMove_ended (hd : 1 ≤ s.depth) {xs : List UInt8} {n : Nat}
    (h : run bracketMove s xs = .ended n s') :
    ∃ p t, xs = p ++ t ∧ p.length = n ∧ (p.foldl depthStep (s.quotes, s.depth)).2 = 0 ∧
      ∀ p₁ p₂, p = p₁ ++ p₂ → p₂ ≠ [] → (p₁.foldl depthStep (s.quotes, s.depth)).2 ≠ 0 := by
  induction xs generalizing s n with
  | nil => cases h
  | cons b xs ih =>
    cases hm : bracketMove s b with
    | next s₁ =>
      rw [run_cons_next _ hm] at h
      obtain ⟨hstep, hd₁⟩ := depthStep_of_next hd hm
      cases hr : run bracketMove s₁ xs with
      | running s₂ =>
        rw [hr] at h
        cases h
      | ended m s₂ =>
        rw [hr] at h
        simp only [Progress.after_ended, Progress.ended.injEq] at h
        obtain ⟨rfl, rfl⟩ := h
        obtain ⟨p, t, rfl, hlen, hzero, hfirst⟩ := ih hd₁ hr
        refine ⟨b :: p, t, rfl, by simp [hlen, Nat.add_comm], ?_, ?_⟩
        · rw [List.foldl_cons, hstep]
          exact hzero
        · intro p₁ p₂ hp hp₂
          rcases List.cons_eq_append_iff.mp hp with ⟨rfl, -⟩ | ⟨p₁', rfl, hp'⟩
          · simp only [List.foldl_nil]
            omega
          · rw [List.foldl_cons, hstep]
            exact hfirst p₁' p₂ hp' hp₂
    | endAfter s₁ =>
      -- the frame ends with this very byte
      rw [run_cons_endAfter _ hm] at h
      cases h
      refine ⟨[b], xs, rfl, rfl, depthStep_of_endAfter hd hm, ?_⟩
      intro p₁ p₂ hp hp₂
      rcases List.cons_eq_append_iff.mp hp with ⟨rfl, -⟩ | ⟨p₁', rfl, hp'⟩
      · simp only [List.foldl_nil]
        omega
      · obtain ⟨rfl, rfl⟩ := List.append_eq_nil_iff.mp hp'.symm
        exact absurd rfl hp₂
    | endBefore => exact absurd hm bracketMove_ne_endBefore

/-- **The converse**: from a scan at least one level deep, bytes whose first prefix at depth
zero is all of them end the run at their last byte. -/
theorem run_bracketMove_of_first_zero (hd : 1 ≤ s.depth) {xs : List UInt8}
    (hz : (xs.foldl depthStep (s.quotes, s.depth)).2 = 0)
    (hmin : ∀ p t, xs = p ++ t → t ≠ [] → (p.foldl depthStep (s.quotes, s.depth)).2 ≠ 0) :
    ∃ s', run bracketMove s xs = .ended xs.length s' := by
  cases hr : run bracketMove s xs with
  | running s' => exact absurd hz ((run_bracketMove_running hd hr).2 xs [] (by simp))
  | ended n s' =>
    obtain ⟨p, t, rfl, hlen, hzero, -⟩ := run_bracketMove_ended hd hr
    -- the run ended at a prefix at depth zero, and no shorter one is
    have ht : t = [] := by
      by_contra ht
      exact hmin p t rfl ht hzero
    subst ht
    exact ⟨s', by simp [hlen]⟩

end Structured

/-! ### Garbage scans and quoted text -/

section Garbage

variable {s s' : Scan} {b : UInt8}

/-- A garbage scan's step, case by case: a byte inside quoted text or a quote only moves the
quote state; outside, an opening bracket or a newline ends the run before it. -/
theorem garbageMove_eq (s : Scan) (b : UInt8) :
    garbageMove s b =
      if s.inString = true ∨ b = 34 then .next (s.quoted b).1
      else if isGarbageStop b = true then .endBefore
      else .next s := by
  have hdone := quoted_snd s b
  unfold garbageMove
  rcases hq : s.quoted b with ⟨s', done⟩
  rw [hq] at hdone
  cases done with
  | true =>
    have hc : s.inString = true ∨ b = 34 := by simpa using hdone.symm
    simp [hc]
  | false =>
    obtain rfl := quoted_eq_of_not_done hq
    have hc : ¬(s'.inString = true ∨ b = 34) := by simpa using hdone.symm
    simp only [Bool.false_eq_true, ↓reduceIte, hc]
    rfl

/-- A garbage step that goes on reads the byte as quoted text does, and never passes a bracket
or newline outside quoted text. -/
theorem quotes_of_garbage_next (h : garbageMove s b = .next s') :
    s'.quotes = s.quotes.step b ∧ (isGarbageStop b = true → s.inString = true) := by
  rw [garbageMove_eq] at h
  split_ifs at h with hq hs <;> cases h
  · refine ⟨quotes_quoted s b, fun hb => ?_⟩
    rcases hq with hq | rfl
    · exact hq
    · simp [isGarbageStop] at hb
  · simp only [Bool.not_eq_true] at hs
    exact ⟨(step_quotes_of_outside hq).symm, fun hb => by simp [hb] at hs⟩

/-- A garbage step ends the run only at a bracket or newline outside quoted text. -/
theorem stop_of_garbage_endBefore (h : garbageMove s b = .endBefore) :
    s.inString = false ∧ isGarbageStop b = true := by
  rw [garbageMove_eq] at h
  split_ifs at h with hq hs
  simp only [not_or, Bool.not_eq_true] at hq
  exact ⟨hq.1, hs⟩

/-- **A garbage run that goes on has no stop outside quoted text**, and leaves the scan in the
quote state its bytes give. -/
theorem run_garbageMove_running {xs : List UInt8} (h : run garbageMove s xs = .running s') :
    xs.foldl QuoteState.step s.quotes = s'.quotes ∧ StopsQuoted s.quotes xs := by
  induction xs generalizing s with
  | nil =>
    cases h
    exact ⟨rfl, stopsQuoted_nil _⟩
  | cons b xs ih =>
    cases hm : garbageMove s b with
    | next s₁ =>
      rw [run_cons_next _ hm, Progress.after_eq_running] at h
      obtain ⟨hq, hstop⟩ := quotes_of_garbage_next hm
      obtain ⟨ih₁, ih₂⟩ := ih h
      rw [hq] at ih₁ ih₂
      exact ⟨ih₁, stopsQuoted_cons.mpr ⟨hstop, ih₂⟩⟩
    | endAfter s₁ =>
      rw [run_cons_endAfter _ hm] at h
      cases h
    | endBefore =>
      rw [run_cons_endBefore _ hm] at h
      cases h

/-- **A garbage run ends at the first stop outside quoted text**: a run that ends after `n` bytes
ends just before a bracket or newline that stands outside quoted text, and has no such stop
before it. -/
theorem run_garbageMove_ended {xs : List UInt8} {n : Nat}
    (h : run garbageMove s xs = .ended n s') :
    ∃ p c t, xs = p ++ c :: t ∧ p.length = n ∧ StopsQuoted s.quotes p ∧
      (p.foldl QuoteState.step s.quotes).inString = false ∧ isGarbageStop c = true := by
  induction xs generalizing s n with
  | nil => cases h
  | cons b xs ih =>
    cases hm : garbageMove s b with
    | next s₁ =>
      rw [run_cons_next _ hm] at h
      obtain ⟨hq, hstop⟩ := quotes_of_garbage_next hm
      cases hr : run garbageMove s₁ xs with
      | running s₂ =>
        rw [hr] at h
        cases h
      | ended m s₂ =>
        rw [hr] at h
        simp only [Progress.after_ended, Progress.ended.injEq] at h
        obtain ⟨rfl, rfl⟩ := h
        obtain ⟨p, c, t, rfl, hlen, hp, hout, hc⟩ := ih hr
        rw [hq] at hp hout
        exact ⟨b :: p, c, t, rfl, by simp [hlen, Nat.add_comm],
          stopsQuoted_cons.mpr ⟨hstop, hp⟩, hout, hc⟩
    | endAfter s₁ =>
      rw [garbageMove_eq] at hm
      split_ifs at hm
    | endBefore =>
      -- the run stops before this very byte
      rw [run_cons_endBefore _ hm] at h
      cases h
      obtain ⟨hout, hc⟩ := stop_of_garbage_endBefore hm
      exact ⟨[], b, xs, rfl, rfl, stopsQuoted_nil _, hout, hc⟩

/-- **The converse**: a garbage run over bytes with no stop outside quoted text goes on. -/
theorem run_garbageMove_of_stopsQuoted {xs : List UInt8} (h : StopsQuoted s.quotes xs) :
    ∃ t, run garbageMove s xs = .running t ∧ t.quotes = xs.foldl QuoteState.step s.quotes := by
  cases hr : run garbageMove s xs with
  | running t => exact ⟨t, rfl, (run_garbageMove_running hr).1.symm⟩
  | ended n t =>
    obtain ⟨p, c, u, rfl, -, -, hout, hc⟩ := run_garbageMove_ended hr
    have hin := h p c u rfl hc
    rw [hout] at hin
    cases hin

end Garbage

end Scan

/-! ### The frames a call takes -/

namespace FrameKind

theorem ofFirst_eq_structured {b : UInt8} : ofFirst b = .structured ↔ (b = 123 ∨ b = 91) := by
  unfold ofFirst
  split_ifs with h <;> simp_all

theorem ofFirst_eq_garbage {b : UInt8} : ofFirst b = .garbage ↔ ¬(b = 123 ∨ b = 91) := by
  unfold ofFirst
  split_ifs with h <;> simp_all

end FrameKind

/-- An opening bracket takes a fresh structured scan one level deep, outside quoted text. -/
theorem bracketMove_start_open {b : UInt8} (hb : b = 123 ∨ b = 91) :
    Scan.bracketMove FrameKind.structured.start b =
      .next { FrameKind.structured.start with depth := 1 } := by
  rcases hb with rfl | rfl <;> rfl

theorem depthAfter_cons_open {b : UInt8} (hb : b = 123 ∨ b = 91) (t : List UInt8) :
    depthAfter (b :: t) = (t.foldl depthStep ({}, 1)).2 := by
  rcases hb with rfl | rfl <;> rfl

/-- **A structured frame a call takes has the structured shape**: it is the shortest prefix at
which the depth comes back to zero. -/
theorem isStructuredFrame_take {b : UInt8} {r : List UInt8} {n : Nat} {s : Scan}
    (hk : FrameKind.ofFirst b = .structured)
    (h : Scan.run Scan.bracketMove FrameKind.structured.start (b :: r) = .ended n s) :
    IsStructuredFrame ((b :: r).take n) := by
  have hb := FrameKind.ofFirst_eq_structured.mp hk
  rw [Scan.run_cons_next _ (bracketMove_start_open hb)] at h
  cases hr : Scan.run Scan.bracketMove { FrameKind.structured.start with depth := 1 } r with
  | running s' =>
    rw [hr] at h
    cases h
  | ended m s' =>
    rw [hr] at h
    simp only [Scan.Progress.after_ended, Scan.Progress.ended.injEq] at h
    obtain ⟨rfl, -⟩ := h
    obtain ⟨p, t, rfl, hlen, hzero, hfirst⟩ := Scan.run_bracketMove_ended (by decide) hr
    have htake : (b :: (p ++ t)).take (1 + m) = b :: p := by
      simp [Nat.add_comm, ← hlen]
    rw [htake]
    refine ⟨⟨b, p, rfl, hb⟩, by rw [depthAfter_cons_open hb]; exact hzero, ?_⟩
    intro p₁ p₂ hp hp₁ hp₂
    rcases List.cons_eq_append_iff.mp hp with ⟨rfl, -⟩ | ⟨p₁', rfl, hp'⟩
    · exact absurd rfl hp₁
    · rw [depthAfter_cons_open hb]
      exact hfirst p₁' p₂ hp' hp₂

/-- **A frame of the structured shape at the front of the bytes is one a call takes**, whatever
follows it. -/
theorem run_of_isStructuredFrame {g : List UInt8} (hg : IsStructuredFrame g) (rest : List UInt8) :
    ∃ s, Scan.run Scan.bracketMove FrameKind.structured.start (g ++ rest) = .ended g.length s := by
  obtain ⟨⟨b, t, rfl, hb⟩, hz, hmin⟩ := hg
  rw [depthAfter_cons_open hb] at hz
  -- a prefix of the bytes after the bracket is a prefix of the frame with the bracket before it
  have hmin' : ∀ p u, t = p ++ u → u ≠ [] → (p.foldl depthStep ({}, 1)).2 ≠ 0 := by
    intro p u ht hu
    rw [← depthAfter_cons_open hb]
    exact hmin (b :: p) u (by simp [ht]) (List.cons_ne_nil _ _) hu
  obtain ⟨s', hs'⟩ := Scan.run_bracketMove_of_first_zero
    (s := { FrameKind.structured.start with depth := 1 }) (by decide) hz hmin'
  refine ⟨s', ?_⟩
  rw [List.cons_append, Scan.run_cons_next _ (bracketMove_start_open hb),
    Scan.run_append_of_ended _ hs']
  simp [Nat.add_comm]

/-- Trimming the trailing blanks keeps a first byte that is no blank. -/
theorem rdropWhile_cons_of_not_blank {b : UInt8} {r : List UInt8} (hb : isAsciiBlank b = false) :
    ∃ t, (b :: r).rdropWhile isAsciiBlank = b :: t := by
  have hne : (b :: r).rdropWhile isAsciiBlank ≠ [] := by
    rw [Ne, List.rdropWhile_eq_nil_iff]
    intro h
    simp [h b List.mem_cons_self] at hb
  obtain ⟨u, hu⟩ := List.rdropWhile_prefix (p := isAsciiBlank) (l := b :: r)
  cases hd : (b :: r).rdropWhile isAsciiBlank with
  | nil => exact absurd hd hne
  | cons c t =>
    rw [hd, List.cons_append] at hu
    obtain ⟨rfl, -⟩ := List.cons.inj hu
    exact ⟨t, rfl⟩

/-- **A garbage frame a call takes has the garbage shape**, once its trailing blanks are gone. -/
theorem isGarbageFrame_rdropWhile {b : UInt8} {r : List UInt8} (hb : isAsciiBlank b = false)
    (hk : FrameKind.ofFirst b = .garbage) (hq : StopsQuoted {} (b :: r)) :
    IsGarbageFrame ((b :: r).rdropWhile isAsciiBlank) := by
  obtain ⟨t, ht⟩ := rdropWhile_cons_of_not_blank (r := r) hb
  have hob := FrameKind.ofFirst_eq_garbage.mp hk
  simp only [not_or] at hob
  refine ⟨⟨b, t, ht, hb, hob.1, hob.2⟩, ?_, fun hne => ?_⟩
  · obtain ⟨u, hu⟩ := List.rdropWhile_prefix (p := isAsciiBlank) (l := b :: r)
    rw [← hu] at hq
    exact hq.of_append
  · simpa using List.rdropWhile_last_not _ _ hne

end HubService.Wire
