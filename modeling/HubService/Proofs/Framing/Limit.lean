import HubService.Proofs.Framing.Layout

/-!
# The limit on a frame's length

A decoder with limit `M` hands a frame out only if it is at most `M` bytes long, a garbage frame
counted before its trailing blanks are trimmed. A longer frame is *refused*: by the call that
finds its end, or earlier, by a call that finds more than `M` of its bytes waiting. This file
shows that the limit is exact, and what a refusal leaves behind.

* **One call** on a whole frame at the front of the bytes hands it out iff its length before
  trimming fits, and otherwise refuses it with that length
  (`HubService.Wire.Decoder.cut_structured_front`, `HubService.Wire.Decoder.cut_garbage_front`);
  on the start of a structured frame it waits, or refuses the start once it is longer than the
  limit (`HubService.Wire.Decoder.cut_structured_prefix`).
* **A refusal is final.** The bytes stay, without their leading blanks; the scan starts afresh;
  the next call refuses them again, and so does every call after more bytes arrive, with a size
  that never shrinks (`HubService.Wire.Decoder.cut_append_of_error`,
  `HubService.Wire.Decoder.feedBytes_refused`).
* So **a structured frame the decoder reaches** is handed out iff it fits; otherwise a call
  refuses it while it is buffered, no later than the step that brings its closing bracket, with
  a size between the limit and the frame's length, and nothing comes out after
  (`HubService.Wire.Decoder.feedBytes_structured_iff`,
  `HubService.Wire.Decoder.feedBytes_structured_refused`).

`HubService.Wire.Decoder.frame_limit_exact` gathers these for a decoder at any point of a stream
(`HubService.Wire.Decoder.LimitExact`). A refused frame blocks the stream for good: no frame
after it is ever handed out, even one that fits
(`HubService.Wire.Decoder.feed_refusal_blocks_later_frame`).
-/

namespace HubService.Wire

namespace Decoder

/-! ### One call -/

/-- **What one call checks**: once the blanks are skipped, the length of the frame if its end is
in sight, else every byte there is. A call refuses exactly when this passes the limit; otherwise
it hands out the frame or waits for the rest. -/
theorem cut_of_dropWhile {M : Nat} {xs r : List UInt8} {b : UInt8}
    (hd : xs.dropWhile isAsciiBlank = b :: r) :
    cut M xs =
      if M < ((FrameKind.ofFirst b).length? (b :: r)).getD (b :: r).length then
        (b :: r, .error ⟨((FrameKind.ofFirst b).length? (b :: r)).getD (b :: r).length, M⟩)
      else
        match (FrameKind.ofFirst b).length? (b :: r) with
        | some n => ((b :: r).drop n, .ok (some ((FrameKind.ofFirst b).trim ((b :: r).take n))))
        | none => (b :: r, .ok none) := by
  unfold cut
  rw [hd]
  dsimp only
  cases (FrameKind.ofFirst b).length? (b :: r) with
  | some n => simp only [Option.getD_some]
  | none => simp only [Option.getD_none]

/-- The first byte of a structured frame is a bracket, so no blank. -/
theorem isAsciiBlank_of_bracket {b : UInt8} (hb : b = 123 ∨ b = 91) : isAsciiBlank b = false := by
  rcases hb with rfl | rfl <;> rfl

theorem IsStructuredFrame.ne_nil {g : List UInt8} (hg : IsStructuredFrame g) : g ≠ [] := by
  obtain ⟨b, t, rfl, -⟩ := hg.1
  exact List.cons_ne_nil _ _

/-- **One call on a whole structured frame**, after any blanks: it is handed out if it fits the
limit, and otherwise refused with its length, every byte kept. -/
theorem cut_structured_front {M : Nat} {w g t : List UInt8} (hw : AllBlank w)
    (hg : IsStructuredFrame g) :
    cut M (w ++ g ++ t) =
      if g.length ≤ M then (t, .ok (some g)) else (g ++ t, .error ⟨g.length, M⟩) := by
  obtain ⟨b, r, rfl, hb⟩ := hg.1
  have hd : (w ++ b :: r ++ t).dropWhile isAsciiBlank = b :: (r ++ t) := by
    rw [List.append_assoc, List.cons_append]
    exact dropWhile_blanks_append hw (isAsciiBlank_of_bracket hb)
  have hn := length?_of_isStructuredFrame hg t
  rw [List.cons_append] at hn
  rw [cut_of_dropWhile hd, hn, FrameKind.ofFirst_eq_structured.mpr hb]
  simp only [Option.getD_some, FrameKind.trim]
  rw [← List.cons_append, List.drop_left, List.take_left]
  by_cases hM : (b :: r).length ≤ M
  · rw [if_neg (by omega), if_pos hM]
  · rw [if_pos (by omega), if_neg hM]

/-- **One call on the start of a structured frame**, after any blanks: it waits for the rest, or
refuses the start once it is longer than the limit. -/
theorem cut_structured_prefix {M : Nat} {w g q : List UInt8} (hw : AllBlank w)
    (hg : IsStructuredFrame g) (hq : q <+: g) (hlt : q.length < g.length) :
    cut M (w ++ q) = if q.length ≤ M then (q, .ok none) else (q, .error ⟨q.length, M⟩) := by
  cases q with
  | nil =>
    have hd : (w ++ []).dropWhile isAsciiBlank = [] := by
      rw [List.append_nil, List.dropWhile_eq_nil_iff]
      exact hw
    rw [if_pos (by simp)]
    unfold cut
    rw [hd]
  | cons b r =>
    obtain ⟨u, hu⟩ := hq
    obtain ⟨b', r', hbr, hb⟩ := hg.1
    rw [← hu, List.cons_append, List.cons.injEq] at hbr
    obtain ⟨rfl, -⟩ := hbr
    have hd : (w ++ b :: r).dropWhile isAsciiBlank = b :: r :=
      dropWhile_blanks_append hw (isAsciiBlank_of_bracket hb)
    -- the run over the whole frame ends at its last byte, so over a shorter start it goes on
    have hn : (FrameKind.ofFirst b).length? (b :: r) = none := by
      rw [FrameKind.ofFirst_eq_structured.mpr hb, FrameKind.length?, FrameKind.move_structured]
      cases hr : Scan.run Scan.bracketMove FrameKind.structured.start (b :: r) with
      | ended n s =>
        obtain ⟨s', hs'⟩ := run_of_isStructuredFrame hg []
        rw [List.append_nil, ← hu, Scan.run_append_of_ended _ hr u] at hs'
        have hle := Scan.le_length_of_run_eq_ended _ hr
        simp only [Scan.Progress.ended.injEq] at hs'
        rw [← hu] at hlt
        omega
      | running s => rfl
    rw [cut_of_dropWhile hd, hn]
    simp only [Option.getD_none]
    by_cases hM : (b :: r).length ≤ M
    · rw [if_neg (by omega), if_pos hM]
    · rw [if_pos (by omega), if_neg hM]

/-- Garbage with no stop outside quoted text and no quote left open, followed by a stop or by the
end of the bytes, ends right after itself. -/
theorem length?_garbage_front {b : UInt8} {t rest : List UInt8}
    (hk : FrameKind.ofFirst b = .garbage) (hq : StopsQuoted {} (b :: t))
    (hout : (quoteAfter (b :: t)).inString = false)
    (hend : rest = [] ∨ ∃ c u, rest = c :: u ∧ isGarbageStop c = true) :
    (FrameKind.ofFirst b).length? (b :: t ++ rest) = some (b :: t).length := by
  obtain ⟨s, hs, hsq⟩ := Scan.run_garbageMove_of_stopsQuoted (s := FrameKind.garbage.start) hq
  have hsout : s.inString = false := by
    rw [← Scan.quotes_inString, hsq]
    exact hout
  rw [FrameKind.length?, hk, FrameKind.move_garbage, Scan.run_append_of_running _ hs]
  rcases hend with rfl | ⟨c, u, rfl, hc⟩
  · simp [FrameKind.atEnd, hsout]
  · rw [Scan.run_cons_endBefore _ (garbageMove_of_stop hsout hc)]
    rfl

/-- **One call on a whole garbage frame**, after any blanks: garbage with no stop outside quoted
text and no quote left open, followed by a stop or by the end of the bytes, is handed out without
its trailing blanks if its length *before* trimming fits the limit, and otherwise refused with
that length. -/
theorem cut_garbage_front {M : Nat} {w g rest : List UInt8} (hw : AllBlank w)
    (hg : OpensGarbage g) (hq : StopsQuoted {} g) (hout : (quoteAfter g).inString = false)
    (hend : rest = [] ∨ ∃ c u, rest = c :: u ∧ isGarbageStop c = true) :
    cut M (w ++ g ++ rest) =
      if g.length ≤ M then (rest, .ok (some (g.rdropWhile isAsciiBlank)))
      else (g ++ rest, .error ⟨g.length, M⟩) := by
  obtain ⟨b, t, rfl, hb, hb₁, hb₂⟩ := hg
  have hk : FrameKind.ofFirst b = .garbage :=
    FrameKind.ofFirst_eq_garbage.mpr (by rintro (rfl | rfl) <;> simp_all)
  have hd : (w ++ b :: t ++ rest).dropWhile isAsciiBlank = b :: (t ++ rest) := by
    rw [List.append_assoc, List.cons_append]
    exact dropWhile_blanks_append hw hb
  have hn := length?_garbage_front hk hq hout hend
  rw [List.cons_append] at hn
  rw [cut_of_dropWhile hd, hn, hk]
  simp only [Option.getD_some, FrameKind.trim]
  rw [← List.cons_append, List.drop_left, List.take_left]
  by_cases hM : (b :: t).length ≤ M
  · rw [if_neg (by omega), if_pos hM]
  · rw [if_pos (by omega), if_neg hM]

/-! ### A refusal is final -/

/-- **What a refused call saw**: after the blanks, bytes whose checked length passes the limit;
the refusal names that length and the limit, and keeps the bytes. -/
theorem cut_error_cases {M : Nat} {xs rest : List UInt8} {e : FrameTooLarge}
    (h : cut M xs = (rest, .error e)) :
    ∃ b r, xs.dropWhile isAsciiBlank = b :: r ∧ rest = b :: r ∧
      e = ⟨((FrameKind.ofFirst b).length? (b :: r)).getD (b :: r).length, M⟩ ∧
      M < ((FrameKind.ofFirst b).length? (b :: r)).getD (b :: r).length := by
  cases hd : xs.dropWhile isAsciiBlank with
  | nil =>
    unfold cut at h
    rw [hd] at h
    cases h
  | cons b r =>
    rw [cut_of_dropWhile hd] at h
    split_ifs at h with hM
    · cases h
      exact ⟨b, r, rfl, rfl, rfl, hM⟩
    · split at h <;> cases h

/-- The length a call checks never shrinks as more bytes arrive: a frame that has ended keeps its
end, and one that has not takes in at least the bytes it had. -/
theorem getD_length?_le_append (k : FrameKind) (ys zs : List UInt8) :
    (k.length? ys).getD ys.length ≤ (k.length? (ys ++ zs)).getD (ys ++ zs).length := by
  unfold FrameKind.length?
  rw [Scan.run_append]
  cases hr : Scan.run k.move k.start ys with
  | ended n s => simp
  | running s =>
    dsimp only
    have hat : ∀ (s' : Scan) (n : Nat), (k.atEnd s' n).getD n = n := by
      intro s' n
      cases k
      · rfl
      · simp only [FrameKind.atEnd]
        split <;> rfl
    have hat_ys := hat s ys.length
    cases Scan.run k.move s zs with
    | ended m s' =>
      simp only [Scan.Progress.after_ended, Option.getD_some]
      omega
    | running s' =>
      simp only [Scan.Progress.after_running, List.length_append]
      rw [hat s', hat_ys]
      omega

/-- **A refusal is final**: bytes a call refused, followed by any more, are refused again, with a
size at least the first. -/
theorem cut_append_of_error {M : Nat} {xs rest : List UInt8} {e : FrameTooLarge}
    (h : cut M xs = (rest, .error e)) (ys : List UInt8) :
    ∃ e', cut M (rest ++ ys) = (rest ++ ys, .error e') ∧ e'.max = M ∧ e.size ≤ e'.size := by
  obtain ⟨b, r, hd, rfl, rfl, hM⟩ := cut_error_cases h
  have hb := blank_head_dropWhile hd
  have hd' : (b :: r ++ ys).dropWhile isAsciiBlank = b :: (r ++ ys) := by
    rw [List.cons_append, List.dropWhile_cons_of_neg (by simp [hb])]
  have hle := getD_length?_le_append (FrameKind.ofFirst b) (b :: r) ys
  rw [List.cons_append] at hle
  rw [cut_of_dropWhile hd', if_pos (by omega), List.cons_append]
  exact ⟨_, rfl, rfl, hle⟩

/-- Bytes a call refused are refused again by the next call on them. -/
theorem cut_rest_of_error {M : Nat} {xs rest : List UInt8} {e : FrameTooLarge}
    (h : cut M xs = (rest, .error e)) : cut M rest = (rest, .error e) := by
  rw [eq_dropWhile_of_cut_error h, cut_dropWhile, h, eq_dropWhile_of_cut_error h]

/-- **After a refusal nothing more comes out**: fed any chunks after bytes a call refuses, every
step hands out nothing and refuses again, with a size at least the first, and the bytes pile up. -/
theorem feedBytes_refused {M : Nat} {xs : List UInt8} {e : FrameTooLarge}
    (h : cut M xs = (xs, .error e)) (cs : List (List UInt8)) :
    (feedBytes M xs cs).1 = xs ++ cs.flatten ∧
      ∀ step ∈ (feedBytes M xs cs).2,
        step.1 = [] ∧ ∃ e', step.2 = some e' ∧ e'.max = M ∧ e.size ≤ e'.size := by
  induction cs generalizing xs e with
  | nil => simp [feedBytes]
  | cons c cs ih =>
    obtain ⟨e', hc, hmax, hle⟩ := cut_append_of_error h c
    obtain ⟨ih1, ih2⟩ := ih hc
    simp only [feedBytes, cutAll_of_error hc, List.flatten_cons, List.mem_cons]
    refine ⟨by rw [ih1, List.append_assoc], ?_⟩
    rintro step (rfl | hstep)
    · exact ⟨rfl, e', rfl, hmax, hle⟩
    · obtain ⟨h1, e'', h2, h3, h4⟩ := ih2 step hstep
      exact ⟨h1, e'', h2, h3, le_trans hle h4⟩

/-! ### A structured frame the decoder reaches -/

/-- Calls on bytes that hold a whole structured frame after blanks: the frame comes out first if
it fits, and otherwise it is refused at once and nothing comes out. -/
theorem cutAll_structured_front {M : Nat} {w g t : List UInt8} (hw : AllBlank w)
    (hg : IsStructuredFrame g) :
    cutAll M (w ++ g ++ t) =
      if g.length ≤ M then (g :: (cutAll M t).1, (cutAll M t).2.1, (cutAll M t).2.2)
      else ([], g ++ t, some ⟨g.length, M⟩) := by
  have h := cut_structured_front (M := M) (t := t) hw hg
  by_cases hM : g.length ≤ M
  · rw [if_pos hM] at h ⊢
    exact cutAll_of_frame h
  · rw [if_neg hM] at h ⊢
    exact cutAll_of_error h

/-- **Calls before a structured frame is complete** take nothing: they leave the start of the
frame, without the blanks before it, and refuse it once it is longer than the limit. The bytes
still missing from the frame are as many as before. -/
theorem cutAll_before_structured {M : Nat} {X Z w g t : List UInt8} (hw : AllBlank w)
    (hg : IsStructuredFrame g) (h : X ++ Z = w ++ g ++ t) (hlt : X.length < (w ++ g).length) :
    ∃ q w', AllBlank w' ∧ q ++ Z = w' ++ g ++ t ∧ q.length < g.length ∧
      X.length + (w' ++ g).length = q.length + (w ++ g).length ∧
      cutAll M X = ([], q, if q.length ≤ M then none else some ⟨q.length, M⟩) ∧
      (M < q.length → cut M q = (q, .error ⟨q.length, M⟩)) := by
  have hpre : X <+: w ++ g :=
    List.prefix_of_prefix_length_le ⟨Z, h⟩ ⟨t, rfl⟩ (Nat.le_of_lt hlt)
  by_cases hXw : X.length ≤ w.length
  · -- the bytes so far are blanks before the frame
    obtain ⟨w', hw'⟩ : X <+: w := List.prefix_of_prefix_length_le hpre (List.prefix_append _ _) hXw
    have hX : AllBlank X := fun b hb => hw b (hw' ▸ List.mem_append_left _ hb)
    have hcut : cut M X = ([], .ok none) := by
      have := cut_structured_prefix (M := M) (q := []) hX hg List.nil_prefix
        (List.length_pos_of_ne_nil (IsStructuredFrame.ne_nil hg))
      simpa using this
    refine ⟨[], w', fun b hb => hw b (hw' ▸ List.mem_append_right _ hb), ?_, ?_, ?_, ?_, ?_⟩
    · rw [← hw', List.append_assoc, List.append_assoc] at h
      simpa using List.append_cancel_left h
    · exact List.length_pos_of_ne_nil (IsStructuredFrame.ne_nil hg)
    · rw [← hw']
      simp only [List.length_append, List.length_nil]
      omega
    · rw [cutAll_of_none hcut]
      simp
    · intro hM
      simp at hM
  · -- the bytes so far are the blanks and the start of the frame
    obtain ⟨q, hq⟩ : w <+: X :=
      List.prefix_of_prefix_length_le (List.prefix_append _ _) hpre (by omega)
    subst hq
    have hqg : q <+: g := (List.prefix_append_right_inj w).mp hpre
    have hqlt : q.length < g.length := by simp only [List.length_append] at hlt; omega
    have hcut := cut_structured_prefix (M := M) hw hg hqg hqlt
    refine ⟨q, [], allBlank_nil, ?_, hqlt, by simp; omega, ?_, fun hM => ?_⟩
    · simp only [List.append_assoc] at h
      simpa using List.append_cancel_left h
    · by_cases hM : q.length ≤ M
      · rw [if_pos hM] at hcut ⊢
        exact cutAll_of_none hcut
      · rw [if_neg hM] at hcut ⊢
        exact cutAll_of_error hcut
    · have := cut_structured_prefix (M := M) allBlank_nil hg hqg hqlt
      rwa [List.nil_append, if_neg (by omega)] at this

/-- Steps that hand out nothing hand out nothing together. -/
theorem flatMap_eq_nil_of_empty {steps : List (List (List UInt8) × Option FrameTooLarge)}
    (h : ∀ step ∈ steps, step.1 = []) : steps.flatMap (·.1) = [] :=
  List.flatMap_eq_nil_iff.mpr h

/-- **A structured frame that fits comes out**: fed chunks after held bytes whose next frame,
after blanks, is a structured frame within the limit, a decoder hands that frame out before any
other. -/
theorem feedBytes_structured_fits {M : Nat} {p w g t : List UInt8} {cs : List (List UInt8)}
    (hcs : cs ≠ []) (hw : AllBlank w) (hg : IsStructuredFrame g)
    (h : p ++ cs.flatten = w ++ g ++ t) (hM : g.length ≤ M) :
    ((feedBytes M p cs).2.flatMap (·.1)).head? = some g := by
  induction cs generalizing p w with
  | nil => exact absurd rfl hcs
  | cons c cs ih =>
    rw [List.flatten_cons, ← List.append_assoc] at h
    by_cases hA : (w ++ g).length ≤ (p ++ c).length
    · -- the chunk completes the frame: the first call takes it
      obtain ⟨t₁, ht₁⟩ : w ++ g <+: p ++ c :=
        List.prefix_of_prefix_length_le ⟨t, h.symm⟩ ⟨cs.flatten, rfl⟩ hA
      simp only [feedBytes, ← ht₁, cutAll_structured_front hw hg, if_pos hM, List.flatMap_cons,
        List.cons_append, List.head?_cons]
    · -- the frame is not complete yet: the step takes nothing, and the next ones carry on
      obtain ⟨q, w', hw', hq, hqlt, -, hcut, -⟩ :=
        cutAll_before_structured (M := M) hw hg h (by omega)
      have hcs' : cs ≠ [] := by
        rintro rfl
        simp only [List.flatten_nil, List.append_nil] at h
        rw [h] at hA
        simp at hA
      simp only [feedBytes, hcut, if_pos (show q.length ≤ M by omega), List.flatMap_cons,
        List.nil_append]
      exact ih hcs' hw' hq

/-- **A structured frame past the limit is refused while it is buffered**: fed chunks after held
bytes whose next frame, after blanks, is a structured frame longer than the limit, a decoder
hands nothing out; some step refuses, no later than the one that completes the frame, with a
size past the limit and at most the frame's length; the steps before it wait, and every step
after it refuses again. -/
theorem feedBytes_structured_refused {M : Nat} {p w g t : List UInt8} {cs : List (List UInt8)}
    (hcs : cs ≠ []) (hw : AllBlank w) (hg : IsStructuredFrame g)
    (h : p ++ cs.flatten = w ++ g ++ t) (hM : M < g.length) :
    (feedBytes M p cs).2.flatMap (·.1) = [] ∧
      ∃ pre e post, (feedBytes M p cs).2 = pre ++ ([], some e) :: post ∧
        (∀ step ∈ pre, step = ([], none)) ∧ e.max = M ∧ M < e.size ∧ e.size ≤ g.length ∧
        (∀ step ∈ post, step.1 = [] ∧ ∃ e', step.2 = some e' ∧ e'.max = M ∧ e.size ≤ e'.size) ∧
        ∀ k, (w ++ g).length ≤ (p ++ (cs.take (k + 1)).flatten).length → pre.length ≤ k := by
  induction cs generalizing p w with
  | nil => exact absurd rfl hcs
  | cons c cs ih =>
    have h' := h
    rw [List.flatten_cons, ← List.append_assoc] at h'
    by_cases hA : (w ++ g).length ≤ (p ++ c).length
    · -- the chunk completes the frame: the first call refuses it, and so does every later one
      obtain ⟨t₁, ht₁⟩ : w ++ g <+: p ++ c :=
        List.prefix_of_prefix_length_le ⟨t, h'.symm⟩ ⟨cs.flatten, rfl⟩ hA
      have hcut : cut M (g ++ t₁) = (g ++ t₁, .error ⟨g.length, M⟩) := by
        have := cut_structured_front (M := M) (t := t₁) allBlank_nil hg
        rwa [List.nil_append, if_neg (by omega)] at this
      obtain ⟨-, hpost⟩ := feedBytes_refused hcut cs
      have hstep : (feedBytes M p (c :: cs)).2 =
          ([], some ⟨g.length, M⟩) :: (feedBytes M (g ++ t₁) cs).2 := by
        simp only [feedBytes, ← ht₁, cutAll_structured_front hw hg, if_neg (show ¬g.length ≤ M by omega)]
      rw [hstep]
      refine ⟨by simpa using flatMap_eq_nil_of_empty fun step hs => (hpost step hs).1,
        [], ⟨g.length, M⟩, _, rfl, by simp, rfl, hM, le_rfl, hpost, fun k _ => Nat.zero_le k⟩
    · obtain ⟨q, w', hw', hq, hqlt, hmissing, hcut, hrefused⟩ :=
        cutAll_before_structured (M := M) hw hg h' (by omega)
      by_cases hqM : q.length ≤ M
      · -- the step waits, and the next ones carry on
        have hcs' : cs ≠ [] := by
          rintro rfl
          simp only [List.flatten_nil, List.append_nil] at h'
          rw [h'] at hA
          simp at hA
        obtain ⟨hnil, pre, e, post, hsteps, hpre, he₁, he₂, he₃, hpost, hk⟩ := ih hcs' hw' hq
        have hstep : (feedBytes M p (c :: cs)).2 = ([], none) :: (feedBytes M q cs).2 := by
          simp only [feedBytes, hcut, if_pos hqM]
        rw [hstep]
        refine ⟨by simpa using hnil, ([], none) :: pre, e, post, by rw [hsteps]; rfl, ?_, he₁, he₂,
          he₃, hpost, ?_⟩
        · rintro step (_ | ⟨_, hs⟩)
          · rfl
          · exact hpre step hs
        · -- the step that completes the frame comes after this one
          intro k hk'
          cases k with
          | zero =>
            simp only [List.take_succ_cons, List.take_zero, List.flatten_cons, List.flatten_nil,
              List.append_nil] at hk'
            omega
          | succ k =>
            simp only [List.take_succ_cons, List.flatten_cons, ← List.append_assoc,
              List.length_append] at hk'
            have := hk k (by simp only [List.length_append] at hmissing ⊢; omega)
            simp only [List.length_cons]
            omega
      · -- the start of the frame is already past the limit: refused now, and again after
        obtain ⟨-, hpost⟩ := feedBytes_refused (hrefused (by omega)) cs
        have hstep : (feedBytes M p (c :: cs)).2 =
            ([], some ⟨q.length, M⟩) :: (feedBytes M q cs).2 := by
          simp only [feedBytes, hcut, if_neg hqM]
        rw [hstep]
        refine ⟨by simpa using flatMap_eq_nil_of_empty fun step hs => (hpost step hs).1,
          [], ⟨q.length, M⟩, _, rfl, by simp, rfl, by dsimp only; omega, by dsimp only; omega, hpost,
          fun k _ => Nat.zero_le k⟩

/-- **The limit is exact for a structured frame the decoder reaches**: fed chunks after held
bytes whose next frame, after blanks, is a structured frame, a decoder hands that frame out first
iff it fits the limit. -/
theorem feedBytes_structured_iff {M : Nat} {p w g t : List UInt8} {cs : List (List UInt8)}
    (hcs : cs ≠ []) (hw : AllBlank w) (hg : IsStructuredFrame g)
    (h : p ++ cs.flatten = w ++ g ++ t) :
    ((feedBytes M p cs).2.flatMap (·.1)).head? = some g ↔ g.length ≤ M := by
  constructor
  · intro hhead
    by_contra hM
    rw [(feedBytes_structured_refused hcs hw hg h (by omega)).1] at hhead
    cases hhead
  · exact feedBytes_structured_fits hcs hw hg h

/-! ### The decoder itself -/

/-- A call that refuses starts the scan afresh and keeps the bytes. -/
theorem settle_of_error {d : Decoder} {k : FrameKind} {buf : ByteArray} {r : Scan × Option Nat}
    {e : FrameTooLarge} (h : (d.settle k buf r).2.2 = .error e) :
    (d.settle k buf r).1 = { d with scan := {} } ∧ (d.settle k buf r).2.1 = buf := by
  unfold settle at h ⊢
  split_ifs at h ⊢
  · exact ⟨rfl, rfl⟩
  · split at h <;> cases h

/-- **A refusing call starts the scan afresh**, keeping the limit. -/
theorem decode_fst_of_error {d : Decoder} {buf : ByteArray} {e : FrameTooLarge}
    (h : (d.decode buf).2.2 = .error e) : (d.decode buf).1 = { d with scan := {} } := by
  cases hk : d.scan.kind with
  | some k =>
    rw [decode_of_kind hk] at h ⊢
    exact (settle_of_error h).1
  | none =>
    rw [decode_of_kind_none hk] at h ⊢
    split at h
    · cases h
    · rename_i b _
      exact (settle_of_error h).1

theorem eq_error_of_map {r : Decoded} {e : FrameTooLarge}
    (h : r.map (Option.map (·.data.toList)) = .error e) : r = .error e := by
  cases r with
  | error e' => cases h; rfl
  | ok v => cases h

/-- **A refusal, call by call**: at any point of a stream, a call that refuses names a size past
the limit and the limit; it keeps the bytes less their leading blanks and starts the scan afresh,
so the next call on them does exactly the same. -/
theorem decode_refused {d : Decoder} {buf : ByteArray} (hs : d.Synced buf) {e : FrameTooLarge}
    (he : (d.decode buf).2.2 = .error e) :
    e.max = d.maxFrame ∧ d.maxFrame < e.size ∧
      (d.decode buf).2.1.data.toList = buf.data.toList.dropWhile isAsciiBlank ∧
      (d.decode buf).1 = { d with scan := {} } ∧
      (d.decode buf).1.decode (d.decode buf).2.1 = d.decode buf := by
  have hcut : cut d.maxFrame buf.data.toList = Decoded.toLists (d.decode buf) := by
    rw [decode_of_synced hs]
    exact cut_decode _ _
  have hfst := decode_fst_of_error he
  rcases hr : d.decode buf with ⟨d', buf', r⟩
  rw [hr] at he hcut hfst
  dsimp only at he hfst ⊢
  subst he hfst
  change cut d.maxFrame buf.data.toList = (buf'.data.toList, .error e) at hcut
  obtain ⟨b, r, hd, hrest, he', hM⟩ := cut_error_cases hcut
  refine ⟨by rw [he'], by rw [he']; exact hM, by rw [hrest, hd], rfl, ?_⟩
  -- the decoder left is a fresh one, and the bytes left are refused again with the same size
  have hagain : cut d.maxFrame buf'.data.toList =
      Decoded.toLists (({ d with scan := {} } : Decoder).decode buf') := cut_decode _ _
  rw [cut_rest_of_error hcut] at hagain
  rcases hr' : ({ d with scan := {} } : Decoder).decode buf' with ⟨d'', buf'', r'⟩
  rw [hr'] at hagain
  simp only [Decoded.toLists, Prod.mk.injEq] at hagain
  obtain ⟨hbuf, hr''⟩ := hagain
  have hre := eq_error_of_map hr''.symm
  subst hre
  have hd'' := decode_fst_of_error (d := { d with scan := {} }) (e := e) (by rw [hr'])
  rw [hr'] at hd''
  dsimp only at hd''
  rw [hd'', eq_of_toList_eq hbuf.symm]

/-- **After a refusal nothing more comes out**: whatever chunks arrive next, every step hands out
nothing and refuses again, with a size at least the first. -/
theorem feed_after_refusal {d : Decoder} {buf : ByteArray} (hs : d.Synced buf)
    {e : FrameTooLarge} (he : (d.decode buf).2.2 = .error e) (chunks : List ByteArray) :
    ∀ step ∈ ((d.decode buf).1.feed (d.decode buf).2.1 chunks).2.2,
      step.1 = [] ∧ ∃ e', step.2 = some e' ∧ e'.max = d.maxFrame ∧ e.size ≤ e'.size := by
  have hcut : cut d.maxFrame buf.data.toList = Decoded.toLists (d.decode buf) := by
    rw [decode_of_synced hs]
    exact cut_decode _ _
  obtain ⟨hfeed, -, -⟩ := feed_eq_feedBytes (synced_decode hs) chunks
  rw [maxFrame_decode] at hfeed
  rcases hr : d.decode buf with ⟨d', buf', r⟩
  rw [hr] at he hcut hfeed
  dsimp only at he hfeed ⊢
  subst he
  change cut d.maxFrame buf.data.toList = (buf'.data.toList, .error e) at hcut
  obtain ⟨-, hsteps⟩ := feedBytes_refused (cut_rest_of_error hcut) (chunks.map (·.data.toList))
  intro step hstep
  have hmem : (step.1.map (·.data.toList), step.2) ∈ (Fed.toLists (d'.feed buf' chunks)).2 :=
    List.mem_map.mpr ⟨step, hstep, rfl⟩
  rw [hfeed] at hmem
  obtain ⟨h1, h2⟩ := hsteps _ hmem
  exact ⟨List.map_eq_nil_iff.mp h1, h2⟩

/-- **Garbage is checked before it is trimmed**: at any point of a stream, a call on bytes that
hold, after blanks, garbage with no stop outside quoted text and no quote left open, followed by
a stop or by the end of the bytes, hands it out trimmed if its length before trimming fits, and
otherwise refuses it with that length. -/
theorem decode_garbage_front {d : Decoder} {buf : ByteArray} (hs : d.Synced buf)
    {w g rest : List UInt8} (hw : AllBlank w) (hg : OpensGarbage g) (hq : StopsQuoted {} g)
    (hout : (quoteAfter g).inString = false)
    (hend : rest = [] ∨ ∃ c u, rest = c :: u ∧ isGarbageStop c = true)
    (hbuf : buf.data.toList = w ++ g ++ rest) :
    Decoded.toLists (d.decode buf) =
      if g.length ≤ d.maxFrame then (rest, .ok (some (g.rdropWhile isAsciiBlank)))
      else (g ++ rest, .error ⟨g.length, d.maxFrame⟩) := by
  rw [decode_of_synced hs, ← cut_decode, hbuf]
  exact cut_garbage_front hw hg hq hout hend

/-- The list view of a stream's run, from a point where the scan belongs to the bytes held. -/
theorem toLists_feed {d : Decoder} {buf : ByteArray} (hs : d.Synced buf) (chunks : List ByteArray) :
    (Fed.toLists (d.feed buf chunks)).2 =
      (feedBytes d.maxFrame buf.data.toList (chunks.map (·.data.toList))).2 := by
  rw [(feed_eq_feedBytes hs chunks).1]

/-! ### The limit is exact -/

/-- **What the limit on a frame's length means** for a decoder holding `buf`. -/
structure LimitExact (d : Decoder) (buf : ByteArray) : Prop where
  /-- A call that refuses names a size past the limit and the limit; it keeps the bytes less their
  leading blanks and starts the scan afresh, so the next call does exactly the same; and after
  it, whatever chunks arrive, every step hands out nothing and refuses again. -/
  refusal : ∀ e, (d.decode buf).2.2 = .error e →
    e.max = d.maxFrame ∧ d.maxFrame < e.size ∧
    (d.decode buf).2.1.data.toList = buf.data.toList.dropWhile isAsciiBlank ∧
    (d.decode buf).1 = { d with scan := {} } ∧
    (d.decode buf).1.decode (d.decode buf).2.1 = d.decode buf ∧
    ∀ chunks, ∀ step ∈ ((d.decode buf).1.feed (d.decode buf).2.1 chunks).2.2,
      step.1 = [] ∧ ∃ e', step.2 = some e' ∧ e'.max = d.maxFrame ∧ e.size ≤ e'.size
  /-- A structured frame that is next to come out, after blanks, is handed out first iff it fits
  the limit. One longer than the limit is refused while it is buffered: by the first call of a
  step no later than the one that brings its closing bracket, with a size past the limit and at
  most its length; the steps before only wait, and nothing comes out, then or after. -/
  structured : ∀ (chunks : List ByteArray) (w g t : List UInt8), chunks ≠ [] → AllBlank w →
    IsStructuredFrame g → buf.data.toList ++ (chunks.map (·.data.toList)).flatten = w ++ g ++ t →
    (((Fed.toLists (d.feed buf chunks)).2.flatMap (·.1)).head? = some g ↔
      g.length ≤ d.maxFrame) ∧
    (d.maxFrame < g.length →
      (Fed.toLists (d.feed buf chunks)).2.flatMap (·.1) = [] ∧
      ∃ pre e post, (Fed.toLists (d.feed buf chunks)).2 = pre ++ ([], some e) :: post ∧
        (∀ step ∈ pre, step = ([], none)) ∧ e.max = d.maxFrame ∧ d.maxFrame < e.size ∧
        e.size ≤ g.length ∧
        (∀ step ∈ post, step.1 = [] ∧ ∃ e', step.2 = some e' ∧ e'.max = d.maxFrame ∧
          e.size ≤ e'.size) ∧
        ∀ k, (w ++ g).length ≤
          (buf.data.toList ++ ((chunks.map (·.data.toList)).take (k + 1)).flatten).length →
          pre.length ≤ k)
  /-- Garbage next to come out, whose end is seen, is checked by its length before its trailing
  blanks are trimmed: handed out trimmed if that fits, refused with that length if not. -/
  garbage : ∀ w g rest, AllBlank w → OpensGarbage g → StopsQuoted {} g →
    (quoteAfter g).inString = false →
    (rest = [] ∨ ∃ c u, rest = c :: u ∧ isGarbageStop c = true) →
    buf.data.toList = w ++ g ++ rest →
    Decoded.toLists (d.decode buf) =
      if g.length ≤ d.maxFrame then (rest, .ok (some (g.rdropWhile isAsciiBlank)))
      else (g ++ rest, .error ⟨g.length, d.maxFrame⟩)

/-- **The limit on a frame's length is exact, and a refusal is final**, at any point of any
stream: whenever the decoder's scan belongs to the bytes it holds. -/
theorem frame_limit_exact {d : Decoder} {buf : ByteArray} (hs : d.Synced buf) :
    LimitExact d buf where
  refusal e he := by
    obtain ⟨h1, h2, h3, h4, h5⟩ := decode_refused hs he
    exact ⟨h1, h2, h3, h4, h5, feed_after_refusal hs he⟩
  structured chunks w g t hne hw hg h := by
    have hne' : chunks.map (·.data.toList) ≠ [] := by simpa using hne
    rw [toLists_feed hs]
    exact ⟨feedBytes_structured_iff hne' hw hg h,
      fun hM => feedBytes_structured_refused hne' hw hg h hM⟩
  garbage w g rest hw hg hq hout hend hbuf := decode_garbage_front hs hw hg hq hout hend hbuf

/-- The decoder of the oversized-frame test: a limit of 8, holding the start of an object that is
already 13 bytes long. -/
theorem frame_limit_exact_oversized :
    (withMaxFrame 8).Synced "\x7b\"key\":\"value".toUTF8 ∧
      LimitExact (withMaxFrame 8) "\x7b\"key\":\"value".toUTF8 :=
  ⟨synced_withMaxFrame 8 _, frame_limit_exact (synced_withMaxFrame 8 _)⟩

/-- A structured frame is bytes opening with a bracket whose run ends at the last of them. -/
theorem isStructuredFrame_of_run {b : UInt8} {r : List UInt8} {s : Scan} (hb : b = 123 ∨ b = 91)
    (h : Scan.run Scan.bracketMove FrameKind.structured.start (b :: r) = .ended (b :: r).length s) :
    IsStructuredFrame (b :: r) := by
  have := isStructuredFrame_take (FrameKind.ofFirst_eq_structured.mpr hb) h
  rwa [List.take_length] at this

/-- **A refusal blocks the rest of the stream.** Fed `{"a":1}` and then `{}` with a limit of 4
bytes, a decoder refuses the first frame at both steps and never hands out the second, although
the second is a structured frame of the stream that fits. -/
theorem feed_refusal_blocks_later_frame :
    IsStructuredFrame "\x7b\"a\":1\x7d".toUTF8.data.toList ∧
      IsStructuredFrame "\x7b\x7d".toUTF8.data.toList ∧ "\x7b\x7d".toUTF8.data.toList.length ≤ 4 ∧
      (Fed.toLists ((withMaxFrame 4).feed ByteArray.empty
        ["\x7b\"a\":1\x7d".toUTF8, "\x7b\x7d".toUTF8])).2 =
        [([], some ⟨7, 4⟩), ([], some ⟨7, 4⟩)] := by
  have hfirst : "\x7b\"a\":1\x7d".toUTF8.data.toList = [123, 34, 97, 34, 58, 49, 125] := rfl
  have hsecond : "\x7b\x7d".toUTF8.data.toList = [123, 125] := rfl
  have h1 : IsStructuredFrame [123, 34, 97, 34, 58, 49, 125] :=
    isStructuredFrame_of_run (.inl rfl) rfl
  refine ⟨hfirst ▸ h1, hsecond ▸ isStructuredFrame_of_run (.inl rfl) rfl, by rw [hsecond]; decide, ?_⟩
  -- the first frame is refused at the first step, and again once the second is behind it
  have hc₁ : cutAll 4 [123, 34, 97, 34, 58, 49, 125] =
      ([], [123, 34, 97, 34, 58, 49, 125], some ⟨7, 4⟩) := by
    have := cutAll_structured_front (M := 4) (t := []) allBlank_nil h1
    rwa [List.nil_append, List.append_nil, if_neg (by decide)] at this
  have hc₂ : cutAll 4 ([123, 34, 97, 34, 58, 49, 125] ++ [123, 125]) =
      ([], [123, 34, 97, 34, 58, 49, 125] ++ [123, 125], some ⟨7, 4⟩) := by
    have := cutAll_structured_front (M := 4) (t := [123, 125]) allBlank_nil h1
    rwa [List.nil_append, if_neg (by decide)] at this
  rw [toLists_feed (synced_withMaxFrame 4 _)]
  simp only [List.map_cons, List.map_nil, hfirst, hsecond, withMaxFrame, feedBytes,
    ByteArray.data_empty, Array.toList_empty, List.nil_append, hc₁, hc₂]

end Decoder

end HubService.Wire
