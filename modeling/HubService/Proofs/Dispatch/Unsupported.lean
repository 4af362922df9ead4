import HubService.Proofs.Framing.Limit
import HubService.Proofs.Json.Tokens
import HubService.Session.Serve
import Mathlib

/-!
# Frames that are not objects

The decoder hands out two kinds of frame (`HubService.Wire.Decoder.decode`): structured frames,
which open with `{` or `[`, and garbage, which opens with any other byte that is no blank. Only
JSON text of an object is an envelope, and the reader takes an object only from text that opens
with `{` once its blanks are skipped (`HubService.Json.parse_object_opens`). The reader's
blanks – space, tab, newline, carriage return – are all among the blanks the decoder skips
before a frame (`HubService.Json.isBlank_eq_false_of_isAsciiBlank`), so the byte the reader
looks at first is the frame's first byte.

Hence **every frame handed out that does not open with `{` is answered with the notice
`unsupported_format`** (`HubService.Session.unbraced_frame_noticed`): whatever the stream, the
way it is cut, the limit and the calls pending, such a frame is rejected with no tag and loudly,
and serving it sends exactly that notice. This holds of an array as of garbage, and of garbage
that is itself JSON text the reader accepts – a string, a number, a literal – since none of
those is an object.
-/

namespace HubService.Json

/-- **The reader skips no byte the decoder keeps**: a byte that is no blank to the decoder is no
blank to the reader. -/
theorem isBlank_eq_false_of_isAsciiBlank {b : UInt8} (h : Wire.isAsciiBlank b = false) :
    isBlank b = false := by
  rw [Wire.isAsciiBlank_eq_false] at h
  obtain ⟨h32, h9, h10, -, h13⟩ := h
  simp [isBlank, h32, h9, h10, h13]

/-! ### The reader returns an object only from a brace -/

section Opening

variable {src : ByteArray}

/-- A reading step mapped into values gives an object only where the map makes one. -/
theorem map_eq_ok_object {α : Type} {x : Except SyntaxError α} {f : α → Value × Nat}
    {fs : Fields} {k : Nat} (h : x.map f = .ok (.object fs, k)) : ∃ a, f a = (.object fs, k) := by
  cases x with
  | error e => cases h
  | ok a => exact ⟨a, Except.ok.inj h⟩

/-- **A value read as an object opens with a brace** once its blanks are skipped: every other
first byte gives a literal, a number, a string, an array or a refusal. -/
theorem value_object_opens {fuel room i k : Nat} {fs : Fields}
    (h : value src fuel room i = .ok (.object fs, k)) : src[skipBlanks src i]? = some 123 := by
  cases fuel with
  | zero =>
    rw [value] at h
    cases h
  | succ fuel =>
    rw [value] at h
    split at h
    case h_1 => cases h
    case h_2 | h_3 | h_4 =>
      obtain ⟨_, ha⟩ := map_eq_ok_object h
      cases ha
    case h_5 | h_6 =>
      obtain ⟨⟨_, _⟩, ha⟩ := map_eq_ok_object h
      cases ha
    case h_7 =>
      split_ifs at h
      obtain ⟨⟨_, _⟩, ha⟩ := map_eq_ok_object h
      cases ha
    case h_8 hb => exact hb
    case h_9 =>
      split_ifs at h
      obtain ⟨⟨_, _⟩, ha⟩ := map_eq_ok_object h
      cases ha

/-- **JSON text of an object opens with a brace** after its blanks. -/
theorem parse_object_opens {fs : Fields} (h : parse src = .ok (.object fs)) :
    src[skipBlanks src 0]? = some 123 := by
  rw [parse] at h
  split at h
  · cases h
  · rename_i v i hv
    dsimp only at h
    split_ifs at h
    cases h
    exact value_object_opens hv

end Opening

end HubService.Json

namespace HubService.Wire

open HubService.Json

/-! ### Every frame handed out opens with a byte that is no blank -/

/-- A frame as it is handed out opens with a byte that is no blank: a bracket, or the first byte
of garbage. -/
theorem Trimmed.opens {g u : List UInt8} (h : Trimmed g u) :
    ∃ b t, g = b :: t ∧ isAsciiBlank b = false := by
  cases h with
  | structured hg =>
    obtain ⟨b, t, rfl, hb⟩ := hg.1
    exact ⟨b, t, rfl, Decoder.isAsciiBlank_of_bracket hb⟩
  | garbage hg _ =>
    obtain ⟨b, t, rfl, hb, -⟩ := hg.1
    exact ⟨b, t, rfl, hb⟩

theorem Layout.opens_of_mem {xs r g : List UInt8} {fs : List (List UInt8)} (h : Layout xs fs r)
    (hg : g ∈ fs) : ∃ b t, g = b :: t ∧ isAsciiBlank b = false := by
  induction h with
  | rest _ => cases hg
  | frame _ ht _ ih =>
    rcases List.mem_cons.mp hg with rfl | hg
    · exact ht.opens
    · exact ih hg

/-- **Every frame a fresh decoder hands out opens with a byte that is no blank**, whatever the
stream, the way it is cut and the limit, refusals included. -/
theorem Decoder.feed_frame_opens (M : Nat) (chunks : List ByteArray) {frame : ByteArray}
    (hf : frame ∈ ((withMaxFrame M).feed ByteArray.empty chunks).2.2.flatMap (·.1)) :
    ∃ b, frame[0]? = some b ∧ isAsciiBlank b = false := by
  obtain ⟨hfeed, -, -⟩ := feed_eq_feedBytes (synced_withMaxFrame M ByteArray.empty) chunks
  generalize (withMaxFrame M).feed ByteArray.empty chunks = r at hfeed hf
  change Fed.toLists r = feedBytes M [] _ at hfeed
  -- the frames are those of the layout of the stream's bytes
  have hlay := feedBytes_layout M [] (chunks.map (·.data.toList))
  rw [← hfeed, ← Fed.frames_toLists] at hlay
  obtain ⟨b, t, ht, hb⟩ := hlay.opens_of_mem (List.mem_map_of_mem hf)
  exact ⟨b, by rw [getElem?_zero, ht]; rfl, hb⟩

/-! ### Envelopes open with a brace -/

/-- **An envelope opens with a brace**, after the reader's blanks. -/
theorem Envelope.parse_opens {frame : ByteArray} {e : Envelope} (h : Envelope.parse frame = .ok e) :
    frame[skipBlanks frame 0]? = some 123 := by
  rw [Envelope.parse] at h
  split at h
  · cases h
  · rename_i fs hfs
    exact parse_object_opens hfs
  · cases h

/-- A frame whose first byte is neither a blank nor a brace is no envelope. -/
theorem Envelope.parse_error_of_head {frame : ByteArray} {b : UInt8} (hb : frame[0]? = some b)
    (hblank : isAsciiBlank b = false) (hbrace : b ≠ 123) :
    ∃ err, Envelope.parse frame = .error err := by
  cases hp : Envelope.parse frame with
  | error err => exact ⟨err, rfl⟩
  | ok e =>
    have hskip : skipBlanks frame 0 = 0 :=
      skipBlanks_of_holds (holds_cons.mpr ⟨hb, holds_nil frame 1⟩)
        (isBlank_eq_false_of_isAsciiBlank hblank)
    have hopen := Envelope.parse_opens hp
    rw [hskip, hb] at hopen
    exact absurd (Option.some.inj hopen) hbrace

end HubService.Wire

namespace HubService.Dispatch

open HubService.Wire

/-- A frame that is no envelope is rejected with no tag, loudly, as an unsupported format. -/
theorem classify_of_parse_error {pending : Tag → Bool} {frame : ByteArray} {err : EnvelopeError}
    (h : Envelope.parse frame = .error err) :
    classify pending frame = .rejected ⟨none, .unsupportedFormat err, false⟩ := by
  rw [classify, h]

end HubService.Dispatch

namespace HubService.Session

open HubService.Wire HubService.Dispatch HubService.Registry

/-- **Every frame handed out that does not open with a brace gets the `unsupported_format`
notice.** For every stream fed in chunks to a fresh decoder with any limit, every frame it
hands out whose first byte is not `{` is rejected with no tag, not quietly, as an unsupported
format, whichever calls are pending; serving it sends exactly the notice of that code and
nothing else, whatever the endpoints; and the notice is written `{"error":"unsupported_format"}`. -/
theorem unbraced_frame_noticed (M : Nat) (chunks : List ByteArray) (pending : Tag → Bool)
    (registry : EndpointRegistry Handler) (handleTimeout : Duration) {frame : ByteArray}
    (hf : frame ∈ ((Decoder.withMaxFrame M).feed ByteArray.empty chunks).2.2.flatMap (·.1))
    (hbrace : frame[0]? ≠ some 123) :
    (∃ source, classify pending frame = .rejected ⟨none, .unsupportedFormat source, false⟩) ∧
      serve registry handleTimeout (classify pending frame) =
        .send (.notice .unsupportedFormat) (fun _ => .finish .served) ∧
      (Frame.notice .unsupportedFormat).encode = "\x7b\"error\":\"unsupported_format\"\x7d" := by
  obtain ⟨b, hb, hblank⟩ := Decoder.feed_frame_opens M chunks hf
  obtain ⟨source, hsource⟩ :=
    Envelope.parse_error_of_head hb hblank (fun h => hbrace (h ▸ hb))
  have hc : classify pending frame = .rejected ⟨none, .unsupportedFormat source, false⟩ :=
    classify_of_parse_error hsource
  refine ⟨⟨source, hc⟩, ?_, rfl⟩
  rw [hc]
  rfl

/-- The stream `hello`, in one chunk, with no endpoint registered: its one frame is garbage, and
is answered with the notice. -/
theorem unbraced_frame_noticed_hello :
    let frames := ((Decoder.withMaxFrame 64).feed ByteArray.empty ["hello".toUTF8]).2.2.flatMap (·.1)
    let registry : EndpointRegistry Handler := ⟨⟨.user, []⟩, ⟨.service, []⟩⟩
    "hello".toUTF8 ∈ frames ∧ "hello".toUTF8[0]? ≠ some 123 ∧
      (∃ source, classify (fun _ => false) "hello".toUTF8 =
          .rejected ⟨none, .unsupportedFormat source, false⟩) ∧
      serve registry ⟨30000⟩ (classify (fun _ => false) "hello".toUTF8) =
        .send (.notice .unsupportedFormat) (fun _ => .finish .served) ∧
      (Frame.notice .unsupportedFormat).encode = "\x7b\"error\":\"unsupported_format\"\x7d" := by
  intro frames registry
  have hcut : Decoder.cutAll 64 "hello".toUTF8.data.toList =
      (["hello".toUTF8.data.toList], [], none) := by
    rw [Decoder.cutAll_of_frame (show Decoder.cut 64 "hello".toUTF8.data.toList =
        ([], .ok (some "hello".toUTF8.data.toList)) from rfl),
      Decoder.cutAll_of_none (show Decoder.cut 64 [] = ([], .ok none) from rfl)]
  have hmem : "hello".toUTF8 ∈ frames := by
    obtain ⟨hfeed, -, -⟩ :=
      Decoder.feed_eq_feedBytes (Decoder.synced_withMaxFrame 64 ByteArray.empty) ["hello".toUTF8]
    have hframes :=
      Decoder.Fed.frames_toLists ((Decoder.withMaxFrame 64).feed ByteArray.empty ["hello".toUTF8])
    rw [hfeed] at hframes
    simp only [Decoder.feedBytes, Decoder.withMaxFrame, List.map_cons, List.map_nil,
      ByteArray.data_empty, Array.toList_empty, List.nil_append, hcut, List.flatMap_cons,
      List.flatMap_nil, List.append_nil] at hframes
    obtain ⟨x, hx, hxl⟩ := List.map_eq_singleton_iff.mp hframes
    rw [show frames = [x] from hx, eq_of_toList_eq hxl]
    exact List.mem_singleton_self _
  have hfirst : "hello".toUTF8[0]? ≠ some 123 := by decide
  exact ⟨hmem, hfirst, unbraced_frame_noticed 64 _ _ registry ⟨30000⟩ hmem hfirst⟩

end HubService.Session
