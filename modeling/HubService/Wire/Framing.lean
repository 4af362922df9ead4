/-!
# Cutting a byte stream into frames

The hub writes frames back to back with no delimiter, and the network may cut the stream
anywhere. `HubService.Wire.Decoder` finds the frames again, remembering across calls how far it
has scanned:

* blanks before a frame are skipped (space, tab, newline, form feed, carriage return);
* a frame that starts with `{` or `[` is *structured*: it ends where the bracket depth returns
  to zero, counting `{`, `[` as opening and `}`, `]` as closing, never below zero, and ignoring
  brackets inside quoted text, where a backslash escapes the next byte;
* any other frame is *garbage*: it ends before the next `{`, `[` or newline outside quoted text,
  or at the end of what has arrived if no quote is open, and loses its trailing blanks;
* a frame longer than the limit – or an unfinished one already longer – is refused; the scan
  starts afresh but the bytes stay.

The main statements about the decoder – that any cutting of a stream yields the same frames –
are stated over `HubService.Wire.Decoder.decode` and `HubService.Wire.Decoder.drain`.
-/

namespace HubService.Wire

/-- The default limit on the length of a frame, one mebibyte. -/
def defaultMaxFrame : Nat := 1024 * 1024

/-- The two kinds of frame. -/
inductive FrameKind where
  | structured
  | garbage
  deriving DecidableEq, Repr

/-- How far the current frame has been scanned. -/
structure Scan where
  offset : Nat := 0
  depth : Nat := 0
  inString : Bool := false
  escaped : Bool := false
  kind : Option FrameKind := none
  deriving DecidableEq, Repr

/-- A refusal: the frame's length so far and the limit. -/
structure FrameTooLarge where
  size : Nat
  max : Nat
  deriving DecidableEq, Repr

/-- The words for a refusal. -/
def FrameTooLarge.message (e : FrameTooLarge) : String :=
  s!"frame of {e.size} bytes exceeds the {e.max} byte limit"

/-- Whether a byte is an ASCII blank in the wide sense: space, tab, newline, form feed,
carriage return. -/
def isAsciiBlank (b : UInt8) : Bool := b == 32 || b == 9 || b == 10 || b == 12 || b == 13

/-- A scan inside or outside quoted text takes one byte; the result says whether the byte was
inside the quotes and so needs no further look. -/
def Scan.quoted (s : Scan) (b : UInt8) : Scan × Bool :=
  if s.inString then
    if s.escaped then ({ s with escaped := false }, true)
    else if b == 92 then ({ s with escaped := true }, true)
    else if b == 34 then ({ s with inString := false }, true)
    else (s, true)
  else if b == 34 then ({ s with inString := true }, true)
  else (s, false)

/-- Scans a structured frame from byte `i` on: the length of the frame once the outermost
bracket closes. -/
def Scan.structured (buf : ByteArray) (s : Scan) (i : Nat) : Scan × Option Nat :=
  if h : i < buf.size then
    let b := buf[i]
    let (s, done) := s.quoted b
    if done then s.structured buf (i + 1)
    else if b == 123 || b == 91 then { s with depth := s.depth + 1 }.structured buf (i + 1)
    else if b == 125 || b == 93 then
      let s := { s with depth := s.depth - 1 }
      if s.depth = 0 then (s, some (i + 1)) else s.structured buf (i + 1)
    else s.structured buf (i + 1)
  else ({ s with offset := buf.size }, none)
termination_by buf.size - i

/-- Scans a garbage frame from byte `i` on: its length, which ends before a bracket or newline
outside quotes, or at the end of the bytes if no quote is open. -/
def Scan.garbage (buf : ByteArray) (s : Scan) (i : Nat) : Scan × Option Nat :=
  if h : i < buf.size then
    let b := buf[i]
    let (s, done) := s.quoted b
    if done then s.garbage buf (i + 1)
    else if b == 123 || b == 91 || b == 10 then (s, some i)
    else s.garbage buf (i + 1)
  else ({ s with offset := buf.size }, if s.inString then none else some buf.size)
termination_by buf.size - i

/-- The number of leading bytes that are blanks. -/
def leadingBlanks (buf : ByteArray) : Nat :=
  go 0
where
  go (i : Nat) : Nat :=
    if h : i < buf.size then (if isAsciiBlank buf[i] then go (i + 1) else i) else i
  termination_by buf.size - i

/-- The bytes without their trailing blanks. -/
def trimTrailingBlanks (frame : ByteArray) : ByteArray :=
  frame.extract 0 (go frame.size)
where
  go : Nat → Nat
    | 0 => 0
    | n + 1 => if frame[n]?.any isAsciiBlank then go n else n + 1

/-- A decoder: the scan of the current frame and the limit on a frame's length. -/
structure Decoder where
  scan : Scan := {}
  maxFrame : Nat := defaultMaxFrame
  deriving Repr

/-- What one call of the decoder yields: a frame, nothing yet, or a refusal. -/
abbrev Decoded := Except FrameTooLarge (Option ByteArray)

namespace Decoder

/-- A decoder with the given limit. -/
def withMaxFrame (maxFrame : Nat) : Decoder := { maxFrame }

/-- Takes the next frame from the front of the buffer, if a whole one is there. -/
def decode (d : Decoder) (buf : ByteArray) : Decoder × ByteArray × Decoded :=
  let (d, buf, ready) :=
    match d.scan.kind with
    | some _ => (d, buf, true)
    | none =>
      let buf := buf.extract (leadingBlanks buf) buf.size
      match buf[0]? with
      | none => (d, buf, false)
      | some first =>
        let kind := if first == 123 || first == 91 then FrameKind.structured else .garbage
        ({ d with scan := { d.scan with kind := some kind } }, buf, true)
  if !ready then (d, buf, .ok none)
  else
    let (scan, complete) :=
      match d.scan.kind with
      | some .garbage => d.scan.garbage buf d.scan.offset
      | _ => d.scan.structured buf d.scan.offset
    let size := complete.getD buf.size
    if size > d.maxFrame then ({ d with scan := {} }, buf, .error ⟨size, d.maxFrame⟩)
    else
      match complete with
      | none => ({ d with scan }, buf, .ok none)
      | some len =>
        let frame := buf.extract 0 len
        let frame := if d.scan.kind = some .garbage then trimTrailingBlanks frame else frame
        ({ d with scan := {} }, buf.extract len buf.size, .ok (some frame))

/-- At the end of the stream: the next frame, or else the unfinished bytes are dropped. -/
def decodeEof (d : Decoder) (buf : ByteArray) : Decoder × ByteArray × Decoded :=
  match d.decode buf with
  | (d, _, .ok none) => ({ d with scan := {} }, ByteArray.empty, .ok none)
  | other => other

/-- Calls a decoding function until it yields nothing or a refusal: the frames taken, and the
refusal if one ended the calls. -/
def drainWith (step : Decoder → ByteArray → Decoder × ByteArray × Decoded) :
    Nat → Decoder → ByteArray → List ByteArray → Decoder × ByteArray × List ByteArray × Option FrameTooLarge
  | 0, d, buf, acc => (d, buf, acc.reverse, none)
  | fuel + 1, d, buf, acc =>
    match step d buf with
    | (d, buf, .ok (some frame)) => drainWith step fuel d buf (frame :: acc)
    | (d, buf, .ok none) => (d, buf, acc.reverse, none)
    | (d, buf, .error e) => (d, buf, acc.reverse, some e)

/-- Every frame the buffer holds now; each one takes at least one byte. -/
def drain (d : Decoder) (buf : ByteArray) :
    Decoder × ByteArray × List ByteArray × Option FrameTooLarge :=
  drainWith decode (buf.size + 1) d buf []

/-- Every frame left at the end of the stream. -/
def drainEof (d : Decoder) (buf : ByteArray) :
    Decoder × ByteArray × List ByteArray × Option FrameTooLarge :=
  drainWith decodeEof (buf.size + 1) d buf []

/-- The chunks of a stream arriving one after another, each appended to the buffer and followed
by decoding until nothing more comes out: the decoder and the buffer at the end, and for each
chunk the frames it released and the refusal that stopped its decoding, if one did. -/
def feed (d : Decoder) (buf : ByteArray) :
    List ByteArray → Decoder × ByteArray × List (List ByteArray × Option FrameTooLarge)
  | [] => (d, buf, [])
  | chunk :: rest =>
    let (d, buf, frames, err) := d.drain (buf ++ chunk)
    let (d, buf, steps) := d.feed buf rest
    (d, buf, (frames, err) :: steps)

end Decoder

end HubService.Wire
