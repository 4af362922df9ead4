import HubService.Wire.Frame

/-!
# The outbound queue

Frames on their way to the hub wait in a bounded queue. Room in it is counted in *permits*: a
sender needs one to put a frame in, and the reader hands one back for each frame it takes out.

* A sender that finds a permit free takes it and queues its frame at once.
* Otherwise it joins the line of waiting senders. Taking a frame out gives the freed permit to
  the first sender in line, who queues its frame the next time it runs; a sender that leaves
  the line (it stopped waiting) gives a permit it was granted to the next one.
* Once the reader is gone the queue is *closed*: frames still in it are dropped, every
  sender in line is told, and every later send fails.

The line is first come, first served: a sender is never overtaken by one that came later
(`HubService.Session.Outbound.enqueue_waiters`, `HubService.Session.Outbound.takeOne_waiters`).
Senders are known by the number of their task.
-/

namespace HubService.Session

open HubService.Wire

/-- The outbound queue: the frames in it, the free permits, the senders in line, those granted
a permit they have not yet used, and whether the reader is gone. -/
structure Outbound where
  frames : List Frame := []
  permits : Nat
  waiters : List Nat := []
  granted : List Nat := []
  closed : Bool := false
  deriving Repr

/-- How a sender's attempt to queue a frame ends. -/
inductive Admission where
  /-- The frame is in the queue. -/
  | queued
  /-- The queue is closed; the frame is dropped. -/
  | refused
  /-- There is no room yet; the sender waits in line. -/
  | waiting
  deriving DecidableEq, Repr

namespace Outbound

/-- An empty open queue with room for `capacity` frames. -/
def empty (capacity : Nat) : Outbound := { permits := capacity }

/-- Hands a freed permit to the first sender in line, or keeps it free. Returns the sender that
got it, which must be woken. -/
def release (q : Outbound) : Outbound × Option Nat :=
  match q.waiters with
  | w :: rest => ({ q with waiters := rest, granted := q.granted ++ [w] }, some w)
  | [] => ({ q with permits := q.permits + 1 }, none)

/-- Sender `id` tries to queue `frame`: with a permit granted to it, with a free one, or by
joining the line. -/
def offer (q : Outbound) (id : Nat) (frame : Frame) : Outbound × Admission :=
  if q.closed then
    ({ q with waiters := q.waiters.erase id, granted := q.granted.erase id }, .refused)
  else if id ∈ q.granted then
    ({ q with granted := q.granted.erase id, frames := q.frames ++ [frame] }, .queued)
  else if id ∈ q.waiters then (q, .waiting)
  else
    match q.permits with
    | p + 1 => ({ q with permits := p, frames := q.frames ++ [frame] }, .queued)
    | 0 => ({ q with waiters := q.waiters ++ [id] }, .waiting)

/-- Queues a frame only if there is room now, never waiting; whether it was queued. -/
def tryOffer (q : Outbound) (frame : Frame) : Outbound × Bool :=
  if q.closed then (q, false)
  else
    match q.permits with
    | p + 1 => ({ q with permits := p, frames := q.frames ++ [frame] }, true)
    | 0 => (q, false)

/-- Sender `id` stops waiting: it leaves the line, and a permit granted to it passes on. -/
def withdraw (q : Outbound) (id : Nat) : Outbound × Option Nat :=
  if id ∈ q.granted then release { q with granted := q.granted.erase id }
  else ({ q with waiters := q.waiters.erase id }, none)

/-- The reader takes the first frame, freeing its permit. -/
def takeOne (q : Outbound) : Option (Frame × Outbound × Option Nat) :=
  match q.frames with
  | f :: rest =>
    let (q', woken) := release { q with frames := rest }
    some (f, q', woken)
  | [] => none

/-- The reader takes every frame now in the queue. Returns them in order, and the senders
granted the freed permits, in order. -/
def takeAll (q : Outbound) : List Frame × Outbound × List Nat :=
  let rec go (fuel : Nat) (q : Outbound) (taken : List Frame) (woken : List Nat) :
      List Frame × Outbound × List Nat :=
    match fuel with
    | 0 => (taken, q, woken)
    | fuel + 1 =>
      match q.takeOne with
      | some (f, q', w) => go fuel q' (taken ++ [f]) (woken ++ w.toList)
      | none => (taken, q, woken)
  go q.frames.length q [] []

/-- The reader goes away: the queue closes, its frames are dropped, and the senders in line are
returned to be woken. -/
def close (q : Outbound) : Outbound × List Nat :=
  ({ q with closed := true, frames := [], waiters := [] }, q.waiters)

/-- **Joining the line puts a sender last**: a sender that finds no room is behind every
sender already in line. -/
theorem enqueue_waiters (q : Outbound) (id : Nat) (frame : Frame) (hc : q.closed = false)
    (hg : id ∉ q.granted) (hw : id ∉ q.waiters) (hp : q.permits = 0) :
    (q.offer id frame).1.waiters = q.waiters ++ [id] := by
  simp [offer, hc, hg, hw, hp]

/-- **The first in line is served first**: taking a frame out while senders wait grants the
permit to the first of them, and the rest keep their order. -/
theorem takeOne_waiters (q : Outbound) (f : Frame) (rest : List Frame) (w : Nat)
    (ws : List Nat) (hf : q.frames = f :: rest) (hw : q.waiters = w :: ws) :
    q.takeOne = some (f, { q with frames := rest, waiters := ws, granted := q.granted ++ [w] },
      some w) := by
  simp [takeOne, hf, release, hw]

end Outbound

end HubService.Session
