/-!
# Durations

Timeouts and delays are whole numbers of milliseconds here. A duration is shown the way a
debugging view shows it, in the largest unit that leaves an integer part:

* at least a second: seconds, with the fraction written to its last nonzero digit (`30s`,
  `1.5s`, `1.234s`);
* below a second: milliseconds (`100ms`);
* nothing at all: `0ns`.
-/

namespace HubService

/-- A span of time in milliseconds. -/
structure Duration where
  millis : Nat
  deriving DecidableEq, Repr, Inhabited

namespace Duration

/-- A duration of whole seconds. -/
def ofSeconds (s : Nat) : Duration := ⟨s * 1000⟩

/-- The digits of a fraction of a second given in milliseconds, three of them, without the
zeros that end it. -/
def fractionDigits (ms : Nat) : String :=
  let ds := [ms / 100 % 10, ms / 10 % 10, ms % 10]
  let kept := (ds.reverse.dropWhile (· == 0)).reverse
  String.ofList (kept.map fun d => Char.ofNat (48 + d))

/-- The duration as a debugging view shows it. -/
def text (d : Duration) : String :=
  if d.millis = 0 then "0ns"
  else if d.millis < 1000 then toString d.millis ++ "ms"
  else
    let whole := toString (d.millis / 1000)
    if d.millis % 1000 = 0 then whole ++ "s"
    else whole ++ "." ++ fractionDigits (d.millis % 1000) ++ "s"

end Duration

end HubService
