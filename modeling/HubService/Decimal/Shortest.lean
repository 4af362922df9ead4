/-!
# The shortest decimal that reads back as a double

A finite double `v = m · 2^e` stands for every real that rounds to it under round-to-nearest,
ties to even: the interval between the midpoints to its two neighbours, ends included exactly
when `m` is even. Writing `v` means choosing a decimal `d · 10^k` in that interval, and the
usual choice is

* the **fewest significant digits** of any decimal in the interval, and then
* of those, the one **nearest to `v`**, an exact tie going to the even last digit.

`HubService.Decimal.shortest` finds it in exact natural-number arithmetic. For `n = 1, 2, …, 17`
digits it looks at the two neighbours of `v` on the grid `10^(E - n + 1)`, where `10^E ≤ v < 10^(E+1)`:
if any point of that grid lies in the interval, so does one of the two neighbours, because
the interval is convex and contains `v`. The first `n` with a hit therefore has the fewest
digits, and seventeen digits always suffice for a double.
-/

namespace HubService

/-- A decimal `digits · 10^exponent`. -/
structure Decimal where
  digits : Nat
  exponent : Int
  deriving Repr, DecidableEq

namespace Decimal

/-- The magnitude of a finite nonzero double as `mantissa · 2^exponent`; `narrowBelow` says the
gap to the next smaller double is half the gap to the next larger one. -/
structure Binary where
  mantissa : Nat
  exponent : Int
  narrowBelow : Bool
  deriving Repr, DecidableEq

/-- Decodes the magnitude of the bits of a finite double. -/
def Binary.ofBits (bits : UInt64) : Binary :=
  let fraction : Nat := bits.toNat % Nat.pow 2 52
  let biased : Nat := bits.toNat / Nat.pow 2 52 % Nat.pow 2 11
  if biased = 0 then ⟨fraction, -1074, false⟩
  else ⟨fraction + Nat.pow 2 52, (biased : Int) - 1075, fraction = 0 && biased > 1⟩

/-- `a · 2^b` and `c · 10^d` written over one common denominator, as the pair of numerators. -/
def commonScale (a : Nat) (b : Int) (c : Nat) (d : Int) : Nat × Nat :=
  (a * Nat.pow 2 b.toNat * Nat.pow 10 (-d).toNat, c * Nat.pow 10 d.toNat * Nat.pow 2 (-b).toNat)

/-- `⌊a · 2^b / 10^d⌋`. -/
def floorScaled (a : Nat) (b d : Int) : Nat :=
  a * Nat.pow 2 b.toNat * Nat.pow 10 (-d).toNat / (Nat.pow 2 (-b).toNat * Nat.pow 10 d.toNat)

/-- The number of decimal digits of a positive number. -/
def digitCount (n : Nat) : Nat := (Nat.toDigits 10 n).length

/-- `⌊log₁₀ (a · 2^b)⌋` for `a > 0`. -/
def decimalExponent (a : Nat) (b : Int) : Int :=
  let top := a * Nat.pow 2 b.toNat
  let bottom := Nat.pow 2 (-b).toNat
  if bottom ≤ top then (digitCount (top / bottom) : Int) - 1
  else
    let gap := digitCount bottom - digitCount top
    if bottom ≤ top * Nat.pow 10 gap then -(gap : Int) else -((gap : Int) + 1)

/-- The rounding interval of a double, as numerators over `2^(exponent - 2)`. -/
structure Interval where
  low : Nat
  value : Nat
  high : Nat
  scale : Int
  closed : Bool

/-- The reals that round to the double `b`. -/
def Binary.interval (b : Binary) : Interval :=
  { low := if b.narrowBelow then 4 * b.mantissa - 1 else 4 * b.mantissa - 2
    value := 4 * b.mantissa
    high := 4 * b.mantissa + 2
    scale := b.exponent - 2
    closed := b.mantissa % 2 == 0 }

/-- Whether `j · 10^k` lies in the interval. -/
def Interval.contains (r : Interval) (j : Nat) (k : Int) : Bool :=
  let (lo, p) := commonScale r.low r.scale j k
  let (hi, q) := commonScale r.high r.scale j k
  if r.closed then lo ≤ p && q ≤ hi else lo < p && q < hi

/-- Of the grid neighbours `d · 10^k` and `(d+1) · 10^k`, the one nearer to the value; an exact
tie goes to the even one. -/
def Interval.nearer (r : Interval) (d : Nat) (k : Int) : Nat :=
  let (twice, mid) := commonScale (2 * r.value) r.scale (2 * d + 1) k
  if twice < mid then d
  else if mid < twice then d + 1
  else if d % 2 == 0 then d else d + 1

/-- The chosen point of the grid `10^k`, if one of the value's neighbours on it is in the
interval. -/
def Interval.pick (r : Interval) (k : Int) : Option Nat :=
  let d := floorScaled r.value r.scale k
  match r.contains d k, r.contains (d + 1) k with
  | true, true => some (r.nearer d k)
  | true, false => some d
  | false, true => some (d + 1)
  | false, false => none

/-- Removes trailing zero digits, raising the exponent to match. -/
def trim (d : Decimal) : Decimal :=
  go d.digits d.exponent d.digits
where
  go (digits : Nat) (exponent : Int) : Nat → Decimal
    | 0 => ⟨digits, exponent⟩
    | fuel + 1 =>
      if digits ≠ 0 ∧ digits % 10 = 0 then go (digits / 10) (exponent + 1) fuel
      else ⟨digits, exponent⟩

/-- The first of `n, n+1, …, 17` significant digits that the interval admits. -/
def searchDigits (r : Interval) (top : Int) : Nat → Nat → Decimal
  | n, 0 => ⟨floorScaled r.value r.scale (top - n + 1), top - n + 1⟩
  | n, fuel + 1 =>
    match r.pick (top - n + 1) with
    | some d => ⟨d, top - n + 1⟩
    | none => searchDigits r top (n + 1) fuel

/-- The shortest decimal, nearest of the shortest, that reads back as the double with these
bits; the sign is ignored, and the bits must be finite and nonzero. -/
def shortest (bits : UInt64) : Decimal :=
  let b := Binary.ofBits bits
  let r := b.interval
  (searchDigits r (decimalExponent r.value r.scale) 1 17).trim

end Decimal

end HubService
