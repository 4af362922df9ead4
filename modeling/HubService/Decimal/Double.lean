/-!
# Reading a decimal as a double

A number read from JSON text with a fraction or an exponent becomes a double. The reader
gathers at most nineteen significant digits into a 64-bit `significand`, keeps a decimal
`exponent`, and then turns `significand · 10^exponent` into a double by **double arithmetic**:
the significand is rounded to a double, then multiplied or divided by the double nearest to
`10^|exponent|`. This is not always the double nearest to the decimal – two roundings happen –
and the answers of the service show exactly these results, so the two steps are the rule.

Powers beyond `10^308` are not doubles; a larger negative exponent divides by `10^308` until the
rest is in range, and a larger positive one, or a product that overflows, is out of range.
-/

namespace HubService.Decimal

/-- The double nearest to `10^n`. -/
def powerOfTen (n : Nat) : Float := Float.ofScientific 1 false n

/-- Scales `f` by `10^exponent` in double arithmetic; `none` when the result would be infinite. -/
def scaleByPowerOfTen (f : Float) (exponent : Int) : Option Float :=
  if exponent.natAbs ≤ 308 then
    if 0 ≤ exponent then
      let product := f * powerOfTen exponent.natAbs
      if product.isInf then none else some product
    else some (f / powerOfTen exponent.natAbs)
  else if f == 0 then some f
  else if 0 ≤ exponent then none
  else scaleByPowerOfTen (f / powerOfTen 308) (exponent + 308)
termination_by exponent.natAbs
decreasing_by omega

/-- `± significand · 10^exponent` as a double, or `none` when it is out of range. -/
def toDouble? (positive : Bool) (significand : UInt64) (exponent : Int) : Option Float :=
  (scaleByPowerOfTen significand.toFloat exponent).map fun f => if positive then f else -f

end HubService.Decimal
