import Arbor.Decimal.Fixed

/-!
# Hit rate

The share of reads answered from a cache, as the percentage text with two places and a percent
sign: the float quotient `hits / (hits + misses)` is multiplied by 100 in binary64 arithmetic
and the result written with two places (`Decimal.fixedPlaces`). With no reads it is `0.00%`.
-/

set_option autoImplicit false

namespace Arbor

/-- The hit rate of `hits` hits and `misses` misses. -/
def hitRate (hits misses : Nat) : String :=
  let reads := hits + misses
  if reads = 0 then "0.00%" else
  match Decimal.nearestRatio hits reads with
  | some (m, q) => Decimal.fixedPlaces (Decimal.toFloat false m q * 100.0) 2 ++ "%"
  | none => "0.00%"

end Arbor
