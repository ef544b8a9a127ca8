import Arbor.Decimal.Binary

/-!
# A fixed number of decimal places

`fixedPlaces x n` writes a finite `Float` with exactly `n` digits after the point. The digits
are those of the value's exact binary expansion rounded at the `n`-th place, a value exactly
halfway going to the even digit: 1/32 = 0.03125 is `0.03` at two places and 3/32 = 0.09375 is
`0.09`, and a double that lies a little below a decimal half rounds down.
-/

set_option autoImplicit false

namespace Arbor.Decimal

-- powers of naturals and integers are the core ones, also beside libraries with their own
attribute [local instance (high)] instPowNat

/-- The numeral `digits` with the point set `n` places from the right, zeros padded in front
as needed. -/
def pointText (digits : Nat) (n : Nat) : String :=
  let s := toString digits
  let s := String.ofList (List.replicate (n + 1 - s.length) '0') ++ s
  let whole := String.ofList (s.toList.take (s.length - n))
  let frac := String.ofList (s.toList.drop (s.length - n))
  if n = 0 then whole else whole ++ "." ++ frac

/-- The text of a finite binary64 magnitude `m · 2 ^ q` with `n` decimal places. -/
def Binary.fixed (x : Binary) (n : Nat) : String :=
  -- `x · 10 ^ n = num / den`
  let num := x.m * 2 ^ x.q.toNat * 10 ^ n
  let den := 2 ^ (-x.q).toNat
  pointText (roundDiv num den .toEven) n

/-- A `Float` with `n` decimal places; a negative value keeps its sign even when it rounds to
zero. Not-a-number and the infinities are written `nan`, `inf` and `-inf`. -/
def fixedPlaces (x : Float) (n : Nat) : String :=
  match shapeOf x with
  | .nan => "nan"
  | .infinite negative => if negative then "-inf" else "inf"
  | .finite negative b => (if negative then "-" else "") ++ b.fixed n


end Arbor.Decimal
