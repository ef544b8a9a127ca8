/-!
# Binary64 values as exact numbers

A finite binary64 value is `m · 2 ^ q` for a natural `m` below `2 ^ 53`. This module reads the
bits of a `Float` into that form (`Binary.ofBits`), rounds an exact positive ratio to the nearest
such value (`nearestRatio`), and builds the `Float` back from it (`toFloat`). All arithmetic is
on `Nat` and `Int`, so every step can be computed and reasoned about exactly.

Rounding is to nearest with ties to the even mantissa. A ratio whose nearest value needs an
exponent above the largest finite one has no nearest value: `nearestRatio` answers `none`, and
the caller decides whether that is an error (integer division) or infinity (reading a
decimal).
-/

set_option autoImplicit false

namespace Arbor.Decimal

-- powers of naturals and integers are the core ones, also beside libraries with their own;
-- a literal exponent is typed, so that no default instance chooses the power first
attribute [local instance (high)] instPowNat

/-- How a quotient is rounded to an integer when it lies exactly halfway. -/
inductive Tie where
  /-- the even neighbour -/
  | toEven
  /-- the neighbour further from zero -/
  | awayFromZero

/-- The quotient `num / den` rounded to an integer, ties as `t` says. -/
def roundDiv (num den : Nat) (t : Tie) : Nat :=
  let below := num / den
  let twiceRest := 2 * (num % den)
  if twiceRest < den then below
  else if den < twiceRest then below + 1
  else match t with
    | .toEven => below + below % 2
    | .awayFromZero => below + 1

/-- A finite non-negative binary64 value `m · 2 ^ q`. -/
structure Binary where
  /-- the integer mantissa, below `2 ^ 53` -/
  m : Nat
  /-- the binary exponent of the last mantissa bit -/
  q : Int
  /-- the gap to the value below is half the gap to the value above: `m` is `2 ^ 52` and the
  value is a normal power of two above the least normal one -/
  narrowBelow : Bool
  deriving DecidableEq

/-- The magnitude of a finite value from its bits; the sign bit is ignored. -/
def Binary.ofBits (b : UInt64) : Binary :=
  let e := ((b >>> 52) &&& 0x7FF).toNat
  let f := (b &&& 0xFFFFFFFFFFFFF).toNat
  if e == 0 then ⟨f, -1074, false⟩ else ⟨2 ^ (52 : Nat) + f, (e : Int) - 1075, f == 0 && e > 1⟩

/-- What a binary64 value is: not a number, an infinity, or a finite value with a sign. -/
inductive Shape where
  | nan
  | infinite (negative : Bool)
  | finite (negative : Bool) (x : Binary)

/-- The shape of a `Float`, read from its bits. -/
def shapeOf (x : Float) : Shape :=
  let b := x.toBits
  let negative := b >>> 63 == 1
  if (b >>> 52) &&& 0x7FF == 0x7FF then
    if b &&& 0xFFFFFFFFFFFFF == 0 then .infinite negative else .nan
  else .finite negative (Binary.ofBits b)

/-- Whether `a · 2 ^ i ≤ b · 2 ^ j`, compared exactly. -/
def leScaled (a : Nat) (i : Int) (b : Nat) (j : Int) : Bool :=
  a * 2 ^ (i - j).toNat ≤ b * 2 ^ (j - i).toNat

/-- The binary exponent `e` with `2 ^ e ≤ num / den < 2 ^ (e + 1)`, for positive `num` and `den`.
The estimate from the bit lengths is off by at most one, downwards from above. -/
def floorLog2Ratio (num den : Nat) : Int :=
  let e : Int := (num.log2 : Int) - den.log2
  if leScaled den e num 0 then e else e - 1

/-- The binary64 value nearest to `num / den`, as `(m, q)` with value `m · 2 ^ q`, ties to the
even mantissa; `none` when it lies beyond the largest finite value. Subnormal results have
`q = -1074`. -/
def nearestRatio (num den : Nat) : Option (Nat × Int) :=
  if num = 0 ∨ den = 0 then some (0, -1074) else
  let e := floorLog2Ratio num den
  let q := max (e - 52) (-1074)
  let m := roundDiv (num * 2 ^ (-q).toNat) (den * 2 ^ q.toNat) .toEven
  let (m, q) := if m = 2 ^ (53 : Nat) then (2 ^ (52 : Nat), q + 1) else (m, q)
  if q > 971 then none else some (m, q)

/-- The `Float` with sign `negative` and magnitude `m · 2 ^ q`, for a pair from `nearestRatio`. -/
def toFloat (negative : Bool) (m : Nat) (q : Int) : Float :=
  let magnitude :=
    if m < 2 ^ (52 : Nat) then m else (q + 1075).toNat * 2 ^ (52 : Nat) + (m - 2 ^ (52 : Nat))
  Float.ofBits (UInt64.ofNat (magnitude + if negative then 2 ^ (63 : Nat) else 0))

/-- The infinity of the given sign. -/
def infinity (negative : Bool) : Float :=
  Float.ofBits (if negative then 0xFFF0000000000000 else 0x7FF0000000000000)

/-- The number of decimal digits of a natural number; zero has none. -/
def digitCount (n : Nat) : Nat :=
  if n = 0 then 0 else (Nat.toDigits 10 n).length

/-- The `Float` nearest to `± digits · 10 ^ exp`, infinity when it is too large. A decimal below
`10 ^ -330` is zero and one above `10 ^ 310` infinite, which spares computing huge powers. -/
def ofDecimal (negative : Bool) (digits : Nat) (exp : Int) : Float :=
  if digits = 0 then toFloat negative 0 0
  else if exp > 310 then infinity negative
  else if exp + digitCount digits < -330 then toFloat negative 0 0
  else match nearestRatio (digits * 10 ^ exp.toNat) (10 ^ (-exp).toNat) with
    | none => infinity negative
    | some (m, q) => toFloat negative m q

/-- The `Float` nearest to an integer, `none` when it lies beyond the largest finite value. -/
def ofInt? (n : Int) : Option Float :=
  (nearestRatio n.natAbs 1).map fun (m, q) => toFloat (n < 0) m q

end Arbor.Decimal
