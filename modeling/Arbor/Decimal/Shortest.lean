import Arbor.Decimal.Binary

/-!
# The shortest decimal that reads back

A binary64 value stands for the interval of reals that round to it: from halfway to the value
below to halfway to the value above, both ends included exactly when the mantissa is even.
`Binary.shortest` finds the decimal with the fewest significant digits in that interval, and of
two such decimals the one nearer the value, an exact tie going to the even last digit. The
search is the definition turned into a loop: for one, two, up to seventeen digits it tests the
value's two neighbours on the grid of that many digits, in exact `Nat` arithmetic.

`Notation` is how such digits become text: where positional notation gives way to an exponent,
how the exponent is written, and whether an integral value keeps a `.0`.
-/

set_option autoImplicit false

namespace Arbor.Decimal

-- powers of naturals and integers are the core ones, also beside libraries with their own
attribute [local instance (high)] instPowNat

/-- A decimal `digits · 10 ^ exp`. -/
structure Dec where
  digits : Nat
  exp : Int
  deriving DecidableEq

/-- Compare `a · 10 ^ i` with `b · 2 ^ j`, exactly. -/
def cmpDecBin (a : Nat) (i : Int) (b : Nat) (j : Int) : Ordering :=
  compare (a * 10 ^ i.toNat * 2 ^ (-j).toNat) (b * 2 ^ j.toNat * 10 ^ (-i).toNat)

/-- The decimal `d` lies in the interval of reals that round to `x`. -/
def Binary.readsBack (x : Binary) (d : Dec) : Bool :=
  let lo := if x.narrowBelow then 4 * x.m - 1 else 4 * x.m - 2
  let hi := 4 * x.m + 2
  let inclusive := x.m % 2 == 0
  let cl := cmpDecBin d.digits d.exp lo (x.q - 2)
  let ch := cmpDecBin d.digits d.exp hi (x.q - 2)
  (cl == .gt || (inclusive && cl == .eq)) && (ch == .lt || (inclusive && ch == .eq))

/-- The least `k` with `x < 10 ^ k`, for a positive `x`, searched upwards from a lower bound.
With `ℓ` the bit length of the mantissa less one, `x ≥ 2 ^ (ℓ + q)`, and `0.30103` is below
`log₁₀ 2`, so the start lies at or below the answer and a few steps reach it. -/
def Binary.scale (x : Binary) : Int :=
  let start : Int := ((x.m.log2 + x.q) * 30103) / 100000 - 2
  let rec go (k : Int) : Nat → Int
    | 0 => k
    | fuel + 1 => if cmpDecBin 1 k x.m x.q == .gt then k else go (k + 1) fuel
  go start 40

/-- Trailing zeros of the digits moved into the exponent. -/
def Dec.normalize (d : Dec) : Dec :=
  let rec go (digits : Nat) (exp : Int) : Nat → Dec
    | 0 => ⟨digits, exp⟩
    | fuel + 1 =>
      if digits ≠ 0 ∧ digits % 10 = 0 then go (digits / 10) (exp + 1) fuel
      else ⟨digits, exp⟩
  go d.digits d.exp 30

/-- The decimal on the grid `10 ^ g` that `x` chooses from its two neighbours `d` and `d + 1`
there, if either reads back: the nearer one, an exact tie to the even digit. -/
def Binary.pickOnGrid (x : Binary) (g : Int) : Option Dec :=
  -- `x / 10 ^ g = num / den`
  let num := x.m * 2 ^ x.q.toNat * 10 ^ (-g).toNat
  let den := 2 ^ (-x.q).toNat * 10 ^ g.toNat
  let d := num / den
  let lower : Dec := ⟨d, g⟩
  let upper : Dec := ⟨d + 1, g⟩
  match x.readsBack lower, x.readsBack upper with
  | false, false => none
  | true, false => some lower
  | false, true => some upper
  | true, true =>
    -- twice the value against `2d + 1` grid steps
    match compare (2 * num) ((2 * d + 1) * den) with
    | .lt => some lower
    | .gt => some upper
    | .eq => some (if d % 2 == 0 then lower else upper)

/-- The shortest decimal that reads back as `x`, nearest of the shortest, for a positive `x`.
Seventeen digits always suffice; should the search fail, the exact value is returned. -/
def Binary.shortest (x : Binary) : Dec :=
  let k := x.scale
  let found := (List.range 17).findSome? fun (n : Nat) => x.pickOnGrid (k - ((n : Int) + 1))
  match found with
  | some d => d.normalize
  | none => (⟨x.m * 5 ^ (-x.q).toNat * 2 ^ x.q.toNat, min x.q 0⟩ : Dec).normalize

/-- How digits are laid out: the rules of one printed form of binary64 values. -/
structure Notation where
  /-- positional notation is used while the point position `p` (value `0.d₁d₂… · 10 ^ p`)
  satisfies `lowestPoint < p ≤ highestPoint` -/
  lowestPoint : Int
  highestPoint : Int
  /-- the least number of exponent digits, padded with zeros -/
  exponentWidth : Nat
  /-- an integral value in positional notation ends in `.0` -/
  keepPointZero : Bool
  /-- texts of the values that have no digits -/
  nanText : String
  infinityText : String

/-- Exponent text: the letter `e`, a sign, and at least `width` digits. -/
def exponentText (width : Nat) (e : Int) : String :=
  let digits := toString e.natAbs
  let padded := String.ofList (List.replicate (width - digits.length) '0') ++ digits
  "e" ++ (if e < 0 then "-" else "+") ++ padded

/-- The text of a non-negative decimal with digit string `s` and point position `p`. -/
def Notation.layout (nt : Notation) (s : String) (p : Int) : String :=
  let n := s.length
  if nt.lowestPoint < p ∧ p ≤ nt.highestPoint then
    if p ≤ 0 then "0." ++ String.ofList (List.replicate (-p).toNat '0') ++ s
    else if n ≤ p.toNat then
      s ++ String.ofList (List.replicate (p.toNat - n) '0') ++
        (if nt.keepPointZero then ".0" else "")
    else String.ofList (s.toList.take p.toNat) ++ "." ++ String.ofList (s.toList.drop p.toNat)
  else
    let first := String.ofList (s.toList.take 1)
    let rest := String.ofList (s.toList.drop 1)
    first ++ (if rest.isEmpty then "" else "." ++ rest) ++ exponentText nt.exponentWidth (p - 1)

/-- The shortest text of a `Float` in the notation `nt`. -/
def Notation.render (nt : Notation) (x : Float) : String :=
  match shapeOf x with
  | .nan => nt.nanText
  | .infinite negative => (if negative then "-" else "") ++ nt.infinityText
  | .finite negative b =>
    let sign := if negative then "-" else ""
    if b.m = 0 then sign ++ nt.layout "0" 1
    else
      let d := b.shortest
      let s := toString d.digits
      sign ++ nt.layout s (d.exp + s.length)

end Arbor.Decimal
