import Arbor.Text.Basic

/-!
# Punycode

Punycode (RFC 3492) writes a label of any code points in the letters, digits and hyphen of
ASCII. `encode` copies the ASCII code points, adds a `-` when there are any, and then writes,
for each other code point in increasing order, the distances between its insertions as
variable-length numbers in base 36 whose digit thresholds follow an adaptive bias. `decode`
undoes it: the text after the last `-` is a list of such numbers, each saying where which code
point goes into the text before it. It accepts digits in either letter case and refuses a number
cut short, a digit that is none, and a code point beyond U+10FFFF.
-/

set_option autoImplicit false

namespace Arbor

namespace Idna

namespace Punycode

/-- The threshold of the `j`-th digit of a number at the bias `bias`: `36 (j + 1) - bias`, kept
between 1 and 26. -/
def threshold (j bias : Nat) : Nat := min 26 (max 1 (36 * (j + 1) - bias))

theorem one_le_threshold (j bias : Nat) : 1 ≤ threshold j bias := by
  unfold threshold; omega

theorem threshold_le (j bias : Nat) : threshold j bias ≤ 26 := by
  unfold threshold; omega

/-- `delta` divided by 35 until it is at most 455, with 36 added to `divisions` each time. -/
def shrink (delta divisions : Nat) : Nat × Nat :=
  if 455 < delta then shrink (delta / 35) (divisions + 36) else (delta, divisions)
termination_by delta
decreasing_by omega

/-- The bias after a number `delta`, when `count` code points have been placed; the first number
is damped more. -/
def adapt (delta count : Nat) (first : Bool) : Nat :=
  let delta := if first then delta / 700 else delta / 2
  let (delta, divisions) := shrink (delta + delta / count) 0
  divisions + 36 * delta / (delta + 38)

/-- The ASCII code point of a digit: `a` to `z` for 0 to 25, `0` to `9` for 26 to 35. -/
def digitPoint (d : Nat) : Nat := if d < 26 then 97 + d else 22 + d

/-- The value of a digit, in either letter case. -/
def digitValue? (c : Nat) : Option Nat :=
  if 97 ≤ c && c ≤ 122 then some (c - 97)
  else if 65 ≤ c && c ≤ 90 then some (c - 65)
  else if 48 ≤ c && c ≤ 57 then some (c - 22)
  else none

/-- The digits of the number `q` at the bias `bias`, from the `j`-th on. -/
def digitsOf (bias j q : Nat) : List Nat :=
  let t := threshold j bias
  if q < t then [digitPoint q]
  else digitPoint (t + (q - t) % (36 - t)) :: digitsOf bias (j + 1) ((q - t) / (36 - t))
termination_by q
decreasing_by
  have h1 := one_le_threshold j bias
  have h2 := threshold_le j bias
  have h3 := Nat.div_le_self (q - threshold j bias) (36 - threshold j bias)
  omega

/-- The state of encoding: the digits written, the distance since the last insertion, the
bias, and how many code points have been placed. -/
structure Encoder where
  out : List Nat
  delta : Nat
  bias : Nat
  placed : Nat

/-- Encoding passes one code point `c` of the input while it inserts the code point `m`; `ascii`
counts the ASCII code points. -/
def Encoder.visit (ascii m : Nat) (e : Encoder) (c : Nat) : Encoder :=
  if c < m then { e with delta := e.delta + 1 }
  else if c == m then
    ⟨e.out ++ digitsOf e.bias 0 e.delta, 0, adapt e.delta (e.placed + 1) (e.placed == ascii),
      e.placed + 1⟩
  else e

/-- Encoding inserts the code points `ms`, in increasing order, the last one inserted being
`n - 1`. -/
def Encoder.insertAll (input : List Nat) (ascii : Nat) : List Nat → Nat → Encoder → Encoder
  | [], _, e => e
  | m :: ms, n, e =>
    let e := { e with delta := e.delta + (m - n) * (e.placed + 1) }
    let e := input.foldl (Encoder.visit ascii m) e
    Encoder.insertAll input ascii ms (m + 1) { e with delta := e.delta + 1 }

/-- A value put into an increasing list of distinct values, unless it is there already. -/
def insertDistinct (c : Nat) : List Nat → List Nat
  | [] => [c]
  | m :: rest =>
    if c < m then c :: m :: rest else if c == m then m :: rest else m :: insertDistinct c rest

/-- The Punycode of a text. -/
def encode (input : List Nat) : List Nat :=
  let ascii := input.filter (· < 128)
  let others := (input.filter (128 ≤ ·)).foldl (fun sorted c => insertDistinct c sorted) []
  let e := Encoder.insertAll input ascii.length others 128 ⟨[], 0, 72, ascii.length⟩
  ascii ++ (if ascii.isEmpty then [] else [45]) ++ e.out

/-- Read one number at the bias `bias` from its `j`-th digit on, the digits so far weighing `w`
and adding up to `acc`: the number and the rest of the text. -/
def readNumber (bias : Nat) : List Nat → Nat → Nat → Nat → Option (Nat × List Nat)
  | [], _, _, _ => none
  | c :: rest, j, w, acc =>
    match digitValue? c with
    | none => none
    | some d =>
      let t := threshold j bias
      if d < t then some (acc + d * w, rest)
      else readNumber bias rest (j + 1) (w * (36 - t)) (acc + d * w)

/-- Decoding reads the numbers of `digits` and inserts their code points into `out`: `n` is the
code point last inserted, `i` the position after it, and `first` says whether no number has
been read. Each number takes at least one digit, so `fuel` at least the number of digits
suffices. -/
def insertAll : Nat → List Nat → List Nat → Nat → Nat → Nat → Bool → Option (List Nat)
  | _, [], out, _, _, _, _ => some out
  | 0, _ :: _, _, _, _, _, _ => none
  | fuel + 1, digits@(_ :: _), out, n, i, bias, first =>
    match readNumber bias digits 0 1 0 with
    | none => none
    | some (delta, rest) =>
      let total := i + delta
      let n := n + total / (out.length + 1)
      let slot := total % (out.length + 1)
      if 0x10FFFF < n then none
      else
        let out := out.take slot ++ n :: out.drop slot
        insertAll fuel rest out n (slot + 1) (adapt delta out.length first) false

/-- The text a Punycode text stands for, if it is well formed. -/
def decode (s : List Nat) : Option (List Nat) :=
  let digits := (s.reverse.takeWhile (· != 45)).reverse
  let ascii := if s.contains 45 then s.take (s.length - digits.length - 1) else []
  insertAll digits.length digits ascii 128 0 72 true

example : encode [0xFC] = (Text.ofString "tda").points ∧
    encode [0x62, 0xFC, 0x63] = (Text.ofString "bc-xka").points ∧
    decode (Text.ofString "tda").points = some [0xFC] ∧
    decode (Text.ofString "bc-xka").points = some [0x62, 0xFC, 0x63] := by
  decide +kernel

end Punycode

end Idna

end Arbor
