import Arbor.Text.Blank
import Arbor.Json.Value
import Arbor.Decimal.Binary
import Arbor.Http.Issue
import Arbor.Text.Numeral

/-!
# Integers in requests

Path and query parameters arrive as texts, and a JSON body may give an integer field as a
number, a truth value or a text. `readInteger` is the lenient reading of a text, in steps:

1. blanks of the Unicode `White_Space` property around the numeral are dropped;
2. a point followed by nothing but zeros, at least one, is dropped with them (`dropPointZeros`);
3. a leading `-` or `+` is the sign, and what follows it must start with an ASCII digit;
4. leading zeros are dropped (`dropLeadingZeros`), with underscores among them, when a digit
   from 1 to 9 or a `-` follows them: `"0-1"` and `"+0-1"` are `-1`; after a `-` sign the
   second `-` makes two signs, so `"-0-1"` is no integer;
5. underscores must stand apart, none at either end and no two together
   (`underscoresApart`), and are then dropped: `"0-_1"` is `-1`;
6. what is left must be a JSON integer, an optional `-` and `0` or digits that do not start with
   `0` (`jsonNumeral?`), so `"0-01"` is no integer; one of more than `maxIntDigits` digits is
   too large to read.

`integerOf` reads a JSON value: an integer as it is, a truth value as `0` or `1`, a float only
when it is finite, integral and strictly between `-2^63` and `2^63`, a text by `readInteger`.
-/

set_option autoImplicit false

namespace Arbor

-- powers of naturals and integers are the core ones, also beside libraries with their own;
-- a literal exponent is typed, so that no default instance chooses the power first
attribute [local instance (high)] instPowNat

namespace Http

/-- An ASCII digit. -/
def isAsciiDigit (c : Nat) : Bool := 48 ≤ c && c ≤ 57

/-- The text after its leading zeros and the underscores among them, when a digit from 1 to 9
or a `-` follows them; only the last code point when nothing else does; otherwise the text
unchanged. -/
def dropLeadingZeros (s : List Nat) : List Nat :=
  match s with
  | 48 :: rest =>
    match rest.dropWhile fun c => c == 48 || c == 95 with
    | [] => s.getLast?.toList
    | c :: more => if (49 ≤ c && c ≤ 57) || c == 45 then c :: more else s
  | _ => s

/-- Whether two underscores stand together somewhere in the text. -/
def doubledUnderscore : List Nat → Bool
  | 95 :: 95 :: _ => true
  | _ :: rest => doubledUnderscore rest
  | [] => false

/-- Whether the underscores of a text stand apart: none first, none last, no two together. -/
def underscoresApart (s : List Nat) : Bool :=
  s.head? != some 95 && s.getLast? != some 95 && !doubledUnderscore s

/-- The part before the first point, when one or more zeros and nothing else follow it;
otherwise the text unchanged. -/
def dropPointZeros (s : List Nat) : List Nat :=
  match s.span (· != 46) with
  | (before, 46 :: after) => if !after.isEmpty && after.all (· == 48) then before else s
  | _ => s

/-- The value of a non-empty run of ASCII digits. -/
def digitsValue? (s : List Nat) : Option Nat :=
  if s.isEmpty then none
  else s.foldl (fun acc c => acc.bind fun v =>
    if isAsciiDigit c then some (v * 10 + (c - 48)) else none) (some 0)

/-- The value of a JSON integer, an optional `-` and then `0` or digits that do not start with
`0`, with the number of its digits. -/
def jsonNumeral? (s : List Nat) : Option (Int × Nat) :=
  let (negative, digits) := match s with
    | 45 :: ds => (true, ds)
    | ds => (false, ds)
  match digits with
  | 48 :: _ :: _ => none
  | _ => (digitsValue? digits).map fun n => (if negative then -(n : Int) else n, digits.length)

/-- The value of the text after the sign, which starts with a digit, with the number of its
digits; after a `-` sign (`negative`) the text may not turn out to start with a second `-`. -/
def unsignedNumeral? (negative : Bool) (s : List Nat) : Option (Int × Nat) :=
  match s with
  | c :: _ =>
    if isAsciiDigit c then
      let rest := dropLeadingZeros s
      if negative && rest.head? == some 45 then none
      else if underscoresApart rest then jsonNumeral? (rest.filter (· != 95)) else none
    else none
  | [] => none

/-- The integer a text spells under the lenient rules. -/
def readInteger (t : Text) : Except Rule Int :=
  let (negative, s) := match dropPointZeros (t.trimBy isWhiteSpace).points with
    | 45 :: rest => (true, rest)
    | 43 :: rest => (false, rest)
    | rest => (false, rest)
  match unsignedNumeral? negative s with
  | none => .error .notIntegerText
  | some (n, width) =>
    if width > maxIntDigits then .error .integerTooLarge else .ok (if negative then -n else n)

/-- The integer a finite float stands for, when it has no fractional part and lies strictly
between `-2^63` and `2^63`. -/
def integralFloat (x : Float) : Except Rule Int :=
  match Decimal.shapeOf x with
  | .nan => .error .notFinite
  | .infinite _ => .error .notFinite
  | .finite negative b =>
    let scale := 2 ^ (-b.q).toNat
    if b.m % scale == 0 then
      let magnitude : Nat := b.m * 2 ^ b.q.toNat / scale
      if magnitude ≥ 2 ^ (63 : Nat) then .error .integerTooLarge
      else .ok (if negative then -(magnitude : Int) else magnitude)
    else .error .fractional

/-- The integer a JSON value stands for. -/
def integerOf : Json → Except Rule Int
  | .int n => .ok n
  | .bool b => .ok (if b then 1 else 0)
  | .float x => integralFloat x
  | .str t => readInteger t
  | _ => .error .notInteger

end Http

end Arbor
