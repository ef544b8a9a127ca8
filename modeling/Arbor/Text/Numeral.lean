import Arbor.Text.Blank
import Arbor.Text.Digit

/-!
# Integer numerals

`readNumeral` reads a text as a decimal integer the way the configuration and the remote cache
read their settings:

1. every code point outside ASCII is put in ASCII first: a blank (`isSpace`) becomes a space, a
   decimal digit of any script becomes its ASCII digit, and anything else ends the text there
   with a mark that no rule accepts (`asciiNumeral`);
2. ASCII blanks (tab to carriage return, and space) may lead and trail;
3. a sign may lead; then come ASCII digits, with single underscores between digits.

A numeral with more than `maxIntDigits` digits is refused for its length (`tooManyDigits`),
even when something after its digits would make it no numeral; an underscore out of place is
refused before the digits are counted. The same bound holds the other way: an integer of more
than `maxIntDigits` digits is not written as a numeral either (`fitsNumeral`), wherever the
service puts one into a text.
-/

set_option autoImplicit false

namespace Arbor

-- powers of naturals and integers are the core ones, also beside libraries with their own
attribute [local instance (high)] instPowNat

/-- The most digits an integer may be written with. -/
def maxIntDigits : Nat := 4300

/-- Whether an integer can be written as a numeral: it has at most `maxIntDigits` digits, its
sign apart. Irreducible, so that no proof about a value holding integers computes the bound. -/
@[irreducible] def fitsNumeral (n : Int) : Bool := n.natAbs < 10 ^ maxIntDigits

/-- Why a text is refused as an integer. -/
inductive NumeralFault where
  /-- the text is no numeral -/
  | invalid
  /-- the numeral has `count` digits, more than `maxIntDigits` -/
  | tooManyDigits (count : Nat)
  deriving DecidableEq, Inhabited

/-- An ASCII blank: tab, line feed, vertical tab, form feed, carriage return or space. -/
def isAsciiBlank (c : Nat) : Bool := (9 ≤ c && c ≤ 13) || c == 32

/-- The ASCII form of a numeral's code points: ASCII stays, a blank becomes a space, a digit
becomes its ASCII digit, and the first other code point becomes a `?` that ends the text. -/
def asciiNumeral : List Nat → List Nat
  | [] => []
  | c :: rest =>
    if c < 127 then c :: asciiNumeral rest
    else if isSpace c then 32 :: asciiNumeral rest
    else
      match digitValue? c with
      | some d => (48 + d) :: asciiNumeral rest
      | none => [63]

/-- The run of digits at the front of a text, with single underscores between them: how many
digits, their value, and what follows. `none` when an underscore is not followed by a digit. -/
def digitRun : List Nat → Nat → Nat → Option (Nat × Nat × List Nat)
  | [], count, value => some (count, value, [])
  | c :: rest, count, value =>
    if 48 ≤ c && c ≤ 57 then digitRun rest (count + 1) (value * 10 + (c - 48))
    else if c == 95 then
      match rest with
      | d :: more =>
        if 48 ≤ d && d ≤ 57 then digitRun more (count + 1) (value * 10 + (d - 48)) else none
      | [] => none
    else some (count, value, c :: rest)

/-- The integer a text writes. -/
def readNumeral (t : Text) : Except NumeralFault Int :=
  let s := (asciiNumeral t.points).dropWhile isAsciiBlank
  let (negative, s) := match s with
    | 43 :: rest => (false, rest)
    | 45 :: rest => (true, rest)
    | _ => (false, s)
  if s.head? == some 95 then .error .invalid
  else
    match digitRun s 0 0 with
    | none => .error .invalid
    | some (count, value, rest) =>
      if count > maxIntDigits then .error (.tooManyDigits count)
      else if count == 0 || !rest.all isAsciiBlank then .error .invalid
      else .ok (if negative then -(value : Int) else value)

example : (readNumeral (Text.ofString " +1_0 ")).toOption = some 10 ∧
    (readNumeral (Text.ofString "1__0")).toOption = none ∧
    (readNumeral (Text.mk [0xA0, 0x31, 0x32, 0x2003])).toOption = some 12 ∧
    (readNumeral (Text.mk [0x20, 0x1F, 0x31])).toOption = none ∧
    (readNumeral (Text.mk [0x663])).toOption = some 3 := by
  decide +kernel

end Arbor
