import Arbor.Text.Utf8

/-!
# Text encodings that refuse code points

A text is sent as bytes in an encoding, and an encoding may have no bytes for some code points:
UTF-8 has none for the surrogates, ASCII none for code points from 128 on. A strict writer stops
at the first run of refused code points and reports it (`Codec.firstRefused`): the first code
point of the run, where the run starts, and where it ends, counted in code points.
-/

set_option autoImplicit false

namespace Arbor

/-- A text encoding that has no bytes for some code points. -/
inductive Codec where
  | utf8
  | ascii
  deriving DecidableEq, Inhabited

namespace Codec

/-- The name of the encoding in messages. -/
def name : Codec → String
  | utf8 => "utf-8"
  | ascii => "ascii"

/-- Why the encoding refuses a code point, as messages say it. -/
def reason : Codec → String
  | utf8 => "surrogates not allowed"
  | ascii => "ordinal not in range(128)"

/-- Whether the encoding has no bytes for a code point. -/
def refuses : Codec → Nat → Bool
  | utf8, c => Utf8.isSurrogate c
  | ascii, c => 128 ≤ c

/-- The first run of refused code points: its first code point, its start and its end. -/
def firstRefused (codec : Codec) (points : List Nat) : Option (Nat × Nat × Nat) :=
  match points.findIdx? codec.refuses with
  | none => none
  | some first =>
    let run := (points.drop first).takeWhile codec.refuses
    some (points.getD first 0, first, first + run.length)

example : ascii.firstRefused [97, 252, 253, 98] = some (252, 1, 3) := by decide

end Codec

end Arbor
