import Arbor.Text.Printable

/-!
# Quoted texts

Some error messages show a text the way it would be typed as a literal (`Text.quoted`). The text
stands between single quotes, or between double quotes when it holds a single quote and no
double one. Inside, the chosen quote mark and the backslash get a backslash in front; tab, line
feed and carriage return are written `\t`, `\n` and `\r`; the other ASCII controls and DEL
are written `\xhh`; a code point outside ASCII stays as it is when it is printable
(`isPrintable`) and is otherwise written `\xhh`, `\uhhhh` or `\Uhhhhhhhh`, the shortest of
the three that holds it. Hexadecimal digits are lower case.
-/

set_option autoImplicit false

namespace Arbor

/-- The last `width` hexadecimal digits of `n`, in lower case, as code points. -/
def hexDigitsOf : Nat → Nat → List Nat
  | 0, _ => []
  | width + 1, n =>
    let d := n / 16 ^ width % 16
    (if d < 10 then 48 + d else 87 + d) :: hexDigitsOf width n

/-- A code point as it is written inside a quoted text whose quote mark is `mark`. -/
def quotedPoint (mark c : Nat) : List Nat :=
  if c == mark || c == 92 then [92, c]
  else if c == 9 then [92, 116]
  else if c == 10 then [92, 110]
  else if c == 13 then [92, 114]
  else if c < 32 || c == 127 then 92 :: 120 :: hexDigitsOf 2 c
  else if c < 127 || isPrintable c then [c]
  else if c ≤ 0xFF then 92 :: 120 :: hexDigitsOf 2 c
  else if c ≤ 0xFFFF then 92 :: 117 :: hexDigitsOf 4 c
  else 92 :: 85 :: hexDigitsOf 8 c

namespace Text

/-- The quote mark of a text: a double quote when the text holds a single quote and no double
one, else a single quote. -/
def quoteMark (t : Text) : Nat :=
  if t.points.contains 39 && !t.points.contains 34 then 34 else 39

/-- The text as a quoted literal. -/
def quoted (t : Text) : Text :=
  ⟨t.quoteMark :: t.points.flatMap (quotedPoint t.quoteMark) ++ [t.quoteMark]⟩

end Text

example : (Text.ofString "a'b").quoted = Text.ofString "\"a'b\"" ∧
    (Text.ofString "a'b\"c").quoted = Text.ofString "'a\\'b\"c'" ∧
    (Text.mk [0xA0, 120]).quoted = Text.ofString "'\\xa0x'" := by
  decide +kernel

end Arbor
