import Arbor.Text.Basic

/-!
# Blank code points

Two sets of blank code points matter to the service, and they differ in four control
characters:

* `isSpace` is the set that the configuration reader strips from the ends of a value and that
  its integer reader skips: the Unicode space separators, the line and paragraph separators,
  and the controls U+0009 to U+000D, U+001C to U+001F and U+0085.
* `isWhiteSpace` is the Unicode `White_Space` property, which the HTTP layer trims from integer
  parameters. It lacks U+001C to U+001F.

JSON text only knows the four blanks space, tab, line feed and carriage return (`isJsonBlank`).
-/

set_option autoImplicit false

namespace Arbor

/-- The Unicode `White_Space` property. -/
def isWhiteSpace (c : Nat) : Bool :=
  (9 ≤ c && c ≤ 13) || c == 32 || c == 0x85 || c == 0xA0 || c == 0x1680 ||
    (0x2000 ≤ c && c ≤ 0x200A) || c == 0x2028 || c == 0x2029 || c == 0x202F ||
    c == 0x205F || c == 0x3000

/-- Blank for the configuration reader: `White_Space` together with the information separators
U+001C to U+001F. -/
def isSpace (c : Nat) : Bool :=
  isWhiteSpace c || (0x1C ≤ c && c ≤ 0x1F)

/-- The four blanks of JSON text. -/
def isJsonBlank (c : Nat) : Bool :=
  c == 32 || c == 9 || c == 10 || c == 13

theorem isWhiteSpace_isSpace (c : Nat) (h : isWhiteSpace c = true) : isSpace c = true := by
  simp [isSpace, h]

namespace Text

/-- The text without its leading and trailing code points of `p`. -/
def trimBy (p : Nat → Bool) (t : Text) : Text :=
  ⟨((t.points.dropWhile p).reverse.dropWhile p).reverse⟩

/-- The text without leading and trailing `isSpace` code points. -/
def strip (t : Text) : Text := t.trimBy isSpace

end Text

end Arbor
