/-!
# Texts as sequences of code points

Labels, cache keys and every string inside a JSON document are `Text`s: finite sequences of
Unicode code points. A `String` cannot hold a lone surrogate such as U+D800, but a JSON escape
can name one and the service stores it like any other character, so the library keeps its own
text type. Lengths count code points, and texts are ordered code point by code point, which is
the order in which the remote cache lists its keys.
-/

set_option autoImplicit false

namespace Arbor

/-- A text: the list of its code points, lone surrogates included. -/
structure Text where
  /-- The code points, first to last. -/
  points : List Nat
  deriving DecidableEq, Inhabited, Hashable

namespace Text

/-- The text with no code points. -/
def empty : Text := ⟨[]⟩

/-- The code points of a `String`, one per character. -/
def ofString (s : String) : Text := ⟨s.toList.map Char.toNat⟩

instance : Append Text := ⟨fun a b => ⟨a.points ++ b.points⟩⟩

instance : Coe String Text := ⟨ofString⟩

/-- The number of code points. An emoji counts once, a letter with a combining accent twice. -/
def length (t : Text) : Nat := t.points.length

/-- Whether the text has no code points. -/
def isEmpty (t : Text) : Bool := t.points.isEmpty

/-- Whether every code point is below 128. -/
def isAscii (t : Text) : Bool := t.points.all (· < 128)

/-- The text as a `String`. A code point that is no Unicode scalar value (a surrogate) becomes
U+FFFD; texts that reach this function are ASCII in practice. -/
def toString (t : Text) : String :=
  String.ofList (t.points.map fun n => if h : n.isValidChar then Char.ofNatAux n h else '�')

/-- Whether `a` comes strictly before `b`, code point by code point, a proper prefix first. -/
def before : Text → Text → Bool
  | ⟨[]⟩, ⟨[]⟩ => false
  | ⟨[]⟩, ⟨_ :: _⟩ => true
  | ⟨_ :: _⟩, ⟨[]⟩ => false
  | ⟨a :: as⟩, ⟨b :: bs⟩ => a < b || (a == b && before ⟨as⟩ ⟨bs⟩)

/-- Whether `p` is a prefix of `t`. -/
def startsWith (t p : Text) : Bool := p.points.isPrefixOf t.points

/-- The decimal numeral of an integer, with a leading minus sign when it is negative. -/
def ofInt (n : Int) : Text := ofString n.repr

/-- The pieces between the occurrences of the code point `sep`; `n` occurrences give `n + 1`
pieces, empty ones included. -/
def splitOn (t : Text) (sep : Nat) : List Text :=
  (t.points.splitOn sep).map Text.mk

/-- The text with the code points `a` to `z` and `A` to `Z` lowered; others stay. -/
def asciiLower (t : Text) : Text :=
  ⟨t.points.map fun c => if 65 ≤ c ∧ c ≤ 90 then c + 32 else c⟩

end Text

end Arbor
