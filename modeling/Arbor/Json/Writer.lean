import Arbor.Json.Value
import Arbor.Decimal.Shortest
import Arbor.Text.Numeral

/-!
# Writing JSON text

`Json.write` is the service's JSON text: object fields in their order, `", "` between items and
`": "` after a key; `Json.writeCompact` leaves those blanks out. Floats are written in their
shortest form that reads back (`Json.floats`), with the words `NaN`, `Infinity` and `-Infinity`
for the values that have no digits.

A text is quoted with the escapes `\"`, `\\`, `\n`, `\r`, `\t`, `\b`, `\f`, and `\u00XX` for
the other control characters. With `asciiOnly` every code point outside space to tilde is
escaped as `\uXXXX` in lower-case hexadecimal, a code point above U+FFFF as two surrogate
escapes; without it such code points are written as they are. The remote cache stores the
latter; the answers of the driver are the former.

A writer may also refuse a value (`Json.writeFault`): one opens at most so many arrays and
objects at once, and one may take finite floats only; no writer writes an integer of more than
`maxIntDigits` digits (`fitsNumeral`). The refusal is the first offence met in document order,
so a non-finite float before a too deep container is the one reported.
-/

set_option autoImplicit false

namespace Arbor

/-- The notation of floats in JSON text: positional while the point position lies in `-3` to
`16`, otherwise an exponent with a sign and at least two digits; integral values keep `.0`. -/
def Json.floats : Decimal.Notation :=
  { lowestPoint := -4, highestPoint := 16, exponentWidth := 2, keepPointZero := true,
    nanText := "NaN", infinityText := "Infinity" }

namespace JsonWriter

/-- The code points of a `String`. -/
def points (s : String) : List Nat := s.toList.map Char.toNat

/-- The four lower-case hexadecimal digits of a number below `2 ^ 16`. -/
def hex4 (n : Nat) : List Nat :=
  let digit (d : Nat) : Nat := if d < 10 then 48 + d else 87 + d
  [digit (n / 4096 % 16), digit (n / 256 % 16), digit (n / 16 % 16), digit (n % 16)]

/-- The escape `\u` followed by four hexadecimal digits. -/
def uEscape (n : Nat) : List Nat := 92 :: 117 :: hex4 n

/-- The escaped form of one code point inside quotes. -/
def escapePoint (asciiOnly : Bool) (c : Nat) : List Nat :=
  if c == 34 then [92, 34]
  else if c == 92 then [92, 92]
  else if c == 10 then [92, 110]
  else if c == 13 then [92, 114]
  else if c == 9 then [92, 116]
  else if c == 8 then [92, 98]
  else if c == 12 then [92, 102]
  else if c < 32 then uEscape c
  else if asciiOnly && c > 126 then
    if c > 0xFFFF then
      let v := c - 0x10000
      uEscape (0xD800 + v / 0x400) ++ uEscape (0xDC00 + v % 0x400)
    else uEscape c
  else [c]

/-- A quoted text, put in front of `rest`. -/
def quote (asciiOnly : Bool) (t : Text) (rest : List Nat) : List Nat :=
  34 :: t.points.foldr (fun c acc => escapePoint asciiOnly c ++ acc) (34 :: rest)

/-- How a writer lays out its text: `", "` and `": "` between the parts, or with `compact` no
blanks at all; with `asciiOnly` every code point outside space to tilde is escaped. -/
structure Layout where
  asciiOnly : Bool
  compact : Bool

/-- What stands between two items or fields. -/
def Layout.itemGap (l : Layout) : List Nat := if l.compact then [44] else [44, 32]

/-- What stands between a key and its value. -/
def Layout.keyGap (l : Layout) : List Nat := if l.compact then [58] else [58, 32]

mutual

/-- The text of `v`, put in front of `rest`. -/
def value (l : Layout) : Json → List Nat → List Nat
  | .null, rest => points "null" ++ rest
  | .bool true, rest => points "true" ++ rest
  | .bool false, rest => points "false" ++ rest
  | .int n, rest => points n.repr ++ rest
  | .float x, rest => points (Json.floats.render x) ++ rest
  | .str t, rest => quote l.asciiOnly t rest
  | .arr [], rest => 91 :: 93 :: rest
  | .arr (v :: vs), rest => 91 :: value l v (items l vs (93 :: rest))
  | .obj [], rest => 123 :: 125 :: rest
  | .obj ((k, v) :: fs), rest =>
    123 :: quote l.asciiOnly k (l.keyGap ++ value l v (fields l fs (125 :: rest)))

/-- The items after the first of an array, each after the item gap. -/
def items (l : Layout) : List Json → List Nat → List Nat
  | [], rest => rest
  | v :: vs, rest => l.itemGap ++ value l v (items l vs rest)

/-- The fields after the first of an object, each after the item gap. -/
def fields (l : Layout) : List (Text × Json) → List Nat → List Nat
  | [], rest => rest
  | (k, v) :: fs, rest =>
    l.itemGap ++ quote l.asciiOnly k (l.keyGap ++ value l v (fields l fs rest))

end

end JsonWriter

/-- Why a writer refuses a value. -/
inductive WriteFault where
  /-- an array or object opens when the writer's room for nesting is used up -/
  | tooDeep
  /-- a float with no digits, where only finite floats are taken -/
  | nonFinite
  /-- an integer of more than `maxIntDigits` digits -/
  | tooManyDigits
  deriving DecidableEq, Inhabited

namespace JsonWriter

mutual

/-- The first offence in `v`, in document order, for a writer with room for `room` more open
arrays and objects, taking finite floats only when `finiteOnly` holds. -/
def fault (room : Nat) (finiteOnly : Bool) : Json → Option WriteFault
  | .int n => if fitsNumeral n then none else some .tooManyDigits
  | .float x => if finiteOnly && !x.isFinite then some .nonFinite else none
  | .arr vs =>
    match room with
    | 0 => some .tooDeep
    | r + 1 => itemsFault r finiteOnly vs
  | .obj fs =>
    match room with
    | 0 => some .tooDeep
    | r + 1 => fieldsFault r finiteOnly fs
  | _ => none

/-- The first offence among the items. -/
def itemsFault (room : Nat) (finiteOnly : Bool) : List Json → Option WriteFault
  | [] => none
  | v :: vs => (fault room finiteOnly v).or (itemsFault room finiteOnly vs)

/-- The first offence among the fields' values. -/
def fieldsFault (room : Nat) (finiteOnly : Bool) : List (Text × Json) → Option WriteFault
  | [] => none
  | (_, v) :: fs => (fault room finiteOnly v).or (fieldsFault room finiteOnly fs)

end

end JsonWriter

/-- Why a writer that opens at most `room` arrays and objects at once, and takes finite floats
only when `finiteOnly` holds, refuses `v`; `none` when it writes it. -/
def Json.writeFault (room : Nat) (finiteOnly : Bool) (v : Json) : Option WriteFault :=
  JsonWriter.fault room finiteOnly v

/-- The JSON text of a value; with `asciiOnly` every code point outside space to tilde is
escaped. -/
def Json.write (asciiOnly : Bool) (v : Json) : Text :=
  ⟨JsonWriter.value ⟨asciiOnly, false⟩ v []⟩

/-- The JSON text of a value with no blanks between its parts and no code point escaped beyond
what a quoted text needs. -/
def Json.writeCompact (v : Json) : Text := ⟨JsonWriter.value ⟨false, true⟩ v []⟩

end Arbor
