import Arbor.Json.Value
import Arbor.Text.Blank
import Arbor.Decimal.Binary
import Arbor.Text.Numeral

/-!
# Reading JSON text

`Json.read` turns a text into a `Json` value or says where and why it cannot. The grammar is
JSON's, with three additions that the service's reader also accepts: the words `NaN`,
`Infinity` and `-Infinity`. A number with a fraction or an exponent is a float, rounded to the
nearest binary64 value (`1e400` is infinity); any other number is an integer, of at most
`maxIntDigits` digits unless the reader is given another bound (`Json.readBounded`). A reader may
bound how many arrays and objects are open at once. A
`\u` escape of a high surrogate followed by one of a low surrogate joins them into one code
point; any other surrogate stays a code point of its own. A repeated key keeps its first place
and its last value. Blanks may surround the value; anything after it is an error.

A refusal carries the position, counted in code points from the start, at which reading
stopped, and the reason. The HTTP layer reports that position to its client, so it is fixed
exactly: a missing value is reported where the value should start, a missing delimiter where
the unexpected code point stands, a bad escape at its backslash (its `u` for `\u`), and an
unterminated text at its opening quote. The two limits are refusals of another kind
(`ReadFault.isSyntax` tells them apart): the text may be JSON, but the reader does not take it.
-/

set_option autoImplicit false

namespace Arbor

-- powers of naturals and integers are the core ones, also beside libraries with their own
attribute [local instance (high)] instPowNat

/-- Why a text is not JSON. -/
inductive ReadFault where
  | expectingValue
  | extraData
  | expectingName
  | expectingColon
  | expectingComma
  | unterminatedText
  | controlCharacter
  | invalidEscape
  | invalidUnicodeEscape
  | byteOrderMark
  /-- an integer of `count` digits, more than the reader takes -/
  | tooManyDigits (count : Nat)
  /-- an array or, with `inObject`, an object nested deeper than the reader's bound -/
  | tooDeep (inObject : Bool)
  deriving DecidableEq

/-- A refusal: the reason and the position in code points. -/
structure ReadError where
  fault : ReadFault
  pos : Nat
  deriving DecidableEq

namespace ReadFault

/-- The description of a refusal. -/
def message : ReadFault → String
  | expectingValue => "Expecting value"
  | extraData => "Extra data"
  | expectingName => "Expecting property name enclosed in double quotes"
  | expectingColon => "Expecting ':' delimiter"
  | expectingComma => "Expecting ',' delimiter"
  | unterminatedText => "Unterminated string starting at"
  | controlCharacter => "Invalid control character at"
  | invalidEscape => "Invalid \\escape"
  | invalidUnicodeEscape => "Invalid \\uXXXX escape"
  | byteOrderMark => "Unexpected UTF-8 BOM (decode using utf-8-sig)"
  | tooManyDigits _ => "Exceeds the limit of digits for integer conversion"
  | tooDeep _ => "Nesting exceeds the limit"

/-- Whether a refusal is about the text's grammar, rather than a limit of the reader. -/
def isSyntax : ReadFault → Bool
  | tooManyDigits _ => false
  | tooDeep _ => false
  | _ => true

end ReadFault

namespace JsonReader

/-- The first position at or after `i` that holds no JSON blank. -/
def skipBlank (s : Array Nat) (i : Nat) : Nat :=
  go i (s.size - i)
where
  go (i : Nat) : Nat → Nat
    | 0 => i
    | fuel + 1 => if h : i < s.size then (if isJsonBlank s[i] then go (i + 1) fuel else i) else i

/-- The code point at `i`, or `none` past the end. -/
def at? (s : Array Nat) (i : Nat) : Option Nat := s[i]?

/-- Whether the code point at `i` is `c`. -/
def isAt (s : Array Nat) (i c : Nat) : Bool := s[i]? == some c

/-- The value of a hexadecimal digit. -/
def hexValue (c : Nat) : Option Nat :=
  if 48 ≤ c ∧ c ≤ 57 then some (c - 48)
  else if 97 ≤ c ∧ c ≤ 102 then some (c - 87)
  else if 65 ≤ c ∧ c ≤ 70 then some (c - 55)
  else none

/-- The four hexadecimal digits at `i` to `i + 3` as a number. -/
def hex4 (s : Array Nat) (i : Nat) : Option Nat := do
  let a ← hexValue (← at? s i)
  let b ← hexValue (← at? s (i + 1))
  let c ← hexValue (← at? s (i + 2))
  let d ← hexValue (← at? s (i + 3))
  pure (((a * 16 + b) * 16 + c) * 16 + d)

/-- The code point written by a one-letter escape such as `\n`. -/
def simpleEscape (c : Nat) : Option Nat :=
  if c == 34 then some 34        -- quote
  else if c == 92 then some 92   -- backslash
  else if c == 47 then some 47   -- slash
  else if c == 98 then some 8    -- b
  else if c == 102 then some 12  -- f
  else if c == 110 then some 10  -- n
  else if c == 114 then some 13  -- r
  else if c == 116 then some 9   -- t
  else none

/-- A text whose opening quote stands just before `start`: its code points and the position after
its closing quote. -/
def readText (s : Array Nat) (start : Nat) : Except ReadError (Text × Nat) :=
  go start [] (s.size + 1)
where
  go (i : Nat) (acc : List Nat) : Nat → Except ReadError (Text × Nat)
    | 0 => .error ⟨.unterminatedText, start - 1⟩
    | fuel + 1 =>
      match at? s i with
      | none => .error ⟨.unterminatedText, start - 1⟩
      | some c =>
        if c == 34 then .ok (⟨acc.reverse⟩, i + 1)
        else if c == 92 then
          match at? s (i + 1) with
          | none => .error ⟨.unterminatedText, start - 1⟩
          | some e =>
            if e == 117 then
              let stop := i + 6
              if s.size ≤ stop then .error ⟨.invalidUnicodeEscape, i + 1⟩
              else match hex4 s (i + 2) with
                | none => .error ⟨.invalidUnicodeEscape, i + 1⟩
                | some c1 =>
                  if 0xD800 ≤ c1 ∧ c1 ≤ 0xDBFF ∧ stop + 6 < s.size ∧ isAt s stop 92 ∧
                      isAt s (stop + 1) 117 then
                    match hex4 s (stop + 2) with
                    | none => .error ⟨.invalidUnicodeEscape, stop + 1⟩
                    | some c2 =>
                      if 0xDC00 ≤ c2 ∧ c2 ≤ 0xDFFF then
                        let joined := 0x10000 + (c1 - 0xD800) * 0x400 + (c2 - 0xDC00)
                        go (stop + 6) (joined :: acc) fuel
                      else go stop (c1 :: acc) fuel
                  else go stop (c1 :: acc) fuel
            else match simpleEscape e with
              | some c' => go (i + 2) (c' :: acc) fuel
              | none => .error ⟨.invalidEscape, i⟩
        else if c ≤ 0x1F then .error ⟨.controlCharacter, i⟩
        else go (i + 1) (c :: acc) fuel

/-- The end of the run of ASCII digits that starts at `i`. -/
def digitsEnd (s : Array Nat) (i : Nat) : Nat :=
  go i (s.size - i)
where
  go (i : Nat) : Nat → Nat
    | 0 => i
    | fuel + 1 => match at? s i with
      | some c => if 48 ≤ c ∧ c ≤ 57 then go (i + 1) fuel else i
      | none => i

/-- The number that the ASCII digits from `i` to `j` write. -/
def digitsValue (s : Array Nat) (i j : Nat) : Nat :=
  ((s.extract i j).toList).foldl (fun acc c => acc * 10 + (c - 48)) 0

/-- Whether the code point at `i` is an ASCII digit. -/
def isDigitAt (s : Array Nat) (i : Nat) : Bool :=
  match at? s i with
  | some c => 48 ≤ c && c ≤ 57
  | none => false

/-- A number starting at `start`: an optional minus, an integer part without leading zeros, then
a fraction only if a digit follows the point and an exponent only if a digit follows the `e`
and its sign. An integer of more than `digits` digits is refused. -/
def readNumber (digits : Nat) (s : Array Nat) (start : Nat) : Except ReadError (Json × Nat) :=
  let negative := isAt s start 45
  let i := if negative then start + 1 else start
  let intEnd :=
    if isAt s i 48 then some (i + 1)
    else if isDigitAt s i then some (digitsEnd s i)
    else none
  match intEnd with
  | none => .error ⟨.expectingValue, start⟩
  | some j =>
    let hasFraction := j + 1 < s.size && isAt s j 46 && isDigitAt s (j + 1)
    let fracEnd := if hasFraction then digitsEnd s (j + 1) else j
    let hasE := fracEnd + 1 < s.size && (isAt s fracEnd 101 || isAt s fracEnd 69)
    let signAt := fracEnd + 1
    let hasSign := hasE && signAt + 1 < s.size && (isAt s signAt 43 || isAt s signAt 45)
    let expDigits := if hasSign then signAt + 1 else signAt
    let expEnd := digitsEnd s expDigits
    let hasExponent := hasE && expDigits < expEnd
    let whole := digitsValue s i j
    if !hasFraction && !hasExponent then
      if j - i > digits then .error ⟨.tooManyDigits (j - i), start⟩
      else .ok (.int (if negative then -(whole : Int) else whole), j)
    else
      let fracDigits := if hasFraction then fracEnd - (j + 1) else 0
      let mantissa := whole * 10 ^ fracDigits + digitsValue s (j + 1) fracEnd
      let expMagnitude : Int := if hasExponent then digitsValue s expDigits expEnd else 0
      let exp := if hasExponent && isAt s signAt 45 then -expMagnitude else expMagnitude
      let stop := if hasExponent then expEnd else fracEnd
      .ok (.float (Decimal.ofDecimal negative mantissa (exp - fracDigits)), stop)

/-- Whether the code points of `word` stand at `i`. -/
def wordAt (s : Array Nat) (i : Nat) (word : String) : Bool :=
  i + word.length ≤ s.size && (s.extract i (i + word.length)).toList == word.toList.map Char.toNat

/-- A value that is no array or object, starting at `i`. -/
def readScalar (digits : Nat) (s : Array Nat) (i : Nat) : Except ReadError (Json × Nat) :=
  match at? s i with
  | none => .error ⟨.expectingValue, i⟩
  | some c =>
    if c == 34 then (readText s (i + 1)).map fun (t, j) => (.str t, j)
    else if c == 110 && wordAt s i "null" then .ok (.null, i + 4)
    else if c == 116 && wordAt s i "true" then .ok (.bool true, i + 4)
    else if c == 102 && wordAt s i "false" then .ok (.bool false, i + 5)
    else if c == 78 && wordAt s i "NaN" then .ok (.float (0.0 / 0.0), i + 3)
    else if c == 73 && wordAt s i "Infinity" then .ok (.float (Decimal.infinity false), i + 8)
    else if c == 45 && wordAt s i "-Infinity" then .ok (.float (Decimal.infinity true), i + 9)
    else readNumber digits s i

mutual

/-- A value starting at `i`, inside which at most `depth` arrays and objects may open. -/
def readValue (digits : Nat) (s : Array Nat) : Nat → Nat → Except ReadError (Json × Nat)
  | 0, i =>
    if isAt s i 123 then .error ⟨.tooDeep true, i⟩
    else if isAt s i 91 then .error ⟨.tooDeep false, i⟩
    else readScalar digits s i
  | depth + 1, i =>
    if isAt s i 123 then
      let j := skipBlank s (i + 1)
      if isAt s j 125 then .ok (.obj [], j + 1) else readFields digits s depth (s.size + 1) j []
    else if isAt s i 91 then
      let j := skipBlank s (i + 1)
      if isAt s j 93 then .ok (.arr [], j + 1) else readItems digits s depth (s.size + 1) j []
    else readScalar digits s i

/-- The items of an array from `i` on, after its opening bracket; `acc` holds those read. -/
def readItems (digits : Nat) (s : Array Nat) (depth : Nat) :
    Nat → Nat → List Json → Except ReadError (Json × Nat)
  | 0, i, _ => .error ⟨.expectingValue, i⟩
  | fuel + 1, i, acc =>
    match readValue digits s depth i with
    | .error e => .error e
    | .ok (v, j) =>
      let j := skipBlank s j
      if isAt s j 93 then .ok (.arr (v :: acc).reverse, j + 1)
      else if isAt s j 44 then readItems digits s depth fuel (skipBlank s (j + 1)) (v :: acc)
      else .error ⟨.expectingComma, j⟩

/-- The fields of an object from `i` on, after its opening brace; `acc` holds those read. -/
def readFields (digits : Nat) (s : Array Nat) (depth : Nat) :
    Nat → Nat → List (Text × Json) → Except ReadError (Json × Nat)
  | 0, i, _ => .error ⟨.expectingName, i⟩
  | fuel + 1, i, acc =>
    if !isAt s i 34 then .error ⟨.expectingName, i⟩
    else match readText s (i + 1) with
    | .error e => .error e
    | .ok (key, j) =>
      let j := skipBlank s j
      if !isAt s j 58 then .error ⟨.expectingColon, j⟩
      else match readValue digits s depth (skipBlank s (j + 1)) with
      | .error e => .error e
      | .ok (v, k) =>
        let acc := Json.setField acc key v
        let k := skipBlank s k
        if isAt s k 125 then .ok (.obj acc, k + 1)
        else if isAt s k 44 then readFields digits s depth fuel (skipBlank s (k + 1)) acc
        else .error ⟨.expectingComma, k⟩

end

end JsonReader

namespace Json

open JsonReader in
/-- The value that the code points `s` spell, blanks around it allowed, with integers of at most
`digits` digits and at most `bound` arrays and objects open at once. -/
def readBounded (digits bound : Nat) (s : Array Nat) : Except ReadError Json :=
  match readValue digits s bound (skipBlank s 0) with
  | .error e => .error e
  | .ok (v, j) =>
    let j := skipBlank s j
    if j = s.size then .ok v else .error ⟨.extraData, j⟩

/-- The value that the code points `s` spell, with integers of at most `maxIntDigits` digits and
at most `bound` arrays and objects open at once. -/
def readPoints (bound : Nat) (s : Array Nat) : Except ReadError Json :=
  readBounded maxIntDigits bound s

/-- The value that a text spells, with at most `bound` arrays and objects open at once; a leading
byte order mark is refused. -/
def readWithin (bound : Nat) (t : Text) : Except ReadError Json :=
  if t.points.head? == some 0xFEFF then .error ⟨.byteOrderMark, 0⟩
  else readPoints bound t.points.toArray

/-- The value that a text spells, nested as deep as it likes; a leading byte order mark is
refused. Every open array or object takes a code point of the text, so a bound above its length
refuses nothing. -/
def read (t : Text) : Except ReadError Json :=
  readWithin (t.points.length + 1) t

end Json

end Arbor
