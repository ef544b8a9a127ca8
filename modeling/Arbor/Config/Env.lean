import Arbor.Text.Blank
import Arbor.Text.Numeral
import Arbor.Fault
import Arbor.Text.Utf8
import Arbor.Json.Value

/-!
# Reading settings from environment texts

Settings arrive as texts in the environment. The environment holds bytes: a text is written as
UTF-8, except that the lone surrogates U+DC80 to U+DCFF stand for the single bytes `0x80` to
`0xFF`. Only a text can be put there, and only when it can be written so (`storable`): it holds
no other lone surrogate and no code point zero. What a setting reads back is its bytes decoded
as UTF-8, each byte of an invalid part again as its surrogate (`stored`). So escapes that spell
UTF-8 become the code points they spell, `"\udcc3\udca9"` reading as `"é"`, and the rest stay.

Three readers turn the texts into values:

* `intSetting` reads an integer by `readNumeral` (`"٣"` is 3, `"1_000"` is 1000, `"1__0"` is
  refused); a blank text (`isSpace`) leaves the default;
* `flagSetting` is true exactly for `1`, `true`, `yes` and `on`, after stripping blanks and in
  any letter case;
* `listSetting` splits at commas, strips each item and drops the empty ones; an empty text
  leaves the default.
-/

set_option autoImplicit false

namespace Arbor

namespace Env

/-- A surrogate that stands for a single byte. -/
def isByteEscape (c : Nat) : Bool := 0xDC80 ≤ c && c ≤ 0xDCFF

/-- The text, when the environment can hold it. The first surrogate that stands for no byte is
refused with the rest of its run of surrogates; then a code point zero is refused. -/
def storable (t : Text) : Except Fault Text :=
  match t.points.findIdx? fun c => Utf8.isSurrogate c && !isByteEscape c with
  | some first =>
    let run := (t.points.drop first).takeWhile Utf8.isSurrogate
    .error (.notEncodable .utf8 (t.points.getD first 0) first (first + run.length))
  | none => if t.points.contains 0 then .error .embeddedNul else .ok t

/-- The byte a code point of a storable text stands for, or its UTF-8 bytes. -/
def bytesOf (c : Nat) : List Nat := if isByteEscape c then [c - 0xDC00] else Utf8.encode c

/-- The value of a setting once it is in the environment: its bytes read back as UTF-8. Only a
text can be put there; a value of any other kind is refused. -/
def stored (raw : Option Json) : Except Fault (Option Text) :=
  match raw with
  | none => .ok none
  | some (.str t) =>
    (storable t).map fun t => some ⟨Utf8.decodeEscaping (t.points.flatMap bytesOf)⟩
  | some v => .error (.notText v.kindName)

/-- A flag as the configuration reads it. -/
def readFlag (t : Text) : Bool :=
  let word := (t.strip.asciiLower).toString
  word == "1" || word == "true" || word == "yes" || word == "on"

/-- A comma-separated list as the configuration reads it. -/
def readList (t : Text) : List Text :=
  (t.splitOn 44).filterMap fun item => if item.strip.isEmpty then none else some item.strip

/-- The integer setting `name`: the default when unset or blank, else the integer it writes. -/
def intSetting {α : Type} (name : String) (raw : Option Json) (default : α) (ofInt : Int → α) :
    Except Fault α := do
  match ← stored raw with
  | none => pure default
  | some t =>
    if t.strip.isEmpty then pure default else
    match readNumeral t with
    | .ok n => pure (ofInt n)
    | .error _ => throw (.configuration (Text.ofString (name ++ " must be an integer")))

/-- The flag setting: the default when unset, else `readFlag`. -/
def flagSetting {α : Type} (raw : Option Json) (default : α) (ofBool : Bool → α) :
    Except Fault α := do
  match ← stored raw with
  | none => pure default
  | some t => pure (ofBool (readFlag t))

/-- The list setting: the default when unset or empty, else `readList`. -/
def listSetting {α : Type} (raw : Option Json) (default : α) (ofList : List Text → α) :
    Except Fault α := do
  match ← stored raw with
  | none => pure default
  | some t => pure (if t.isEmpty then default else ofList (readList t))

end Env

end Arbor
