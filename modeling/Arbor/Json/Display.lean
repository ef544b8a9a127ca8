import Arbor.Json.Writer
import Arbor.Text.Quoted
import Arbor.Fault

/-!
# Values in messages and keys

The service puts values into texts in two ways. `Json.display` is how a value reads on its own,
in a cache key or a message: a text as it is, anything else as `Json.repr`. `Json.repr` is how
a value reads inside another one: `None`, `True` and `False` for the words, integers in decimal,
floats in their shortest form that reads back with `inf` and `nan` for the values with no
digits, texts quoted (`Text.quoted`), arrays as `[a, b]` and objects as `{k: v}` with each part
written by `repr`.

Either way an integer is written in decimal only when it has at most `maxIntDigits` digits
(`fitsNumeral`). `Json.shown` is a value put into a text as a key or a message puts it: its
`display`, refused with `Fault.tooManyDigitsToWrite` when some integer in it is longer
(`Json.writable`).
-/

set_option autoImplicit false

namespace Arbor

namespace Json

/-- The notation of floats in messages: that of JSON text with the words `inf` and `nan`. -/
def messageFloats : Decimal.Notation :=
  { Json.floats with nanText := "nan", infinityText := "inf" }

/-- The text of a float in a message, such as `1e+16`, `-0.0` or `inf`. -/
def floatText (x : Float) : Text := Text.ofString (messageFloats.render x)

mutual

/-- How a value reads inside another one. -/
def repr : Json → Text
  | .null => Text.ofString "None"
  | .bool b => Text.ofString (if b then "True" else "False")
  | .int n => Text.ofInt n
  | .float x => floatText x
  | .str t => t.quoted
  | .arr [] => Text.ofString "[]"
  | .arr (v :: vs) => Text.ofString "[" ++ repr v ++ itemsRepr vs ++ Text.ofString "]"
  | .obj [] => Text.ofString "\x7b\x7d"
  | .obj ((k, v) :: fs) =>
    Text.ofString "\x7b" ++ k.quoted ++ Text.ofString ": " ++ repr v ++ fieldsRepr fs ++
      Text.ofString "\x7d"

/-- The items after the first, each after `", "`. -/
def itemsRepr : List Json → Text
  | [] => Text.empty
  | v :: vs => Text.ofString ", " ++ repr v ++ itemsRepr vs

/-- The fields after the first, each after `", "`. -/
def fieldsRepr : List (Text × Json) → Text
  | [] => Text.empty
  | (k, v) :: fs => Text.ofString ", " ++ k.quoted ++ Text.ofString ": " ++ repr v ++ fieldsRepr fs

end

/-- How a value reads on its own: a text as it is, anything else as its `repr`. -/
def display : Json → Text
  | .str t => t
  | v => v.repr

example : (Json.arr [.str "a", .int 1, .null, .bool true]).display.toString =
    "['a', 1, None, True]" := by decide

mutual

/-- Whether every integer in a value has few enough digits to be written (`fitsNumeral`). -/
def writable : Json → Bool
  | .int n => fitsNumeral n
  | .arr vs => itemsWritable vs
  | .obj fs => fieldsWritable fs
  | _ => true

/-- Whether every integer in the items can be written. -/
def itemsWritable : List Json → Bool
  | [] => true
  | v :: vs => writable v && itemsWritable vs

/-- Whether every integer in the fields' values can be written. -/
def fieldsWritable : List (Text × Json) → Bool
  | [] => true
  | (_, v) :: fs => writable v && fieldsWritable fs

end

/-- A value put into a text, as a key or a message puts it: how it reads on its own, refused when
an integer in it has too many digits to be written. -/
def shown (v : Json) : Except Fault Text :=
  if v.writable then .ok v.display else .error .tooManyDigitsToWrite

end Json

end Arbor
