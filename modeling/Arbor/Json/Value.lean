import Arbor.Text.Basic

/-!
# JSON values

The service passes JSON documents through unchanged: a cached page is a JSON document, and the
fields of a decoded page keep whatever values the document held. `Json` is that value: null, a
truth value, an integer of any size, a binary64 float, a text, an array, or an object whose
fields keep their order. Integers and floats are distinct kinds, so `1` and `1.0` stay apart.

Objects hold each key once. `Json.setField` is how a field is written: a new key goes to the
end and an existing key keeps its place and takes the new value, as when a document names a key
twice.
-/

set_option autoImplicit false

namespace Arbor

/-- A JSON value. -/
inductive Json where
  | null
  | bool (b : Bool)
  | int (n : Int)
  | float (x : Float)
  | str (s : Text)
  | arr (items : List Json)
  | obj (fields : List (Text × Json))
  deriving Inhabited

namespace Json

/-- The name of the kind of a value, as the service's error messages spell it. -/
def kindName : Json → String
  | null => "NoneType"
  | bool _ => "bool"
  | int _ => "int"
  | float _ => "float"
  | str _ => "str"
  | arr _ => "list"
  | obj _ => "dict"

/-- The values that count as false: null, false, zero of either kind, the empty text, the empty
array and the empty object. Every other value counts as true, not-a-number included. -/
def isFalsy : Json → Bool
  | null => true
  | bool b => !b
  | int n => n == 0
  | float x => x == 0.0
  | str s => s.isEmpty
  | arr items => items.isEmpty
  | obj fields => fields.isEmpty

/-- How many parts a value has: the code points of a text, the items of an array, the fields of
an object; other values have no length. -/
def length? : Json → Option Nat
  | str t => some t.length
  | arr items => some items.length
  | obj fields => some fields.length
  | _ => none

/-- The value of the field `key`, if the object has one. -/
def lookup (fields : List (Text × Json)) (key : Text) : Option Json :=
  (fields.find? (·.1 == key)).map (·.2)

/-- Write the field `key`: an existing field keeps its place and takes `v`, a new one goes last. -/
def setField (fields : List (Text × Json)) (key : Text) (v : Json) : List (Text × Json) :=
  if fields.any (·.1 == key) then fields.map fun kv => if kv.1 == key then (key, v) else kv
  else fields ++ [(key, v)]

/-- An object from fields written in order, a repeated key keeping its first place and its last
value. -/
def ofFields (fields : List (Text × Json)) : Json :=
  obj (fields.foldl (fun acc kv => setField acc kv.1 kv.2) [])

mutual

/-- How many arrays and objects are open at the deepest point of a value: none for a scalar. -/
def nesting : Json → Nat
  | arr items => itemsNesting items + 1
  | obj fields => fieldsNesting fields + 1
  | _ => 0

/-- The deepest nesting among the items. -/
def itemsNesting : List Json → Nat
  | [] => 0
  | v :: vs => max (nesting v) (itemsNesting vs)

/-- The deepest nesting among the fields' values. -/
def fieldsNesting : List (Text × Json) → Nat
  | [] => 0
  | (_, v) :: fs => max (nesting v) (fieldsNesting fs)

end

/-- A text value from a `String`. -/
def text (s : String) : Json := str (Text.ofString s)

/-- An object from `String` keys. -/
def record (fields : List (String × Json)) : Json :=
  obj (fields.map fun kv => (Text.ofString kv.1, kv.2))

end Json

end Arbor
