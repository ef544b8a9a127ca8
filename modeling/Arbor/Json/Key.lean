import Arbor.Number

/-!
# Values as keys

A table keyed by values — the ids of a page's rows, say — tells two keys apart as values are
told apart (`Json.equal`): numbers and truth values are one key when they are equal as numbers,
so `1`, `1.0` and `true` are the same key; texts are one key when they have the same code
points; `null` is only ever the same key as itself; and all the NaNs of a document are one key,
being one value.

Arrays and objects cannot be keys at all: a table refuses them before it compares anything
(`Json.hashFault?`). `Key` is a value seen through this equality, so that the tables of the
service can be written once for any type of keys with a `BEq`. Two keys are *equal* as numbers
are (`Key.equals`): as the same key, except that a NaN equals nothing, not even itself.
-/

set_option autoImplicit false

namespace Arbor

namespace Json

/-- Why a value cannot be a key: an array or an object has no hash. -/
def hashFault? : Json → Option Fault
  | .arr _ => some (.unhashable "list")
  | .obj _ => some (.unhashable "dict")
  | _ => none

end Json

/-- A value used as a key of a table. -/
structure Key where
  value : Json
  deriving Inhabited

instance : BEq Key := ⟨fun a b => a.value.equal b.value⟩

/-- Whether two keys are equal as values (`Json.eq`): the same key, unless it is a NaN. -/
def Key.equals (a b : Key) : Bool := a.value.eq b.value

example : (Key.mk (.bool true) == Key.mk (.int 1)) = true := by decide

example : (Key.mk .null == Key.mk (.int 0)) = false := by decide

example : Key.equals ⟨.int 1⟩ ⟨.bool true⟩ = true := by decide

end Arbor
