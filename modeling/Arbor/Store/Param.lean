import Arbor.Json.Key
import Arbor.Decimal.Binary

/-!
# Values as parameters of the SQL backend

The SQL backend keeps node ids in a signed 64-bit integer column. A value that names a node
reaches a query as a parameter (`Param.ofJson`): an integer, which must fit 64 bits; a truth
value as `0` or `1`; a float as a real, and a NaN as null; a text as a text, which must be
writable as UTF-8; `null` as null. An array or an object cannot be a parameter at all, and the
query fails.

A parameter selects an id (`Param.selects`) when it is a number equal to the id. A text is read
as a number first, if it is one (`numericText?`); a text that is no number, and null, select no
id.

Looking a node up by its primary key (`Param.ofKey`) takes one value: an array of exactly one
item, or an object with exactly the one field `id`, stands for that item or field, and any other
array or object is refused. A lookup that may be answered from the nodes already loaded first
searches them by the value, which must then be able to be a key (`Json.hashFault?`).
-/

set_option autoImplicit false

namespace Arbor

-- powers of naturals and integers are the core ones, also beside libraries with their own;
-- a literal exponent is typed, so that no default instance chooses the power first
attribute [local instance (high)] instPowNat

/-- Whether `v` fits a signed 64-bit column. -/
def fitsColumn (v : Int) : Bool := -2 ^ (63 : Nat) ≤ v && v < 2 ^ (63 : Nat)

/-- A blank around a number written in a text: space, tab, line feed, vertical tab, form feed
or carriage return. -/
def isNumericBlank (c : Nat) : Bool := c == 32 || (9 ≤ c && c ≤ 13)

/-- An ASCII decimal digit. -/
def isDecimalDigit (c : Nat) : Bool := 48 ≤ c && c ≤ 57

/-- The value of a run of decimal digits. -/
def decimalValue (ds : List Nat) : Nat := ds.foldl (fun v c => v * 10 + (c - 48)) 0

/-- An optional sign at the front of `s`: whether it is `-`, and the rest. -/
def signOf : List Nat → Bool × List Nat
  | 45 :: rest => (true, rest)
  | 43 :: rest => (false, rest)
  | rest => (false, rest)

/-- The number a text writes, as the SQL backend reads one: blanks, an optional sign, digits with
an optional point and more digits — at least one digit in all — then an optional exponent (`e`
or `E`, an optional sign and at least one digit), then blanks. An integer literal, with no point
and no exponent, that fits 64 bits is that integer; any other number is the float nearest to
it. -/
def numericText? (t : Text) : Option Num :=
  let s := ((t.points.dropWhile isNumericBlank).reverse.dropWhile isNumericBlank).reverse
  let (negative, s) := signOf s
  let (whole, s) := s.span isDecimalDigit
  let (fraction, pointed, s) := match s with
    | 46 :: rest =>
      let (f, rest) := rest.span isDecimalDigit
      (f, true, rest)
    | rest => ([], false, rest)
  let (exponent, s) : Option Int × List Nat := match s with
    | c :: rest =>
      if c == 101 || c == 69 then
        let (eNegative, rest) := signOf rest
        let (ds, rest) := rest.span isDecimalDigit
        if ds.isEmpty then (none, c :: rest)
        else (some (if eNegative then -(decimalValue ds : Int) else decimalValue ds), rest)
      else (none, c :: rest)
    | [] => (none, [])
  if !s.isEmpty || (whole.isEmpty && fraction.isEmpty) then none
  else
    let mantissa := decimalValue (whole ++ fraction)
    let signed : Int := if negative then -(mantissa : Int) else mantissa
    if !pointed && exponent.isNone && fitsColumn signed then some (.int signed)
    else some (.float (Decimal.ofDecimal negative mantissa (exponent.getD 0 - fraction.length)))

/-- A value as a parameter of a query of the SQL backend. -/
inductive Param where
  | null
  | integer (n : Int)
  | real (x : Float)
  | text (t : Text)
  deriving Inhabited

namespace Param

/-- The fault of a query that fails in the database. -/
def unavailable : Fault := .storeUnavailable "Tree store unavailable"

/-- The parameter a value binds as. -/
def ofJson : Json → Except Fault Param
  | .null => .ok .null
  | .bool b => .ok (.integer (if b then 1 else 0))
  | .int n => if fitsColumn n then .ok (.integer n) else .error .intTooLargeForStore
  | .float x => .ok (if (Num.float x).isNaN then .null else .real x)
  | .str t =>
    match Codec.utf8.firstRefused t.points with
    | some (point, first, last) => .error (.notEncodable .utf8 point first last)
    | none => .ok (.text t)
  | .arr _ => .error unavailable
  | .obj _ => .error unavailable

/-- The parameter a primary-key lookup binds for `v`; `cached` says whether the lookup first
searches the nodes already loaded. -/
def ofKey (v : Json) (cached : Bool) : Except Fault Param := do
  let x ← match v with
    | .arr [x] => pure x
    | .obj [(name, x)] => if name == Text.ofString "id" then pure x else throw unavailable
    | .arr _ => throw unavailable
    | .obj _ => throw unavailable
    | x => pure x
  if cached then
    if let some f := x.hashFault? then throw f
  ofJson x

/-- Whether a parameter selects the integer `id`: it is a number equal to it. -/
def selects (p : Param) (id : Int) : Bool :=
  match p with
  | .null => false
  | .integer n => n == id
  | .real x => (Num.float x).intValue? == some id
  | .text t => ((numericText? t).bind Num.intValue?) == some id

end Param

example : (Param.text (Text.ofString " +01 ")).selects 1 = true := by decide +kernel

example : (Param.text (Text.ofString "0x1")).selects 1 = false := by decide +kernel

end Arbor
