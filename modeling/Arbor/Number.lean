import Arbor.Json.Value
import Arbor.Decimal.Binary
import Arbor.Fault

/-!
# Numbers of the cache clock

Clock readings and time-to-live settings are numbers that are either integers or binary64
floats, and each keeps its kind: a time-to-live given as `60` is reported as `60`, one given as
`2.5` as `2.5`. `Num.add`, `Num.sub` and `Num.mul` are exact on two integers and binary64
arithmetic otherwise, an integer first rounded to the nearest float. `Num.div` always gives a
float: the exact quotient of two integers rounded once, or binary64 division. `Num.ceil` is the
least integer not below a number. `Num.compare?` compares exactly across kinds, an integer
with the exact value of a float, and has no answer when a float is not a number; `Num.lt` is
then false. `Num.truncate` cuts toward zero to an integer, and `Json.toInt` converts any value
that has an integer, texts included.

Values of any kind meet in the service's arithmetic (`Json.arith`) and comparisons
(`Json.relate`): numbers and truth values take part as numbers, texts compare code point by code
point, and any other pair is refused, naming the operator and the two kinds.
-/

set_option autoImplicit false

namespace Arbor

-- powers of naturals and integers are the core ones, also beside libraries with their own
attribute [local instance (high)] instPowNat

/-- An integer or a binary64 float. -/
inductive Num where
  | int (n : Int)
  | float (x : Float)
  deriving Inhabited

namespace Num

/-- The number as a JSON value of its own kind. -/
def toJson : Num → Json
  | int n => .int n
  | float x => .float x

/-- The number a JSON value holds; a truth value counts as `0` or `1`. -/
def ofJson? : Json → Option Num
  | .int n => some (int n)
  | .float x => some (float x)
  | .bool b => some (int (if b then 1 else 0))
  | _ => none

/-- The float nearest to an integer. -/
def floatOfInt (n : Int) : Except Fault Float :=
  match Decimal.ofInt? n with
  | some x => .ok x
  | none => .error .intTooLargeForFloat

/-- The sum, exact for two integers and a binary64 sum otherwise. -/
def add : Num → Num → Except Fault Num
  | int a, int b => .ok (int (a + b))
  | float a, float b => .ok (float (a + b))
  | int a, float b => do pure (float ((← floatOfInt a) + b))
  | float a, int b => do pure (float (a + (← floatOfInt b)))

/-- The number as a float; an integer too large for one has none. -/
def toFloat : Num → Except Fault Float
  | int n => floatOfInt n
  | float x => .ok x

/-- The difference, exact for two integers and a binary64 difference otherwise. -/
def sub : Num → Num → Except Fault Num
  | int a, int b => .ok (int (a - b))
  | a, b => do pure (float ((← a.toFloat) - (← b.toFloat)))

/-- The product, exact for two integers and a binary64 product otherwise. -/
def mul : Num → Num → Except Fault Num
  | int a, int b => .ok (int (a * b))
  | a, b => do pure (float ((← a.toFloat) * (← b.toFloat)))

/-- The quotient as a float: for two integers the exact quotient rounded to the nearest float,
its sign the product of the signs even at zero; otherwise binary64 division, both operands made
floats first. A zero divisor is refused. -/
def div : Num → Num → Except Fault Num
  | int a, int b =>
    if b = 0 then .error .divisionByZero
    else match Decimal.nearestRatio a.natAbs b.natAbs with
      | none => .error .quotientTooLarge
      | some (m, q) => .ok (float (Decimal.toFloat ((a < 0) != (b < 0)) m q))
  | a, b => do
    let x ← a.toFloat
    let y ← b.toFloat
    if y == 0 then .error .floatDivisionByZero else pure (float (x / y))

/-- An exact rational view `sign · num / 2 ^ shift`, for an integer or a finite float. -/
inductive Exact where
  | finite (value : Int) (shift : Nat)
  | infinite (negative : Bool)
  | nan

/-- The exact view of a number. -/
def exact : Num → Exact
  | int n => .finite n 0
  | float x =>
    match Decimal.shapeOf x with
    | .nan => .nan
    | .infinite negative => .infinite negative
    | .finite negative b =>
      let magnitude : Int := b.m * 2 ^ b.q.toNat
      .finite (if negative then -magnitude else magnitude) (-b.q).toNat

/-- Exact comparison across kinds; `none` when a float is not a number. -/
def compare? (a b : Num) : Option Ordering :=
  match a.exact, b.exact with
  | .nan, _ => none
  | _, .nan => none
  | .infinite x, .infinite y => some (compare (if x then 0 else 1 : Nat) (if y then 0 else 1))
  | .infinite x, .finite _ _ => some (if x then .lt else .gt)
  | .finite _ _, .infinite y => some (if y then .gt else .lt)
  | .finite u i, .finite v j => some (compare (u * 2 ^ j) (v * 2 ^ i))

/-- Whether `a < b`; false when either is not a number. -/
def lt (a b : Num) : Bool := a.compare? b == some .lt

/-- Whether `a ≥ b`; false when either is not a number. -/
def ge (a b : Num) : Bool :=
  match a.compare? b with
  | some .gt => true
  | some .eq => true
  | _ => false

/-- Whether a number is a float that is not a number (NaN). -/
def isNaN (a : Num) : Bool :=
  match a.exact with
  | .nan => true
  | _ => false

/-- The integer a number equals, if it equals one: an integer itself, a float only when it is
finite and has no fractional part. -/
def intValue? (a : Num) : Option Int :=
  match a.exact with
  | .finite u i => if u % 2 ^ i == 0 then some (u / 2 ^ i) else none
  | _ => none

/-- The integer part, cut toward zero. -/
def truncate : Num → Except Fault Int
  | int n => .ok n
  | float x =>
    match Decimal.shapeOf x with
    | .nan => .error .nanToInt
    | .infinite _ => .error .infiniteToInt
    | .finite negative b =>
      let magnitude : Int := (b.m * 2 ^ b.q.toNat) / 2 ^ (-b.q).toNat
      .ok (if negative then -magnitude else magnitude)
/-- The least integer not below the number. -/
def ceil : Num → Except Fault Int
  | int n => .ok n
  | float x =>
    match Decimal.shapeOf x with
    | .nan => .error .nanToInt
    | .infinite _ => .error .infiniteToInt
    | .finite negative b =>
      let magnitude := b.m * 2 ^ b.q.toNat
      let scale := 2 ^ (-b.q).toNat
      .ok (if negative then -((magnitude / scale : Nat) : Int) else (magnitude + scale - 1) / scale)

end Num

/-- An operator of the service's arithmetic. -/
inductive Arith where
  | add
  | sub
  | mul
  | div
  deriving DecidableEq

/-- The symbol of an operator, as messages write it. -/
def Arith.symbol : Arith → String
  | .add => "+"
  | .sub => "-"
  | .mul => "*"
  | .div => "/"

/-- The operator on numbers. -/
def Arith.apply : Arith → Num → Num → Except Fault Num
  | .add => Num.add
  | .sub => Num.sub
  | .mul => Num.mul
  | .div => Num.div

/-- A comparison of the service's values. -/
inductive Relation where
  | lt
  | le
  | gt
  | ge
  deriving DecidableEq

/-- The symbol of a comparison, as messages write it. -/
def Relation.symbol : Relation → String
  | .lt => "<"
  | .le => "<="
  | .gt => ">"
  | .ge => ">="

/-- Whether the comparison holds for an outcome of `compare`. -/
def Relation.holds : Relation → Ordering → Bool
  | .lt, o => o == .lt
  | .le, o => o != .gt
  | .gt, o => o == .gt
  | .ge, o => o != .lt

/-- Two lists of code points compared one by one, a proper prefix first. -/
def comparePoints : List Nat → List Nat → Ordering
  | [], [] => .eq
  | [], _ :: _ => .lt
  | _ :: _, [] => .gt
  | a :: as, b :: bs => if a < b then .lt else if b < a then .gt else comparePoints as bs

namespace Json

/-- `a op b` for values of any kind: two numbers give a number, any other pair is refused. -/
def arith (op : Arith) (a b : Json) : Except Fault Num :=
  match Num.ofJson? a, Num.ofJson? b with
  | some x, some y => op.apply x y
  | _, _ => .error (.unsupportedOperands op.symbol a.kindName b.kindName)

/-- `a + b` for values of any kind: two numbers give their sum (`arith`), two texts and two
arrays are joined; a text or an array cannot be joined with a value of another kind, and any
other pair is refused. -/
def add (a b : Json) : Except Fault Json :=
  match a, b with
  | .str s, .str t => .ok (.str (s ++ t))
  | .str _, other => .error (.cannotConcatenate "str" other.kindName)
  | .arr xs, .arr ys => .ok (.arr (xs ++ ys))
  | .arr _, other => .error (.cannotConcatenate "list" other.kindName)
  | _, _ => (arith .add a b).map Num.toJson

/-- What `a` holds after `b` is added to it in place, as a clock is moved: an array is extended
by the items of `b` — the items of an array, the one-code-point texts of a text, the keys of an
object — and any other `b` cannot be gone through; a text takes a text; numbers are added as
`add` adds them, and any other pair is refused. -/
def addAssign (a b : Json) : Except Fault Json :=
  match a, b with
  | .arr xs, .arr ys => .ok (.arr (xs ++ ys))
  | .arr xs, .str t => .ok (.arr (xs ++ t.points.map fun c => .str ⟨[c]⟩))
  | .arr xs, .obj fs => .ok (.arr (xs ++ fs.map fun f => .str f.1))
  | .arr _, other => .error (.notIterable other.kindName)
  | .str s, .str t => .ok (.str (s ++ t))
  | .str _, other => .error (.cannotConcatenate "str" other.kindName)
  | _, _ =>
    match Num.ofJson? a, Num.ofJson? b with
    | some x, some y => (x.add y).map Num.toJson
    | _, _ => .error (.unsupportedOperands "+=" a.kindName b.kindName)

mutual

/-- Whether two values are the same, as the keys of a table and the items of two arrays are
compared: numbers and truth values by value, so `1`, `1.0` and `true` are the same; texts by
their code points; arrays item by item; objects when they have the same keys with the same
values; `null` only itself. Every NaN a document holds is one value, and a value is always the
same as itself, so a NaN is the same as a NaN here, though as numbers they are not equal
(`Json.relate`). -/
def equal : Json → Json → Bool
  | .str s, .str t => s.points == t.points
  | .null, .null => true
  | .arr xs, .arr ys => itemsEqual xs ys
  | .obj fs, .obj gs => fs.length == gs.length && fieldsWithin fs gs
  | a, b =>
    match Num.ofJson? a, Num.ofJson? b with
    | some x, some y => x.compare? y == some .eq || (x.isNaN && y.isNaN)
    | _, _ => false

/-- Whether two lists of values are the same item by item. -/
def itemsEqual : List Json → List Json → Bool
  | [], [] => true
  | x :: xs, y :: ys => equal x y && itemsEqual xs ys
  | _, _ => false

/-- Whether every field of the first list is a field of the second with the same value. -/
def fieldsWithin : List (Text × Json) → List (Text × Json) → Bool
  | [], _ => true
  | (k, v) :: fs, gs =>
    (match lookup gs k with
      | some w => equal v w
      | none => false) && fieldsWithin fs gs

end

mutual

/-- Whether `a r b` holds for values of any kind: two numbers compare by value and never when
one is not a number (NaN), two texts compare code point by code point, two arrays compare at
their first items that are not the same, or by their lengths when one runs out first; any other
pair is refused. -/
def relate (r : Relation) : Json → Json → Except Fault Bool
  | .arr xs, .arr ys => itemsRelate r xs ys
  | a, b =>
    match Num.ofJson? a, Num.ofJson? b, a, b with
    | some x, some y, _, _ => .ok (((x.compare? y).map r.holds).getD false)
    | _, _, .str s, .str t => .ok (r.holds (comparePoints s.points t.points))
    | _, _, _, _ => .error (.notComparable r.symbol a.kindName b.kindName)

/-- `xs r ys` for two arrays: the relation of the first items that are not the same, or of the
lengths when one array runs out first. -/
def itemsRelate (r : Relation) : List Json → List Json → Except Fault Bool
  | x :: xs, y :: ys => if equal x y then itemsRelate r xs ys else relate r x y
  | xs, ys => .ok (r.holds (compare xs.length ys.length))

end

/-- Whether `a == b` as the service compares two values: the same values (`equal`), except that
a NaN equals nothing, not even itself. -/
def eq (a b : Json) : Bool :=
  a.equal b && !((Num.ofJson? a).map Num.isNaN).getD false

/-- The integer a value equals as a number, if it equals one: an integer, a truth value as `0`
or `1`, a float with no fractional part. Texts and all other values equal no integer. -/
def intValue? (v : Json) : Option Int := (Num.ofJson? v).bind Num.intValue?

end Json

/-- The integer a JSON value converts to: an integer as it is, a truth value as `0` or `1`, a
float cut toward zero, a text by `readNumeral`. A value of any other kind has no integer. -/
def Json.toInt : Json → Except Fault Int
  | .str t =>
    match readNumeral t with
    | .ok n => .ok n
    | .error .invalid => .error (.invalidIntLiteral t)
    | .error (.tooManyDigits count) => .error (.tooManyDigits count)
  | v =>
    match Num.ofJson? v with
    | some n => n.truncate
    | none => .error (.notIntConvertible v.kindName)

end Arbor
