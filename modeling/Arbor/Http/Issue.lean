import Arbor.Text.Basic

/-!
# Input rules a request can break

Before a request reaches the service, its parameters and its body are checked against the API's
input rules. Every broken rule is an `Issue`: the location of the offending value and the rule
it breaks. The client is told all of them at once, in the order they were found, as one
`detail` text: `label: Field required; parentId: Input should be greater than 0`.

A location is the list of names leading to the value, without the part of the request it came
from; a value that is the whole body has the empty location, and its issue is written as the
rule alone.
-/

set_option autoImplicit false

namespace Arbor

namespace Http

/-- An input rule. -/
inductive Rule where
  /-- a required value is absent -/
  | missing
  /-- a text was expected -/
  | notText
  /-- a text holds a lone surrogate, which no Unicode string can -/
  | notUnicode
  /-- a text has fewer than `n` code points -/
  | tooShort (n : Nat)
  /-- a text has more than `n` code points -/
  | tooLong (n : Nat)
  /-- an integer was expected -/
  | notInteger
  /-- a text that should spell an integer does not -/
  | notIntegerText
  /-- an integer has more digits than are read, or a float lies outside the 64-bit range -/
  | integerTooLarge
  /-- a float with a fractional part was given for an integer -/
  | fractional
  /-- an infinite float or one that is not a number was given for an integer -/
  | notFinite
  /-- an integer is not above `n` -/
  | notAbove (n : Int)
  /-- an integer is below `n` -/
  | below (n : Int)
  /-- an integer is above `n` -/
  | above (n : Int)
  /-- an object was expected -/
  | notAnObject
  /-- the body is not well-formed JSON -/
  | badJson
  deriving Inhabited

/-- The words `1 character` or `n characters`. -/
def characters (n : Nat) : String :=
  toString n ++ (if n == 1 then " character" else " characters")

/-- How the client is told of a broken rule. -/
def Rule.message : Rule → String
  | .missing => "Field required"
  | .notText => "Input should be a valid string"
  | .notUnicode => "Input should be a valid string, unable to parse raw data as a unicode string"
  | .tooShort n => "String should have at least " ++ characters n
  | .tooLong n => "String should have at most " ++ characters n
  | .notInteger => "Input should be a valid integer"
  | .notIntegerText => "Input should be a valid integer, unable to parse string as an integer"
  | .integerTooLarge => "Unable to parse input string as an integer, exceeded maximum size"
  | .fractional => "Input should be a valid integer, got a number with a fractional part"
  | .notFinite => "Input should be a finite number"
  | .notAbove n => "Input should be greater than " ++ n.repr
  | .below n => "Input should be greater than or equal to " ++ n.repr
  | .above n => "Input should be less than or equal to " ++ n.repr
  | .notAnObject => "Input should be a valid dictionary or object to extract fields from"
  | .badJson => "JSON decode error"

/-- A broken rule and where. -/
structure Issue where
  /-- the names leading to the offending value -/
  loc : List Text
  rule : Rule
  deriving Inhabited

/-- The pieces of `xs` with `sep` between each two. -/
def joinWith (sep : Text) : List Text → Text
  | [] => Text.empty
  | [x] => x
  | x :: xs => x ++ sep ++ joinWith sep xs

/-- One issue as the client reads it: `location: message`, or the message alone. -/
def Issue.render (i : Issue) : Text :=
  match i.loc with
  | [] => Text.ofString i.rule.message
  | loc => joinWith "." loc ++ Text.ofString (": " ++ i.rule.message)

/-- All issues of a request, each rendered, separated by `; `. -/
def Issue.detail (issues : List Issue) : Text :=
  match issues with
  | [] => "invalid request"
  | _ => joinWith "; " (issues.map Issue.render)

end Http

end Arbor
