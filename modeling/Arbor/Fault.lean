import Arbor.Text.Quoted
import Arbor.Text.Numeral
import Arbor.Text.Codec

/-!
# Why an operation fails

Every failure of the service is a `Fault`: a constructor per cause, carrying what the cause
needs. The service's rules give their own faults (an invalid request, a node not found, an empty
tree, an unreachable store or cache); decoding a stored page gives faults that say what was
asked of which kind of value; arithmetic and the store's integer range give theirs.

A fault is reported to a client as a class name and a message (`Fault.className`,
`Fault.message`), the two words of the service's error reports. The wording lives here and
nowhere else.
-/

set_option autoImplicit false

namespace Arbor

/-- Why an operation fails. Kinds of values are named as in the service's messages: `NoneType`,
`bool`, `int`, `float`, `str`, `list`, `dict`. -/
inductive Fault where
  /-- a request breaks a rule of the service, such as an empty label -/
  | invalidInput (message : String)
  /-- a node, or a parent that a request names, is not stored -/
  | nodeNotFound (message : String)
  /-- a page of rows gives no tree -/
  | emptyTree
  /-- the node store cannot be reached -/
  | storeUnavailable (message : String)
  /-- the remote cache cannot be reached; the text names the server's error -/
  | cacheDegraded (message : Text)
  /-- an object lacks the field `key` -/
  | missingKey (key : Text)
  /-- a field was asked of a text -/
  | keyOfText
  /-- a field was asked of an array -/
  | keyOfArray
  /-- a field was asked of a value of the kind `kind` that has no fields -/
  | keyOfScalar (kind : String)
  /-- the items of a value of the kind `kind` were asked for -/
  | notIterable (kind : String)
  /-- a value of the kind `kind` was read as an object -/
  | notAnObject (kind : String)
  /-- a quotient by zero -/
  | divisionByZero
  /-- an integer quotient beyond the largest binary64 value -/
  | quotientTooLarge
  /-- an integer beyond the largest binary64 value was used as a float -/
  | intTooLargeForFloat
  /-- an infinite float was cut to an integer -/
  | infiniteToInt
  /-- a float that is not a number was cut to an integer -/
  | nanToInt
  /-- an integer outside the signed 64-bit range reached the SQL store -/
  | intTooLargeForStore
  /-- a text was to be written in `codec`, which refuses its code points from position `first`
  to `last`, `point` the first of them: a label in the SQL store, a value in the environment, a
  request's header or body -/
  | notEncodable (codec : Codec) (point first last : Nat)
  /-- the oldest cache entry was to be evicted from an empty cache -/
  | evictFromEmpty
  /-- the configuration breaks a rule -/
  | configuration (message : Text)
  /-- two values of the kinds `left` and `right` were compared with `op` -/
  | notComparable (op left right : String)
  /-- a value of the kind `kind` was looked up in a set -/
  | unhashable (kind : String)
  /-- a database address that cannot be taken apart -/
  | invalidAddress (message : Text)
  /-- a float that is infinite or not a number was to be written as JSON text -/
  | nonFiniteJson
  /-- a text holding the code point zero was to be put in the environment -/
  | embeddedNul
  /-- a value of kind `kind`, not a text, was to be put in the environment -/
  | notText (kind : String)
  /-- a client was given an address it cannot send a request to -/
  | invalidUrl (message : Text)
  /-- a client was asked to open a websocket where it sends plain requests -/
  | upgradeRequested
  /-- an integer of `count` digits, more than `maxIntDigits`, was to be read -/
  | tooManyDigits (count : Nat)
  /-- an integer of more than `maxIntDigits` digits was to be written as text -/
  | tooManyDigitsToWrite
  /-- a text that writes no integer was read as one -/
  | invalidIntLiteral (text : Text)
  /-- JSON text nested deeper than its reader follows; `inObject` when an object was opening -/
  | nestingTooDeep (inObject : Bool)
  /-- a value nested deeper than its writer follows was written as JSON text -/
  | writingTooDeep
  /-- a value of the kind `kind`, which has no integer, was converted to one -/
  | notIntConvertible (kind : String)
  /-- a value of the kind `kind` was asked for its attribute `attr`, which it lacks -/
  | noAttribute (kind attr : String)
  /-- a database address given as no text was taken apart as bytes, whose scheme cannot be
  compared with a text -/
  | bytesAddress
  /-- a request header was given a value of the kind `kind`, which is no text -/
  | headerValueKind (kind : String)
  /-- a float was divided by zero -/
  | floatDivisionByZero
  /-- values of the kinds `left` and `right` were combined with the operator `op` -/
  | unsupportedOperands (op left right : String)
  /-- a text or an array (`kind`) was to be joined with a value of kind `other` -/
  | cannotConcatenate (kind other : String)
  /-- the length of a value of the kind `kind`, which has none, was asked for -/
  | noLength (kind : String)
  /-- a list was cut at positions that are not integers -/
  | sliceIndex
  /-- the command `command` of the cache's server failed with the error `error`, which is not
  of the server's own family -/
  | commandFailed (error : Text) (command : String)
  /-- a library the service talks through raised the error `className` with `message` -/
  | library (className : String) (message : Text)
  /-- a server redirected to an address that the client refuses for the reason given -/
  | invalidRedirect (reason : Text)
  deriving Inhabited

namespace Fault

/-- The class name under which a fault is reported. -/
def className : Fault → String
  | invalidInput _ => "InvalidInputError"
  | nodeNotFound _ => "NodeNotFoundError"
  | emptyTree => "EmptyTreeError"
  | storeUnavailable _ => "StoreUnavailableError"
  | cacheDegraded _ => "CacheDegradedError"
  | missingKey _ => "KeyError"
  | keyOfText => "TypeError"
  | keyOfArray => "TypeError"
  | keyOfScalar _ => "TypeError"
  | notIterable _ => "TypeError"
  | notAnObject _ => "AttributeError"
  | divisionByZero => "ZeroDivisionError"
  | quotientTooLarge => "OverflowError"
  | intTooLargeForFloat => "OverflowError"
  | infiniteToInt => "OverflowError"
  | nanToInt => "ValueError"
  | intTooLargeForStore => "OverflowError"
  | notEncodable _ _ _ _ => "UnicodeEncodeError"
  | evictFromEmpty => "KeyError"
  | configuration _ => "ValueError"
  | notComparable _ _ _ => "TypeError"
  | unhashable _ => "TypeError"
  | invalidAddress _ => "ValueError"
  | nonFiniteJson => "ValueError"
  | embeddedNul => "ValueError"
  | notText _ => "TypeError"
  | invalidUrl _ => "InvalidURL"
  | upgradeRequested => "_Upgrade"
  | tooManyDigits _ => "ValueError"
  | tooManyDigitsToWrite => "ValueError"
  | invalidIntLiteral _ => "ValueError"
  | nestingTooDeep _ => "RecursionError"
  | writingTooDeep => "RecursionError"
  | notIntConvertible _ => "TypeError"
  | noAttribute _ _ => "AttributeError"
  | bytesAddress => "TypeError"
  | headerValueKind _ => "TypeError"
  | floatDivisionByZero => "ZeroDivisionError"
  | unsupportedOperands _ _ _ => "TypeError"
  | cannotConcatenate _ _ => "TypeError"
  | noLength _ => "TypeError"
  | sliceIndex => "TypeError"
  | commandFailed error _ => error.toString
  | library className _ => className
  | invalidRedirect _ => "RemoteProtocolError"

/-- A code point as an encoding fault names it: `\x` and two lower-case hexadecimal digits up to
`0xFF`, `\u` and four up to `0xFFFF`, `\U` and eight above. -/
def pointEscape (c : Nat) : Text :=
  if c ≤ 0xFF then ⟨92 :: 120 :: hexDigitsOf 2 c⟩
  else if c ≤ 0xFFFF then ⟨92 :: 117 :: hexDigitsOf 4 c⟩
  else ⟨92 :: 85 :: hexDigitsOf 8 c⟩

/-- The message under which a fault is reported. -/
def message : Fault → Text
  | invalidInput m => m
  | nodeNotFound m => m
  | emptyTree => "tree not found"
  | storeUnavailable m => m
  | cacheDegraded m => m
  | missingKey key => key.quoted
  | keyOfText => "string indices must be integers, not 'str'"
  | keyOfArray => "list indices must be integers or slices, not str"
  | keyOfScalar kind => "'" ++ kind ++ "' object is not subscriptable"
  | notIterable kind => "'" ++ kind ++ "' object is not iterable"
  | notAnObject kind => "'" ++ kind ++ "' object has no attribute 'get'"
  | divisionByZero => "division by zero"
  | quotientTooLarge => "integer division result too large for a float"
  | intTooLargeForFloat => "int too large to convert to float"
  | infiniteToInt => "cannot convert float infinity to integer"
  | nanToInt => "cannot convert float NaN to integer"
  | intTooLargeForStore => "Python int too large to convert to SQLite INTEGER"
  | notEncodable codec point first last =>
    let lead := Text.ofString ("'" ++ codec.name ++ "' codec can't encode ")
    let tail := Text.ofString (": " ++ codec.reason)
    if first + 1 = last then
      lead ++ Text.ofString "character '" ++ pointEscape point ++
        Text.ofString ("' in position " ++ toString first) ++ tail
    else
      lead ++ Text.ofString ("characters in position " ++ toString first ++ "-" ++
        toString (last - 1)) ++ tail
  | evictFromEmpty => "'dictionary is empty'"
  | configuration m => Text.ofString "Configuration error: " ++ m
  | notComparable op left right =>
    Text.ofString ("'" ++ op ++ "' not supported between instances of '" ++ left ++ "' and '" ++
      right ++ "'")
  | unhashable kind => Text.ofString ("unhashable type: '" ++ kind ++ "'")
  | invalidAddress m => m
  | nonFiniteJson => "Out of range float values are not JSON compliant"
  | embeddedNul => "embedded null byte"
  | notText kind => Text.ofString ("str expected, not " ++ kind)
  | invalidUrl m => m
  | upgradeRequested => Text.empty
  | tooManyDigits count =>
    Text.ofString ("Exceeds the limit (" ++ toString maxIntDigits ++ " digits) for integer " ++
      "string conversion: value has " ++ toString count ++
      " digits; use sys.set_int_max_str_digits() to increase the limit")
  | tooManyDigitsToWrite =>
    Text.ofString ("Exceeds the limit (" ++ toString maxIntDigits ++ " digits) for integer " ++
      "string conversion; use sys.set_int_max_str_digits() to increase the limit")
  | invalidIntLiteral text =>
    Text.ofString "invalid literal for int() with base 10: " ++ ⟨text.quoted.points.take 200⟩
  | nestingTooDeep inObject =>
    Text.ofString ("maximum recursion depth exceeded while decoding a JSON " ++
      (if inObject then "object" else "array") ++ " from a unicode string")
  | writingTooDeep => "maximum recursion depth exceeded while encoding a JSON object"
  | notIntConvertible kind =>
    Text.ofString ("int() argument must be a string, a bytes-like object or a real number, " ++
      "not '" ++ kind ++ "'")
  | noAttribute kind attr =>
    Text.ofString ("'" ++ kind ++ "' object has no attribute '" ++ attr ++ "'")
  | bytesAddress => "startswith first arg must be bytes or a tuple of bytes, not str"
  | headerValueKind kind =>
    Text.ofString ("Header value must be str or bytes, not <class '" ++ kind ++ "'>")
  | floatDivisionByZero => "float division by zero"
  | unsupportedOperands op left right =>
    Text.ofString ("unsupported operand type(s) for " ++ op ++ ": '" ++ left ++ "' and '" ++
      right ++ "'")
  | cannotConcatenate kind other =>
    Text.ofString ("can only concatenate " ++ kind ++ " (not \"" ++ other ++ "\") to " ++ kind)
  | noLength kind => Text.ofString ("object of type '" ++ kind ++ "' has no len()")
  | sliceIndex => "slice indices must be integers or None or have an __index__ method"
  | commandFailed _ command => Text.ofString (command ++ " failed")
  | library _ m => m
  | invalidRedirect reason =>
    Text.ofString "Invalid URL in location header: " ++ reason ++ Text.ofString "."

end Fault

end Arbor
