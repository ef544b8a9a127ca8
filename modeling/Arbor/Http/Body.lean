import Arbor.Json.Reader
import Arbor.Text.Blank
import Arbor.Http.Message
import Arbor.Http.Integer
import Arbor.Http.Target
import Arbor.Store.Basic

/-!
# Request bodies

Creating and updating a node take a JSON object with a `label` and an optional `parentId`.

A body is read as JSON when the request's content type is `application/json` or
`application/<anything>+json`. Its bytes are first decoded: UTF-8 unless the zero bytes of its
first four bytes show UTF-16 or UTF-32 (`detectEncoding`). Then text that is not well-formed JSON
is refused at once, with the position where reading stopped (`JSON decode error`); bytes that
are no text in their encoding, and JSON beyond the reader's limits, are refused without a
position: an integer of too many digits, or more than `bodyNesting` arrays and objects open at
once. Any other body is kept as bytes, which are never an object. An absent or empty body,
and the JSON `null`, count as no body: the body is then a missing field.

The object's fields are then checked, all of them, in the order `label`, `parentId`:

* `label` must be a text of 1 to 100 code points, and a text at all: neither a number nor
  `null`; a lone surrogate makes it no text;
* `parentId` may be absent or `null`; otherwise it is read by `integerOf` and must be above 0.

Other fields are ignored.
-/

set_option autoImplicit false

namespace Arbor

namespace Http

/-- A request body as the API sees it before its fields are checked. -/
inductive Payload where
  /-- no body, an empty one, or the JSON `null` -/
  | nothing
  /-- a JSON value -/
  | value (v : Json)
  /-- bytes that are not read as JSON -/
  | bytes
  deriving Inhabited

/-- Why a body meant as JSON is refused before its fields are looked at. -/
inductive BodyFault where
  /-- the text is not JSON; reading stopped at this position -/
  | malformed (pos : Nat)
  /-- the bytes are no text in their encoding, or the text is beyond the reader's limits -/
  | unreadable
  deriving Inhabited

/-- Whether a content type asks for the body to be read as JSON: its media type, before any
`;`, blanks stripped and compared without case, is `application/json` or
`application/<anything>+json`. A content type without exactly one `/` counts as plain text. -/
def isJsonType (contentType : Text) : Bool :=
  let media := (cutAt contentType 59).1.strip.asciiLower
  match media.splitOn 47 with
  | [main, sub] =>
    main == Text.ofString "application" &&
      (sub == Text.ofString "json" || (Text.ofString "+json").points.isSuffixOf sub.points)
  | _ => false

/-- The encodings a JSON body may come in. -/
inductive Encoding where
  | utf8
  | utf16 (bigEndian : Bool)
  | utf32 (bigEndian : Bool)
  deriving Inhabited

/-- The encoding of a JSON body, told by the zero bytes that text starting with an ASCII code
point has in the wider encodings: a first zero byte means big-endian, a second one little-endian,
and two zero bytes more in a row UTF-32. -/
def detectEncoding (b : List Nat) : Encoding :=
  match b with
  | b0 :: b1 :: b2 :: b3 :: _ =>
    if b0 == 0 then (if b1 != 0 then .utf16 true else .utf32 true)
    else if b1 == 0 then (if b2 != 0 || b3 != 0 then .utf16 false else .utf32 false)
    else .utf8
  | [b0, b1] => if b0 == 0 then .utf16 true else if b1 == 0 then .utf16 false else .utf8
  | _ => .utf8

/-- The 16-bit units of bytes taken two at a time; `none` when a byte is left over. -/
def units16 (bigEndian : Bool) : List Nat → Option (List Nat)
  | [] => some []
  | [_] => none
  | x :: y :: rest =>
    (units16 bigEndian rest).map fun us => (if bigEndian then x * 256 + y else y * 256 + x) :: us

/-- The 32-bit units of bytes taken four at a time; `none` when bytes are left over. -/
def units32 (bigEndian : Bool) : List Nat → Option (List Nat)
  | [] => some []
  | a :: b :: c :: d :: rest =>
    (units32 bigEndian rest).map fun us =>
      (if bigEndian then ((a * 256 + b) * 256 + c) * 256 + d
       else ((d * 256 + c) * 256 + b) * 256 + a) :: us
  | _ => none

/-- UTF-16 units as code points: a high surrogate followed by a low one is joined with it, and
any other surrogate stays a code point of its own. -/
def joinSurrogates : List Nat → List Nat
  | hi :: tail@(lo :: rest) =>
    if 0xD800 ≤ hi && hi ≤ 0xDBFF && 0xDC00 ≤ lo && lo ≤ 0xDFFF then
      (0x10000 + (hi - 0xD800) * 0x400 + (lo - 0xDC00)) :: joinSurrogates rest
    else hi :: joinSurrogates tail
  | units => units

/-- The code points a body's bytes spell in their encoding, a leading UTF-8 byte order mark
dropped; `none` when the bytes are no text in it. -/
def decodeBody (b : List Nat) : Option (List Nat) :=
  match detectEncoding b with
  | .utf8 =>
    match Utf8.decode b with
    | 0xFEFF :: rest => some rest
    | points => some points
  | .utf16 bigEndian => (units16 bigEndian b).map joinSurrogates
  | .utf32 bigEndian =>
    (units32 bigEndian b).bind fun us => if us.all (· < 0x110000) then some us else none

/-- A JSON value as a payload: `null` is no body. -/
def Payload.ofJson : Json → Payload
  | .null => .nothing
  | v => .value v

/-- The most arrays and objects a body may have open at once for the service to read it. -/
def bodyNesting : Nat := 980

/-- The payload of a body text sent as JSON, sent as its UTF-8 bytes. -/
def readBody (t : Text) : Except BodyFault Payload :=
  match decodeBody (t.points.flatMap Utf8.encode) with
  | none => .error .unreadable
  | some points =>
    match Json.readPoints bodyNesting points.toArray with
    | .ok v => .ok (Payload.ofJson v)
    | .error e => .error (if e.fault.isSyntax then .malformed e.pos else .unreadable)

/-- The payload of a request, or why its body is refused. A body is read as JSON only when the
content type says so; an empty body is no body whatever its type. -/
def Request.payload (req : Request) : Except BodyFault Payload :=
  let json := match req.header? "content-type" with
    | none => false
    | some t => isJsonType t
  match req.body with
  | .absent => .ok .nothing
  | .document v =>
    if !json then .ok .bytes
    else if v.nesting > bodyNesting then .error .unreadable
    else .ok (Payload.ofJson v)
  | .raw t =>
    if t.isEmpty then .ok .nothing
    else if !json then .ok .bytes
    else readBody t

/-- What a create or update request asks for. -/
structure NodeInput where
  label : Text
  parent : Option Int
  deriving Inhabited

/-- The issues of one field, or its value. -/
abbrev Checked (α : Type) := Except (List Issue) α

/-- The label a body gives, checked. -/
def checkLabel (fields : List (Text × Json)) : Checked Text :=
  let issue (rule : Rule) : Checked Text := .error [⟨["label"], rule⟩]
  match Json.lookup fields "label" with
  | none => issue .missing
  | some (.str t) =>
    if t.points.any fun c => 0xD800 ≤ c && c ≤ 0xDFFF then issue .notUnicode
    else if t.length < 1 then issue (.tooShort 1)
    else if t.length > maxLabelLength then issue (.tooLong maxLabelLength)
    else .ok t
  | some _ => issue .notText

/-- The parent a body gives, checked. -/
def checkParent (fields : List (Text × Json)) : Checked (Option Int) :=
  let issue (rule : Rule) : Checked (Option Int) := .error [⟨["parentId"], rule⟩]
  match Json.lookup fields "parentId" with
  | none => .ok none
  | some .null => .ok none
  | some v =>
    match integerOf v with
    | .error rule => issue rule
    | .ok n => if n > 0 then .ok (some n) else issue (.notAbove 0)

/-- Both results, or the issues of both. -/
def Checked.both {α β : Type} (a : Checked α) (b : Checked β) : Checked (α × β) :=
  match a, b with
  | .ok x, .ok y => .ok (x, y)
  | .error i, .ok _ => .error i
  | .ok _, .error j => .error j
  | .error i, .error j => .error (i ++ j)

/-- The node input a payload gives, or every issue found. -/
def Payload.nodeInput : Payload → Checked NodeInput
  | .nothing => .error [⟨[], .missing⟩]
  | .bytes => .error [⟨[], .notAnObject⟩]
  | .value (.obj fields) =>
    (Checked.both (checkLabel fields) (checkParent fields)).map fun (label, parent) =>
      ⟨label, parent⟩
  | .value _ => .error [⟨[], .notAnObject⟩]

end Http

end Arbor
