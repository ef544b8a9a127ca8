import Arbor.Json.Value

/-!
# Requests and responses

A `Request` is what a client sends: a method, a URL that may carry a query after `?`, headers
and a body. A client writes the method in capitals (`upperMethod`). Header
names are compared without regard to case; the body is either absent, a JSON document, or raw
text.

A `Response` is a status, a content and a list of headers. Its content is a JSON document, no
content at all, plain text, or an HTML page; the page itself is not modelled, only its media
type. Header names of responses are kept in lower case, so a response can be asked for a header
by plain comparison.
-/

set_option autoImplicit false

namespace Arbor

namespace Http

/-- What a request carries after its headers. -/
inductive Body where
  /-- no body at all -/
  | absent
  /-- a JSON document, sent as its compact text -/
  | document (v : Json)
  /-- raw text, sent as its UTF-8 bytes -/
  | raw (t : Text)
  deriving Inhabited

/-- A request to the service. -/
structure Request where
  method : Text
  /-- the URL as given; a `?` starts a query -/
  path : Text
  /-- headers with their names as given -/
  headers : List (Text × Text)
  body : Body
  deriving Inhabited

/-- The value of the first header named `name`, compared without regard to case. -/
def Request.header? (req : Request) (name : String) : Option Text :=
  (req.headers.find? fun h => h.1.asciiLower == Text.ofString name).map Prod.snd

/-- A code point of a method name in capitals: the ASCII letters, and the letters outside ASCII
whose capitals are ASCII letters — `ß` is `SS`, the long `ſ` is `S`, the dotless `ı` is `I`,
and the ligatures `ﬀ` to `ﬆ` are their letters in capitals. Every other code point is kept:
whatever its capital is, it names no method the service knows. -/
def capitalOf (c : Nat) : List Nat :=
  if 97 ≤ c && c ≤ 122 then [c - 32]
  else if c == 0xDF then [83, 83]
  else if c == 0x17F then [83]
  else if c == 0x131 then [73]
  else if c == 0xFB00 then [70, 70]
  else if c == 0xFB01 then [70, 73]
  else if c == 0xFB02 then [70, 76]
  else if c == 0xFB03 then [70, 70, 73]
  else if c == 0xFB04 then [70, 70, 76]
  else if c == 0xFB05 || c == 0xFB06 then [83, 84]
  else [c]

/-- A method name as a client sends it: in capitals. -/
def upperMethod (m : Text) : Text := ⟨m.points.flatMap capitalOf⟩

/-- A request as a client sends it: a body goes with the content type `application/json`
unless the headers name a content type of their own. -/
def Request.make (method path : Text) (headers : List (Text × Text)) (body : Body) :
    Request :=
  let named := headers.any fun h => h.1.asciiLower == Text.ofString "content-type"
  let headers := match body with
    | .absent => headers
    | _ =>
      if named then headers
      else headers ++ [(Text.ofString "content-type", Text.ofString "application/json")]
  ⟨method, path, headers, body⟩

/-- What a response carries. -/
inductive Content where
  | json (v : Json)
  /-- no content, as after a deletion -/
  | empty
  | plain (t : Text)
  /-- an HTML page, known by its media type only -/
  | html
  deriving Inhabited

/-- The content type header that goes with a content, if any. -/
def Content.mediaType : Content → Option String
  | .json _ => some "application/json"
  | .empty => none
  | .plain _ => some "text/plain; charset=utf-8"
  | .html => some "text/html; charset=utf-8"

/-- A response: status, content, and headers with lower-case names in the order set. -/
structure Response where
  status : Nat
  content : Content
  headers : List (String × Text)
  deriving Inhabited

namespace Response

/-- A response with the content type header of its content and no other header. -/
def make (status : Nat) (content : Content) : Response :=
  { status, content,
    headers := match content.mediaType with
      | some t => [("content-type", Text.ofString t)]
      | none => [] }

/-- A JSON response. -/
def json (status : Nat) (v : Json) : Response := make status (.json v)

/-- The JSON response `{"detail": message}`. -/
def detail (status : Nat) (message : Text) : Response :=
  json status (.obj [("detail", .str message)])

/-- The answer to an error the service did not expect. -/
def serverError : Response := make 500 (.plain "Internal Server Error")

/-- The response with header `name` set to `value`: replaced in place when present, otherwise
added last. -/
def setHeader (r : Response) (name : String) (value : Text) : Response :=
  if r.headers.any (·.1 == name) then
    { r with headers := r.headers.map fun h => if h.1 == name then (name, value) else h }
  else { r with headers := r.headers ++ [(name, value)] }

/-- The response without its content, headers kept: what a client gets for a `HEAD` request. -/
def withoutContent (r : Response) : Response := { r with content := .empty }

/-- The value of header `name`, if set. -/
def header? (r : Response) (name : String) : Option Text := r.headers.lookup name

end Response

end Http

end Arbor
