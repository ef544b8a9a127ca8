import Arbor.Session.Cache
import Arbor.Http.Api
import Arbor.Json.Display
import Arbor.Http.Rules

/-!
# Scripted HTTP sessions

An HTTP session runs a script of requests against one API and a clock. Besides requests, a
script can move the cache's clock and take the node store down or bring it back.

A script hands the client an `Outgoing` request, whose query and header values may be of any
kind. The client prepares it (`Outgoing.prepare`) and may fail to; the fault is then the step's,
and the request never reaches the API. In order:

* the client must accept the address (`AddressRules.refusal?`);
* every header name, and then its value, must be ASCII text; the first code point that is not
  is reported with its position;
* query values are sent as they read (`queryText`): truth values in lower case, `null` as
  nothing, an array as one parameter per item; given parameters, even none, replace the
  query of the URL (`formQuery`);
* a JSON body is written as compact JSON text, which fails for more than `clientNesting` arrays
  and objects open at once or a float that has no digits;
* the body text is written as UTF-8, which fails at its first run of lone surrogates, reported
  with its position in the text;
* the client must be able to carry the request to the address (`AddressRules.transportFault?`).

A request's answer is a JSON object: the status, then the content — `body` for a JSON
document (`null` for no content), `text` for plain text, `bodyKind` with the media type of a
page — and, when the script asks, the headers among `reportedHeaders` that the response has.
-/

set_option autoImplicit false

namespace Arbor

open Http

/-- A request as a script hands it to the client. -/
structure Outgoing where
  method : Text
  path : Text
  /-- query values of any kind, in order, when the script gives any -/
  query : Option (List (Text × Json))
  /-- header values of any kind, in order -/
  headers : List (Text × Json)
  body : Body
  deriving Inhabited

/-- One step of an HTTP script. -/
inductive HttpStep where
  /-- send a request; `withHeaders` asks for the response's headers in the answer -/
  | send (req : Outgoing) (withHeaders : Bool)
  /-- move the clock forward by `seconds`, added in place; the answer is the new reading, and a
  clock that cannot be moved ends the script -/
  | advance (seconds : Json)
  /-- make every operation of the node store fail, or work again -/
  | storeDown (down : Bool)
  deriving Inhabited

/-- An API and the clock reading. -/
structure HttpSession where
  api : Api
  now : Json
  deriving Inhabited

/-- The headers an answer may report, by lower-case name. -/
def reportedHeaders : List String :=
  ["content-type", "content-security-policy", "x-frame-options", "x-content-type-options",
    "cache-control", "referrer-policy", "strict-transport-security",
    "access-control-allow-origin", "access-control-allow-credentials",
    "access-control-allow-methods", "access-control-allow-headers", "access-control-max-age",
    "vary", "allow"]

/-- A response as the answer of a script step. -/
def Http.Response.report (r : Response) (withHeaders : Bool) : Json :=
  let content : String × Json := match r.content with
    | .json v => ("body", v)
    | .empty => ("body", .null)
    | .plain t => ("text", .str t)
    | .html => ("bodyKind", .text "text/html")
  let headers := reportedHeaders.filterMap fun name =>
    (r.header? name).map fun v => (Text.ofString name, Json.str v)
  Json.record ([("status", .int r.status), content] ++
    (if withHeaders then [("headers", .obj headers)] else []))

/-- The most arrays and objects a JSON request body may have open at once for the client to
write it. -/
def clientNesting : Nat := 982

/-- The fault of a text that `codec` cannot write. -/
def encodingFault (codec : Codec) (t : Text) : Option Fault :=
  (codec.firstRefused t.points).map fun (point, first, last) => .notEncodable codec point first last

/-- A query value as the client sends it. -/
def queryText : Json → Text
  | .bool b => Text.ofString (if b then "true" else "false")
  | .null => Text.empty
  | v => v.display

/-- The query parameters the client sends: an array gives one parameter per item. -/
def queryParams (query : List (Text × Json)) : List (Text × Text) :=
  query.flatMap fun (name, value) =>
    match value with
    | .arr items => items.map fun item => (name, queryText item)
    | v => [(name, queryText v)]

/-- Why the client cannot send a header, if it cannot. -/
def headerFault (name : Text) (value : Json) : Option Fault :=
  (encodingFault .ascii name).or <|
    match value with
    | .str t => encodingFault .ascii t
    | v => some (.headerValueKind v.kindName)

/-- Why the client cannot write a request's body, if it cannot. -/
def Http.Request.sendFault (req : Request) : Option Fault :=
  match req.body with
  | .absent => none
  | .raw t => encodingFault .utf8 t
  | .document v =>
    match v.writeFault clientNesting true with
    | some .tooDeep => some .writingTooDeep
    | some .nonFinite => some .nonFiniteJson
    | some .tooManyDigits => some .tooManyDigitsToWrite
    | none => encodingFault .utf8 v.writeCompact

/-- Why the client cannot write the query parameters, if it cannot: each name and then its value
is written as UTF-8. -/
def queryFault (params : List (Text × Text)) : Option Fault :=
  params.findSome? fun (name, value) => (encodingFault .utf8 name).or (encodingFault .utf8 value)

/-- The request the client sends for an outgoing one, or why it cannot. -/
def Outgoing.prepare (rules : AddressRules) (o : Outgoing) : Except Fault Request :=
  match rules.refusal? o.path with
  | some f => .error f
  | none =>
  match o.headers.findSome? fun (name, value) => headerFault name value with
  | some f => .error f
  | none =>
    let headers := o.headers.filterMap fun (name, value) =>
      match value with
      | .str t => some (name, t)
      | _ => none
    let params := queryParams (o.query.getD [])
    match queryFault params with
    | some f => .error f
    | none =>
    let url := match o.query with
      | none => o.path
      | some _ => replaceQuery o.path (if params.isEmpty then none else some (formQuery params))
    let req := Request.make (upperMethod o.method) url headers o.body
    match req.sendFault, rules.transportFault? o.path with
    | some f, _ => .error f
    | none, some f => .error f
    | none, none => .ok req

namespace HttpSession

/-- A session over a service, with the decisions about addresses of its client and framework,
its deployment kind, and a clock reading. -/
def create (rules : AddressRules) (service : Service) (production : Bool) (now : Json) :
    HttpSession :=
  ⟨⟨service, production, CrossOrigin.standard, rules⟩, now⟩

/-- Run one step: its outcome, or the fault that ends the script. -/
def run (hs : HttpSession) : HttpStep → Except Fault (StepOutcome HttpSession)
  | .send out withHeaders =>
    match out.prepare hs.api.rules with
    | .error e => .ok (hs, .error e)
    | .ok req =>
      match hs.api.respond hs.now req with
      | .error e => .ok (hs, .error e)
      | .ok (r, api) => .ok ({ hs with api }, .ok (.value (r.report withHeaders)))
  | .advance seconds => do
    let now ← Json.addAssign hs.now seconds
    pure ({ hs with now }, .ok (Reply.ofClock now))
  | .storeDown down =>
    let service := hs.api.service
    let store := { service.store with reachable := !down }
    let api := hs.api.withService { service with store }
    .ok ({ hs with api }, .ok (.value .null))

end HttpSession

end Arbor
