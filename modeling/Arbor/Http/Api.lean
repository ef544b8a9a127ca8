import Arbor.Service.Basic
import Arbor.Http.Body
import Arbor.Http.Route
import Arbor.Http.Policy
import Arbor.Http.Rules

/-!
# The HTTP API

`Api.respond` answers one request with the service behind the API. The request passes through
these stages, outermost first:

1. a cross-origin preflight is answered at once (`CrossOrigin.preflight`);
2. the target is normalised and routed (`route`); a redirection to the path with or without a
   trailing slash is followed, as a client does, up to `maxRedirects` times;
3. the endpoint checks the request and calls the service;
4. the response gets the security headers and the cross-origin headers. Which content
   security policy applies is decided on the path of the address the server rebuilds
   (`addressPath`).

A response to `HEAD` loses its content on the way to the client, its headers kept.

An endpoint answers the faults it knows: an invalid request is 400 with the fault's message,
a node not found is 404, an unreachable store is 500 with `Tree store unavailable`. Which
faults an endpoint knows differs: deleting knows no invalid request. A fault no endpoint knows
ends the request with a bare 500 `Internal Server Error`, without the headers of step 4.

Checking a request reports every broken input rule at once as 400 (`Issue.detail`): first the
node id of the path, then the query, then the fields of the body. A body that is not
well-formed JSON is refused before any of them, alone.
-/

set_option autoImplicit false

namespace Arbor

namespace Http

/-- The service behind the API and the settings of its responses. -/
structure Api where
  service : Service
  /-- production deployments send stricter security headers -/
  production : Bool
  crossOrigin : CrossOrigin
  /-- what the client and the framework decide about addresses -/
  rules : AddressRules
  deriving Inhabited

/-- The number of rows a page has when the request does not say. -/
def defaultPageSize : Int := 10

/-- The largest page size a request may ask for, as the service is configured. -/
def pageSizeLimit : Int := 100

mutual

/-- Whether every float in a value is finite, so that it can be written as JSON text. -/
def jsonFinite : Json → Bool
  | .float x => x.isFinite
  | .arr items => itemsFinite items
  | .obj fields => fieldsFinite fields
  | _ => true

/-- Whether every float in the items is finite. -/
def itemsFinite : List Json → Bool
  | [] => true
  | v :: vs => jsonFinite v && itemsFinite vs

/-- Whether every float in the fields' values is finite. -/
def fieldsFinite : List (Text × Json) → Bool
  | [] => true
  | (_, v) :: fs => jsonFinite v && fieldsFinite fs

end

/-- A JSON response, or the fault of a value that cannot be written as JSON text. -/
def jsonResponse (status : Nat) (v : Json) : Except Fault Response :=
  if jsonFinite v then .ok (Response.json status v) else .error .nonFiniteJson

/-- A kind of fault an endpoint answers. -/
inductive Known where
  | invalid
  | notFound
  | unavailable
  deriving Inhabited

/-- The response for a fault of a known kind. -/
def Known.response? : Known → Fault → Option Response
  | .invalid, .invalidInput m => some (Response.detail 400 (Text.ofString m))
  | .notFound, .nodeNotFound m => some (Response.detail 404 (Text.ofString m))
  | .unavailable, .storeUnavailable _ => some (Response.detail 500 "Tree store unavailable")
  | _, _ => none

/-- The response to a service result: `ok` of its value, the response of a known fault, or the
fault itself when no kind in `known` covers it. -/
def answer {α : Type} (known : List Known) (ok : α → Except Fault Response)
    (r : Except Fault α) : Except Fault Response :=
  match r with
  | .ok a => ok a
  | .error f =>
    match known.findSome? (·.response? f) with
    | some resp => .ok resp
    | none => .error f

/-- The 400 response listing the issues of a request. -/
def rejection (issues : List Issue) : Response := Response.detail 400 (Issue.detail issues)

/-- The response refusing a body before its fields are checked. -/
def BodyFault.response : BodyFault → Response
  | .malformed pos => rejection [⟨[Text.ofInt pos], .badJson⟩]
  | .unreadable => Response.detail 400 "There was an error parsing the body"

/-- The last value of the query parameter `name`. -/
def lastValue (pairs : List (Text × Text)) (name : String) : Option Text :=
  (pairs.reverse.find? (·.1 == Text.ofString name)).map Prod.snd

/-- An integer query parameter: its default when absent, otherwise read and checked by
`rule`, which names the broken bound if any. -/
def queryInt (pairs : List (Text × Text)) (name : String) (default : Int)
    (rule : Int → Option Rule) : Checked Int :=
  match lastValue pairs name with
  | none => .ok default
  | some t =>
    match readInteger t with
    | .error r => .error [⟨[Text.ofString name], r⟩]
    | .ok n =>
      match rule n with
      | some r => .error [⟨[Text.ofString name], r⟩]
      | none => .ok n

/-- The node id of the path, read as an integer. -/
def pathNodeId (nodeId : Option Text) : Checked Int :=
  match readInteger (nodeId.getD Text.empty) with
  | .ok n => .ok n
  | .error r => .error [⟨["node_id"], r⟩]

/-- The body of the health report. -/
def healthReport : Json :=
  Json.record [("status", .text "healthy"), ("service", .text "Tree Service API")]

namespace Api

/-- The API with the service changed. -/
def withService (api : Api) (service : Service) : Api := { api with service }

/-- The response of a service operation and the API afterwards. -/
def after {α : Type} (api : Api) (known : List Known) (ok : α → Except Fault Response)
    (r : Outcome α) : Except Fault Response × Api :=
  (answer known ok r.1, api.withService r.2)

/-- The deep health report: the store answers and the cache's kind. -/
def deepHealth (api : Api) : Json :=
  Json.record [("status", .text "healthy"), ("service", .text "Tree Service API"),
    ("checks", Json.record [
      ("node_store", Json.record [("status", .text "healthy"), ("message", .text "Reachable")]),
      ("cache", Json.record [("status", .text "healthy"),
        ("backend", .text api.service.cache.backendName)])])]

/-- A page of the forest, after checking the query pairs. -/
def listTree (api : Api) (now : Json) (pairs : List (Text × Text)) :
    Except Fault Response × Api :=
  let page := queryInt pairs "page" 1 fun n => if n < 1 then some (.below 1) else none
  let size := queryInt pairs "pageSize" defaultPageSize fun n =>
    if n > pageSizeLimit then some (.above pageSizeLimit)
    else if n < 1 then some (.below 1) else none
  match Checked.both page size with
  | .error issues => (.ok (rejection issues), api)
  | .ok (page, size) =>
    api.after [.invalid, .unavailable] (fun p => jsonResponse 200 p.toJson)
      (api.service.getPage now (.int page) (.int size))

/-- One node, after checking the path. -/
def getNode (api : Api) (nodeId : Option Text) : Except Fault Response × Api :=
  match pathNodeId nodeId with
  | .error issues => (.ok (rejection issues), api)
  | .ok id =>
    api.after [.notFound, .unavailable] (fun n => jsonResponse 200 n.toJson)
      (api.service.getNode (.int id))

/-- Create a node, after checking the body. -/
def createNode (api : Api) (req : Request) : Except Fault Response × Api :=
  match req.payload with
  | .error fault => (.ok fault.response, api)
  | .ok payload =>
    match payload.nodeInput with
    | .error issues => (.ok (rejection issues), api)
    | .ok input =>
      api.after [.invalid, .notFound, .unavailable] (fun n => jsonResponse 201 n.toJson)
        (api.service.createNode (.str input.label) (input.parent.map Json.int))

/-- Relabel and move a node, after checking the path and the body. -/
def updateNode (api : Api) (req : Request) (nodeId : Option Text) : Except Fault Response × Api :=
  match req.payload with
  | .error fault => (.ok fault.response, api)
  | .ok payload =>
    match Checked.both (pathNodeId nodeId) payload.nodeInput with
    | .error issues => (.ok (rejection issues), api)
    | .ok (id, input) =>
      api.after [.invalid, .notFound, .unavailable] (fun n => jsonResponse 200 n.toJson)
        (api.service.updateNode (.int id) (.str input.label) (input.parent.map Json.int))

/-- Delete a node and its descendants, after checking the path. -/
def deleteNode (api : Api) (nodeId : Option Text) : Except Fault Response × Api :=
  match pathNodeId nodeId with
  | .error issues => (.ok (rejection issues), api)
  | .ok id =>
    api.after [.notFound, .unavailable] (fun _ => .ok (Response.make 204 .empty))
      (api.service.deleteNode (.int id))

/-- The response of an endpoint and the API afterwards; `pairs` are the request's query pairs. -/
def serve (api : Api) (now : Json) (req : Request) (pairs : List (Text × Text))
    (nodeId : Option Text) : Endpoint → Except Fault Response × Api
  | .docs => (.ok (Response.make 200 .html), api)
  | .docsSignIn => (.ok (Response.make 200 .html), api)
  | .reference => (.ok (Response.make 200 .html), api)
  | .health => (jsonResponse 200 healthReport, api)
  | .deepHealth => (jsonResponse 200 api.deepHealth, api)
  | .listTree => api.listTree now pairs
  | .getNode => api.getNode nodeId
  | .createNode => api.createNode req
  | .updateNode => api.updateNode req nodeId
  | .deleteNode => api.deleteNode nodeId
  | .cacheStats =>
    match api.service.cache.stats with
    | .error e => (.error e, api)
    | .ok stats =>
      (jsonResponse 200 (Json.record [("status", .text "success"), ("cache_stats", stats)]), api)
  | .clearCache =>
    api.after [] (fun _ => jsonResponse 200 (Json.record [("status", .text "success"),
      ("message", .text "Cache cleared successfully")])) api.service.clearCache

/-- The response a routing gives. -/
def dispatch (api : Api) (now : Json) (req : Request) (pairs : List (Text × Text)) :
    Routing → Except Fault Response × Api
  | .found endpoint nodeId => api.serve now req pairs nodeId endpoint
  | .wrongMethod allowed =>
    (.ok ((Response.detail 405 "Method Not Allowed").setHeader "allow"
      (Text.ofString (commaList allowed))), api)
  | .redirect _ => (.ok (Response.detail 404 "Not Found"), api)
  | .notFound => (.ok (Response.detail 404 "Not Found"), api)

/-- The most redirections a client follows. -/
def maxRedirects : Nat := 20

/-- Where a request for `target` goes when the server redirects it to `path`. A request that
names a host the framework reads (`AddressRules.readsHost`) is sent to the address the framework
writes from that host (`AddressRules.redirectLocation`), which the client must accept like any
other address; any other request is sent to `path` on the same server, keeping its query. -/
def followRedirect (rules : AddressRules) (req : Request) (target : Target) (path : Text) :
    Except Fault Target :=
  match req.header? "host" with
  | some host =>
    if rules.readsHost host.points then
      let location := rules.redirectLocation (rules.requestScheme req.path) host path target.query
      match rules.refusal? location, rules.transportFault? location with
      | some f, _ => .error (.invalidRedirect f.message)
      | none, some f => .error f
      | none, none => .ok (rules.target location)
    else .ok (Target.redirect path target.query)
  | none => .ok (Target.redirect path target.query)

/-- The target a request ends at, redirections followed, and where it goes there. Each
redirection names the path of a route, so a second one is rare; a client gives up after
`fuel` of them. -/
def resolve (rules : AddressRules) (req : Request) (target : Target) :
    Nat → Except Fault (Target × Routing)
  | 0 => .ok (target, route req.method target.serverPath)
  | fuel + 1 =>
    match route req.method target.serverPath with
    | .redirect other => do resolve rules req (← followRedirect rules req target other) fuel
    | r => .ok (target, r)

/-- Answer one request, or the fault of a redirection the client cannot follow. A response to
`HEAD` comes without its content. -/
def respond (api : Api) (now : Json) (req : Request) : Except Fault (Response × Api) := do
  let (r, api) ←
    if isPreflight req then pure (api.crossOrigin.preflight req, api)
    else do
      let (target, routing) ← resolve api.rules req (api.rules.target req.path) maxRedirects
      pure <| match api.dispatch now req target.pairs routing with
        | (.error _, api) => (Response.serverError, api)
        | (.ok r, api) =>
          (api.crossOrigin.simple req
            (secure api.production (addressPath target.serverPath) r), api)
  pure (if req.method == Text.ofString "HEAD" then r.withoutContent else r, api)

end Api

end Http

end Arbor
