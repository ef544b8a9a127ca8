import Arbor.Http.Target

/-!
# Routes

The API answers a fixed table of routes, tried in order. A route is a method set and a path
pattern whose segments are fixed names or the node id, which matches any non-empty segment; a
pattern also matches a path that has one more line feed at its end.

Routing a request (`route`) gives, in this order of preference:

* the first route whose pattern and method both match;
* otherwise, when some route's pattern matches under another method, a refusal naming the
  methods of the first such route;
* otherwise, for a path other than `/`, a redirection to the same path with its trailing
  slashes removed, or with one added when it has none, if any route's pattern matches that;
* otherwise, no route.

The documentation pages come first in the table: the interactive page and its sign-in return
page, and the reference page.
-/

set_option autoImplicit false

namespace Arbor

namespace Http

/-- What a route does. -/
inductive Endpoint where
  /-- the interactive documentation page -/
  | docs
  /-- the page the interactive documentation returns to after signing in -/
  | docsSignIn
  /-- the reference documentation page -/
  | reference
  | health
  | deepHealth
  | listTree
  | getNode
  | createNode
  | updateNode
  | deleteNode
  | cacheStats
  | clearCache
  deriving DecidableEq, Inhabited

/-- One segment of a route's path. -/
inductive Segment where
  | fixed (name : String)
  /-- the node id, any non-empty segment -/
  | nodeId
  deriving Inhabited

/-- A route: the methods it answers, the segments of its path after the leading `/`, and what
it does. -/
structure Route where
  methods : List String
  segments : List Segment
  endpoint : Endpoint
  deriving Inhabited

/-- The routes of the API, in the order they are tried. -/
def routes : List Route :=
  [ ⟨["GET", "HEAD"], [.fixed "docs"], .docs⟩,
    ⟨["GET", "HEAD"], [.fixed "docs", .fixed "oauth2-redirect"], .docsSignIn⟩,
    ⟨["GET", "HEAD"], [.fixed "redoc"], .reference⟩,
    ⟨["GET"], [.fixed "health"], .health⟩,
    ⟨["GET"], [.fixed "health", .fixed "deep"], .deepHealth⟩,
    ⟨["GET"], [.fixed "api", .fixed "tree"], .listTree⟩,
    ⟨["GET"], [.fixed "api", .fixed "tree", .nodeId], .getNode⟩,
    ⟨["POST"], [.fixed "api", .fixed "tree"], .createNode⟩,
    ⟨["PUT"], [.fixed "api", .fixed "tree", .nodeId], .updateNode⟩,
    ⟨["DELETE"], [.fixed "api", .fixed "tree", .nodeId], .deleteNode⟩,
    ⟨["GET"], [.fixed "api", .fixed "cache", .fixed "stats"], .cacheStats⟩,
    ⟨["POST"], [.fixed "api", .fixed "cache", .fixed "clear"], .clearCache⟩ ]

/-- The node id a path's segments give under a pattern, `some none` when the pattern has no
node id, and `none` when the pattern does not match. -/
def matchSegments : List Segment → List Text → Option (Option Text)
  | [], [] => some none
  | .fixed name :: ps, s :: ss =>
    if s == Text.ofString name then matchSegments ps ss else none
  | .nodeId :: ps, s :: ss =>
    if s.isEmpty then none
    else (matchSegments ps ss).map fun found => some (found.getD s)
  | _, _ => none

/-- The segments of a path after its leading `/`; `none` for a path without one. -/
def pathSegments (path : Text) : Option (List Text) :=
  match path.splitOn 47 with
  | first :: rest => if first.isEmpty then some rest else none
  | [] => none

/-- The node id a route's pattern gives for a path, `some none` when the pattern has no node
id, and `none` when the path does not match. A pattern's end also matches just before a final
line feed, so that the health route answers `/health` followed by a line feed; a node id at the
end keeps the line feed. -/
def Route.matchPath (r : Route) (path : Text) : Option (Option Text) :=
  let exact (p : Text) := (pathSegments p).bind (matchSegments r.segments)
  match exact path with
  | some found => some found
  | none => if path.points.getLast? == some 10 then exact ⟨path.points.dropLast⟩ else none

/-- Whether a route's pattern matches a path, whatever the method. -/
def Route.fits (r : Route) (path : Text) : Bool := (r.matchPath path).isSome

/-- Where a request goes. -/
inductive Routing where
  /-- to an endpoint, with the node id of the path if its route has one -/
  | found (endpoint : Endpoint) (nodeId : Option Text)
  /-- a route's path matches but not its method; these are that route's methods -/
  | wrongMethod (allowed : List String)
  /-- to the same request at another path -/
  | redirect (path : Text)
  | notFound
  deriving Inhabited

/-- The path with its trailing slashes removed, or with one added when it has none. -/
def slashVariant (path : Text) : Text :=
  if path.points.getLast? == some 47 then ⟨(path.points.reverse.dropWhile (· == 47)).reverse⟩
  else path ++ Text.ofString "/"

/-- Where a request with this method and path goes. -/
def route (method : Text) (path : Text) : Routing :=
  let full := routes.findSome? fun r =>
    if r.methods.any (fun m => Text.ofString m == method) then
      (r.matchPath path).map fun nodeId => (r.endpoint, nodeId)
    else none
  match full with
  | some (endpoint, nodeId) => .found endpoint nodeId
  | none =>
    match routes.find? (·.fits path) with
    | some r => .wrongMethod r.methods
    | none =>
      let other := slashVariant path
      if path != Text.ofString "/" && routes.any (·.fits other) then .redirect other
      else .notFound

end Http

end Arbor
