import Arbor.Http.Message

/-!
# Header policies

Two policies add headers to the API's responses.

**Security headers.** Every response the routes give gets a content security policy (a looser
one on the two documentation pages, which run scripts and styles from a content network),
`x-frame-options: DENY`, `x-content-type-options: nosniff` and `cache-control: no-store`. A
production deployment adds strict transport security and sends no referrer; otherwise the
referrer policy is `strict-origin-when-cross-origin`.

**Cross-origin requests.** Browsers may call the API from a few allowed origins, with
credentials. A preflight request — `OPTIONS` with an `Origin` and an
`Access-Control-Request-Method` header — is answered by the policy itself, before any route:
`OK`, or `Disallowed CORS ` followed by what failed (`origin`, `method`, and `private-network`
whenever the request asks for access to a private network, which is never allowed), with the allowed
methods, the credentials flag, a cache age of an hour, and the origin repeated back when it is
allowed. Every other response varies on `Origin`; when the request names an origin it also
allows credentials, and repeats the origin back when it is allowed.
-/

set_option autoImplicit false

namespace Arbor

namespace Http

/-- The content security policy of the documentation pages. -/
def docsContentPolicy : String :=
  "default-src 'self'; script-src 'self' 'unsafe-inline' https://cdn.jsdelivr.net; " ++
    "style-src 'self' 'unsafe-inline' https://cdn.jsdelivr.net; img-src 'self' data: https:; " ++
    "frame-ancestors 'none'"

/-- The content security policy of every other response. -/
def apiContentPolicy : String :=
  "default-src 'none'; frame-ancestors 'none'; base-uri 'none'; form-action 'none'"

/-- A response with the security headers for a request to `path`. -/
def secure (production : Bool) (path : Text) (r : Response) : Response :=
  let docs := path == Text.ofString "/docs" || path == Text.ofString "/redoc"
  let r := r.setHeader "content-security-policy"
    (Text.ofString (if docs then docsContentPolicy else apiContentPolicy))
  let r := r.setHeader "x-frame-options" "DENY"
  let r := r.setHeader "x-content-type-options" "nosniff"
  let r := r.setHeader "cache-control" "no-store"
  if production then
    let r := r.setHeader "strict-transport-security" "max-age=31536000; includeSubDomains; preload"
    r.setHeader "referrer-policy" "no-referrer"
  else r.setHeader "referrer-policy" "strict-origin-when-cross-origin"

/-- Who may call the API from a browser, and how. -/
structure CrossOrigin where
  /-- the origins allowed, compared exactly -/
  origins : List Text
  /-- the methods a preflight may ask for, in the order announced -/
  methods : List String
  /-- how many seconds a browser may keep a preflight answer -/
  maxAge : Nat
  deriving Inhabited

/-- The cross-origin policy of the API. -/
def CrossOrigin.standard : CrossOrigin :=
  { origins := ["http://localhost:3000", "http://127.0.0.1:3000"],
    methods := ["GET", "POST", "PUT", "DELETE", "OPTIONS"],
    maxAge := 3600 }

/-- The pieces of `xs` with `, ` between each two. -/
def commaList : List String → String
  | [] => ""
  | [x] => x
  | x :: xs => x ++ ", " ++ commaList xs

/-- Whether a request is a preflight: `OPTIONS` with an origin and a requested method. -/
def isPreflight (req : Request) : Bool :=
  req.method == Text.ofString "OPTIONS" && (req.header? "origin").isSome &&
    (req.header? "access-control-request-method").isSome

/-- The answer to a preflight request. -/
def CrossOrigin.preflight (p : CrossOrigin) (req : Request) : Response :=
  let origin := (req.header? "origin").getD Text.empty
  let method := (req.header? "access-control-request-method").getD Text.empty
  let originOk := p.origins.contains origin
  let methodOk := p.methods.any fun m => Text.ofString m == method
  let privateNetwork := (req.header? "access-control-request-private-network").isSome
  let failures := (if originOk then [] else ["origin"]) ++ (if methodOk then [] else ["method"]) ++
    (if privateNetwork then ["private-network"] else [])
  let content : Content :=
    if failures.isEmpty then .plain "OK"
    else .plain (Text.ofString ("Disallowed CORS " ++ commaList failures))
  let r := Response.make (if failures.isEmpty then 200 else 400) content
  let r := r.setHeader "vary" ("Origin, Access-Control-Request-Method, " ++
    "Access-Control-Request-Headers, Access-Control-Request-Private-Network")
  let r := r.setHeader "access-control-allow-methods" (Text.ofString (commaList p.methods))
  let r := r.setHeader "access-control-max-age" (Text.ofInt p.maxAge)
  let r := r.setHeader "access-control-allow-credentials" "true"
  let r := if originOk then r.setHeader "access-control-allow-origin" origin else r
  match req.header? "access-control-request-headers" with
  | some asked => r.setHeader "access-control-allow-headers" asked
  | none => r

/-- A response with `Origin` added to the headers it varies on. -/
def varyOnOrigin (r : Response) : Response :=
  match r.header? "vary" with
  | some v => r.setHeader "vary" (v ++ Text.ofString ", Origin")
  | none => r.setHeader "vary" "Origin"

/-- A response to a request that is not a preflight, with the cross-origin headers. -/
def CrossOrigin.simple (p : CrossOrigin) (req : Request) (r : Response) : Response :=
  match req.header? "origin" with
  | none => varyOnOrigin r
  | some origin =>
    let r := r.setHeader "access-control-allow-credentials" "true"
    let r :=
      if p.origins.contains origin then r.setHeader "access-control-allow-origin" origin else r
    varyOnOrigin r

end Http

end Arbor
