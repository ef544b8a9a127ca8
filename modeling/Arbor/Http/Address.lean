import Arbor.Fault
import Arbor.Http.Target
import Arbor.Http.Url
import Arbor.Config.Address
import Arbor.Idna.Label
import Arbor.Text.Lowercase
import Arbor.Http.Rules

/-!
# Addresses a client accepts

Before a client sends anything it reads the address it is given, and refuses some
(`addressFault?`), the first broken rule deciding the fault:

1. an address of more than `maxUrlLength` code points;
2. an address holding an ASCII control or DEL, reported with its first position;
3. a lone surrogate in the user part: each code point is written as UTF-8 on its own, so it is
   reported at position 0 of itself;
4. a host that looks like an IPv4 address — four runs of digits separated by points — but is
   none (`validIpv4`), a host in brackets that is no IPv6 address (`validIpv6`), or any other
   host that is not all ASCII and, in lower case, no internationalized host name
   (`Idna.encodeName`);
5. a port that writes no integer (`readNumeral`);
6. an address with neither a scheme nor an authority whose path starts with `//` or `:`
   (`relativePathFault?`);
7. a lone surrogate in the path, the query or the fragment, reported as in the user part.

The parts are those of `UrlParts.ofPoints`.

An absolute address goes out as it is; any other is taken under the server's
root. The client then only serves the schemes `http` and `https` in any letter case: `ws` and
`wss` ask for a websocket, and any other scheme is unknown (`transportFault?`). It reads the
port back from the host and port as sent (`netloc`) by cutting at the first `:`, which an IPv6
host in brackets holds itself, so such a host is refused. This is checked last, once the whole
request is written.

These checks, with the targets the client sends and the framework's handling of hosts and
redirects, are the decisions about addresses the API is tested with (`AddressRules.standard`).
-/

set_option autoImplicit false

namespace Arbor

namespace Http

/-- The most code points an address may have. -/
def maxUrlLength : Nat := 65536

/-- An ASCII control or DEL: no printable code point. -/
def isAsciiControl (c : Nat) : Bool := c < 32 || c == 127

/-- An ASCII decimal digit. -/
def isDecimal (c : Nat) : Bool := 48 ≤ c && c ≤ 57

/-- An ASCII hexadecimal digit. -/
def isHexDigit (c : Nat) : Bool := (hexDigit? c).isSome

/-- Whether a host looks like an IPv4 address: four nonempty runs of digits separated by
points. -/
def ipv4Shape (host : List Nat) : Bool :=
  let parts := (Text.mk host).splitOn 46
  parts.length == 4 && parts.all fun p => !p.isEmpty && p.points.all isDecimal

/-- Whether a text is one part of an IPv4 address: one to three digits, no leading zero unless
it is `0`, at most 255. -/
def validOctet (s : List Nat) : Bool :=
  !s.isEmpty && s.all isDecimal && s.length ≤ 3 && (s == [48] || s.head? != some 48) &&
    s.foldl (fun v c => v * 10 + (c - 48)) 0 ≤ 255

/-- Whether a text is an IPv4 address: four parts separated by points. -/
def validIpv4 (s : List Nat) : Bool :=
  let parts := (Text.mk s).splitOn 46
  parts.length == 4 && parts.all fun p => validOctet p.points

/-- Whether a text is one group of an IPv6 address: one to four hexadecimal digits. -/
def validHextet (s : List Nat) : Bool := !s.isEmpty && s.all isHexDigit && s.length ≤ 4

/-- Whether the groups of an IPv6 address, split at `:` and with an IPv4 ending already taken as
two groups, are well formed: eight groups, or fewer around one empty group in the middle that
stands for at least one zero group. An empty first or last group is only allowed next to it. -/
def validHextets (parts : List (List Nat)) : Bool :=
  let n := parts.length
  let inner := (parts.drop 1).take (n - 2)
  let gaps := (inner.zipIdx.filter fun (p, _) => p.isEmpty).map fun (_, i) => i + 1
  match gaps with
  | [] =>
    n == 8 && parts.all validHextet
  | [gap] =>
    let hi := if (parts.head?.getD []).isEmpty then gap - 1 else gap
    let lo := if (parts.getLast?.getD []).isEmpty then n - gap - 2 else n - gap - 1
    let hiOk := !(parts.head?.getD []).isEmpty || gap == 1
    let loOk := !(parts.getLast?.getD []).isEmpty || n - gap - 1 == 1
    hiOk && loOk && hi + lo < 8 &&
      ((parts.take hi).all validHextet) && ((parts.drop (n - lo)).all validHextet)
  | _ => false

/-- Whether a text is an IPv6 address, with an optional zone after `%`. -/
def validIpv6 (s : List Nat) : Bool :=
  let addr := s.takeWhile (· != 37)
  let zone := s.drop addr.length
  let zoneOk := match zone with
    | [] => true
    | _ :: z => !z.isEmpty && !z.contains 37
  let parts := ((Text.mk addr).splitOn 58).map Text.points
  if s.contains 47 || !zoneOk || addr.isEmpty || parts.length < 3 then false
  else
    let last := parts.getLast?.getD []
    let parts :=
      if last.contains 46 then
        if validIpv4 last then some (parts.dropLast ++ [[48], [48]]) else none
      else some parts
    match parts with
    | none => false
    | some parts => parts.length ≤ 9 && validHextets parts

/-- Why a client refuses a host, if it does. -/
def hostFault? (host : List Nat) : Option Fault :=
  let shown := fun (kind : String) =>
    Fault.invalidUrl (Text.ofString ("Invalid " ++ kind ++ " address: ") ++ (Text.mk host).quoted)
  if ipv4Shape host then
    if validIpv4 host then none else some (shown "IPv4")
  else
    let bracketed := match host with
      | 91 :: inner@(_ :: _) => inner.getLast? == some 93
      | _ => false
    if bracketed then
      if validIpv6 (host.drop 1).dropLast then none else some (shown "IPv6")
    else if host.all (· < 128) then none
    else if (Idna.encodeName (Text.lower ⟨host⟩).points).isSome then none
    else some (.invalidUrl (Text.ofString "Invalid IDNA hostname: " ++ (Text.mk host).quoted))

/-- Why a client refuses a port, if it does: the port must write an integer. -/
def portFault? (port : List Nat) : Option Fault :=
  if port.isEmpty then none
  else
    match readNumeral ⟨port⟩ with
    | .ok _ => none
    | .error _ =>
      some (.invalidUrl (Text.ofString "Invalid port: " ++ (Text.mk port).quoted))

/-- The fault of the first lone surrogate in a part, written as UTF-8 code point by code point. -/
def surrogateFault? (part : List Nat) : Option Fault :=
  (part.find? Utf8.isSurrogate).map fun c => .notEncodable .utf8 c 0 1

/-- Why a client refuses the path of an address with neither a scheme nor an authority, if
it does: such a path may not start with `//` or `:`, which would read as an authority or a
scheme. -/
def relativePathFault? (parts : UrlParts) : Option Fault :=
  let refuse := fun (start : String) =>
    some (.invalidUrl (Text.ofString ("Relative URLs cannot have a path starting with '" ++ start ++
      "'")))
  if !parts.scheme.isEmpty || parts.hasAuthority then none
  else
    match parts.path with
    | 47 :: 47 :: _ => refuse "//"
    | 58 :: _ => refuse ":"
    | _ => none

/-- Why a client refuses an address before it writes the request, if it does. -/
def addressFault? (url : Text) : Option Fault :=
  let s := url.points
  if s.length > maxUrlLength then some (.invalidUrl (Text.ofString "URL too long"))
  else
    match s.findIdx? isAsciiControl with
    | some i =>
      some (.invalidUrl (Text.ofString "Invalid non-printable ASCII character in URL, " ++
        (Text.mk [s.getD i 0]).quoted ++ Text.ofString (" at position " ++ toString i ++ ".")))
    | none =>
      let parts := UrlParts.ofPoints s
      (surrogateFault? parts.user).or <| (hostFault? parts.host).or <|
        (portFault? parts.portText).or <| (relativePathFault? parts).or <|
        (surrogateFault? parts.path).or <| (parts.query.bind surrogateFault?).or <|
        parts.fragment.bind surrogateFault?

/-- The host and port of an address as the client sends them: the host, the port after `:`
unless it is none or the scheme's own. -/
def netloc (scheme : String) (host port : List Nat) : List Nat :=
  let portText := match readNumeral ⟨port⟩ with
    | .ok n =>
      if port.isEmpty || defaultPort? scheme == some n then []
      else 58 :: (toString n).toList.map Char.toNat
    | .error _ => []
  host ++ portText

/-- Why a client cannot deliver a request to an address it accepted, if it cannot: an address
with a scheme and a host must name `http` or `https`, and the port must read back from the host
and port as sent. -/
def transportFault? (url : Text) : Option Fault :=
  let parts := UrlParts.ofPoints url.points
  let (_, host, port) := splitAuthority parts.authority
  let scheme := (Text.asciiLower ⟨parts.scheme⟩).toString
  if parts.scheme.isEmpty || host.isEmpty then none
  else if scheme == "ws" || scheme == "wss" then some .upgradeRequested
  else if scheme != "http" && scheme != "https" then some (.missingKey (Text.ofString scheme))
  else
    let sent := netloc scheme host port
    match sent.span (· != 58) with
    | (_, 58 :: rest) =>
      match readNumeral ⟨rest⟩ with
      | .ok _ => none
      | .error _ =>
        some (.library "ValueError"
          (Text.ofString "invalid literal for int() with base 10: " ++ (Text.mk rest).quoted))
    | _ => none

/-- The delimiters a server leaves as they are when it writes an address it redirects to. -/
def locationDelimiters : List Nat := (":/%#?=@[]!$&'()*+,;").toList.map Char.toNat

/-- The address a server redirects a request to: `scheme`, the host `host` the request named,
the new path and the query of the request, each code point that is neither unreserved nor a
delimiter written as the `%XX` escapes of its UTF-8 bytes. -/
def redirectLocation (scheme host path : Text) (query : Option Text) : Text :=
  let url := scheme ++ Text.ofString "://" ++ host ++ path ++
    match query with
    | some q => if q.isEmpty then Text.empty else Text.ofString "?" ++ q
    | none => Text.empty
  ⟨url.points.flatMap fun c =>
    if isUnreserved c || locationDelimiters.contains c then [c]
    else (Utf8.encode c).flatMap percentByte⟩

/-- Whether a server can read the address of a request that names the host `host`: in the
host, up to a `/`, `?` or `#`, brackets come in pairs, and a bracketed host is an IPv6 address
or a well-formed future address (`Address.checkBracketedLocation`). A server that cannot
answers as if the request named no host. -/
def readsHost (host : List Nat) : Bool :=
  let netloc := host.takeWhile fun c => c != 47 && c != 63 && c != 35
  if netloc.contains 91 != netloc.contains 93 then false
  else if netloc.contains 91 then
    match Address.checkBracketedLocation netloc with
    | .ok _ => true
    | .error _ => false
  else true

/-- The scheme a request reaches the server with: that of an absolute address, in lower case,
or `http`. -/
def requestScheme (url : Text) : Text :=
  let parts := UrlParts.ofPoints url.points
  if parts.isAbsolute then Text.asciiLower ⟨parts.scheme⟩ else Text.ofString "http"

/-- The decisions of the client and the framework the API is tested with: the address checks of
`addressFault?` and `transportFault?`, the targets of `Target.ofUrl`, and the framework's
reading of hosts and writing of redirect addresses. -/
def AddressRules.standard : AddressRules where
  refusal? := Http.addressFault?
  transportFault? := Http.transportFault?
  target := Target.ofUrl
  readsHost := Http.readsHost
  redirectLocation := Http.redirectLocation
  requestScheme := Http.requestScheme

example : (addressFault? (Text.ofString "http://x:abc/health")).map Fault.message =
    some (Text.ofString "Invalid port: 'abc'") := by decide +kernel

example : validIpv6 (Text.ofString "::1").points = true ∧
    validIpv6 (Text.ofString "1:2:3:4:5:6:7:8:9").points = false ∧
    validIpv4 (Text.ofString "10.0.0.255").points = true := by decide +kernel

end Http

end Arbor
