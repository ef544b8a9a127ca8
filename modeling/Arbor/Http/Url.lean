import Arbor.Text.Numeral
import Arbor.Http.Target

/-!
# The parts of a URL

A client reads an address by the grammar `scheme:` `//authority` path `?query` `#fragment`, each
part optional (`UrlParts.ofPoints`):

* a scheme is a letter followed by letters, digits, `+`, `-` and `.`, or nothing at all before a
  leading `:`;
* the authority follows `//` and runs to the first `/`, `?` or `#`;
* the path runs to the first `?` or `#`, the query after `?` to the first `#`, and the fragment
  is the rest after `#`.

In the authority the user part runs to the last `@`; a host in brackets runs to the last `]`,
any other host to the first `:`; the port is what follows, after one `:` (`splitAuthority`).

An address *has an authority* (`UrlParts.hasAuthority`) when its user part or its host is not
empty, or it names a port that writes an integer other than its scheme's own, the scheme taken
as written. An address with a scheme and a host is *absolute*; any other is taken relative to
the server the client talks to.

What the client sends for an address (`Target.ofUrl`): everything from `#` on is dropped, an
absolute address keeps its own path, any other is put under the server's root after a single
`/`, the query after `?` is split off, and the dot segments `.` and `..` are removed.
-/

set_option autoImplicit false

namespace Arbor

namespace Http

/-- The scheme a URL starts with and the rest after its `:`; `none` when the URL starts with no
scheme. -/
def splitScheme (s : List Nat) : Option (List Nat × List Nat) :=
  match s with
  | 58 :: rest => some ([], rest)
  | c :: _ =>
    if isAsciiLetter c then
      let name := s.takeWhile isSchemePoint
      match s.drop name.length with
      | 58 :: rest => some (name, rest)
      | _ => none
    else none
  | [] => none

/-- The part of `s` after the last `c`; all of `s` when there is none. -/
def afterLast (c : Nat) (s : List Nat) : List Nat :=
  (s.reverse.takeWhile (· != c)).reverse

/-- The host and the port text of the part of an authority after its user part. -/
def splitHostPort (s : List Nat) : List Nat × List Nat :=
  let (host, rest) :=
    match s with
    | 91 :: _ =>
      if s.contains 93 then
        let after := afterLast 93 s
        (s.take (s.length - after.length), after)
      else (s.takeWhile (· != 58), s.drop (s.takeWhile (· != 58)).length)
    | _ => (s.takeWhile (· != 58), s.drop (s.takeWhile (· != 58)).length)
  match rest with
  | 58 :: port => (host, port)
  | port => (host, port)

/-- The user part, the host and the port text of an authority. -/
def splitAuthority (a : List Nat) : List Nat × List Nat × List Nat :=
  if a.contains 64 then
    let hostPort := afterLast 64 a
    let user := a.take (a.length - hostPort.length - 1)
    let (host, port) := splitHostPort hostPort
    (user, host, port)
  else
    let (host, port) := splitHostPort a
    ([], host, port)

/-- The port a scheme is reached at when an address names none. -/
def defaultPort? : String → Option Int
  | "http" | "ws" => some 80
  | "https" | "wss" => some 443
  | "ftp" => some 21
  | _ => none

/-- The parts of an address, each as written. -/
structure UrlParts where
  scheme : List Nat
  authority : List Nat
  path : List Nat
  query : Option (List Nat)
  fragment : Option (List Nat)

namespace UrlParts

/-- The parts of an address, by the grammar above. -/
def ofPoints (s : List Nat) : UrlParts :=
  let (scheme, rest) := (splitScheme s).getD ([], s)
  let (authority, rest) := match rest with
    | 47 :: 47 :: more =>
      let a := more.takeWhile fun c => c != 47 && c != 63 && c != 35
      (a, more.drop a.length)
    | _ => ([], rest)
  let path := rest.takeWhile fun c => c != 63 && c != 35
  let rest := rest.drop path.length
  let (query, rest) := match rest with
    | 63 :: more =>
      let q := more.takeWhile (· != 35)
      (some q, more.drop q.length)
    | _ => (none, rest)
  let fragment := match rest with
    | 35 :: more => some more
    | _ => none
  ⟨scheme, authority, path, query, fragment⟩

/-- The user part of the authority. -/
def user (u : UrlParts) : List Nat := (splitAuthority u.authority).1

/-- The host of the authority, as written. -/
def host (u : UrlParts) : List Nat := (splitAuthority u.authority).2.1

/-- The port text of the authority. -/
def portText (u : UrlParts) : List Nat := (splitAuthority u.authority).2.2

/-- The port an address names when it writes an integer other than the default port of its
scheme as written. -/
def port? (u : UrlParts) : Option Int :=
  if u.portText.isEmpty then none
  else
    match readNumeral ⟨u.portText⟩ with
    | .ok n => if defaultPort? (Text.mk u.scheme).toString == some n then none else some n
    | .error _ => none

/-- Whether an address has an authority: a user part, a host or a port of its own. -/
def hasAuthority (u : UrlParts) : Bool :=
  !u.user.isEmpty || !u.host.isEmpty || u.port?.isSome

/-- Whether an address is absolute: it has a scheme and a host. -/
def isAbsolute (u : UrlParts) : Bool := !u.scheme.isEmpty && !u.host.isEmpty

end UrlParts

example : (UrlParts.ofPoints (Text.ofString "//:80//health").points).hasAuthority = true ∧
    (UrlParts.ofPoints (Text.ofString "http://:80//health").points).hasAuthority = false := by
  decide +kernel

/-- The target a client sends for a URL. The fragment after `#` is not sent. An absolute URL is
sent to its own path without its dot segments. Any other URL is taken relative to the server's
root: its path loses its dot segments first when it has a scheme or an authority, then its
leading `/` are dropped, it is put after a single `/`, and its dot segments are removed again. -/
def Target.ofUrl (url : Text) : Target :=
  let parts := UrlParts.ofPoints url.points
  let query := parts.query.map Text.mk
  if parts.isAbsolute then ⟨normalizePath ⟨parts.path⟩, query⟩
  else
    let path : Text :=
      if !parts.scheme.isEmpty || parts.hasAuthority then normalizePath ⟨parts.path⟩
      else ⟨parts.path⟩
    ⟨normalizePath ⟨47 :: path.points.dropWhile (· == 47)⟩, query⟩

end Http

end Arbor
