import Arbor.Text.Quoted
import Arbor.Fault

/-!
# Database addresses

The production rules look at two parts of the database address: its scheme and its host.
`Address.split` takes an address apart as the service's URL reader does:

* leading control characters and spaces are dropped, and tabs and line breaks removed anywhere;
* the scheme is the part before the first `:` when it starts with an ASCII letter and holds only
  ASCII letters, digits, `+`, `-` and `.`; it is lowered;
* after the scheme, `//` starts the network location, which runs to the first `/`, `?` or `#`;
* the host is the network location after its last `@`: inside brackets when it has a `[`, else
  up to the first `:`; an empty host is none.

A bracket without its partner is refused, and so is a bracketed location with text before the
bracket or between the bracket and the port, or whose host is no IPv6 address (an IPv4 address
in brackets is refused too). `isIpv4` and `isIpv6` are the address grammars used there. Last, a
location is refused when one of its code points normalises to a delimiter
(`delimiterLookalikes`), such as the fullwidth `＠`.
-/

set_option autoImplicit false

namespace Arbor

namespace Address

/-- The part before the first `c` and the part after it, or `none` without a `c`. -/
def splitFirst (t : List Nat) (c : Nat) : Option (List Nat × List Nat) :=
  match t.findIdx? (· == c) with
  | some i => some (t.take i, t.drop (i + 1))
  | none => none

/-- The part after the last `c`, or all of `t` without a `c`. -/
def afterLast (t : List Nat) (c : Nat) : List Nat :=
  (t.reverse.takeWhile (· != c)).reverse

/-- The part before the first `c`, or all of `t` without a `c`. -/
def beforeFirst (t : List Nat) (c : Nat) : List Nat := t.takeWhile (· != c)

/-- ASCII letters lowered. -/
def lower (t : List Nat) : List Nat := t.map fun c => if 65 ≤ c ∧ c ≤ 90 then c + 32 else c

/-- An ASCII letter. -/
def isLetter (c : Nat) : Bool := (65 ≤ c && c ≤ 90) || (97 ≤ c && c ≤ 122)

/-- An ASCII digit. -/
def isDigit (c : Nat) : Bool := 48 ≤ c && c ≤ 57

/-- A hexadecimal digit. -/
def isHex (c : Nat) : Bool := isDigit c || (65 ≤ c && c ≤ 70) || (97 ≤ c && c ≤ 102)

/-- A code point allowed in a scheme. -/
def isSchemePoint (c : Nat) : Bool := isLetter c || isDigit c || c == 43 || c == 45 || c == 46

/-- A dotted IPv4 address: four decimal parts of one to three digits, each at most 255, without
leading zeros. -/
def isIpv4 (t : List Nat) : Bool :=
  let parts := t.splitOn 46
  parts.length == 4 && parts.all fun p =>
    !p.isEmpty && p.length ≤ 3 && p.all isDigit &&
      p.foldl (fun acc c => acc * 10 + (c - 48)) 0 ≤ 255 &&
      !(p.length > 1 && p.head? == some 48)

/-- A group of one to four hexadecimal digits. -/
def isHextet (p : List Nat) : Bool := !p.isEmpty && p.length ≤ 4 && p.all isHex

/-- The groups of an IPv6 address between its colons form a valid address: eight groups, or at
most seven with exactly one empty inner group (a `::`) standing for the rest; an empty first or
last group is allowed only as part of that `::`. -/
def groupsValid (parts : List (List Nat)) : Bool :=
  let n := parts.length
  let firstEmpty := (parts.headD []).isEmpty
  let lastEmpty := (parts.getLastD []).isEmpty
  let inner := (List.range n).filter fun i => 0 < i && i + 1 < n && (parts.getD i []).isEmpty
  match inner with
  | [] => n == 8 && parts.all isHextet
  | [skip] =>
    let hi := if firstEmpty then skip - 1 else skip
    let lo := if lastEmpty then n - skip - 2 else n - skip - 1
    (!firstEmpty || skip == 1) && (!lastEmpty || n == skip + 2) && hi + lo < 8 &&
      (parts.take hi).all isHextet && (parts.drop (n - lo)).all isHextet
  | _ => false

/-- An IPv6 address: groups of hexadecimal digits between colons, the last two of which may be
written as an IPv4 address, and an optional zone after a `%`. -/
def isIpv6 (t : List Nat) : Bool :=
  let (addr, zoneOk) := match splitFirst t 37 with
    | some (a, zone) => (a, !zone.isEmpty && !zone.contains 37)
    | none => (t, true)
  let parts := addr.splitOn 58
  if !zoneOk || addr.isEmpty || parts.length < 3 then false else
  let lastPart := parts.getLastD []
  if lastPart.contains 46 then
    isIpv4 lastPart && parts.length + 1 ≤ 9 && groupsValid (parts.dropLast ++ [[48], [48]])
  else parts.length ≤ 9 && groupsValid parts

/-- Why a bracketed host is refused, if it is. -/
def checkBracketedHost (host : List Nat) : Except Fault Unit :=
  if host.head? == some 118 then
    -- `v`, hexadecimal digits, a dot and at least one more code point
    match splitFirst (host.drop 1) 46 with
    | some (hex, rest) =>
      if !hex.isEmpty && hex.all isHex && !rest.isEmpty && !rest.contains 10 then .ok ()
      else .error (.invalidAddress "IPvFuture address is invalid")
    | none => .error (.invalidAddress "IPvFuture address is invalid")
  else if isIpv4 host then .error (.invalidAddress "An IPv4 address cannot be in brackets")
  else if isIpv6 host then .ok ()
  else .error (.invalidAddress ((Text.mk host).quoted ++
    Text.ofString " does not appear to be an IPv4 or IPv6 address"))

/-- The code points whose compatibility decomposition holds one of `/`, `?`, `#`, `@` and `:`,
as of Unicode 14.0: a host name written with one of them would name another host once
normalised. -/
def delimiterLookalikes : List Nat :=
  [0x2047, 0x2048, 0x2049, 0x2100, 0x2101, 0x2105, 0x2106, 0x2A74, 0xFE13, 0xFE16, 0xFE55,
   0xFE56, 0xFE5F, 0xFE6B, 0xFF03, 0xFF0F, 0xFF1A, 0xFF1F, 0xFF20]

/-- Why a network location is refused for a code point that normalises to a delimiter. -/
def checkNormalForm (netloc : List Nat) : Except Fault Unit :=
  if netloc.any delimiterLookalikes.contains then
    .error (.invalidAddress (Text.ofString "netloc '" ++ ⟨netloc⟩ ++
      Text.ofString "' contains invalid characters under NFKC normalization"))
  else .ok ()

/-- Why a network location with brackets is refused, if it is. -/
def checkBracketedLocation (netloc : List Nat) : Except Fault Unit :=
  let hostAndPort := afterLast netloc 64
  match splitFirst hostAndPort 91 with
  | some (before, bracketed) =>
    if !before.isEmpty then .error (.invalidAddress "Invalid IPv6 URL") else
    let host := beforeFirst bracketed 93
    let port := match splitFirst bracketed 93 with
      | some (_, p) => p
      | none => []
    if !port.isEmpty && port.head? != some 58 then .error (.invalidAddress "Invalid IPv6 URL")
    else checkBracketedHost host
  | none => checkBracketedHost (beforeFirst hostAndPort 58)

end Address

/-- The parts of a database address that the production rules look at. -/
structure Address where
  /-- the scheme, lowered; empty when there is none -/
  scheme : List Nat
  /-- the network location; empty when there is none -/
  netloc : List Nat

namespace Address

/-- Take an address apart. -/
def split (url : Text) : Except Fault Address :=
  let t := (url.points.dropWhile (· ≤ 32)).filter fun c => c != 9 && c != 10 && c != 13
  let (scheme, rest) :=
    match splitFirst t 58 with
    | some (s, r) =>
      if !s.isEmpty && (s.head?.map isLetter).getD false && s.all isSchemePoint then (lower s, r)
      else ([], t)
    | none => ([], t)
  if rest.take 2 != [47, 47] then .ok ⟨scheme, []⟩ else
  let netloc := (rest.drop 2).takeWhile fun c => c != 47 && c != 63 && c != 35
  let hasOpen := netloc.contains 91
  let hasClose := netloc.contains 93
  if hasOpen != hasClose then .error (.invalidAddress "Invalid IPv6 URL")
  else do
    if hasOpen then checkBracketedLocation netloc
    checkNormalForm netloc
    pure ⟨scheme, netloc⟩

/-- The host, lowered, or `none` when it is empty. -/
def host? (a : Address) : Option (List Nat) :=
  let info := afterLast a.netloc 64
  let host := match splitFirst info 91 with
    | some (_, bracketed) => beforeFirst bracketed 93
    | none => beforeFirst info 58
  if host.isEmpty then none else some (lower host)

end Address

end Arbor
