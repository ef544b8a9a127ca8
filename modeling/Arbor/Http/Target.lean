import Arbor.Text.Utf8

/-!
# Request targets

A client names what it asks for with a URL such as `/api/tree?page=2`, and sends for it a
`Target`: the path, still escaped and without the dot segments `.` and `..`, and the query after
`?`.

The `%XX` escapes of the path are decoded as UTF-8 (`decodeEscapes`), an invalid sequence giving
U+FFFD, but those of `?` and `#` are kept; this happens twice, once on each side, so that
`%2531` reaches the server as `1` (`Target.serverPath`). The query is a list of `name=value`
pairs separated by `&`; a `+` in it stands for a blank, and a pair without `=` has the empty
value; all its escapes are decoded.
-/

set_option autoImplicit false

namespace Arbor

namespace Http

/-- An ASCII letter. -/
def isAsciiLetter (c : Nat) : Bool := (65 ≤ c && c ≤ 90) || (97 ≤ c && c ≤ 122)

/-- A code point that may follow the first letter of a scheme. -/
def isSchemePoint (c : Nat) : Bool :=
  isAsciiLetter c || (48 ≤ c && c ≤ 57) || c == 43 || c == 45 || c == 46

/-- The value of a hexadecimal digit. -/
def hexDigit? (c : Nat) : Option Nat :=
  if 48 ≤ c && c ≤ 57 then some (c - 48)
  else if 65 ≤ c && c ≤ 70 then some (c - 55)
  else if 97 ≤ c && c ≤ 102 then some (c - 87)
  else none

/-- The bytes of a text whose `%XX` escapes stand for single bytes; other code points stand for
their UTF-8 bytes. -/
def escapedBytes (kept : Nat → Bool) : List Nat → List Nat
  | [] => []
  | 37 :: h :: l :: rest =>
    match hexDigit? h, hexDigit? l with
    | some a, some b =>
      if kept (a * 16 + b) then 37 :: h :: l :: escapedBytes kept rest
      else (a * 16 + b) :: escapedBytes kept rest
    | _, _ => 37 :: escapedBytes kept (h :: l :: rest)
  | c :: rest => Utf8.encode c ++ escapedBytes kept rest

/-- A text with its `%XX` escapes decoded as UTF-8, except the escapes of the bytes in `kept`,
which stay as they are. -/
def decodeEscapes (kept : Nat → Bool) (t : Text) : Text :=
  ⟨Utf8.decode (escapedBytes kept t.points)⟩

/-- A text with all its `%XX` escapes decoded as UTF-8. -/
def decodePercent (t : Text) : Text := decodeEscapes (fun _ => false) t

/-- The segments of a path with `.` dropped and each `..` removing the segment before it; the
empty segment in front of a leading `/` is never removed. -/
def dropDotSegments (segments : List Text) : List Text :=
  (segments.foldl (fun out s =>
    if s == Text.ofString "." then out
    else if s == Text.ofString ".." then
      (match out with
        | [] => []
        | [x] => if x.isEmpty then [x] else []
        | _ :: rest => rest)
    else s :: out) []).reverse

/-- The text before the first `c` and, when there is one, the text after it. -/
def cutAt (t : Text) (c : Nat) : Text × Option Text :=
  match t.points.span (· != c) with
  | (before, _ :: after) => (⟨before⟩, some ⟨after⟩)
  | (before, []) => (⟨before⟩, none)

/-- The pieces of `segments` joined by `/`. -/
def joinSlash : List Text → Text
  | [] => Text.empty
  | [s] => s
  | s :: rest => s ++ Text.ofString "/" ++ joinSlash rest

/-- A path without its dot segments; the empty path becomes `/`. -/
def normalizePath (path : Text) : Text :=
  let p := joinSlash (dropDotSegments (path.splitOn 47))
  if p.isEmpty then Text.ofString "/" else p

/-- What a client sends for a URL: the path, still escaped, and the query text after `?`. -/
structure Target where
  path : Text
  query : Option Text
  deriving Inhabited

/-- The escapes of a path decoded, but those of `?` and `#`, which would otherwise end it. -/
def decodePathEscapes (path : Text) : Text := decodeEscapes (fun b => b == 63 || b == 35) path

/-- The path the server routes: the escapes decoded twice over, once by the client and once by
the server, so that `%2531` is `1`; the escapes of `?` and `#` stay. -/
def Target.serverPath (t : Target) : Text := decodePathEscapes (decodePathEscapes t.path)

/-- The path of the address the server rebuilds for a request to `path`: tabs and line breaks
are removed, and what follows a `?` or a `#` is not path. -/
def addressPath (path : Text) : Text :=
  ⟨(path.points.filter fun c => c != 9 && c != 10 && c != 13).takeWhile
    fun c => c != 63 && c != 35⟩

/-- A query component decoded: `+` is a blank, then `%XX` escapes. -/
def decodeQueryPart (t : Text) : Text :=
  decodePercent ⟨t.points.map fun c => if c == 43 then 32 else c⟩

/-- The `name=value` pairs of a query text, in order. -/
def queryPairs (query : Text) : List (Text × Text) :=
  (query.splitOn 38).filterMap fun piece =>
    if piece.isEmpty then none
    else
      let (name, value) := cutAt piece 61
      some (decodeQueryPart name, decodeQueryPart (value.getD Text.empty))

/-- A byte as the escape `%XX`, in upper-case hexadecimal. -/
def percentByte (b : Nat) : List Nat :=
  let hex := fun (d : Nat) => if d < 10 then 48 + d else 55 + d
  [37, hex (b / 16), hex (b % 16)]

/-- A code point that is never escaped: an ASCII letter or digit, or one of `_.-~`. -/
def isUnreserved (c : Nat) : Bool := isSchemePoint c && c != 43 || c == 95 || c == 126

/-- A byte of a form as written: ASCII letters, digits and `_.-~` as they are, a blank as `+`,
any other byte as `%XX`. -/
def formByte (b : Nat) : List Nat :=
  if isUnreserved b then [b]
  else if b == 32 then [43]
  else percentByte b

/-- A query written from parameters as a form: each name and value as its UTF-8 bytes
(`formByte`), name and value joined by `=` and the pairs by `&`. -/
def formQuery (params : List (Text × Text)) : Text :=
  let part := fun (t : Text) => t.points.flatMap fun c => (Utf8.encode c).flatMap formByte
  ⟨List.intercalate [38] (params.map fun (name, value) => part name ++ [61] ++ part value)⟩

/-- A URL with its query replaced by `query`, or dropped for none; the fragment stays. -/
def replaceQuery (url : Text) (query : Option Text) : Text :=
  let (before, fragment) := cutAt url 35
  let base := (cutAt before 63).1
  let withQuery := match query with
    | some q => base ++ Text.ofString "?" ++ q
    | none => base
  match fragment with
  | some f => withQuery ++ Text.ofString "#" ++ f
  | none => withQuery

/-- The query pairs a target carries. -/
def Target.pairs (t : Target) : List (Text × Text) :=
  match t.query with
  | some q => queryPairs q
  | none => []

/-- The target of a redirection to `path` on the server that answered, keeping the query:
the path is sent as it stands up to a `?` or a `#` in it, without its dot segments. -/
def Target.redirect (path : Text) (query : Option Text) : Target :=
  let url := match query with
    | some q => if q.isEmpty then path else path ++ Text.ofString "?" ++ q
    | none => path
  let (path, query) := cutAt (cutAt url 35).1 63
  ⟨normalizePath path, query⟩

end Http

end Arbor
