import Arbor.Json.Key
import Arbor.Sorting

/-!
# A key-value server

The remote cache talks to a key-value server: a table from keys to values, each with the
time-to-live it was written with (the server never expires anything on its own). The cache
writes texts under text keys, but a script may write any value under any key that can be a key
(`Json.hashFault?`), with any time-to-live, and keys are told apart as values are (`Key`).

Any of its commands can be made to fail until the server is healed; a failing command changes
nothing. A failure is set under any value that can be a key, and only one set under the name of a
command concerns it. What the command then raises (`Refusal`) is what the server's client library
makes of the error a script names, which is not modelled here: the script gives it resolved. It
is an error of the server's own family, which the server's clients expect, or any other fault,
which escapes them.

`scan` looks at the keys in the order they were first written, matches each against the prefix
— a key that is no text cannot be matched — and lists the matching ones in code point order,
`count` at a time: the cursor is the number of the batch, and the cursor returned is that of the
next batch, or 0 after the last one. `dump` lists everything in the order of the keys, which may
refuse to be compared (`Sorting.sortBy`).
-/

set_option autoImplicit false

namespace Arbor

/-- The commands of the key-value server. -/
inductive Command where
  | ping
  | get
  | setex
  | scan
  | delete
  | info
  | dbsize
  deriving DecidableEq, Inhabited

/-- The name of a command, as a failure reports it. -/
def Command.name : Command → String
  | .ping => "ping"
  | .get => "get"
  | .setex => "setex"
  | .scan => "scan"
  | .delete => "delete"
  | .info => "info"
  | .dbsize => "dbsize"

/-- How a command fails. -/
inductive Refusal where
  /-- with an error of the server's own family, known by its name -/
  | family (name : Text)
  /-- with any other fault, which the server's clients do not expect -/
  | fault (f : Fault)
  deriving Inhabited

/-- A stored value and the time-to-live it was written with, both as the writer gave them. -/
structure Stored where
  value : Json
  ttl : Json
  deriving Inhabited

/-- The server's state: its keys and the commands that currently fail. -/
structure Server where
  /-- the stored keys, in the order they were first written -/
  entries : List (Key × Stored)
  /-- the failures, each under a key with what the command of that name then raises -/
  failing : List (Key × Refusal)
  deriving Inhabited

namespace Server

/-- A server with no keys and no failures. -/
def empty : Server := ⟨[], []⟩

/-- How command `c` fails, if it does: as the failure set under its name says. -/
def failure? (s : Server) (c : Command) : Option Refusal :=
  s.failing.lookup ⟨.str (Text.ofString c.name)⟩

/-- Run command `c`: its refusal, or `k`. -/
def guard {α : Type} (s : Server) (c : Command) (k : Unit → Except Refusal α) :
    Except Refusal α :=
  match s.failure? c with
  | some r => .error r
  | none => k ()

/-- Set the failure under the key `name`, which replaces the one set there before: the refusal
`r`, or none, so that nothing fails; a name that cannot be a key is refused. -/
def breakCommand (s : Server) (name : Json) (r : Option Refusal) : Except Fault Server :=
  match name.hashFault? with
  | some f => .error f
  | none => .ok { s with failing := r.toList.map (⟨name⟩, ·) ++ s.failing.filter (·.1 != ⟨name⟩) }

/-- Clear every failure. -/
def heal (s : Server) : Server := { s with failing := [] }

/-- Store `value` under `key` with `ttl`: a key already present keeps its place. -/
def store (s : Server) (key : Key) (value ttl : Json) : Server :=
  if s.entries.any (·.1 == key) then
    { s with
      entries := s.entries.map fun kv => if kv.1 == key then (kv.1, ⟨value, ttl⟩) else kv }
  else { s with entries := s.entries ++ [(key, ⟨value, ttl⟩)] }

/-- Write a value of any kind straight under a key of any kind; a key that cannot be a key is
refused. -/
def write (s : Server) (key value ttl : Json) : Except Fault Server :=
  match key.hashFault? with
  | some f => .error f
  | none => .ok (s.store ⟨key⟩ value ttl)

/-- Answer to `ping`. -/
def ping (s : Server) : Except Refusal Unit := s.guard .ping fun _ => .ok ()

/-- Answer to `get key`. -/
def read (s : Server) (key : Text) : Except Refusal (Option Json) :=
  s.guard .get fun _ => .ok ((s.entries.lookup ⟨.str key⟩).map (·.value))

/-- Answer to `setex key ttl value`. -/
def setex (s : Server) (key : Text) (ttl : Int) (value : Text) : Except Refusal Server :=
  s.guard .setex fun _ => .ok (s.store ⟨.str key⟩ (.str value) (.int ttl))

/-- The keys among `keys` that start with `pre`, in the order given; a key that is no text
cannot be matched and is refused. -/
def matching (pre : Text) : List Key → Except Fault (List Text)
  | [] => .ok []
  | ⟨.str t⟩ :: rest => do
    let more ← matching pre rest
    pure (if t.startsWith pre then t :: more else more)
  | ⟨v⟩ :: _ =>
    .error (.library "TypeError"
      (Text.ofString ("expected string or bytes-like object, got '" ++ v.kindName ++ "'")))

/-- Answer to `scan cursor` over the keys with prefix `pre`, `count` to a batch. -/
def scan (s : Server) (cursor : Nat) (pre : Text) (count : Nat) :
    Except Refusal (Nat × List Text) :=
  s.guard .scan fun _ =>
    match matching pre (s.entries.map (·.1)) with
    | .error f => .error (.fault f)
    | .ok found =>
      let keys := found.mergeSort fun a b => !b.before a
      let start := cursor * count
      let next := if start + count < keys.length then cursor + 1 else 0
      .ok (next, (keys.drop start).take count)

/-- Answer to `delete keys`. -/
def remove (s : Server) (keys : List Text) : Except Refusal Server :=
  s.guard .delete fun _ =>
    .ok { s with entries := s.entries.filter fun kv => !keys.any fun k => kv.1 == ⟨.str k⟩ }

/-- Answer to `info`: the memory in use. -/
def info (s : Server) : Except Refusal Text := s.guard .info fun _ => .ok (Text.ofString "1.00M")

/-- Answer to `dbsize`: the number of keys. -/
def dbsize (s : Server) : Except Refusal Nat := s.guard .dbsize fun _ => .ok s.entries.length

/-- Everything the server holds, in the order of the keys. -/
def sortedEntries (s : Server) : Except Fault (List (Key × Stored)) :=
  Sorting.sortBy (fun a b => Json.relate .lt a.1.value b.1.value) s.entries

end Server

end Arbor
