import Arbor.Service.Basic
import Arbor.Proofs.Store.Write

set_option autoImplicit false

/-! # Changes of the store through the service

Creating, updating and deleting a node run a write of the store (`Service.change`) and then
report a success in the log (`Service.logged`). Each write is atomic (`StoreM.Atomic`): it makes
all its checks — that the store can be reached, the label, that the node and a new parent are
stored, that the parent is not below the node, that the backend can write the values — before it
takes an id or writes a node, so a write that fails has written nothing (`Store.createM_atomic`,
`Store.updateM_atomic`, `Store.deleteM_atomic`). The service keeps the store a failed write
leaves, so a change whose write fails leaves the whole service as it was: the stored nodes, the
next id, and the cache with its entries in their order, their pages and expiries, its
time-to-live and its counters (`Service.change_of_atomic`).

A write that succeeds drops the cache: an in-memory cache is left without entries and with
everything else as it was (`Service.change_ok`). Its report in the log can still fail after the
change, for a value too long to write (`Service.logged_eq`); that is the one failure that comes
after the store has changed. The main statement `failed_change_keeps_service` says this of the
three changes, for every store, every in-memory cache and all arguments.
-/

namespace Arbor

/-- What a change of the store makes of the service `sv`, whose cache is the in-memory cache `m`:
a failure of the write leaves `sv` as it was, a success leaves `m` without entries, and a failure
to report the change comes after one or the other. -/
structure Service.ChangeOutcome {α : Type} (sv : Service) (m : MemoryCache) (o : Outcome α) :
    Prop where
  failed : ∀ e, o.1 = .error e → e ≠ .tooManyDigitsToWrite → o.2 = sv
  succeeded : ∀ a, o.1 = .ok a → o.2.cache = .memory { m with entries := [] }
  unreported : o.1 = .error .tooManyDigitsToWrite →
    o.2 = sv ∨ o.2.cache = .memory { m with entries := [] }

namespace Service

variable {α : Type} {sv : Service} {m : MemoryCache} {w : StoreM α}

/-- A write that fails without a trace leaves the service as it was. -/
theorem change_of_atomic (hw : w.Atomic) {e : Fault} {s' : Store}
    (h : w sv.store = .error e s') : sv.change w = (.error e, sv) := by
  have hs : s' = sv.store := hw _ _ _ h
  subst hs
  simp [change, h]

/-- A write that succeeds leaves its store and an in-memory cache without entries. -/
theorem change_ok (hm : sv.cache = .memory m) {a : α} {st : Store} (h : w sv.store = .ok a st) :
    sv.change w =
      (.ok a, { sv with store := st, cache := .memory { m with entries := [] } }) := by
  simp [change, h, clearCache, hm, Cache.invalidate, MemoryCache.invalidate, Except.map]

/-- Reporting an outcome in the log keeps it, or fails a success whose values are too long to
write; either way the service stays as the outcome left it. -/
theorem logged_eq (o : Outcome α) (parts : α → List Json) :
    logged o parts = o ∨
      ∃ a, o.1 = .ok a ∧ logged o parts = (.error .tooManyDigitsToWrite, o.2) := by
  obtain ⟨r, sv'⟩ := o
  cases r with
  | error e => exact .inl rfl
  | ok a =>
    by_cases hw : (parts a).all Json.writable
    · exact .inl (by simp [logged, hw])
    · exact .inr ⟨a, rfl, by simp [logged, hw]⟩

/-- The report in the log leaves the service as the outcome left it. -/
theorem logged_snd (o : Outcome α) (parts : α → List Json) : (logged o parts).2 = o.2 := by
  rcases logged_eq o parts with h | ⟨-, -, h⟩ <;> rw [h]

/-- Whatever an atomic write makes of the store, the service fails without a trace, or drops its
cache and may then fail to report the change. -/
theorem change_outcome (hm : sv.cache = .memory m) (hw : w.Atomic) (parts : α → List Json) :
    sv.ChangeOutcome m (logged (sv.change w) parts) := by
  cases h : w sv.store with
  | error e s' =>
    rw [change_of_atomic hw h]
    exact ⟨fun _ _ _ => rfl, fun _ ha => (by cases ha), fun _ => .inl rfl⟩
  | ok a st =>
    rw [change_ok hm h]
    rcases logged_eq (.ok a, { sv with store := st, cache := .memory { m with entries := [] } })
      parts with hlog | ⟨-, -, hlog⟩
    · rw [hlog]
      exact ⟨fun _ he => (by cases he), fun _ _ => rfl, fun he => by cases he⟩
    · -- the change is made, and only its report fails
      rw [hlog]
      exact ⟨fun _ he hne => absurd (Except.error.inj he).symm hne, fun _ ha => (by cases ha),
        fun _ => .inr rfl⟩

end Service

/-- **A failed change keeps the service; a successful one drops the cache.** Over any store and
any in-memory cache, creating, updating or deleting a node, with any arguments, either fails in
its write and leaves the service exactly as it was (the stored nodes, the next id, the cache's
entries in their order with their pages and expiries, its time-to-live and its counts of hits and
misses), or succeeds and leaves the cache without any entry. Only the report of a change made,
refused for an id too long to write, fails after the store has changed. -/
theorem failed_change_keeps_service (st : Store) (m : MemoryCache) (maxPageSize : Json)
    (label ref : Json) (parent : Option Json) :
    let sv : Service := ⟨st, .memory m, maxPageSize⟩
    sv.ChangeOutcome m (sv.createNode label parent) ∧
      sv.ChangeOutcome m (sv.updateNode ref label parent) ∧
      sv.ChangeOutcome m (sv.deleteNode ref) := by
  intro sv
  exact ⟨Service.change_outcome rfl ((Store.createM_atomic label parent).map _) _,
    Service.change_outcome rfl ((Store.updateM_atomic ref label parent).map _) _,
    Service.change_outcome rfl (Store.deleteM_atomic ref) _⟩

end Arbor
