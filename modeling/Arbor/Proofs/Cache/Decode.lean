import Arbor.Cache.Remote
import Arbor.Proofs.Page.Grammar

/-! # When a read of the remote cache fails

A read of the remote cache is meant to degrade to a miss whatever the server holds. It does for
every value that is missing, counts as false or is no text, for every refusal of the server's own
family, for text that is not JSON and for every document with a missing key or a value of the
wrong kind. Three kinds of stored text still fail the read (`DecodeFault`): JSON beyond the
reader's limits, an integer of too many digits or a nesting too deep, and a document that is no
object at all, which the page reader refuses with `AttributeError`. With a page that has no key
(`cacheKey`) and a fault of the client that is not of the server's family, these are the only
ways a read fails (`remote_read_fails_exactly_when`); every other read answers, and it counts a
hit exactly when the stored text reads as a page document (`PageDoc`) and a miss otherwise.
-/

set_option autoImplicit false

namespace Arbor

namespace RemoteCache

/-- How a non-empty stored text fails to decode with the fault `f`: the reader stops at one of its
limits, or the text reads as a document that is no object, reported with the document's kind. -/
def DecodeFault (nesting : Nat) (text : Text) (f : Fault) : Prop :=
  (∃ count pos, Json.readWithin nesting text = .error ⟨.tooManyDigits count, pos⟩ ∧
      f = .tooManyDigits count) ∨
    (∃ inObject pos, Json.readWithin nesting text = .error ⟨.tooDeep inObject, pos⟩ ∧
      f = .nestingTooDeep inObject) ∨
    ∃ doc, Json.readWithin nesting text = .ok doc ∧ (∀ fields, doc ≠ .obj fields) ∧
      f = .notAnObject doc.kindName

variable {σ : Type} (cl : Client σ)

/-- A stored value fails to decode exactly when it is a non-empty text that fails as
`DecodeFault` says. -/
theorem decode_eq_error_iff (c : RemoteCache) (data : Option Json) (f : Fault) :
    c.decode data = .error f ↔
      ∃ text, data = some (.str text) ∧ text.isEmpty = false ∧ DecodeFault c.nesting text f := by
  constructor
  · intro h
    unfold decode at h
    split at h
    · rename_i text
      refine ⟨text, rfl, ?_⟩
      split at h
      · cases h
      · rename_i hne
        refine ⟨by simpa using hne, ?_⟩
        -- the reader's faults other than its two limits, and documents that read, are misses
        split at h
        · rename_i count pos hr
          cases h
          exact .inl ⟨count, pos, hr, rfl⟩
        · rename_i inObject pos hr
          cases h
          exact .inr (.inl ⟨inObject, pos, hr, rfl⟩)
        · cases h
        · rename_i doc hr
          split at h
          · cases h
          · rename_i kind hkind
            cases h
            obtain ⟨hnot, rfl⟩ := (Page.ofJson?_eq_notAnObject_iff doc kind).mp hkind
            exact .inr (.inr ⟨doc, hr, hnot, rfl⟩)
          · cases h
    · cases h
  · rintro ⟨text, rfl, hne, hfault⟩
    simp only [decode, hne, Bool.false_eq_true, ↓reduceIte]
    rcases hfault with ⟨count, pos, hr, rfl⟩ | ⟨inObject, pos, hr, rfl⟩ | ⟨doc, hr, hnot, rfl⟩
    · rw [hr]
    · rw [hr]
    · simp only [hr, (Page.ofJson?_eq_notAnObject_iff doc doc.kindName).mpr ⟨hnot, rfl⟩]

/-- A stored value decodes as a page exactly when it is a non-empty text that reads as a document
the page reader accepts. -/
theorem decode_eq_some_iff (c : RemoteCache) (data : Option Json) (p : Page) :
    c.decode data = .ok (some p) ↔
      ∃ text doc, data = some (.str text) ∧ text.isEmpty = false ∧
        Json.readWithin c.nesting text = .ok doc ∧ Page.ofJson? doc = .ok p := by
  constructor
  · intro h
    unfold decode at h
    split at h
    · rename_i text
      split at h
      · cases h
      · rename_i hne
        split at h
        · cases h
        · cases h
        · cases h
        · rename_i doc hr
          split at h
          · rename_i q hq
            cases h
            exact ⟨text, doc, rfl, by simpa using hne, hr, hq⟩
          · cases h
          · cases h
    · cases h
  · rintro ⟨text, doc, rfl, hne, hr, hp⟩
    simp [decode, hne, hr, hp]

/-- A read fails exactly when the page has no key, the client refuses it with a fault outside the
server's family, or the value it finds fails to decode; the fault is the one reported. -/
theorem get_eq_error_iff (c : RemoteCache) (server : σ) (page pageSize : Json) (f : Fault) :
    c.get cl server page pageSize = .error f ↔
      cacheKey page pageSize = .error f ∨ ∃ key, cacheKey page pageSize = .ok key ∧
        (cl.read server key = .error (.fault f) ∨
          ∃ data, cl.read server key = .ok data ∧ c.decode data = .error f) := by
  unfold get
  cases hk : cacheKey page pageSize with
  | error g => simp [bind, Except.bind]
  | ok key =>
    cases hread : cl.read server key with
    | error r =>
      cases r <;> simp [hread, absorb, bind, Except.bind, pure, Except.pure]
    | ok data =>
      cases hd : c.decode data with
      | error g => simp [hread, absorb, hd, bind, Except.bind]
      | ok r => cases r <;> simp [hread, absorb, hd, bind, Except.bind, pure, Except.pure]

/-- A read that answers changes only the counters: a hit when it finds a page, a miss when it
finds none. -/
theorem get_eq_ok_counts {c c' : RemoteCache} {server : σ} {page pageSize : Json}
    {r : Option Page} (h : c.get cl server page pageSize = .ok (r, c')) :
    (∃ p, r = some p ∧ c' = { c with hits := c.hits + 1 }) ∨
      (r = none ∧ c' = { c with misses := c.misses + 1 }) := by
  unfold get at h
  cases hk : cacheKey page pageSize with
  | error g => simp [hk, bind, Except.bind] at h
  | ok key =>
  cases hread : cl.read server key with
  | error refusal =>
    cases refusal with
    | family e =>
      simp only [hk, hread, absorb, bind, Except.bind, pure, Except.pure, Except.ok.injEq,
        Prod.mk.injEq] at h
      obtain ⟨rfl, rfl⟩ := h
      exact .inr ⟨rfl, rfl⟩
    | fault g => simp [hk, hread, absorb, bind, Except.bind] at h
  | ok data =>
    cases hd : c.decode data with
    | error g => simp [hk, hread, absorb, hd, bind, Except.bind] at h
    | ok found =>
      simp only [hk, hread, absorb, hd, bind, Except.bind, pure, Except.pure] at h
      cases found with
      | none =>
        obtain ⟨rfl, rfl⟩ := Prod.mk.inj (Except.ok.inj h)
        exact .inr ⟨rfl, rfl⟩
      | some p =>
        obtain ⟨rfl, rfl⟩ := Prod.mk.inj (Except.ok.inj h)
        exact .inl ⟨p, rfl, rfl⟩

/-- A read finds a page exactly when the value it finds decodes as that page; it then counts a
hit. -/
theorem get_eq_hit_iff (c : RemoteCache) (server : σ) (page pageSize : Json) (p : Page)
    (c' : RemoteCache) :
    c.get cl server page pageSize = .ok (some p, c') ↔
      (∃ key data, cacheKey page pageSize = .ok key ∧ cl.read server key = .ok data ∧
        c.decode data = .ok (some p)) ∧ c' = { c with hits := c.hits + 1 } := by
  unfold get
  cases hk : cacheKey page pageSize with
  | error g => simp [bind, Except.bind]
  | ok key =>
    cases hread : cl.read server key with
    | error r =>
      cases r <;> simp [hread, absorb, bind, Except.bind, pure, Except.pure]
    | ok data =>
      cases hd : c.decode data with
      | error g => simp [hread, absorb, hd, bind, Except.bind]
      | ok r => cases r <;> simp [hread, absorb, hd, bind, Except.bind, pure, Except.pure, eq_comm]

/-- **A read of the remote cache fails exactly when the page has no key, the client refuses it with
a fault of its own, or it finds a non-empty text that fails to decode**: JSON beyond the reader's
limits, or a document that is no object. Every other read answers, and it finds a page exactly
when the stored text reads as a page document. So a read of a page with a key degrades to a miss
on every value but those texts. -/
theorem remote_read_fails_exactly_when (c : RemoteCache) (server : σ) (page pageSize : Json) :
    (∀ f, c.get cl server page pageSize = .error f ↔
      cacheKey page pageSize = .error f ∨ ∃ key, cacheKey page pageSize = .ok key ∧
        (cl.read server key = .error (.fault f) ∨
          ∃ text, cl.read server key = .ok (some (.str text)) ∧
            text.isEmpty = false ∧ DecodeFault c.nesting text f)) ∧
      ((∃ p c', c.get cl server page pageSize = .ok (some p, c')) ↔
        ∃ key text doc, cacheKey page pageSize = .ok key ∧
          cl.read server key = .ok (some (.str text)) ∧
          text.isEmpty = false ∧ Json.readWithin c.nesting text = .ok doc ∧ PageDoc doc) := by
  refine ⟨fun f => ?_, ?_⟩
  · rw [get_eq_error_iff]
    apply or_congr_right
    apply exists_congr
    intro key
    apply and_congr_right
    intro _
    apply or_congr_right
    -- a value that fails to decode is a non-empty text that fails as `DecodeFault` says
    constructor
    · rintro ⟨data, hread, hd⟩
      obtain ⟨text, rfl, hne, hfault⟩ := (decode_eq_error_iff c data f).mp hd
      exact ⟨text, hread, hne, hfault⟩
    · rintro ⟨text, hread, hne, hfault⟩
      exact ⟨_, hread, (decode_eq_error_iff c _ f).mpr ⟨text, rfl, hne, hfault⟩⟩
  · constructor
    · rintro ⟨p, c', h⟩
      obtain ⟨⟨key, data, hk, hread, hd⟩, -⟩ := (get_eq_hit_iff cl c server page pageSize p c').mp h
      obtain ⟨text, doc, rfl, hne, hr, hp⟩ := (decode_eq_some_iff c data p).mp hd
      exact ⟨key, text, doc, hk, hread, hne, hr, (Page.ofJson?_ok_iff doc).mp ⟨p, hp⟩⟩
    · rintro ⟨key, text, doc, hk, hread, hne, hr, hdoc⟩
      obtain ⟨p, hp⟩ := (Page.ofJson?_ok_iff doc).mpr hdoc
      have hd := (decode_eq_some_iff c _ p).mpr ⟨text, doc, rfl, hne, hr, hp⟩
      exact ⟨p, _,
        (get_eq_hit_iff cl c server page pageSize p _).mpr ⟨⟨key, _, hk, hread, hd⟩, rfl⟩⟩

end RemoteCache

end Arbor
