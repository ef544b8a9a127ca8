import Arbor.Proofs.Cache.History
import Arbor.Proofs.Cache.Key
import Arbor.Proofs.Number.Order
import Mathlib.Data.Finset.Card

set_option autoImplicit false

/-! # The in-memory cache answers the latest live write

What a read of page `p` of `s` rows should find is read off the history of calls alone
(`Standing`): the most recent put of that page since every entry was last dropped, with the
expiry the cache computes for it, `c + d` for the clock reading `c` and time-to-live `d` of that
put or of the newest change of the time-to-live after it, and no later read of the page made at
or past the expiry it had then, which would have dropped it.

`Faithful` ties a cache to its history: every entry stands so, and while no more pages have been
put since the last drop than the cache holds, nothing is evicted, so every page that stands so
is in the cache. Every call keeps it (`Faithful.call`), once clock readings and times-to-live
are numbers a float can hold, so that every expiry is computed. The main theorem
`cache_answers_latest_live_write` reads both halves off at a read.

Only a page with a key, one whose number and size have at most `maxIntDigits` digits, is ever
stored or read: a put or a read of any other page is refused before the cache is looked at and
changes nothing, so it counts among no page's writes (`putsSinceDrop`) and leaves every page with
a key as it stood (`Faithful.keep`).

An integer time-to-live beyond the float range breaks this: set at a float clock reading, it
becomes the time-to-live, but no expiry is computed from it, so every entry keeps its old
expiry and is still read (`failed_ttl_change_keeps_old_expiry`).
-/

namespace Arbor

/-- Whether a call leaves the latest put of page `p` of `s` rows the latest one: any call but a
new put of the page and dropping every entry. -/
def CacheCall.Spares (p s : Int) : CacheCall → Prop
  | .put p' s' _ => (p', s') ≠ (p, s)
  | .invalidate => False
  | _ => True

/-- The clock reading and the argument of the newest change of the time-to-live. -/
def lastSetTtl? : CacheHistory → Option (Json × Json)
  | [] => none
  | (now, .setTtl d) :: _ => some (now, d)
  | _ :: h => lastSetTtl? h

/-- The time-to-live in force after a history, from `ttl` on. -/
def ttlAfter (ttl : Json) (h : CacheHistory) : Json :=
  ((lastSetTtl? h).map Prod.snd).getD ttl

/-- The expiry the cache computes for a page written at `t₀` with time-to-live `d₀` and followed
by the calls `front`: from the newest change of the time-to-live among them, or else from the
write itself. -/
def expiryAfter (t₀ d₀ : Json) (front : CacheHistory) : Except Fault Json :=
  let (c, d) := (lastSetTtl? front).getD (t₀, d₀)
  Json.add c d

/-- No read of page `p` of `s` rows among the calls `front`, made after the page was written at
`t₀` with time-to-live `d₀`, came at or past the expiry the page had when it was made. -/
def Unexpired (p s : Int) (t₀ d₀ : Json) : CacheHistory → Prop
  | [] => True
  | (now, .get p' s') :: front =>
    ((p', s') = (p, s) → ∀ e, expiryAfter t₀ d₀ front = .ok e → Json.relate .ge now e ≠ .ok true) ∧
      Unexpired p s t₀ d₀ front
  | _ :: front => Unexpired p s t₀ d₀ front

/-- The latest put of page `p` of `s` rows in `h` since every entry was last dropped wrote `pg`
at `t₀`; the calls `front` came after it and `rest` before it. -/
def PutLast (h : CacheHistory) (p s : Int) (front : CacheHistory) (t₀ : Json) (pg : Page)
    (rest : CacheHistory) : Prop :=
  h = front ++ (t₀, .put p s pg) :: rest ∧ ∀ x ∈ front, x.2.Spares p s

/-- After a history `h` from a cache whose time-to-live was `ttl`, page `p` of `s` rows stands
as `pg` until `e`: the latest put of the page since every entry was last dropped wrote `pg`, `e`
is the expiry computed for it, and no read of the page since found it expired. -/
def Standing (ttl : Json) (h : CacheHistory) (p s : Int) (pg : Page) (e : Json) : Prop :=
  ∃ front t₀ rest, PutLast h p s front t₀ pg rest ∧
    expiryAfter t₀ (ttlAfter ttl rest) front = .ok e ∧ Unexpired p s t₀ (ttlAfter ttl rest) front

/-- The pages with a key put since every entry was last dropped, newest first. -/
def putsSinceDrop : CacheHistory → List (Int × Int)
  | [] => []
  | (_, .put p s _) :: h =>
    if fitsNumeral p && fitsNumeral s then (p, s) :: putsSinceDrop h else putsSinceDrop h
  | (_, .invalidate) :: _ => []
  | _ :: h => putsSinceDrop h

/-- Every clock reading and every new time-to-live of a history is a number a float can hold. -/
def CacheHistory.Timely (h : CacheHistory) : Prop :=
  ∀ x ∈ h, x.1.FloatLike ∧ ∀ d, x.2 = .setTtl d → d.FloatLike

/-! ## What a call does to the latest put -/

section Latest

variable {ttl now t₀ e : Json} {p s : Int} {pg : Page} {h front rest : CacheHistory}

theorem putLast_cons {c : CacheCall} :
    PutLast ((now, c) :: h) p s front t₀ pg rest ↔
      (front = [] ∧ c = .put p s pg ∧ now = t₀ ∧ rest = h) ∨
        ∃ front', front = (now, c) :: front' ∧ c.Spares p s ∧ PutLast h p s front' t₀ pg rest := by
  constructor
  · rintro ⟨heq, hfront⟩
    rcases List.cons_eq_append_iff.mp heq with ⟨rfl, hput⟩ | ⟨front', rfl, hh⟩
    · simp only [List.cons.injEq, Prod.mk.injEq] at hput
      exact .inl ⟨rfl, hput.1.2.symm, hput.1.1.symm, hput.2⟩
    · exact .inr ⟨front', rfl, hfront _ List.mem_cons_self, hh,
        fun x hx => hfront x (List.mem_cons_of_mem _ hx)⟩
  · rintro (⟨rfl, rfl, rfl, rfl⟩ | ⟨front', rfl, hc, hh, hfront⟩)
    · exact ⟨rfl, by simp⟩
    · refine ⟨by rw [hh, List.cons_append], ?_⟩
      rintro x (_ | ⟨_, hx⟩)
      · exact hc
      · exact hfront x hx

theorem lastSetTtl?_cons {c : CacheCall} (hc : ∀ d, c ≠ .setTtl d) :
    lastSetTtl? ((now, c) :: h) = lastSetTtl? h := by
  cases c <;> first | rfl | exact absurd rfl (hc _)

theorem ttlAfter_cons {c : CacheCall} (hc : ∀ d, c ≠ .setTtl d) :
    ttlAfter ttl ((now, c) :: h) = ttlAfter ttl h := by
  rw [ttlAfter, ttlAfter, lastSetTtl?_cons hc]

theorem expiryAfter_cons {c : CacheCall} (hc : ∀ d, c ≠ .setTtl d) (d₀ : Json) :
    expiryAfter t₀ d₀ ((now, c) :: front) = expiryAfter t₀ d₀ front := by
  rw [expiryAfter, expiryAfter, lastSetTtl?_cons hc]

@[simp] theorem expiryAfter_setTtl {d : Json} (d₀ : Json) :
    expiryAfter t₀ d₀ ((now, .setTtl d) :: front) = Json.add now d := rfl

theorem unexpired_cons {c : CacheCall} (hc : ∀ p' s', c = .get p' s' → (p', s') ≠ (p, s))
    (d₀ : Json) : Unexpired p s t₀ d₀ ((now, c) :: front) ↔ Unexpired p s t₀ d₀ front := by
  cases c with
  | get p' s' => simp [Unexpired, hc p' s' rfl]
  | _ => rfl

/-- A put of the page makes it stand as written, with the expiry computed from the time-to-live
in force. -/
theorem standing_put_self {pg' : Page} :
    Standing ttl ((now, .put p s pg') :: h) p s pg e ↔
      pg = pg' ∧ Json.add now (ttlAfter ttl h) = .ok e := by
  constructor
  · rintro ⟨front, t₀, rest, hlast, hexp, -⟩
    rcases putLast_cons.mp hlast with ⟨rfl, hc, rfl, rfl⟩ | ⟨_, -, hc, -⟩
    · cases hc
      exact ⟨rfl, hexp⟩
    · exact absurd rfl hc
  · rintro ⟨rfl, hexp⟩
    exact ⟨[], now, h, putLast_cons.mpr (.inl ⟨rfl, rfl, rfl, rfl⟩), hexp, trivial⟩

/-- A call that neither writes the page, nor changes the time-to-live, nor reads the page, nor
drops every entry, leaves it standing as it stood. -/
theorem standing_cons_of_passes {c : CacheCall} (hsp : c.Spares p s) (hc : ∀ d, c ≠ .setTtl d)
    (hget : ∀ p' s', c = .get p' s' → (p', s') ≠ (p, s)) :
    Standing ttl ((now, c) :: h) p s pg e ↔ Standing ttl h p s pg e := by
  constructor
  · rintro ⟨front, t₀, rest, hlast, hexp, hun⟩
    rcases putLast_cons.mp hlast with ⟨rfl, rfl, -, -⟩ | ⟨front', rfl, -, hlast'⟩
    · exact absurd rfl hsp
    · rw [expiryAfter_cons hc] at hexp
      exact ⟨front', t₀, rest, hlast', hexp, (unexpired_cons hget _).mp hun⟩
  · rintro ⟨front, t₀, rest, hlast, hexp, hun⟩
    refine ⟨(now, c) :: front, t₀, rest, putLast_cons.mpr (.inr ⟨front, rfl, hsp, hlast⟩), ?_, ?_⟩
    · rwa [expiryAfter_cons hc]
    · exact (unexpired_cons hget _).mpr hun

/-- A put of another page leaves a page standing as it stood. -/
theorem standing_put_other {p' s' : Int} {pg' : Page} (hps : (p', s') ≠ (p, s)) :
    Standing ttl ((now, .put p' s' pg') :: h) p s pg e ↔ Standing ttl h p s pg e :=
  standing_cons_of_passes hps (fun _ => CacheCall.noConfusion)
    (fun _ _ hc => CacheCall.noConfusion hc)

/-- A read of another page leaves a page standing as it stood. -/
theorem standing_get_other {p' s' : Int} (hps : (p', s') ≠ (p, s)) :
    Standing ttl ((now, .get p' s') :: h) p s pg e ↔ Standing ttl h p s pg e :=
  standing_cons_of_passes trivial (fun _ => CacheCall.noConfusion)
    (fun _ _ hc => by cases hc; exact hps)

theorem standing_stats : Standing ttl ((now, .stats) :: h) p s pg e ↔ Standing ttl h p s pg e :=
  standing_cons_of_passes trivial (fun _ => CacheCall.noConfusion)
    (fun _ _ hc => CacheCall.noConfusion hc)

/-- A read of the page leaves it standing unless it came at or past its expiry. -/
theorem standing_get_self :
    Standing ttl ((now, .get p s) :: h) p s pg e ↔
      Standing ttl h p s pg e ∧ Json.relate .ge now e ≠ .ok true := by
  have hc : ∀ d, CacheCall.get p s ≠ .setTtl d := fun _ => CacheCall.noConfusion
  constructor
  · rintro ⟨front, t₀, rest, hlast, hexp, hun⟩
    rcases putLast_cons.mp hlast with ⟨rfl, hput, -, -⟩ | ⟨front', rfl, -, hlast'⟩
    · cases hput
    · rw [expiryAfter_cons hc] at hexp
      exact ⟨⟨front', t₀, rest, hlast', hexp, hun.2⟩, hun.1 rfl e hexp⟩
  · rintro ⟨⟨front, t₀, rest, hlast, hexp, hun⟩, hlive⟩
    refine ⟨(now, .get p s) :: front, t₀, rest,
      putLast_cons.mpr (.inr ⟨front, rfl, trivial, hlast⟩), ?_, ?_⟩
    · rwa [expiryAfter_cons hc]
    · refine ⟨fun _ e' he' => ?_, hun⟩
      rw [hexp] at he'
      cases he'
      exact hlive

/-- A change of the time-to-live gives a standing page the expiry computed from the change. -/
theorem standing_setTtl {d : Json} :
    Standing ttl ((now, .setTtl d) :: h) p s pg e ↔
      (∃ front t₀ rest, PutLast h p s front t₀ pg rest ∧
        Unexpired p s t₀ (ttlAfter ttl rest) front) ∧ Json.add now d = .ok e := by
  constructor
  · rintro ⟨front, t₀, rest, hlast, hexp, hun⟩
    rcases putLast_cons.mp hlast with ⟨rfl, hput, -, -⟩ | ⟨front', rfl, -, hlast'⟩
    · cases hput
    · exact ⟨⟨front', t₀, rest, hlast', hun⟩, hexp⟩
  · rintro ⟨⟨front, t₀, rest, hlast, hun⟩, hexp⟩
    exact ⟨(now, .setTtl d) :: front, t₀, rest,
      putLast_cons.mpr (.inr ⟨front, rfl, trivial, hlast⟩), hexp, hun⟩

/-- Dropping every entry leaves no page standing. -/
theorem not_standing_invalidate : ¬ Standing ttl ((now, .invalidate) :: h) p s pg e := by
  rintro ⟨front, t₀, rest, hlast, -, -⟩
  rcases putLast_cons.mp hlast with ⟨-, hput, -, -⟩ | ⟨_, -, hc, -⟩
  · cases hput
  · exact hc

end Latest

/-! ## Histories of numbers

In a timely history every expiry the cache computes is a number. -/

section Timely

variable {ttl : Json} {x : Json × CacheCall} {h front rest : CacheHistory}

theorem CacheHistory.Timely.tail (hh : CacheHistory.Timely (x :: h)) : CacheHistory.Timely h :=
  fun y hy => hh y (List.mem_cons_of_mem _ hy)

theorem CacheHistory.Timely.head (hh : CacheHistory.Timely (x :: h)) : x.1.FloatLike :=
  (hh x List.mem_cons_self).1

theorem lastSetTtl?_floatLike {c d : Json} (hh : CacheHistory.Timely h)
    (hlast : lastSetTtl? h = some (c, d)) : c.FloatLike ∧ d.FloatLike := by
  induction h with
  | nil => cases hlast
  | cons y h ih =>
    obtain ⟨now, call⟩ := y
    cases call with
    | setTtl d' =>
      simp only [lastSetTtl?, Option.some.injEq, Prod.mk.injEq] at hlast
      obtain ⟨rfl, rfl⟩ := hlast
      exact ⟨hh.head, (hh _ List.mem_cons_self).2 _ rfl⟩
    | _ => exact ih hh.tail hlast

theorem ttlAfter_floatLike (httl : ttl.FloatLike) (hh : CacheHistory.Timely h) :
    (ttlAfter ttl h).FloatLike := by
  unfold ttlAfter
  cases hlast : lastSetTtl? h with
  | none => exact httl
  | some cd => exact (lastSetTtl?_floatLike hh hlast).2

/-- In a timely history the expiry of the latest put of a page is computed, as a number. -/
theorem expiryAfter_ok {p s : Int} {t₀ : Json} {pg : Page} (httl : ttl.FloatLike)
    (hh : CacheHistory.Timely h) (hlast : PutLast h p s front t₀ pg rest) :
    ∃ n : Num, expiryAfter t₀ (ttlAfter ttl rest) front = .ok n.toJson := by
  have hparts : CacheHistory.Timely front ∧ t₀.FloatLike ∧ CacheHistory.Timely rest := by
    rw [hlast.1] at hh
    refine ⟨fun y hy => hh y (List.mem_append_left _ hy), ?_, fun y hy => ?_⟩
    · exact (hh _ (List.mem_append_right _ List.mem_cons_self)).1
    · exact hh y (List.mem_append_right _ (List.mem_cons_of_mem _ hy))
  obtain ⟨hfront, ht₀, hrest⟩ := hparts
  unfold expiryAfter
  cases hset : lastSetTtl? front with
  | none => exact ht₀.add (ttlAfter_floatLike httl hrest)
  | some cd =>
    obtain ⟨hc, hd⟩ := lastSetTtl?_floatLike hfront hset
    exact hc.add hd

end Timely

/-! ## The pages put since the last drop -/

section Puts

variable {now : Json} {h : CacheHistory}

theorem putsSinceDrop_put_keyed {p s : Int} (hp : fitsNumeral p = true)
    (hs : fitsNumeral s = true) (pg : Page) :
    putsSinceDrop ((now, .put p s pg) :: h) = (p, s) :: putsSinceDrop h := by
  simp only [putsSinceDrop, hp, hs, Bool.and_self, if_true]

theorem putsSinceDrop_put_wide {p s : Int} (hps : (fitsNumeral p && fitsNumeral s) = false)
    (pg : Page) : putsSinceDrop ((now, .put p s pg) :: h) = putsSinceDrop h := by
  simp only [putsSinceDrop, hps, Bool.false_eq_true, if_false]

@[simp] theorem putsSinceDrop_get (p s : Int) :
    putsSinceDrop ((now, .get p s) :: h) = putsSinceDrop h := rfl

@[simp] theorem putsSinceDrop_setTtl (d : Json) :
    putsSinceDrop ((now, .setTtl d) :: h) = putsSinceDrop h := rfl

@[simp] theorem putsSinceDrop_stats : putsSinceDrop ((now, .stats) :: h) = putsSinceDrop h := rfl

@[simp] theorem putsSinceDrop_invalidate : putsSinceDrop ((now, .invalidate) :: h) = [] := rfl

/-- A page with a key is not a page without one. -/
theorem ne_of_wide {p s p' s' : Int} (hps : (fitsNumeral p && fitsNumeral s) = false)
    (hp' : fitsNumeral p' = true) (hs' : fitsNumeral s' = true) : (p', s') ≠ (p, s) := by
  rintro ⟨⟩
  simp [hp', hs'] at hps

theorem dedup_length_le {l₁ l₂ : List (Int × Int)} (h : l₁ ⊆ l₂) :
    l₁.dedup.length ≤ l₂.dedup.length := by
  rw [← List.card_toFinset, ← List.card_toFinset]
  exact Finset.card_le_card fun x hx => List.mem_toFinset.mpr (h (List.mem_toFinset.mp hx))

/-- Distinct keys of pages in `seen`, none of them the key of the page `(p, s)` that is in `seen`
too, are fewer than the distinct pages of `seen`: a cache with room for every page put has room
for one more. -/
theorem length_lt_of_owned {entries : List (Text × Entry)} {seen : List (Int × Int)} {p s : Int}
    (hnodup : (entries.map Prod.fst).Nodup)
    (howned : ∀ kv ∈ entries, ∃ p s, kv.1 = pageKey p s ∧ (p, s) ∈ seen)
    (habsent : entries.lookup (pageKey p s) = none) (hmem : (p, s) ∈ seen) :
    entries.length < seen.dedup.length := by
  let keyOf : Int × Int → Text := fun q => pageKey q.1 q.2
  have hsub : (entries.map Prod.fst).toFinset ⊆ (seen.toFinset.erase (p, s)).image keyOf := by
    intro k hk
    obtain ⟨kv, hkv, rfl⟩ := List.mem_map.mp (List.mem_toFinset.mp hk)
    obtain ⟨a, b, hkey, hab⟩ := howned kv hkv
    refine Finset.mem_image.mpr ⟨(a, b), Finset.mem_erase.mpr ⟨?_, List.mem_toFinset.mpr hab⟩,
      hkey.symm⟩
    -- the page has no entry, so no entry's key is its key
    rintro ⟨⟩
    have hne := List.lookup_eq_none_iff.mp habsent kv hkv
    rw [hkey] at hne
    simp at hne
  have hpos : 0 < seen.toFinset.card := Finset.card_pos.mpr ⟨_, List.mem_toFinset.mpr hmem⟩
  calc entries.length = (entries.map Prod.fst).toFinset.card := by
        rw [List.toFinset_card_of_nodup hnodup, List.length_map]
    _ ≤ ((seen.toFinset.erase (p, s)).image keyOf).card := Finset.card_le_card hsub
    _ ≤ (seen.toFinset.erase (p, s)).card := Finset.card_image_le
    _ = seen.toFinset.card - 1 := Finset.card_erase_of_mem (List.mem_toFinset.mpr hmem)
    _ < seen.toFinset.card := by omega
    _ = seen.dedup.length := List.card_toFinset seen

end Puts

/-! ## Lookups by page -/

namespace MemoryCache

variable {m : MemoryCache} {k : Text} {v : Entry} {l : List (Text × Entry)}

@[simp] theorem entry?_with_entries : MemoryCache.entry? { m with entries := l } k = l.lookup k :=
  rfl

theorem mem_of_lookup (h : l.lookup k = some v) : (k, v) ∈ l := by
  obtain ⟨l₁, l₂, hl, -⟩ := List.lookup_eq_some_iff.mp h
  simp [hl]

/-- With distinct keys, an entry of the list is the one its key finds. -/
theorem lookup_of_mem (hnodup : (l.map Prod.fst).Nodup) (hmem : (k, v) ∈ l) :
    l.lookup k = some v := by
  induction l with
  | nil => cases hmem
  | cons kv l ih =>
    obtain ⟨k', v'⟩ := kv
    simp only [List.map_cons, List.nodup_cons] at hnodup
    rw [lookup_cons_eq]
    rcases List.mem_cons.mp hmem with heq | hmem
    · cases heq
      simp
    · have hk : k ≠ k' := fun hk => hnodup.1 (hk ▸ List.mem_map_of_mem (f := Prod.fst) hmem)
      rw [if_neg hk]
      exact ih hnodup.2 hmem

/-- Room made in a cache with distinct keys keeps them distinct. -/
theorem makeRoom_nodup {cap : Int} {room : List (Text × Entry)} (hcap : m.capacity = .int cap)
    (hnodup : m.keys.Nodup) (hroom : m.makeRoom k = .ok room) : (room.map Prod.fst).Nodup := by
  rw [makeRoom_int hcap] at hroom
  split at hroom
  · cases hroom
    exact nodup_keys_write hnodup _ _
  · split at hroom
    · split at hroom
      · cases hroom
      · rename_i rest hrest
        cases hroom
        rw [keys, hrest, List.map_cons] at hnodup
        exact hnodup.of_cons
    · cases hroom
      exact hnodup

/-- Changing every expiry leaves each key finding its entry with the new expiry. -/
theorem lookup_map_expiry (l : List (Text × Entry)) (k : Text) (e : Json) :
    (l.map fun kv => (kv.1, { kv.2 with expiresAt := e })).lookup k =
      (l.lookup k).map fun en => { en with expiresAt := e } := by
  induction l with
  | nil => rfl
  | cons kv l ih =>
    obtain ⟨k', v'⟩ := kv
    simp only [List.map_cons, lookup_cons_eq, ih]
    split <;> rfl

/-- A read at a clock reading that is a number, in a cache whose expiries are numbers, either
keeps the entries, the page's entry, if any, not yet expired, or drops the page's expired entry. -/
theorem call_get_entries {now : Json} {x : Num} (hx : Num.ofJson? now = some x)
    (hnum : ∀ kv ∈ m.entries, ∃ n : Num, kv.2.expiresAt = n.toJson) {p s : Int}
    (hk : cacheKey (.int p) (.int s) = .ok k) :
    (m.call now (.get p s)).ttl = m.ttl ∧
      (((m.call now (.get p s)).entries = m.entries ∧
        ∀ en, m.entry? k = some en → Json.relate .ge now en.expiresAt ≠ .ok true) ∨
      ∃ en, m.entry? k = some en ∧ Json.relate .ge now en.expiresAt = .ok true ∧
        (m.call now (.get p s)).entries = without m.entries k) := by
  cases he : m.entry? k with
  | none =>
    have hcall : m.call now (.get p s) = { m with misses := m.misses + 1 } := by
      simp only [call, get_absent hk he]
    rw [hcall]
    exact ⟨rfl, .inl ⟨rfl, fun _ hen => by cases hen⟩⟩
  | some en =>
    obtain ⟨n, hn⟩ := hnum _ (mem_entries_of_lookup he)
    have hy : Num.ofJson? en.expiresAt = some n := by rw [hn, Num.ofJson?_toJson]
    cases hlt : Json.relate .lt now en.expiresAt with
    | error f => simp [Json.relate_of_num hx hy] at hlt
    | ok live =>
      cases live with
      | true =>
        -- a hit: the entry is not expired, as `now < e` refutes `now ≥ e`
        have hcall : m.call now (.get p s) = { m with hits := m.hits + 1 } := by
          simp only [call, get_hit hk he hlt]
        rw [hcall]
        refine ⟨rfl, .inl ⟨rfl, fun en' hen' hge => ?_⟩⟩
        cases hen'
        rw [Json.relate_lt_of_ge hx hy hge] at hlt
        cases hlt
      | false =>
        cases hge : Json.relate .ge now en.expiresAt with
        | error f => simp [Json.relate_of_num hx hy] at hge
        | ok expired =>
          have hcall : m.call now (.get p s) = { m with
              entries := if expired then without m.entries k else m.entries
              misses := m.misses + 1 } := by
            simp only [call, get_stale hk he hlt hge]
          rw [hcall]
          cases expired with
          | false => exact ⟨rfl, .inl ⟨rfl, fun en' hen' => by cases hen'; rw [hge]; simp⟩⟩
          | true => exact ⟨rfl, .inr ⟨en, rfl, hge, rfl⟩⟩

end MemoryCache

/-! ## The invariant -/

/-- A cache `m` that followed the history `h` from an empty cache of time-to-live `ttl` and
capacity `cap`: its time-to-live is the one in force, its keys are distinct keys of pages put
since the last drop, its expiries are numbers, each entry of a page with a key stands in `h`,
and, while no more pages were put since the last drop than it holds, every page with a key that
stands in `h` is in it. -/
structure Faithful (ttl : Json) (cap : Int) (h : CacheHistory) (m : MemoryCache) : Prop where
  capacity : m.capacity = .int cap
  ttlInForce : m.ttl = ttlAfter ttl h
  nodup : m.keys.Nodup
  owned : ∀ kv ∈ m.entries, ∃ p s, kv.1 = pageKey p s ∧ (p, s) ∈ putsSinceDrop h
  numeric : ∀ kv ∈ m.entries, ∃ n : Num, kv.2.expiresAt = n.toJson
  sound : ∀ p s en, fitsNumeral p = true → fitsNumeral s = true →
    m.entry? (pageKey p s) = some en → Standing ttl h p s en.page en.expiresAt
  complete : ((putsSinceDrop h).dedup.length : Int) ≤ cap →
    ∀ p s pg e, fitsNumeral p = true → fitsNumeral s = true → Standing ttl h p s pg e →
      m.entry? (pageKey p s) = some ⟨pg, e⟩

namespace Faithful

open MemoryCache

variable {ttl now : Json} {cap : Int} {h : CacheHistory} {m : MemoryCache}

theorem empty (ttl : Json) (cap : Int) :
    Faithful ttl cap [] (MemoryCache.empty ttl (.int cap)) where
  capacity := rfl
  ttlInForce := rfl
  nodup := List.nodup_nil
  owned := fun _ hkv => by cases hkv
  numeric := fun _ hkv => by cases hkv
  sound := fun _ _ _ _ _ hen => by cases hen
  complete := by
    rintro - p s pg e - - ⟨front, t₀, rest, ⟨hh, -⟩, -⟩
    cases front <;> cases hh

/-- A call that leaves the cache as it is, changes no time-to-live, puts no page with a key and
leaves every page with a key standing as it stood keeps the invariant. -/
theorem keep {c : CacheCall} (hf : Faithful ttl cap h m) (hcall : m.call now c = m)
    (hc : ∀ d, c ≠ .setTtl d) (hputs : putsSinceDrop ((now, c) :: h) = putsSinceDrop h)
    (hstand : ∀ p s pg e, fitsNumeral p = true → fitsNumeral s = true →
      (Standing ttl ((now, c) :: h) p s pg e ↔ Standing ttl h p s pg e)) :
    Faithful ttl cap ((now, c) :: h) (m.call now c) := by
  rw [hcall]
  refine ⟨hf.capacity, ?_, hf.nodup, ?_, hf.numeric, ?_, ?_⟩
  · rw [ttlAfter_cons hc]
    exact hf.ttlInForce
  · rw [hputs]
    exact hf.owned
  · exact fun p s en hp hs hen => (hstand p s _ _ hp hs).mpr (hf.sound p s en hp hs hen)
  · intro hb p s pg e hp hs hst
    rw [hputs] at hb
    exact hf.complete hb p s pg e hp hs ((hstand p s pg e hp hs).mp hst)

/-- A put of a page with a key stores it last, expiring at `now` plus the time-to-live in force;
room for it is made by moving its old entry or evicting the oldest one, which stood in the
history before, and while pages put since the last drop fit, no page is evicted. -/
theorem putKeyed (hf : Faithful ttl cap h m) (hcap : 1 ≤ cap) (hnow : now.FloatLike)
    (httl : (ttlAfter ttl h).FloatLike) {p s : Int} (hp : fitsNumeral p = true)
    (hs : fitsNumeral s = true) (pg : Page) :
    Faithful ttl cap ((now, .put p s pg) :: h) (m.call now (.put p s pg)) := by
  have hck := cacheKey_int_of_fits hp hs
  obtain ⟨room, hroom⟩ : ∃ room, m.makeRoom (pageKey p s) = .ok room :=
    makeRoom_ok hf.capacity hcap
  obtain ⟨n, hexp⟩ := hnow.add (hf.ttlInForce ▸ httl)
  have hcall : m.call now (.put p s pg) =
      { m with entries := without room (pageKey p s) ++ [(pageKey p s, ⟨pg, n.toJson⟩)] } := by
    simp only [call, put_eq hck hroom hexp]
  have hsub := makeRoom_subset hroom
  refine ⟨(call_capacity _ _).trans hf.capacity, ?_, ?_, ?_, ?_, ?_, ?_⟩
  · rw [ttlAfter_cons (fun _ => CacheCall.noConfusion), hcall]
    exact hf.ttlInForce
  · rw [hcall]
    exact nodup_keys_write (makeRoom_nodup hf.capacity hf.nodup hroom) _ _
  · rw [hcall, putsSinceDrop_put_keyed hp hs]
    intro kv hkv
    rcases mem_write hkv with rfl | hkv
    · exact ⟨p, s, rfl, List.mem_cons_self⟩
    · obtain ⟨p', s', hk, hmem⟩ := hf.owned kv (hsub hkv)
      exact ⟨p', s', hk, List.mem_cons_of_mem _ hmem⟩
  · rw [hcall]
    intro kv hkv
    rcases mem_write hkv with rfl | hkv
    · exact ⟨n, rfl⟩
    · exact hf.numeric kv (hsub hkv)
  · intro p' s' en hp' hs' hen
    rw [hcall, entry?_with_entries, lookup_write] at hen
    by_cases hps : (p', s') = (p, s)
    · obtain ⟨rfl, rfl⟩ := Prod.mk.inj hps
      rw [if_pos rfl] at hen
      cases hen
      exact standing_put_self.mpr ⟨rfl, hf.ttlInForce ▸ hexp⟩
    · rw [if_neg (pageKey_ne hps)] at hen
      -- the entry was in the cache before, as room is made only of its entries
      have hold : m.entry? (pageKey p' s') = some en :=
        lookup_of_mem hf.nodup (hsub (mem_of_lookup hen))
      exact (standing_put_other (Ne.symm hps)).mpr (hf.sound p' s' en hp' hs' hold)
  · intro hbound p' s' pg' e hp' hs' hst
    rw [putsSinceDrop_put_keyed hp hs] at hbound
    -- no eviction: an absent page leaves the cache below the number of pages put
    have hfits : m.entry? (pageKey p s) = none → m.entries.length < cap := by
      intro habsent
      have howned : ∀ kv ∈ m.entries, ∃ p₁ s₁, kv.1 = pageKey p₁ s₁ ∧
          (p₁, s₁) ∈ (p, s) :: putsSinceDrop h := by
        intro kv hkv
        obtain ⟨p₁, s₁, hk, hmem⟩ := hf.owned kv hkv
        exact ⟨p₁, s₁, hk, List.mem_cons_of_mem _ hmem⟩
      have hlt := length_lt_of_owned hf.nodup howned habsent List.mem_cons_self
      omega
    have hcall' : m.call now (.put p s pg) =
        { m with entries := without m.entries (pageKey p s) ++
          [(pageKey p s, ⟨pg, n.toJson⟩)] } := by
      simp only [call, put_of_room hf.capacity hck hfits hexp]
    rw [hcall', entry?_with_entries, lookup_write]
    by_cases hps : (p', s') = (p, s)
    · obtain ⟨rfl, rfl⟩ := Prod.mk.inj hps
      obtain ⟨rfl, he⟩ := standing_put_self.mp hst
      rw [← hf.ttlInForce, hexp] at he
      cases he
      exact if_pos rfl
    · rw [if_neg (pageKey_ne hps)]
      have hbound' : ((putsSinceDrop h).dedup.length : Int) ≤ cap := by
        have := dedup_length_le (List.subset_cons_self (p, s) (putsSinceDrop h))
        omega
      exact hf.complete hbound' p' s' pg' e hp' hs' ((standing_put_other (Ne.symm hps)).mp hst)

/-- A put of a page without a key is refused and stores nothing. -/
theorem putWide (hf : Faithful ttl cap h m) {p s : Int}
    (hps : (fitsNumeral p && fitsNumeral s) = false) (pg : Page) :
    Faithful ttl cap ((now, .put p s pg) :: h) (m.call now (.put p s pg)) :=
  hf.keep (by simp only [call, put_unkeyed (cacheKey_int_of_wide hps)])
    (fun _ => CacheCall.noConfusion) (putsSinceDrop_put_wide hps pg)
    fun _ _ _ _ hp' hs' => standing_put_other (ne_of_wide hps hp' hs').symm

/-- A read of a page with a key keeps a page that stands, unless it finds it expired, in which
case it drops it. -/
theorem getKeyed (hf : Faithful ttl cap h m) (hnow : now.FloatLike) {p s : Int}
    (hp : fitsNumeral p = true) (hs : fitsNumeral s = true) :
    Faithful ttl cap ((now, .get p s) :: h) (m.call now (.get p s)) := by
  obtain ⟨x, hx, -⟩ := hnow
  obtain ⟨httl, hentries⟩ := call_get_entries hx hf.numeric (cacheKey_int_of_fits hp hs)
  have hcap : (m.call now (.get p s)).capacity = .int cap := (call_capacity _ _).trans hf.capacity
  -- a read keeps the entries or drops one: what holds of every entry holds after it
  have hsub : (m.call now (.get p s)).entries.Sublist m.entries := by
    rcases hentries with ⟨hsame, -⟩ | ⟨-, -, -, hdrop⟩
    · rw [hsame]
    · rw [hdrop]
      exact List.filter_sublist
  refine ⟨hcap, httl.trans hf.ttlInForce, hf.nodup.sublist (hsub.map _),
    fun kv hkv => hf.owned kv (hsub.subset hkv), fun kv hkv => hf.numeric kv (hsub.subset hkv),
    ?_, ?_⟩
  · intro p' s' en' hp' hs' hen'
    by_cases hps : (p', s') = (p, s)
    · obtain ⟨rfl, rfl⟩ := Prod.mk.inj hps
      rcases hentries with ⟨hsame, hlive⟩ | ⟨en, hen, -, hdrop⟩
      · rw [← entries_lookup, hsame] at hen'
        exact standing_get_self.mpr ⟨hf.sound p' s' en' hp' hs' hen', hlive en' hen'⟩
      · rw [← entries_lookup, hdrop, lookup_without, if_pos rfl] at hen'
        cases hen'
    · have hold : m.entry? (pageKey p' s') = some en' := by
        rcases hentries with ⟨hsame, -⟩ | ⟨-, -, -, hdrop⟩
        · rwa [← entries_lookup, hsame] at hen'
        · rwa [← entries_lookup, hdrop, lookup_without, if_neg (pageKey_ne hps)] at hen'
      exact (standing_get_other (Ne.symm hps)).mpr (hf.sound p' s' en' hp' hs' hold)
  · intro hb p' s' pg e hp' hs' hst
    by_cases hps : (p', s') = (p, s)
    · obtain ⟨rfl, rfl⟩ := Prod.mk.inj hps
      obtain ⟨hst', hlive⟩ := standing_get_self.mp hst
      have hold := hf.complete hb p' s' pg e hp' hs' hst'
      rcases hentries with ⟨hsame, -⟩ | ⟨en, hen, hexpired, -⟩
      · rwa [← entries_lookup, hsame]
      · -- the page stood only if this read did not find it expired, but it did
        rw [hen] at hold
        cases hold
        exact absurd hexpired hlive
    · have hold := hf.complete hb p' s' pg e hp' hs' ((standing_get_other (Ne.symm hps)).mp hst)
      rcases hentries with ⟨hsame, -⟩ | ⟨-, -, -, hdrop⟩
      · rwa [← entries_lookup, hsame]
      · rwa [← entries_lookup, hdrop, lookup_without, if_neg (pageKey_ne hps)]

/-- A read of a page without a key is refused and changes nothing. -/
theorem getWide (hf : Faithful ttl cap h m) {p s : Int}
    (hps : (fitsNumeral p && fitsNumeral s) = false) :
    Faithful ttl cap ((now, .get p s) :: h) (m.call now (.get p s)) :=
  hf.keep (by simp only [call, get_unkeyed (cacheKey_int_of_wide hps)])
    (fun _ => CacheCall.noConfusion) rfl
    fun _ _ _ _ hp' hs' => standing_get_other (ne_of_wide hps hp' hs').symm

/-- Dropping every entry leaves nothing standing and nothing in the cache. -/
theorem invalidate (hf : Faithful ttl cap h m) :
    Faithful ttl cap ((now, .invalidate) :: h) (m.call now .invalidate) where
  capacity := hf.capacity
  ttlInForce := by
    rw [ttlAfter_cons (fun _ => CacheCall.noConfusion)]
    exact hf.ttlInForce
  nodup := List.nodup_nil
  owned := fun _ hkv => by simp [call, MemoryCache.invalidate] at hkv
  numeric := fun _ hkv => by simp [call, MemoryCache.invalidate] at hkv
  sound := fun _ _ _ _ _ hen => by simp [call, MemoryCache.invalidate, entry?] at hen
  complete := fun _ _ _ _ _ _ _ hst => absurd hst not_standing_invalidate

/-- A change of the time-to-live gives every entry, and every page that stands, the same new
expiry. -/
theorem setTtl {d : Json} (hf : Faithful ttl cap h m) (httl : ttl.FloatLike)
    (hh : CacheHistory.Timely ((now, .setTtl d) :: h)) :
    Faithful ttl cap ((now, .setTtl d) :: h) (m.call now (.setTtl d)) := by
  obtain ⟨n, hexp⟩ := hh.head.add ((hh _ List.mem_cons_self).2 d rfl)
  have hcall : m.call now (.setTtl d) =
      { m with
        ttl := d
        entries := m.entries.map fun kv => (kv.1, { kv.2 with expiresAt := n.toJson }) } := by
    simp only [call, setTtl_eq hexp]
  rw [hcall]
  refine ⟨hf.capacity, by simp [ttlAfter, lastSetTtl?], ?_, ?_, ?_, ?_, ?_⟩
  · show ((m.entries.map _).map Prod.fst).Nodup
    rw [List.map_map]
    exact hf.nodup
  · intro kv hkv
    obtain ⟨kv₀, hkv₀, rfl⟩ := List.mem_map.mp hkv
    exact hf.owned kv₀ hkv₀
  · intro kv hkv
    obtain ⟨kv₀, -, rfl⟩ := List.mem_map.mp hkv
    exact ⟨n, rfl⟩
  · intro p' s' en hp' hs' hen
    simp only [← entries_lookup, lookup_map_expiry, Option.map_eq_some_iff] at hen
    obtain ⟨en₀, hen₀, rfl⟩ := hen
    obtain ⟨front, t₀, rest, hlast, -, hun⟩ := hf.sound p' s' en₀ hp' hs' hen₀
    exact standing_setTtl.mpr ⟨⟨front, t₀, rest, hlast, hun⟩, hexp⟩
  · intro hb p' s' pg e hp' hs' hst
    obtain ⟨⟨front, t₀, rest, hlast, hun⟩, hadd⟩ := standing_setTtl.mp hst
    rw [hexp] at hadd
    cases hadd
    -- the page stood before the change too, with the expiry it had then
    obtain ⟨n₀, hexp₀⟩ := expiryAfter_ok httl hh.tail hlast
    have hold := hf.complete hb p' s' pg _ hp' hs' ⟨front, t₀, rest, hlast, hexp₀, hun⟩
    rw [← entries_lookup] at hold
    simp only [← entries_lookup, lookup_map_expiry, hold]
    rfl

/-- Asking for the statistics changes nothing. -/
theorem stats (hf : Faithful ttl cap h m) :
    Faithful ttl cap ((now, .stats) :: h) (m.call now .stats) :=
  hf.keep rfl (fun _ => CacheCall.noConfusion) rfl fun _ _ _ _ _ _ => standing_stats

/-- The step lemma: every call of a timely history keeps the invariant. A put or a read is split
on whether its page has a key. -/
theorem call {c : CacheCall} (hf : Faithful ttl cap h m) (hcap : 1 ≤ cap) (httl : ttl.FloatLike)
    (hh : CacheHistory.Timely ((now, c) :: h)) :
    Faithful ttl cap ((now, c) :: h) (m.call now c) := by
  cases c with
  | put p s pg =>
    cases hps : fitsNumeral p && fitsNumeral s with
    | true =>
      obtain ⟨hp, hs⟩ := Bool.and_eq_true_iff.mp hps
      exact hf.putKeyed hcap hh.head (ttlAfter_floatLike httl hh.tail) hp hs pg
    | false => exact hf.putWide hps pg
  | get p s =>
    cases hps : fitsNumeral p && fitsNumeral s with
    | true =>
      obtain ⟨hp, hs⟩ := Bool.and_eq_true_iff.mp hps
      exact hf.getKeyed hh.head hp hs
    | false => exact hf.getWide hps
  | invalidate => exact hf.invalidate
  | setTtl d => exact hf.setTtl httl hh
  | stats => exact hf.stats

/-- The run lemma: a timely history keeps the invariant from the empty cache on. -/
theorem replay (hcap : 1 ≤ cap) (httl : ttl.FloatLike) (h : CacheHistory)
    (hh : CacheHistory.Timely h) :
    Faithful ttl cap h ((MemoryCache.empty ttl (.int cap)).replay h) := by
  induction h with
  | nil => exact empty ttl cap
  | cons x h ih =>
    obtain ⟨now, c⟩ := x
    exact (ih hh.tail).call hcap httl hh

/-- What a read of a page with a key at a clock reading that is a number answers: only a page
that stands and has not expired, and, while the pages put since the last drop fit, every such
page. -/
theorem get_answer (hf : Faithful ttl cap h m) (hnow : now.FloatLike) {p s : Int}
    (hp : fitsNumeral p = true) (hs : fitsNumeral s = true) :
    ∃ r m', m.get now (.int p) (.int s) = .ok (r, m') ∧
      (∀ pg, r = some pg → ∃ e, Standing ttl h p s pg e ∧ Json.relate .lt now e = .ok true) ∧
      (((putsSinceDrop h).dedup.length : Int) ≤ cap →
        ∀ pg e, Standing ttl h p s pg e → Json.relate .lt now e = .ok true → r = some pg) := by
  obtain ⟨x, hx, -⟩ := hnow
  have hck := cacheKey_int_of_fits hp hs
  cases he : m.entry? (pageKey p s) with
  | none =>
    refine ⟨none, _, get_absent hck he, fun _ hr => ?_, fun hb pg e hst _ => ?_⟩
    · cases hr
    · rw [hf.complete hb p s pg e hp hs hst] at he
      cases he
  | some en =>
    obtain ⟨n, hn⟩ := hf.numeric _ (mem_entries_of_lookup he)
    have hy : Num.ofJson? en.expiresAt = some n := by rw [hn, Num.ofJson?_toJson]
    cases hlt : Json.relate .lt now en.expiresAt with
    | error f => simp [Json.relate_of_num hx hy] at hlt
    | ok live =>
      cases live with
      | true =>
        refine ⟨some en.page, _, get_hit hck he hlt, ?_, fun hb pg e hst _ => ?_⟩
        · intro pg hr
          cases hr
          exact ⟨en.expiresAt, hf.sound p s en hp hs he, hlt⟩
        · rw [hf.complete hb p s pg e hp hs hst] at he
          cases he
          rfl
      | false =>
        -- a miss: the entry that stands expired, so no live page stands
        obtain ⟨expired, hge⟩ : ∃ b, Json.relate .ge now en.expiresAt = .ok b :=
          ⟨_, Json.relate_of_num hx hy⟩
        refine ⟨none, _, get_stale hck he hlt hge, fun _ hr => ?_, fun hb pg e hst hlive => ?_⟩
        · cases hr
        · rw [hf.complete hb p s pg e hp hs hst] at he
          cases he
          cases hlive.symm.trans hlt

end Faithful

/-- **The in-memory cache answers the latest live write.** From an empty in-memory cache holding
at least one page, after any calls whose clock readings and new times-to-live are numbers a
float can hold, as is the first time-to-live, a read of page `p` of `s` rows, both of at most
`maxIntDigits` digits, at such a reading `now` answers. A page it answers is the one the latest
put of the page since the last drop wrote, with an expiry `e` computed from the clock reading and
time-to-live of that put or of the newest change of the time-to-live after it, `now` before `e`,
and no read since that found it expired. While no more pages with a key were put since the last
drop than the cache holds, every such page is answered. Puts and reads of pages of more digits,
which are refused, may come in between. -/
theorem cache_answers_latest_live_write (ttl : Json) (cap : Int) (h : CacheHistory) (now : Json)
    (p s : Int) (hcap : 1 ≤ cap) (httl : ttl.FloatLike) (hh : CacheHistory.Timely h)
    (hnow : now.FloatLike) (hp : fitsNumeral p = true) (hs : fitsNumeral s = true) :
    let m := (MemoryCache.empty ttl (.int cap)).replay h
    ∃ r m', m.get now (.int p) (.int s) = .ok (r, m') ∧
      (∀ pg, r = some pg → ∃ e, Standing ttl h p s pg e ∧ Json.relate .lt now e = .ok true) ∧
      (((putsSinceDrop h).dedup.length : Int) ≤ cap →
        ∀ pg e, Standing ttl h p s pg e → Json.relate .lt now e = .ok true → r = some pg) :=
  (Faithful.replay hcap httl h hh).get_answer hnow hp hs

theorem cache_answers_latest_live_write_after_ttl_change :
    (1 : Int) ≤ 10 ∧ (Json.float 300.0).FloatLike ∧
      CacheHistory.Timely
        [(.float 1005.0, .setTtl (.float 60.0)), (.float 1000.0, .put 1 10 default)] ∧
      (Json.float 1010.0).FloatLike ∧ fitsNumeral 1 = true ∧ fitsNumeral 10 = true ∧
      let h : CacheHistory := [(.float 1005.0, .setTtl (.float 60.0)),
        (.float 1000.0, .put 1 10 default)]
      let m := (MemoryCache.empty (.float 300.0) (.int 10)).replay h
      ∃ r m', m.get (.float 1010.0) (.int 1) (.int 10) = .ok (r, m') ∧
        (∀ pg, r = some pg → ∃ e, Standing (.float 300.0) h 1 10 pg e ∧
          Json.relate .lt (.float 1010.0) e = .ok true) ∧
        (((putsSinceDrop h).dedup.length : Int) ≤ 10 → ∀ pg e, Standing (.float 300.0) h 1 10 pg e →
          Json.relate .lt (.float 1010.0) e = .ok true → r = some pg) := by
  have timely : CacheHistory.Timely [(.float 1005.0, .setTtl (.float 60.0)),
      (.float 1000.0, .put 1 10 default)] := by
    simp [CacheHistory.Timely, Json.floatLike_float]
  have h1 : fitsNumeral 1 = true := fitsNumeral_of_lt (by decide)
  have h10 : fitsNumeral 10 = true := fitsNumeral_of_lt (by decide)
  exact ⟨by decide, Json.floatLike_float _, timely, Json.floatLike_float _, h1, h10,
    cache_answers_latest_live_write _ _ _ _ 1 10 (by decide) (Json.floatLike_float _) timely
      (Json.floatLike_float _) h1 h10⟩

/- A shorter time-to-live set after a put counts from the change: the page put at `1000` for
`300` seconds expires at `1002 + 5`, so a read at `1010` finds nothing. -/
example : ((((MemoryCache.empty (.int 300) (.int 10)).replay
    [(.int 1002, .setTtl (.int 5)), (.int 1000, .put 1 10 default)]).get (.int 1010) (.int 1)
      (.int 10)).toOption.bind Prod.fst).isSome = false := by decide +kernel

/-- A time-to-live of `-2 ^ 1024` seconds cannot be added to the float clock reading `1000.0`:
set there, it fails after becoming the time-to-live, and the page put just before keeps its old
expiry and is still read, though no expiry of it can be computed from the change. -/
theorem failed_ttl_change_keeps_old_expiry :
    let h : CacheHistory :=
      [(.float 1000.0, .setTtl (.int (-2 ^ 1024))), (.float 1000.0, .put 1 10 default)]
    let m := (MemoryCache.empty (.int 300) (.int 10)).replay h
    ((m.get (.float 1000.0) (.int 1) (.int 10)).toOption.bind Prod.fst).isSome = true ∧
      ¬ ∃ front t₀ pg rest e, PutLast h 1 10 front t₀ pg rest ∧
        expiryAfter t₀ (ttlAfter (.int 300) rest) front = .ok e ∧
        Json.relate .lt (.float 1000.0) e = .ok true := by
  intro h m
  have hfails : (Json.add (.float 1000.0) (.int (-2 ^ 1024))).toBool = false := by decide +kernel
  refine ⟨by decide +kernel, ?_⟩
  rintro ⟨front, t₀, pg, rest, e, hlast, hexp, -⟩
  rcases putLast_cons.mp hlast with ⟨-, hput, -, -⟩ | ⟨front', rfl, -, hlast'⟩
  · cases hput
  · rcases putLast_cons.mp hlast' with ⟨rfl, -, rfl, rfl⟩ | ⟨_, -, -, hnil, -⟩
    · -- the expiry from the change is the sum that fails
      rw [expiryAfter_setTtl] at hexp
      rw [hexp] at hfails
      cases hfails
    · simp at hnil

end Arbor
