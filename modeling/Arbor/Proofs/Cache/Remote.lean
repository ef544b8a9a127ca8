import Arbor.Cache.Remote
import Arbor.Proofs.Cache.History
import Arbor.Proofs.Cache.Key
import Arbor.Proofs.Page.Codec
import Mathlib

set_option autoImplicit false

/-! # The remote cache over a client that behaves as a map

The remote cache reaches its server through a `Client`. Here the client is any one that holds
text under text keys as a map does and whose reads, writes and deletes never fail
(`Client.MapLike`): a read finds what is stored under its key, a write stores its text under its
key whatever its time-to-live, a delete removes the keys it names, and nothing expires. Its scans
keep the promises of a full iteration (`Client.ScansFully`): no scan fails, a scan reports only
keys with the prefix asked for, scans from cursor 0 come back to cursor 0 within the client's
bound on rounds even when keys are deleted between two scans, and such a full iteration reports
every key with the prefix that was stored all along.

Over such a client an invalidation deletes exactly the keys of the page cache, however many
rounds it takes (`invalidate_deletes_page_keys`): each round deletes the batch its scan reported,
so a key with the prefix that no scan reported was stored all along, which a full iteration rules
out. What the server holds after any history of calls is then read off the history
(`storedAfter`), and a read of a page finds the page of its latest put since the last
invalidation (`latestPut`), and nothing when there is none (`remote_cache_answers_latest_put`),
once every page put is a document the cache writes and reads back whole. A put carries out its
write only for a page with a key, whose number and size have at most `maxIntDigits` digits, and a
document neither nested too deep nor holding an integer of more digits (`CacheCall.Writable`);
any other put fails before it sends anything.
-/

namespace Arbor

namespace Client

variable {σ : Type} (cl : Client σ) (view : σ → Text → Option Text)

/-- The client holds text under text keys as a map does, seen through `view`, and none of its
reads, writes and deletes fails: a read finds the text under its key, a write stores its text
under its key whatever its time-to-live, and a delete removes the keys it names. -/
structure MapLike : Prop where
  read : ∀ s k, cl.read s k = .ok ((view s k).map .str)
  setex : ∀ s k ttl v, ∃ s', cl.setex s k ttl v = .ok s' ∧
    ∀ k', view s' k' = if k' = k then some v else view s k'
  remove : ∀ s ks, ∃ s', cl.remove s ks = .ok s' ∧
    ∀ k, view s' k = if k ∈ ks then none else view s k

/-- State `s'` holds no key that `s` does not. -/
def Keeps (s s' : σ) : Prop := ∀ k, view s' k ≠ none → view s k ≠ none

/-- Deleting keys keeps no key that was not there. -/
theorem keeps_of_delete {s s' : σ} {ks : List Text}
    (hview : ∀ k, view s' k = if k ∈ ks then none else view s k) : Keeps view s s' := by
  intro k hk
  rw [hview k] at hk
  by_cases hk' : k ∈ ks
  · rw [if_pos hk'] at hk
    exact absurd rfl hk
  · rwa [if_neg hk'] at hk

/-- Successive scans for the keys with prefix `pre`, 100 to a batch, from cursor `c` at state
`s`: each scan after the first is made at a state holding no key the one before did not, from the
cursor the one before returned, which is not 0. `steps` lists each scan's state and batch, and
`next` is the cursor the last scan returned. -/
inductive Scans (pre : Text) : σ → Nat → List (σ × List Text) → Nat → Prop
  | one {s : σ} {c next : Nat} {ks : List Text} (hscan : cl.scan s c pre 100 = .ok (next, ks)) :
      Scans pre s c [(s, ks)] next
  | more {s s' : σ} {c c' next : Nat} {ks : List Text} {steps : List (σ × List Text)}
      (hscan : cl.scan s c pre 100 = .ok (c', ks)) (hc' : c' ≠ 0) (hkeeps : Keeps view s s')
      (rest : Scans pre s' c' steps next) :
      Scans pre s c ((s, ks) :: steps) next

/-- The keys the scans of `steps` reported. -/
def reported (steps : List (σ × List Text)) : List Text := steps.flatMap (·.2)

/-- The client's scans for keys with prefix `pre` keep the promises of a full iteration: no scan
fails; a scan reports only keys with the prefix; the bound on an invalidation's rounds leaves
room for the first scan, and for one more after every run of scans from cursor 0 that has not
come back to 0; and a run from cursor 0 back to cursor 0 reports every key with the prefix that
each of its scans found stored. -/
structure ScansFully (pre : Text) : Prop where
  ok : ∀ s c, ∃ r, cl.scan s c pre 100 = .ok r
  matching : ∀ s c next ks, cl.scan s c pre 100 = .ok (next, ks) →
    ∀ k ∈ ks, k.startsWith pre
  rounds_pos : ∀ s, 0 < cl.rounds s
  ends : ∀ s steps next, Scans cl view pre s 0 steps next → next ≠ 0 →
    steps.length < cl.rounds s
  complete : ∀ s steps, Scans cl view pre s 0 steps 0 → ∀ k, k.startsWith pre →
    (∀ t ∈ steps, view t.1 k ≠ none) → k ∈ reported steps

variable {cl view}

@[simp] theorem reported_nil : reported ([] : List (σ × List Text)) = [] := rfl

@[simp] theorem reported_cons (s : σ) (ks : List Text) (steps : List (σ × List Text)) :
    reported ((s, ks) :: steps) = ks ++ reported steps := rfl

/-- Every key a run of scans reports has the prefix it scanned for. The induction is on the
run. -/
theorem Scans.startsWith {pre : Text} (hscan : cl.ScansFully view pre) {s : σ} {c next : Nat}
    {steps : List (σ × List Text)} (h : Scans cl view pre s c steps next) :
    ∀ k ∈ reported steps, k.startsWith pre := by
  induction h with
  | one hsc =>
    intro k hk
    exact hscan.matching _ _ _ _ hsc k (by simpa using hk)
  | more hsc _ _ _ ih =>
    intro k hk
    rcases List.mem_append.mp (by simpa using hk) with hk | hk
    · exact hscan.matching _ _ _ _ hsc k hk
    · exact ih k hk

end Client

namespace RemoteCache

variable {σ : Type} {cl : Client σ} {view : σ → Text → Option Text}

/-! ## An invalidation, round by round -/

/-- A round deletes the batch its scan reported, or nothing when the batch is empty. -/
theorem delete_batch (hmap : cl.MapLike view) (s : σ) (ks : List Text) :
    ∃ s', (ks.isEmpty ∧ s' = s ∨ ks.isEmpty = false ∧ cl.remove s ks = .ok s') ∧
      ∀ k, view s' k = if k ∈ ks then none else view s k := by
  by_cases hks : ks.isEmpty
  · have hnil : ks = [] := List.isEmpty_iff.mp hks
    subst hnil
    exact ⟨s, .inl ⟨rfl, rfl⟩, fun k => by simp⟩
  · obtain ⟨s', hrem, hview⟩ := hmap.remove s ks
    exact ⟨s', .inr ⟨by simpa using hks, hrem⟩, hview⟩

/-- One round of a sweep: scan, delete the batch, and stop at cursor 0. -/
theorem sweep_succ {s s₁ : σ} {c next : Nat} {ks : List Text} (fuel : Nat)
    (hscan : cl.scan s c keyPrefix 100 = .ok (next, ks))
    (hdel : ks.isEmpty ∧ s₁ = s ∨ ks.isEmpty = false ∧ cl.remove s ks = .ok s₁) :
    sweep cl s c (fuel + 1) = if next = 0 then .ok s₁ else sweep cl s₁ next fuel := by
  rw [sweep]
  rcases hdel with ⟨hks, rfl⟩ | ⟨hks, hrem⟩
  · simp [hscan, absorb, bind, Except.bind, hks, pure, Except.pure]
  · simp [hscan, absorb, bind, Except.bind, hks, hrem, pure, Except.pure]

/-- **A sweep, round by round.** With room for a scan after every run of scans from cursor `c`
at `s` that has not come back to 0, the sweep makes a run of scans back to cursor 0 and deletes
exactly what they reported; each of its scans found the keys of `s` that no scan reported as `s`
had them. The induction is on the rounds left. -/
theorem sweep_scans (hmap : cl.MapLike view) (hscan : cl.ScansFully view keyPrefix) :
    ∀ (fuel : Nat) (s : σ) (c : Nat), 0 < fuel →
      (∀ steps next, Client.Scans cl view keyPrefix s c steps next → next ≠ 0 →
        steps.length < fuel) →
      ∃ steps s', Client.Scans cl view keyPrefix s c steps 0 ∧ sweep cl s c fuel = .ok s' ∧
        (∀ k, view s' k = if k ∈ Client.reported steps then none else view s k) ∧
        ∀ t ∈ steps, ∀ k, k ∉ Client.reported steps → view t.1 k = view s k := by
  intro fuel
  induction fuel with
  | zero => intro s c hpos; omega
  | succ fuel ih =>
    intro s c _ hroom
    obtain ⟨⟨next, ks⟩, hsc⟩ := hscan.ok s c
    obtain ⟨s₁, hdel, hview₁⟩ := delete_batch hmap s ks
    rw [sweep_succ fuel hsc hdel]
    by_cases hnext : next = 0
    · -- the last round
      subst hnext
      refine ⟨[(s, ks)], s₁, .one hsc, if_pos rfl, fun k => by simpa using hview₁ k, ?_⟩
      intro t ht k _
      rw [List.mem_singleton.mp ht]
    · -- a round that leaves the sweep to go on from the deleted state
      rw [if_neg hnext]
      have hkeeps : Client.Keeps view s s₁ := Client.keeps_of_delete view hview₁
      have hpos : 0 < fuel := by
        have hone := hroom _ _ (.one hsc) hnext
        simp only [List.length_singleton] at hone
        omega
      have hroom' : ∀ steps next', Client.Scans cl view keyPrefix s₁ next steps next' →
          next' ≠ 0 → steps.length < fuel := fun steps next' hs hn' => by
        have hmore := hroom _ _ (.more hsc hnext hkeeps hs) hn'
        simp only [List.length_cons] at hmore
        omega
      obtain ⟨steps, s', hs, hsweep, hview, hseen⟩ := ih s₁ next hpos hroom'
      refine ⟨(s, ks) :: steps, s', .more hsc hnext hkeeps hs, hsweep, fun k => ?_, ?_⟩
      · rw [hview k, hview₁ k, Client.reported_cons]
        by_cases hk : k ∈ ks <;> by_cases hk' : k ∈ Client.reported steps <;> simp [hk, hk']
      · intro t ht k hk
        rw [Client.reported_cons, List.mem_append, not_or] at hk
        rcases List.mem_cons.mp ht with rfl | ht
        · rfl
        · rw [hseen t ht k hk.2, hview₁ k, if_neg hk.1]

/-- **Invalidation deletes exactly the keys of the page cache**, however many rounds it takes,
and leaves every other key as it was. -/
theorem invalidate_deletes_page_keys (hmap : cl.MapLike view)
    (hscan : cl.ScansFully view keyPrefix) (s : σ) :
    ∃ s', invalidate cl s = .ok s' ∧
      ∀ k, view s' k = if k.startsWith keyPrefix then none else view s k := by
  obtain ⟨steps, s', hs, hsweep, hview, hseen⟩ :=
    sweep_scans hmap hscan (cl.rounds s) s 0 (hscan.rounds_pos s) (hscan.ends s)
  refine ⟨s', hsweep, fun k => ?_⟩
  rw [hview k]
  by_cases hrep : k ∈ Client.reported steps
  · rw [if_pos hrep, if_pos (hs.startsWith hscan k hrep)]
  · rw [if_neg hrep]
    by_cases hpre : k.startsWith keyPrefix
    · -- a key with the prefix that no scan reported: every scan found it as `s` had it, so it
      -- was not stored, or the full iteration would have reported it
      rw [if_pos hpre]
      by_contra hstored
      exact hrep (hscan.complete s steps hs k hpre fun t ht => by
        rw [hseen t ht k hrep]
        exact hstored)
    · rw [if_neg hpre]

end RemoteCache

/-! ## What a history leaves on the server -/

/-- A call the remote cache carries out whole at nesting `n`: a put of a page with a key whose
document can be written, neither nested too deep nor holding an integer too long to write, or
any call other than a put. -/
def CacheCall.Writable (n : Nat) : CacheCall → Prop
  | .put p q pg => fitsNumeral p = true ∧ fitsNumeral q = true ∧
      pg.toJson.writeFault n false ≠ some .tooDeep ∧
      pg.toJson.writeFault n false ≠ some .tooManyDigits
  | _ => True

/-- What a call does to the text stored under each key: a put writes its page's document under
the page's key, an invalidation drops every key of the page cache, and the other calls write
nothing. -/
def storeStep : CacheCall → (Text → Option Text) → Text → Option Text
  | .put p q pg, v => fun k =>
    if k = pageKey p q then some (pg.toJson.write false) else v k
  | .invalidate, v => fun k => if k.startsWith keyPrefix then none else v k
  | _, v => v

/-- The text stored under each key after the calls of a history, newest first, from `v` on. -/
def storedAfter (v : Text → Option Text) : CacheHistory → Text → Option Text
  | [] => v
  | (_, x) :: h => storeStep x (storedAfter v h)

/-- The page of the latest put of page `p` of `q` rows since the last invalidation. -/
def latestPut (p q : Int) : CacheHistory → Option Page
  | [] => none
  | (_, .put p' q' pg) :: h => if p' = p ∧ q' = q then some pg else latestPut p q h
  | (_, .invalidate) :: _ => none
  | _ :: h => latestPut p q h

/-- **What the server holds under a page's key.** From a map holding no key of the page cache,
the text under the key of page `p` of `q` rows is the document of its latest put since the last
invalidation, and nothing when there is none. The induction is on the history. -/
theorem storedAfter_pageKey {v : Text → Option Text}
    (hfresh : ∀ k, k.startsWith keyPrefix → v k = none) (p q : Int) (h : CacheHistory) :
    storedAfter v h (pageKey p q) = (latestPut p q h).map fun pg => pg.toJson.write false := by
  induction h with
  | nil => exact hfresh _ (pageKey_startsWith p q)
  | cons y h ih =>
    obtain ⟨now, x⟩ := y
    cases x with
    | put p' q' pg =>
      by_cases hpq : p' = p ∧ q' = q
      · obtain ⟨rfl, rfl⟩ := hpq
        simp [storedAfter, storeStep, latestPut]
      · -- another page's key: the keys of two pages differ
        have hkey : pageKey p q ≠ pageKey p' q' := fun heq =>
          hpq ⟨(pageKey_inj heq).1.symm, (pageKey_inj heq).2.symm⟩
        simp only [storedAfter, storeStep, latestPut, if_neg hkey, if_neg hpq, ih]
    | invalidate => simp [storedAfter, storeStep, latestPut, pageKey_startsWith]
    | get => exact ih
    | setTtl => exact ih
    | stats => exact ih

namespace RemoteCache

variable {σ : Type} {cl : Client σ} {view : σ → Text → Option Text}

/-! ## One call -/

/-- The text of a page's document is never empty: it is an object. -/
theorem write_page_isEmpty (pg : Page) : (pg.toJson.write false).isEmpty = false := rfl

/-- A stored page's document whose text reads back reads back as the page. -/
theorem decode_write (c : RemoteCache) {pg : Page}
    (hrt : Json.readWithin c.nesting (pg.toJson.write false) = .ok pg.toJson) :
    c.decode (some (.str (pg.toJson.write false))) = .ok (some pg) := by
  simp [decode, write_page_isEmpty, hrt, Page.ofJson?_toJson]

/-- A read finds the page whose document is stored under the page's key, and nothing when no
text is there; it changes only the counters. -/
theorem get_stored (hmap : cl.MapLike view) (c : RemoteCache) (s : σ) {page pageSize : Json}
    {key : Text} (hck : cacheKey page pageSize = .ok key) {o : Option Page}
    (hv : view s key = o.map fun pg => pg.toJson.write false)
    (hrt : ∀ pg ∈ o, Json.readWithin c.nesting (pg.toJson.write false) = .ok pg.toJson) :
    ∃ c', c.get cl s page pageSize = .ok (o, c') := by
  cases o with
  | none =>
    refine ⟨{ c with misses := c.misses + 1 }, ?_⟩
    simp [get, hck, hmap.read, hv, absorb, decode, bind, Except.bind, pure, Except.pure]
  | some pg =>
    refine ⟨{ c with hits := c.hits + 1 }, ?_⟩
    simp [get, hck, hmap.read, hv, absorb, decode_write c (hrt pg rfl), bind, Except.bind, pure,
      Except.pure]

/-- A read changes only the counters. -/
theorem get_nesting {c c' : RemoteCache} {s : σ} {page pageSize : Json} {r : Option Page}
    (h : c.get cl s page pageSize = .ok (r, c')) : c'.nesting = c.nesting := by
  unfold get at h
  simp only [bind, Except.bind, pure, Except.pure] at h
  repeat' split at h
  all_goals (cases h <;> rfl)

/-- A change of the time-to-live leaves the nesting. -/
theorem setTtl_nesting {c c' : RemoteCache} {ttl : Json} (h : c.setTtl ttl = .ok c') :
    c'.nesting = c.nesting := by
  unfold setTtl at h
  cases hi : ttl.toInt with
  | error f => simp [hi, bind, Except.bind] at h
  | ok n =>
    simp only [hi, bind, Except.bind, pure, Except.pure, Except.ok.injEq] at h
    rw [← h]

/-- A put of a page with a key that the cache can write stores its document under the key. -/
theorem put_stores (hmap : cl.MapLike view) (c : RemoteCache) (s : σ) {page pageSize : Json}
    {key : Text} (hck : cacheKey page pageSize = .ok key) {pg : Page}
    (hdeep : pg.toJson.writeFault c.nesting false ≠ some .tooDeep)
    (hdigits : pg.toJson.writeFault c.nesting false ≠ some .tooManyDigits) :
    ∃ s', c.put cl s page pageSize pg = .ok s' ∧
      ∀ k, view s' k = if k = key then some (pg.toJson.write false) else view s k := by
  obtain ⟨s', hset, hview⟩ := hmap.setex s key c.ttl (pg.toJson.write false)
  refine ⟨s', ?_, hview⟩
  -- the document is written unless it is too deep or too long; a float without digits is kept
  cases hw : pg.toJson.writeFault c.nesting false with
  | none => simp [put, hck, hw, hset, absorb, bind, Except.bind, pure, Except.pure]
  | some f =>
    cases f with
    | tooDeep => exact absurd hw hdeep
    | tooManyDigits => exact absurd hw hdigits
    | nonFinite => simp [put, hck, hw, hset, absorb, bind, Except.bind, pure, Except.pure]

variable (cl) in
/-- The cache and its server after the call `x`; a call that fails leaves both as they were. The
clock plays no part: the server expires nothing. -/
def call (st : RemoteCache × σ) : CacheCall → RemoteCache × σ
  | .put p q pg =>
    match st.1.put cl st.2 (.int p) (.int q) pg with
    | .ok s => (st.1, s)
    | .error _ => st
  | .get p q =>
    match st.1.get cl st.2 (.int p) (.int q) with
    | .ok (_, c) => (c, st.2)
    | .error _ => st
  | .invalidate =>
    match invalidate cl st.2 with
    | .ok s => (st.1, s)
    | .error _ => st
  | .setTtl ttl =>
    match st.1.setTtl ttl with
    | .ok c => (c, st.2)
    | .error _ => st
  | .stats => st

variable (cl) in
/-- The cache and its server after the calls of a history, newest first, from `st` on. -/
def replay (st : RemoteCache × σ) : CacheHistory → RemoteCache × σ
  | [] => st
  | (_, x) :: h => call cl (replay st h) x

/-- **One call.** Over a client that behaves as a map and scans fully, a call keeps the cache's
nesting and does to the stored text what `storeStep` says, once a page it puts can be written. -/
theorem call_view (hmap : cl.MapLike view) (hscan : cl.ScansFully view keyPrefix)
    (st : RemoteCache × σ) (x : CacheCall) (hx : x.Writable st.1.nesting) :
    (call cl st x).1.nesting = st.1.nesting ∧
      view (call cl st x).2 = storeStep x (view st.2) := by
  obtain ⟨c, s⟩ := st
  cases x with
  | put p q pg =>
    obtain ⟨hp, hq, hdeep, hdigits⟩ := hx
    obtain ⟨s', hput', hview⟩ :=
      put_stores hmap c s (cacheKey_int_of_fits hp hq) hdeep hdigits
    simp only [call, hput', true_and]
    exact funext hview
  | get p q =>
    simp only [call]
    split
    · exact ⟨get_nesting ‹_›, rfl⟩
    · exact ⟨rfl, rfl⟩
  | invalidate =>
    obtain ⟨s', hinv, hview⟩ := invalidate_deletes_page_keys hmap hscan s
    simp only [call, hinv, true_and]
    exact funext hview
  | setTtl ttl =>
    simp only [call]
    split
    · exact ⟨setTtl_nesting ‹_›, rfl⟩
    · exact ⟨rfl, rfl⟩
  | stats => exact ⟨rfl, rfl⟩

/-- **Every history.** The cache keeps its nesting and the server holds what `storedAfter` says,
once every page put can be written. The induction is on the history, newest call first. -/
theorem replay_view (hmap : cl.MapLike view) (hscan : cl.ScansFully view keyPrefix)
    (c : RemoteCache) (s : σ) (h : CacheHistory) (hdocs : ∀ x ∈ h, x.2.Writable c.nesting) :
    (replay cl (c, s) h).1.nesting = c.nesting ∧
      view (replay cl (c, s) h).2 = storedAfter (view s) h := by
  induction h with
  | nil => exact ⟨rfl, rfl⟩
  | cons y h ih =>
    obtain ⟨now, x⟩ := y
    obtain ⟨hnest, hview⟩ := ih fun z hz => hdocs z (List.mem_cons_of_mem _ hz)
    have hstep := call_view hmap hscan (replay cl (c, s) h) x
      (hnest ▸ hdocs (now, x) List.mem_cons_self)
    refine ⟨hstep.1.trans hnest, ?_⟩
    rw [replay, hstep.2, hview]
    rfl

end RemoteCache

/-- **The remote cache answers the latest put.** Over a client that behaves as a map and scans
fully, from a server holding no key of the page cache, after any history of calls whose pages the
cache carries out whole, a read of page `p` of `q` rows, both of at most `maxIntDigits` digits,
answers the page of its latest put since the last invalidation, once that page's text reads back,
and nothing when there is none; and an
invalidation, from any state of the server, deletes exactly the keys of the page cache and leaves
every other key. -/
theorem remote_cache_answers_latest_put {σ : Type} (cl : Client σ)
    (view : σ → Text → Option Text) (hmap : cl.MapLike view)
    (hscan : cl.ScansFully view keyPrefix) (c : RemoteCache) (s : σ)
    (hfresh : ∀ k, k.startsWith keyPrefix → view s k = none) (h : CacheHistory)
    (hwrite : ∀ x ∈ h, x.2.Writable c.nesting) (p q : Int) (hp : fitsNumeral p = true)
    (hq : fitsNumeral q = true) (hread : ∀ pg, latestPut p q h = some pg →
      Json.readWithin c.nesting (pg.toJson.write false) = .ok pg.toJson) :
    (∃ c', (RemoteCache.replay cl (c, s) h).1.get cl (RemoteCache.replay cl (c, s) h).2
        (.int p) (.int q) = .ok (latestPut p q h, c')) ∧
      ∀ s' : σ, ∃ s'', RemoteCache.invalidate cl s' = .ok s'' ∧
        ∀ k, view s'' k = if k.startsWith keyPrefix then none else view s' k := by
  obtain ⟨hnest, hview⟩ := RemoteCache.replay_view hmap hscan c s h hwrite
  refine ⟨?_, RemoteCache.invalidate_deletes_page_keys hmap hscan⟩
  -- the server holds the latest put's document under the page's key, and that reads back
  have hkey : view (RemoteCache.replay cl (c, s) h).2 (pageKey p q) =
      (latestPut p q h).map fun pg => pg.toJson.write false := by
    rw [hview]
    exact storedAfter_pageKey hfresh p q h
  refine RemoteCache.get_stored hmap _ _ (cacheKey_int_of_fits hp hq) hkey fun pg hpg => ?_
  rw [hnest]
  exact hread pg hpg

/-! ## A client over an association list

A client that meets both contracts: it keeps its keys in an association list, newest write first,
and lists every key with the prefix in one batch. -/

/-- A client over an association list, newest write first, whose every scan lists all the keys
with the prefix in one batch. -/
def listClient : Client (List (Text × Text)) where
  ping _ := .ok ()
  read s k := .ok ((s.lookup k).map .str)
  setex s k _ v := .ok ((k, v) :: s)
  scan s _ pre _ := .ok (0, (s.map (·.1)).filter (·.startsWith pre))
  remove s ks := .ok (s.filter fun kv => !ks.contains kv.1)
  info _ := .ok (Text.ofString "0B")
  dbsize s := .ok s.length
  rounds _ := 1

theorem lookup_text_cons (k k' v : Text) (s : List (Text × Text)) :
    ((k', v) :: s).lookup k = if k = k' then some v else s.lookup k := by
  by_cases h : k = k'
  · subst h
    simp
  · rw [List.lookup_cons, beq_eq_false_iff_ne.mpr h, if_neg h]

theorem mem_keys_of_lookup {s : List (Text × Text)} {k : Text} (h : s.lookup k ≠ none) :
    k ∈ s.map (·.1) := by
  induction s with
  | nil => exact absurd rfl h
  | cons kv s ih =>
    obtain ⟨k', v⟩ := kv
    rw [lookup_text_cons] at h
    by_cases hkk : k = k'
    · simp [hkk]
    · rw [if_neg hkk] at h
      exact List.mem_cons_of_mem _ (ih h)

/-- Dropping the entries of the keys `ks` deletes those keys and leaves the others. -/
theorem lookup_filter_not_mem (ks : List Text) (s : List (Text × Text)) (k : Text) :
    (s.filter fun kv => !ks.contains kv.1).lookup k = if k ∈ ks then none else s.lookup k := by
  induction s with
  | nil => simp
  | cons kv s ih =>
    obtain ⟨k', v⟩ := kv
    by_cases hk' : k' ∈ ks
    · rw [List.filter_cons_of_neg (by simpa using hk'), ih, lookup_text_cons]
      by_cases hkk : k = k'
      · subst hkk
        simp [hk']
      · simp [hkk]
    · rw [List.filter_cons_of_pos (by simpa using hk'), lookup_text_cons, lookup_text_cons, ih]
      by_cases hkk : k = k'
      · subst hkk
        simp [hk']
      · simp [hkk]

theorem listClient_mapLike : listClient.MapLike fun s k => s.lookup k where
  read _ _ := rfl
  setex s k _ v := ⟨_, rfl, fun k' => lookup_text_cons k' k v s⟩
  remove s ks := ⟨_, rfl, lookup_filter_not_mem ks s⟩

theorem listClient_scansFully : listClient.ScansFully (fun s k => s.lookup k) keyPrefix where
  ok _ _ := ⟨_, rfl⟩
  matching s c next ks h k hk := by
    simp only [listClient, Except.ok.injEq, Prod.mk.injEq] at h
    rw [← h.2] at hk
    exact (List.mem_filter.mp hk).2
  rounds_pos _ := Nat.one_pos
  ends s steps next h hnext := by
    -- the first scan already returns cursor 0
    cases h with
    | one hsc =>
      simp only [listClient, Except.ok.injEq, Prod.mk.injEq] at hsc
      exact absurd hsc.1.symm hnext
    | more hsc hc' =>
      simp only [listClient, Except.ok.injEq, Prod.mk.injEq] at hsc
      exact absurd hsc.1.symm hc'
  complete s steps h k hk hstored := by
    cases h with
    | one hsc =>
      simp only [listClient, Except.ok.injEq, Prod.mk.injEq] at hsc
      have hin : k ∈ s.map (·.1) := mem_keys_of_lookup (hstored (s, _) List.mem_cons_self)
      rw [← hsc.2, Client.reported_cons, Client.reported_nil, List.append_nil]
      exact List.mem_filter.mpr ⟨hin, hk⟩
    | more hsc hc' =>
      simp only [listClient, Except.ok.injEq, Prod.mk.injEq] at hsc
      exact absurd hsc.1.symm hc'

/-- A page with no trees. -/
def emptyPage : Page := ⟨[], ⟨.int 1, .int 10, .int 0, .int 0, .bool false, .bool false⟩⟩

/-- Page 1 put and every page dropped, over a server holding one key of its own: a read of page 1
finds nothing, and the server's own key stays. -/
theorem remote_cache_forgets_dropped_put :
    listClient.MapLike (fun s k => s.lookup k) ∧
    listClient.ScansFully (fun s k => s.lookup k) keyPrefix ∧
    (∀ k, k.startsWith keyPrefix →
      [(Text.ofString "session", Text.ofString "x")].lookup k = none) ∧
    (∀ x ∈ [((Json.int 3), CacheCall.get 1 10), (.int 2, .invalidate),
        (.int 1, .put 1 10 emptyPage)], x.2.Writable RemoteCache.directNesting) ∧
    fitsNumeral 1 = true ∧ fitsNumeral 10 = true ∧
    (∀ pg, latestPut 1 10 [((Json.int 3), CacheCall.get 1 10), (.int 2, .invalidate),
        (.int 1, .put 1 10 emptyPage)] = some pg →
      Json.readWithin RemoteCache.directNesting (pg.toJson.write false) = .ok pg.toJson) ∧
    ((∃ c', (RemoteCache.replay listClient (⟨300, 0, 0, RemoteCache.directNesting⟩,
          [(Text.ofString "session", Text.ofString "x")])
          [(.int 3, .get 1 10), (.int 2, .invalidate), (.int 1, .put 1 10 emptyPage)]).1.get
        listClient
        (RemoteCache.replay listClient (⟨300, 0, 0, RemoteCache.directNesting⟩,
          [(Text.ofString "session", Text.ofString "x")])
          [(.int 3, .get 1 10), (.int 2, .invalidate), (.int 1, .put 1 10 emptyPage)]).2
        (.int 1) (.int 10) =
        .ok (latestPut 1 10 [(.int 3, .get 1 10), (.int 2, .invalidate),
          (.int 1, .put 1 10 emptyPage)], c')) ∧
      ∀ s' : List (Text × Text), ∃ s'', RemoteCache.invalidate listClient s' = .ok s'' ∧
        ∀ k, s''.lookup k = if k.startsWith keyPrefix then none else s'.lookup k) := by
  have hfresh : ∀ k, k.startsWith keyPrefix →
      [(Text.ofString "session", Text.ofString "x")].lookup k = none := by
    intro k hk
    by_cases h : k = Text.ofString "session"
    · subst h
      exact absurd hk (by decide)
    · rw [lookup_text_cons, if_neg h]
      rfl
  have h1 : fitsNumeral 1 = true := fitsNumeral_of_lt (by decide)
  have h10 : fitsNumeral 10 = true := fitsNumeral_of_lt (by decide)
  have hwrite : ∀ x ∈ [((Json.int 3), CacheCall.get 1 10), (.int 2, .invalidate),
      (.int 1, .put 1 10 emptyPage)], x.2.Writable RemoteCache.directNesting := by
    intro x hx
    simp only [List.mem_cons, List.not_mem_nil, or_false] at hx
    rcases hx with rfl | rfl | rfl
    · trivial
    · trivial
    · exact ⟨h1, h10, by decide +kernel, by decide +kernel⟩
  -- the invalidation came after the put, so no put of page 1 stands
  have hread : ∀ pg, latestPut 1 10 [((Json.int 3), CacheCall.get 1 10), (.int 2, .invalidate),
      (.int 1, .put 1 10 emptyPage)] = some pg →
      Json.readWithin RemoteCache.directNesting (pg.toJson.write false) = .ok pg.toJson := by
    intro pg hpg
    cases hpg
  exact ⟨listClient_mapLike, listClient_scansFully, hfresh, hwrite, h1, h10, hread,
    remote_cache_answers_latest_put listClient _ listClient_mapLike listClient_scansFully _ _
      hfresh _ hwrite 1 10 h1 h10 hread⟩

/-- The page `10 ^ maxIntDigits` has no key: whatever the client, a put of it is refused before
anything is sent, and so is a read of it, so no put of it is ever read back. -/
theorem RemoteCache.wide_page_refused {σ : Type} (cl : Client σ) (c : RemoteCache) (s : σ)
    (pg : Page) :
    c.put cl s (.int (10 ^ maxIntDigits)) (.int 1) pg = .error .tooManyDigitsToWrite ∧
      c.get cl s (.int (10 ^ maxIntDigits)) (.int 1) = .error .tooManyDigitsToWrite := by
  have hck : cacheKey (.int (10 ^ maxIntDigits)) (.int 1) = .error .tooManyDigitsToWrite :=
    cacheKey_int_of_wide (by rw [fitsNumeral_pow]; rfl)
  constructor
  · simp [RemoteCache.put, hck, bind, Except.bind]
  · simp [RemoteCache.get, hck, bind, Except.bind]

/-- A cache of the service's server, called directly with a time-to-live of 300 seconds, refuses
to store page `10 ^ maxIntDigits` and to read it. -/
theorem remote_cache_refuses_wide_page :
    let c : RemoteCache := ⟨300, 0, 0, RemoteCache.directNesting⟩
    c.put Server.client Server.empty (.int (10 ^ maxIntDigits)) (.int 1) default =
        .error .tooManyDigitsToWrite ∧
      c.get Server.client Server.empty (.int (10 ^ maxIntDigits)) (.int 1) =
        .error .tooManyDigitsToWrite :=
  RemoteCache.wide_page_refused _ _ _ _

end Arbor
