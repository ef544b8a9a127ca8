import Arbor.Proofs.Store.Climb

set_option autoImplicit false

/-! # The backends find exactly the subtree

Both backends' walks down the parent links (`Store.subtreeIds` of the memory backend,
`Store.cteIds` of the SQL backend) stop on any data and find, on a store whose ids are distinct,
the node and exactly the stored nodes whose climb meets it, each once.

The memory backend's index lists under each parent the nodes linked to it, in store order
(`childrenIn_childIndex`). Its search keeps an invariant (`SearchInv`): every id seen climbs to
the node, every id queued is seen, and every id seen and no longer queued has all its children
seen. One visit keeps it (`SearchInv.step`); when the queue is empty the ids seen are closed under
children, so every id whose climb meets the node is among them (`SearchInv.complete`). Each visit
takes an id off the queue, and each id it queues is a stored id seen for the first time, so the
stored ids not seen and the queue together shrink at every visit: with `n` nodes, `n + 1` visits
are enough (`search_isSome`).

The SQL backend's rounds keep the same invariant without a queue (`RoundInv`): a round adds only
children of ids found, none found before; a round that adds none leaves the ids found closed
under children. Each productive round finds at least one stored id not found before, so `n + 1`
rounds are enough (`rounds_isSome`).

So the memory backend's search stops on any data and finds exactly the subtree
(`subtree_search_stops_and_is_exact`), and both backends find the same ids, each once, perhaps in
another order: every count and membership test of a write reads the same from either.
-/

namespace Arbor

namespace Store

variable {s : Store}

/-! ## The child index -/

@[simp] theorem childrenIn_nil (x : Int) : childrenIn [] x = [] := rfl

theorem childrenIn_cons (q : Int) (cs : List Int) (rest : List (Int × List Int)) (x : Int) :
    childrenIn ((q, cs) :: rest) x = if x = q then cs else childrenIn rest x := by
  by_cases hx : x = q
  · simp [childrenIn, List.lookup_cons, hx]
  · simp [childrenIn, List.lookup_cons, hx, beq_eq_false_iff_ne.mpr hx]

theorem childrenIn_addChild (index : List (Int × List Int)) (p child x : Int) :
    childrenIn (addChild index p child) x =
      childrenIn index x ++ if x = p then [child] else [] := by
  induction index with
  | nil => by_cases hx : x = p <;> simp [addChild, childrenIn_cons, hx]
  | cons e rest ih =>
    obtain ⟨q, cs⟩ := e
    by_cases hq : q = p
    · subst hq
      by_cases hx : x = q <;> simp [addChild, childrenIn_cons, hx]
    · by_cases hx : x = q
      · subst hx
        simp [addChild, childrenIn_cons, hq]
      · simp [addChild, childrenIn_cons, hq, hx, ih]

/-- The index lists under `x` the ids of the nodes linked to `x`, in store order. -/
theorem childrenIn_childIndex (nodes : List Node) (x : Int) :
    childrenIn (childIndex nodes) x = (nodes.filter (·.link == some x)).map (·.id) := by
  -- the fold adds the children of each node after those of the index it starts from
  unfold childIndex
  rw [← List.nil_append ((nodes.filter _).map _), ← childrenIn_nil x]
  generalize ([] : List (Int × List Int)) = index
  induction nodes generalizing index with
  | nil => simp
  | cons n nodes ih =>
    rw [List.foldl_cons, ih]
    cases hl : n.link with
    | none => simp [hl]
    | some p =>
      rw [childrenIn_addChild]
      by_cases hx : x = p
      · subst hx
        simp [hl]
      · simp [hl, hx, Ne.symm hx]

theorem mem_childrenIn_childIndex {nodes : List Node} {x c : Int} :
    c ∈ childrenIn (childIndex nodes) x ↔ ∃ n ∈ nodes, n.link = some x ∧ n.id = c := by
  simp [childrenIn_childIndex, and_assoc]

/-- Among nodes of distinct ids, the first with a node's id is that node. -/
theorem find?_id_of_nodup {nodes : List Node} (hnodup : (nodes.map (·.id)).Nodup) {n : Node}
    (hn : n ∈ nodes) : nodes.find? (·.id == n.id) = some n := by
  induction nodes with
  | nil => cases hn
  | cons m nodes ih =>
    rw [List.map_cons, List.nodup_cons] at hnodup
    rcases List.mem_cons.mp hn with rfl | hn
    · simp
    · have hne : m.id ≠ n.id := fun h => hnodup.1 (h ▸ List.mem_map_of_mem hn)
      simp [hne, ih hnodup.2 hn]

theorem find?_of_nodup (hnodup : (s.nodes.map (·.id)).Nodup) {n : Node} (hn : n ∈ s.nodes) :
    s.find? n.id = some n :=
  find?_id_of_nodup hnodup hn

/-- The parent link of a stored node is its `parentOf`, when the ids are distinct. -/
theorem parentOf_of_link (hnodup : (s.nodes.map (·.id)).Nodup) {m : Node} (hm : m ∈ s.nodes)
    {p : Int} (hl : m.link = some p) : s.parentOf m.id = some p := by
  simp [parentOf, find?_of_nodup hnodup hm, hl]

/-- Only a stored node that links to `x` has `x` as its parent. -/
theorem exists_of_parentOf {x c : Int} (h : s.parentOf c = some x) :
    ∃ m ∈ s.nodes, m.id = c ∧ m.link = some x := by
  obtain ⟨m, hfind, hl⟩ := Option.bind_eq_some_iff.mp h
  exact ⟨m, List.mem_of_find?_eq_some hfind, by simpa using List.find?_some hfind, hl⟩

/-- A child in the index links to its parent, when the ids are distinct. -/
theorem parentOf_of_mem_childrenIn (hnodup : (s.nodes.map (·.id)).Nodup) {x c : Int}
    (hc : c ∈ childrenIn (childIndex s.nodes) x) : s.parentOf c = some x := by
  obtain ⟨m, hm, hl, rfl⟩ := mem_childrenIn_childIndex.mp hc
  exact parentOf_of_link hnodup hm hl

/-- A node that links to `x` is in the index under `x`. -/
theorem mem_childrenIn_of_parentOf {x c : Int} (h : s.parentOf c = some x) :
    c ∈ childrenIn (childIndex s.nodes) x := by
  obtain ⟨m, hm, hid, hl⟩ := exists_of_parentOf h
  exact mem_childrenIn_childIndex.mpr ⟨m, hm, hl, hid⟩

theorem mem_ids_of_mem_childrenIn {x c : Int} (hc : c ∈ childrenIn (childIndex s.nodes) x) :
    c ∈ s.nodes.map (·.id) := by
  obtain ⟨n, hn, -, rfl⟩ := mem_childrenIn_childIndex.mp hc
  exact List.mem_map_of_mem hn

/-! ## Counting the ids not seen -/

/-- How many of the ids `ids` are not among `seen`: what a walk over them has left to find. -/
def unseen (ids seen : List Int) : Nat := (ids.toFinset \ seen.toFinset).card

theorem unseen_le_length (ids seen : List Int) : unseen ids seen ≤ ids.length :=
  (Finset.card_le_card Finset.sdiff_subset).trans (List.toFinset_card_le ids)

/-- Finding one of the ids for the first time leaves one fewer to find. -/
theorem unseen_append_lt {ids seen found : List Int} {c : Int} (hc : c ∈ ids) (hnew : c ∉ seen)
    (hfound : c ∈ found) : unseen ids (seen ++ found) < unseen ids seen := by
  unfold unseen
  apply Finset.card_lt_card
  refine Finset.ssubset_iff_of_subset ?_ |>.mpr ⟨c, ?_, ?_⟩
  · exact Finset.sdiff_subset_sdiff le_rfl (by simp)
  · simp [hc, hnew]
  · simp [hfound]

/-! ## One visit -/

theorem mem_visit_fst {seen queue cs : List Int} {x : Int} :
    x ∈ (visit seen queue cs).1 ↔ x ∈ seen ∨ x ∈ cs := by
  induction cs generalizing seen queue with
  | nil => simp [visit]
  | cons c cs ih =>
    unfold visit
    by_cases hc : c ∈ seen
    · rw [if_pos (List.contains_iff_mem.mpr hc), ih]
      constructor
      · rintro (h | h)
        · exact .inl h
        · exact .inr (List.mem_cons_of_mem _ h)
      · rintro (h | h)
        · exact .inl h
        · rcases List.mem_cons.mp h with rfl | h
          · exact .inl hc
          · exact .inr h
    · rw [if_neg (by simpa using hc), ih]
      simp [or_assoc]

theorem mem_visit_snd {seen queue cs : List Int} {x : Int} :
    x ∈ (visit seen queue cs).2 ↔ x ∈ queue ∨ x ∈ cs ∧ x ∉ seen := by
  induction cs generalizing seen queue with
  | nil => simp [visit]
  | cons c cs ih =>
    unfold visit
    by_cases hc : c ∈ seen
    · rw [if_pos (List.contains_iff_mem.mpr hc), ih]
      constructor
      · rintro (h | ⟨h, hs⟩)
        · exact .inl h
        · exact .inr ⟨List.mem_cons_of_mem _ h, hs⟩
      · rintro (h | ⟨h, hs⟩)
        · exact .inl h
        · rcases List.mem_cons.mp h with rfl | h
          · exact absurd hc hs
          · exact .inr ⟨h, hs⟩
    · rw [if_neg (by simpa using hc), ih]
      -- the child queued now is the one id of `cs` that was not seen before but is now
      by_cases hxc : x = c
      · subst hxc
        simp [hc]
      · simp [hxc]

theorem nodup_visit {seen queue cs : List Int} (h : seen.Nodup) : (visit seen queue cs).1.Nodup := by
  induction cs generalizing seen queue with
  | nil => exact h
  | cons c cs ih =>
    unfold visit
    split
    · exact ih h
    · next hc =>
      refine ih (List.nodup_append.mpr ⟨h, List.nodup_singleton c, ?_⟩)
      intro a ha b hb hab
      simp only [List.mem_singleton] at hb
      subst hb hab
      exact hc (List.contains_iff_mem.mpr ha)

/-- A visit of stored children queues one id for each stored id it sees first. -/
theorem visit_measure (ids : List Int) {seen queue cs : List Int} (hcs : ∀ c ∈ cs, c ∈ ids) :
    unseen ids (visit seen queue cs).1 + (visit seen queue cs).2.length ≤
      unseen ids seen + queue.length := by
  induction cs generalizing seen queue with
  | nil => simp [visit]
  | cons c cs ih =>
    unfold visit
    have hrest : ∀ c' ∈ cs, c' ∈ ids := fun c' hc' => hcs c' (List.mem_cons_of_mem _ hc')
    split
    · exact ih hrest
    · next hc =>
      have hlt := unseen_append_lt (hcs c List.mem_cons_self) (by simpa using hc)
        (List.mem_singleton_self c)
      have := @ih (seen ++ [c]) (queue ++ [c]) hrest
      simp only [List.length_append, List.length_singleton] at this
      omega

/-! ## Closed sets of ids -/

/-- **A set closed under children holds the subtree.** A list that holds `n` and every child of
each of its ids holds every id whose climb meets `n`: read from `n` down, each place of the climb
is a child of the one after it. -/
theorem mem_of_climb_of_closed {found : List Int} {n : Int} (hn : n ∈ found)
    (hclosed : ∀ x ∈ found, ∀ c, s.parentOf c = some x → c ∈ found) :
    ∀ k x, s.climb (some x) k = some n → x ∈ found := by
  intro k
  induction k with
  | zero =>
    intro x hx
    simp only [climb_zero, Option.some.injEq] at hx
    exact hx ▸ hn
  | succ k ih =>
    intro x hx
    rw [climb_some_succ] at hx
    cases hp : s.parentOf x with
    | none => rw [hp, climb_none] at hx; cases hx
    | some p =>
      rw [hp] at hx
      exact hclosed p (ih p hx) x hp

/-! ## The breadth-first search -/

/-- What holds of the ids seen and queued all along a search for the subtree of `n`. -/
structure SearchInv (s : Store) (n : Int) (seen queue : List Int) : Prop where
  start : n ∈ seen
  sound : ∀ x ∈ seen, ∃ k, s.climb (some x) k = some n
  queued : ∀ x ∈ queue, x ∈ seen
  closed : ∀ x ∈ seen, x ∉ queue → ∀ c ∈ childrenIn (childIndex s.nodes) x, c ∈ seen
  nodup : seen.Nodup

theorem SearchInv.init (s : Store) (n : Int) : SearchInv s n [n] [n] :=
  ⟨List.mem_singleton_self n, fun x hx => ⟨0, by simp_all⟩, fun _ hx => hx,
    fun _ hx hq => absurd hx hq, List.nodup_singleton n⟩

/-- **One visit keeps the invariant.** The id taken off the queue has all its children seen
after the visit; each id newly seen is a child of an id that climbs to `n`, so it climbs there
one link more. -/
theorem SearchInv.step (hnodup : (s.nodes.map (·.id)).Nodup) {n x : Int} {seen queue : List Int}
    (h : SearchInv s n seen (x :: queue)) :
    SearchInv s n (visit seen queue (childrenIn (childIndex s.nodes) x)).1
      (visit seen queue (childrenIn (childIndex s.nodes) x)).2 := by
  have hx : x ∈ seen := h.queued x List.mem_cons_self
  refine ⟨mem_visit_fst.mpr (.inl h.start), ?_, ?_, ?_, nodup_visit h.nodup⟩
  · intro y hy
    rcases mem_visit_fst.mp hy with hy | hc
    · exact h.sound y hy
    · -- a new id is a child of `x`, which climbs to `n`
      obtain ⟨k, hk⟩ := h.sound x hx
      refine ⟨k + 1, ?_⟩
      rw [climb_some_succ, parentOf_of_mem_childrenIn hnodup hc]
      exact hk
  · intro y hy
    rcases mem_visit_snd.mp hy with hy | ⟨hc, -⟩
    · exact mem_visit_fst.mpr (.inl (h.queued y (List.mem_cons_of_mem _ hy)))
    · exact mem_visit_fst.mpr (.inr hc)
  · intro y hy hyq c hc
    rcases mem_visit_fst.mp hy with hy | hyc
    · by_cases hyx : y = x
      · subst hyx
        exact mem_visit_fst.mpr (.inr hc)
      · -- `y` was off the queue already, so its children were seen before
        have hyq' : y ∉ x :: queue := by
          intro hmem
          rcases List.mem_cons.mp hmem with h' | h'
          · exact hyx h'
          · exact hyq (mem_visit_snd.mpr (.inl h'))
        exact mem_visit_fst.mpr (.inl (h.closed y hy hyq' c hc))
    · -- an id seen for the first time in this visit is queued
      by_cases hys : y ∈ seen
      · by_cases hyx : y = x
        · subst hyx
          exact mem_visit_fst.mpr (.inr hc)
        · have hyq' : y ∉ x :: queue := by
            intro hmem
            rcases List.mem_cons.mp hmem with h' | h'
            · exact hyx h'
            · exact hyq (mem_visit_snd.mpr (.inl h'))
          exact mem_visit_fst.mpr (.inl (h.closed y hys hyq' c hc))
      · exact absurd (mem_visit_snd.mpr (.inr ⟨hyc, hys⟩)) hyq

/-- **The search keeps the invariant to its end**, by induction on the visits. -/
theorem SearchInv.run (hnodup : (s.nodes.map (·.id)).Nodup) {n : Int} :
    ∀ (fuel : Nat) (seen queue : List Int) (found : List Int), SearchInv s n seen queue →
      search (childIndex s.nodes) seen queue fuel = some found → SearchInv s n found [] := by
  intro fuel
  induction fuel with
  | zero =>
    intro seen queue found h hs
    cases queue with
    | nil =>
      simp only [search, Option.some.injEq] at hs
      exact hs ▸ h
    | cons x queue => simp [search] at hs
  | succ fuel ih =>
    intro seen queue found h hs
    cases queue with
    | nil =>
      simp only [search, Option.some.injEq] at hs
      exact hs ▸ h
    | cons x queue => exact ih _ _ found (h.step hnodup) hs

/-- With the queue empty the ids seen hold every id whose climb meets `n`. -/
theorem SearchInv.complete {n : Int} {found : List Int} (h : SearchInv s n found []) :
    ∀ k x, s.climb (some x) k = some n → x ∈ found :=
  mem_of_climb_of_closed h.start fun x hx c hc =>
    h.closed x hx List.not_mem_nil c (mem_childrenIn_of_parentOf hc)

/-- **The search never runs out of fuel** while the stored ids not seen and the queue together
are fewer than the visits left. -/
theorem search_isSome_of_measure (s : Store) :
    ∀ (fuel : Nat) (seen queue : List Int),
      unseen (s.nodes.map (·.id)) seen + queue.length ≤ fuel →
      (search (childIndex s.nodes) seen queue fuel).isSome := by
  intro fuel
  induction fuel with
  | zero =>
    intro seen queue hm
    cases queue with
    | nil => rfl
    | cons x queue => simp at hm
  | succ fuel ih =>
    intro seen queue hm
    cases queue with
    | nil => rfl
    | cons x queue =>
      apply ih
      have := @visit_measure (s.nodes.map (·.id)) seen queue (childrenIn (childIndex s.nodes) x)
        fun c hc => mem_ids_of_mem_childrenIn hc
      simp only [List.length_cons] at hm
      omega

theorem search_isSome (s : Store) (n : Int) :
    (search (childIndex s.nodes) [n] [n] (s.nodes.length + 1)).isSome := by
  apply search_isSome_of_measure
  have := unseen_le_length (s.nodes.map (·.id)) [n]
  simp only [List.length_map, List.length_singleton] at this ⊢
  omega

/-- The memory backend's subtree is the one its search ends with. -/
theorem subtreeIds_eq (s : Store) (n : Int) :
    ∃ found, search (childIndex s.nodes) [n] [n] (s.nodes.length + 1) = some found ∧
      subtreeIds s.nodes n = found := by
  obtain ⟨found, hfound⟩ := Option.isSome_iff_exists.mp (search_isSome s n)
  exact ⟨found, hfound, by simp [subtreeIds, hfound]⟩

/-- The ids the memory backend finds are the node and those whose climb meets it, each once. -/
theorem mem_subtreeIds (hnodup : (s.nodes.map (·.id)).Nodup) (n x : Int) :
    x ∈ subtreeIds s.nodes n ↔ ∃ k, s.climb (some x) k = some n := by
  obtain ⟨found, hfound, hids⟩ := subtreeIds_eq s n
  have h := SearchInv.run hnodup _ _ _ found (SearchInv.init s n) hfound
  rw [hids]
  exact ⟨h.sound x, fun ⟨k, hk⟩ => h.complete k x hk⟩

theorem nodup_subtreeIds (hnodup : (s.nodes.map (·.id)).Nodup) (n : Int) :
    (subtreeIds s.nodes n).Nodup := by
  obtain ⟨found, hfound, hids⟩ := subtreeIds_eq s n
  rw [hids]
  exact (SearchInv.run hnodup _ _ _ found (SearchInv.init s n) hfound).nodup

/-! ## The rounds of the recursive query -/

/-- The fold of a round over `nodes`, from the ids `new` it has added so far, adds the id of each
node linked into `found` unless it is found or added already. -/
theorem mem_foldl_round {nodes : List Node} {found new : List Int} {c : Int} :
    c ∈ nodes.foldl (fun new n =>
        if n.link.any found.contains && !(found ++ new).contains n.id then new ++ [n.id]
        else new) new ↔
      c ∈ new ∨ c ∉ found ∧ ∃ m ∈ nodes, m.id = c ∧ ∃ p ∈ found, m.link = some p := by
  induction nodes generalizing new with
  | nil => simp
  | cons m nodes ih =>
    rw [List.foldl_cons, ih]
    have hlinked : m.link.any found.contains = true ↔ ∃ p ∈ found, m.link = some p := by
      cases m.link <;> simp
    split
    · next hadd =>
      simp only [Bool.and_eq_true, Bool.not_eq_true', List.contains_eq_mem,
        decide_eq_false_iff_not, hlinked, List.mem_append, not_or] at hadd
      by_cases hc : c = m.id
      · subst hc
        simp [hadd.2.1, hadd.1]
      · simp [hc, Ne.symm hc]
    · next hkeep =>
      simp only [Bool.and_eq_true, Bool.not_eq_true', List.contains_eq_mem,
        decide_eq_false_iff_not, hlinked, List.mem_append, not_and, not_not] at hkeep
      by_cases hc : c = m.id
      · subst hc
        by_cases hl : ∃ p ∈ found, m.link = some p
        · rcases hkeep hl with h | h <;> simp [h]
        · simp [hl]
      · simp [Ne.symm hc]

/-- A round finds the ids, not found before, of the nodes linked to an id found. -/
theorem mem_nextRound {nodes : List Node} {found : List Int} {c : Int} :
    c ∈ nextRound nodes found ↔
      c ∉ found ∧ ∃ m ∈ nodes, m.id = c ∧ ∃ p ∈ found, m.link = some p := by
  unfold nextRound
  rw [mem_foldl_round]
  simp


theorem nodup_foldl_round {nodes : List Node} {found new : List Int} (h : new.Nodup) :
    (nodes.foldl (fun new n =>
        if n.link.any found.contains && !(found ++ new).contains n.id then new ++ [n.id]
        else new) new).Nodup := by
  induction nodes generalizing new with
  | nil => exact h
  | cons m nodes ih =>
    rw [List.foldl_cons]
    apply ih
    split
    · next hadd =>
      have hnew : m.id ∉ new := by
        simp only [Bool.and_eq_true, Bool.not_eq_true', List.contains_eq_mem,
          decide_eq_false_iff_not, List.mem_append, not_or] at hadd
        exact hadd.2.2
      exact List.nodup_append.mpr ⟨h, List.nodup_singleton _,
        fun a ha b hb hab => hnew (by simp_all)⟩
    · exact h

theorem nodup_nextRound (nodes : List Node) (found : List Int) : (nextRound nodes found).Nodup :=
  nodup_foldl_round List.nodup_nil

/-- What holds of the ids found all along the rounds for the subtree of `n`. -/
structure RoundInv (s : Store) (n : Int) (found : List Int) : Prop where
  start : n ∈ found
  sound : ∀ x ∈ found, ∃ k, s.climb (some x) k = some n
  nodup : found.Nodup

theorem RoundInv.init (s : Store) (n : Int) : RoundInv s n [n] :=
  ⟨List.mem_singleton_self n, fun x hx => ⟨0, by simp_all⟩, List.nodup_singleton n⟩

/-- **One round keeps the invariant.** Each id it adds is new, and is the id of a node linked to
an id found, so its climb meets `n` one link after that one's. -/
theorem RoundInv.step (hnodup : (s.nodes.map (·.id)).Nodup) {n : Int} {found : List Int}
    (h : RoundInv s n found) : RoundInv s n (found ++ nextRound s.nodes found) := by
  refine ⟨List.mem_append_left _ h.start, ?_, ?_⟩
  · intro x hx
    rcases List.mem_append.mp hx with hx | hx
    · exact h.sound x hx
    · obtain ⟨-, m, hm, rfl, p, hp, hl⟩ := mem_nextRound.mp hx
      obtain ⟨k, hk⟩ := h.sound p hp
      exact ⟨k + 1, by rw [climb_some_succ, parentOf_of_link hnodup hm hl]; exact hk⟩
  · refine List.nodup_append.mpr ⟨h.nodup, nodup_nextRound _ _, ?_⟩
    rintro a ha b hb rfl
    exact (mem_nextRound.mp hb).1 ha

/-- A round that adds nothing leaves the ids found closed under children. -/
theorem closed_of_nextRound_eq_nil {found : List Int} (h : nextRound s.nodes found = []) :
    ∀ x ∈ found, ∀ c, s.parentOf c = some x → c ∈ found := by
  intro x hx c hc
  by_contra hnot
  obtain ⟨m, hm, hid, hl⟩ := exists_of_parentOf hc
  have hround : c ∈ nextRound s.nodes found := mem_nextRound.mpr ⟨hnot, m, hm, hid, x, hx, hl⟩
  rw [h] at hround
  cases hround

/-- **The rounds keep the invariant to their end**, where a round adds nothing. -/
theorem RoundInv.run (hnodup : (s.nodes.map (·.id)).Nodup) {n : Int} :
    ∀ (fuel : Nat) (found result : List Int), RoundInv s n found →
      rounds s.nodes found fuel = some result →
      RoundInv s n result ∧ nextRound s.nodes result = [] := by
  intro fuel
  induction fuel with
  | zero => intro found result _ hr; simp [rounds] at hr
  | succ fuel ih =>
    intro found result h hr
    unfold rounds at hr
    split at hr
    · next hnil =>
      cases hr
      exact ⟨h, hnil⟩
    · exact ih _ result (h.step hnodup) hr

/-- **The rounds never run out of fuel** while the stored ids not found are fewer than the rounds
left: a round that adds anything adds a stored id not found before. -/
theorem rounds_isSome_of_measure (nodes : List Node) :
    ∀ (fuel : Nat) (found : List Int), unseen (nodes.map (·.id)) found < fuel →
      (rounds nodes found fuel).isSome := by
  intro fuel
  induction fuel with
  | zero => intro found hm; cases hm
  | succ fuel ih =>
    intro found hm
    unfold rounds
    split
    · rfl
    · next hne =>
      obtain ⟨c, hc⟩ := List.exists_mem_of_ne_nil _ hne
      obtain ⟨hnew, m, hm', rfl, -⟩ := mem_nextRound.mp hc
      have hlt : unseen (nodes.map (·.id)) (found ++ nextRound nodes found) <
          unseen (nodes.map (·.id)) found :=
        unseen_append_lt (List.mem_map_of_mem hm') hnew hc
      exact ih _ (by omega)

theorem rounds_isSome (nodes : List Node) (n : Int) :
    (rounds nodes [n] (nodes.length + 1)).isSome := by
  apply rounds_isSome_of_measure
  have := unseen_le_length (nodes.map (·.id)) [n]
  simp only [List.length_map] at this
  omega

/-- The SQL backend's subtree is the one its rounds end with. -/
theorem cteIds_eq (nodes : List Node) (n : Int) :
    ∃ found, rounds nodes [n] (nodes.length + 1) = some found ∧ cteIds nodes n = found := by
  obtain ⟨found, hfound⟩ := Option.isSome_iff_exists.mp (rounds_isSome nodes n)
  exact ⟨found, hfound, by simp [cteIds, hfound]⟩

/-- The ids the SQL backend finds are the node and those whose climb meets it, each once. -/
theorem mem_cteIds (hnodup : (s.nodes.map (·.id)).Nodup) (n x : Int) :
    x ∈ cteIds s.nodes n ↔ ∃ k, s.climb (some x) k = some n := by
  obtain ⟨found, hfound, hids⟩ := cteIds_eq s.nodes n
  obtain ⟨h, hnil⟩ := RoundInv.run hnodup _ _ found (RoundInv.init s n) hfound
  rw [hids]
  exact ⟨h.sound x, fun ⟨k, hk⟩ =>
    mem_of_climb_of_closed h.start (closed_of_nextRound_eq_nil hnil) k x hk⟩

theorem nodup_cteIds (hnodup : (s.nodes.map (·.id)).Nodup) (n : Int) :
    (cteIds s.nodes n).Nodup := by
  obtain ⟨found, hfound, hids⟩ := cteIds_eq s.nodes n
  rw [hids]
  exact (RoundInv.run hnodup _ _ found (RoundInv.init s n) hfound).1.nodup

/-! ## The subtree -/

/-- An id climbs to `n` when it is `n`, or a stored id one or more links below it. -/
theorem climbs_iff {x n : Int} :
    (∃ k, s.climb (some x) k = some n) ↔
      x = n ∨ x ∈ s.nodes.map (·.id) ∧ ∃ k, s.climb (some x) (k + 1) = some n := by
  constructor
  · rintro ⟨k, hk⟩
    cases k with
    | zero => exact .inl (Option.some.inj hk)
    | succ k => exact .inr ⟨mem_of_climb_some_succ hk, k, hk⟩
  · rintro (rfl | ⟨-, k, hk⟩)
    · exact ⟨0, rfl⟩
    · exact ⟨k + 1, hk⟩

/-- **The breadth-first search stops and finds exactly the subtree, on any data.** Whatever the
parent links of a store whose ids are distinct, cycles and links to ids no node has included, the
memory backend's search from any id `n` ends within its visits, and what it finds is `n` and
exactly the stored ids from which one or more parent links lead up to `n`, each once. -/
theorem subtree_search_stops_and_is_exact (s : Store) (hnodup : (s.nodes.map (·.id)).Nodup)
    (n : Int) :
    (search (childIndex s.nodes) [n] [n] (s.nodes.length + 1)).isSome ∧
      (∀ x, x ∈ subtreeIds s.nodes n ↔
        x = n ∨ x ∈ s.nodes.map (·.id) ∧ ∃ k, s.climb (some x) (k + 1) = some n) ∧
      (subtreeIds s.nodes n).Nodup :=
  ⟨search_isSome s n, fun x => (mem_subtreeIds hnodup n x).trans climbs_iff,
    nodup_subtreeIds hnodup n⟩

/-- On two nodes that are each other's parent and a third linked to an id no node has, the
search from either node of the cycle stops with both. -/
theorem cycle_search_is_exact :
    let s : Store := ⟨.memory, [⟨1, .text "a", some (.int 2)⟩, ⟨2, .text "b", some (.int 1)⟩,
      ⟨3, .text "c", some (.int 7)⟩], 4, true⟩
    (s.nodes.map (·.id)).Nodup ∧
      (search (childIndex s.nodes) [1] [1] (s.nodes.length + 1)).isSome ∧
      (∀ x, x ∈ subtreeIds s.nodes 1 ↔
        x = 1 ∨ x ∈ s.nodes.map (·.id) ∧ ∃ k, s.climb (some x) (k + 1) = some 1) ∧
      (subtreeIds s.nodes 1).Nodup := by
  intro s
  have hnodup : (s.nodes.map (·.id)).Nodup := by decide
  exact ⟨hnodup, subtree_search_stops_and_is_exact s hnodup 1⟩

end Store

end Arbor
