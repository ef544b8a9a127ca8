import Arbor.Proofs.Forest.Walk
import Arbor.Proofs.Store.Sound
import Mathlib

set_option autoImplicit false

/-! # The forest of a page

`Forest.build` makes the displayed forest of a page of stored nodes. The builder reads each node's
parent only when the parent is on the page; read that way, the page is a store of its own
(`Store.ofPage`), and the climbs of `Store.climb` describe its links. When the ids on the page are
distinct and every climb on it ends (`Store.Ends`), the builder's cycle guard never fires
(`breakers_ofPage`), and the forest is `pageForest` (`build_ofPage`), which shows the page
faithfully:

* its top entries are the nodes whose parent is not on the page, in page order
  (`pageForest_ids`);
* every displayed node is a node of the page with its id and label, whose children are the nodes
  of the page linked to it, in page order (`Shows`, `shows_pageForest`);
* every node of the page is displayed exactly once (`pageForest_nodes_perm`).

A node's displayed tree holds the nodes whose climb meets it; the builder's depth bound, one more
than the number of rows, is never reached because every climb on the page ends within as many
links as there are rows.
-/

namespace Arbor

/-! ## What a displayed forest shows -/

mutual
/-- The ids and labels a displayed tree shows, in preorder. -/
def Tree.nodes : Tree → List (Json × Json)
  | .mk i l cs => (i, l) :: Tree.forestNodes cs
/-- The ids and labels a list of displayed trees shows, tree after tree. -/
def Tree.forestNodes : List Tree → List (Json × Json)
  | [] => []
  | t :: ts => t.nodes ++ Tree.forestNodes ts
end

theorem Tree.forestNodes_eq (ts : List Tree) : Tree.forestNodes ts = ts.flatMap Tree.nodes := by
  induction ts with
  | nil => rfl
  | cons t ts ih => simp [Tree.forestNodes, ih]

@[simp] theorem Tree.nodes_mk (i l : Json) (cs : List Tree) :
    (Tree.mk i l cs).nodes = (i, l) :: cs.flatMap Tree.nodes := by
  rw [Tree.nodes, Tree.forestNodes_eq]

/-- A stored node as a displayed node shows it: its id and its label. -/
def Node.shown (n : Node) : Json × Json := (.int n.id, n.label)

@[simp] theorem Node.row_id (n : Node) : n.row.id = n.id := rfl

/-- A node is shown at the top of `page` when it has no parent or its parent is not on the page. -/
def Node.atTop (page : List Node) (n : Node) : Bool :=
  n.link.all fun v => !page.any (·.id == v)

/-- A displayed tree shows the nodes of `page` faithfully: its root is a node of the page with
its id and label, and its children are the nodes of the page whose parent it is, in page order,
each shown faithfully in turn. -/
inductive Shows (page : List Node) : Tree → Prop
  | node (n : Node) (children : List Tree) (hn : n ∈ page)
      (hids : children.map Tree.id =
        (page.filter fun m => m.link == some n.id).map fun m => Json.int m.id)
      (hsub : ∀ c ∈ children, Shows page c) :
      Shows page (.mk (.int n.id) n.label children)

/-! ## The page as a store -/

/-- The nodes of a page with each parent kept only when it is on the page, as a store. -/
def Store.ofPage (page : List Node) : Store :=
  ⟨.memory, page.map fun n => ⟨n.id, n.label, (n.link.filter (page.map (·.id)).contains).map .int⟩,
    1, true⟩

section OfPage

variable {page : List Node}

theorem find?_id_of_nodup {nodes : List Node} (hnodup : (nodes.map (·.id)).Nodup) {n : Node}
    (hn : n ∈ nodes) : nodes.find? (·.id == n.id) = some n := by
  induction nodes with
  | nil => cases hn
  | cons a rest ih =>
    rw [List.map_cons, List.nodup_cons] at hnodup
    rcases List.mem_cons.mp hn with rfl | hn
    · exact List.find?_cons_of_pos (by simp)
    · -- another node of the same id would repeat it
      have hne : a.id ≠ n.id := fun h => hnodup.1 (h ▸ List.mem_map_of_mem hn)
      rw [List.find?_cons_of_neg (by simpa using hne)]
      exact ih hnodup.2 hn

theorem eq_of_id_eq {nodes : List Node} (hnodup : (nodes.map (·.id)).Nodup) {m n : Node}
    (hm : m ∈ nodes) (hn : n ∈ nodes) (h : m.id = n.id) : m = n := by
  have hfind := find?_id_of_nodup hnodup hm
  rw [h, find?_id_of_nodup hnodup hn] at hfind
  exact (Option.some.inj hfind).symm

/-- An integer named as a value names the integer back. -/
theorem Json.map_int_bind_intValue? (o : Option Int) : (o.map Json.int).bind Json.intValue? = o := by
  cases o <;> simp

theorem ofPage_ids : (Store.ofPage page).nodes.map (·.id) = page.map (·.id) := by
  simp [Store.ofPage]

theorem parentOf_ofPage (x : Int) :
    (Store.ofPage page).parentOf x =
      (page.find? (·.id == x)).bind fun n => n.link.filter (page.map (·.id)).contains := by
  unfold Store.parentOf Store.find? Store.ofPage
  simp only [List.find?_map, Function.comp_def]
  cases page.find? (·.id == x) with
  | none => rfl
  | some n => simp [Node.link, Json.map_int_bind_intValue?]

theorem parentOf_ofPage_of_mem (hnodup : (page.map (·.id)).Nodup) {n : Node} (hn : n ∈ page) :
    (Store.ofPage page).parentOf n.id = n.link.filter (page.map (·.id)).contains := by
  rw [parentOf_ofPage, find?_id_of_nodup hnodup hn]
  rfl

/-- A parent on the page store is on the page. -/
theorem parentOf_ofPage_mem {x y : Int} (h : (Store.ofPage page).parentOf x = some y) :
    y ∈ page.map (·.id) := by
  rw [parentOf_ofPage] at h
  obtain ⟨n, -, hfilter⟩ := Option.bind_eq_some_iff.mp h
  obtain ⟨-, hcontains⟩ := Option.filter_eq_some_iff.mp hfilter
  exact List.contains_iff_mem.mp hcontains

theorem ofPage_closed (x y : Int) (h : (Store.ofPage page).parentOf x = some y) :
    y ∈ (Store.ofPage page).nodes.map (·.id) := by
  rw [ofPage_ids]
  exact parentOf_ofPage_mem h

/-- A climb from a node of the page stays on the page. -/
theorem climb_ofPage_mem {m : Node} (hm : m ∈ page) {k : Nat} {y : Int}
    (h : (Store.ofPage page).climb (some m.id) k = some y) : ∃ c ∈ page, c.id = y := by
  have hstart : m.id ∈ (Store.ofPage page).nodes.map (·.id) := by
    rw [ofPage_ids]
    exact List.mem_map_of_mem hm
  have hy := Store.climb_mem ofPage_closed hstart h
  rw [ofPage_ids] at hy
  exact List.mem_map.mp hy

/-- Only a node of the page has a parent on the page store. -/
theorem mem_of_parentOf_ofPage {x y : Int} (h : (Store.ofPage page).parentOf x = some y) :
    ∃ n ∈ page, n.id = x := by
  rw [parentOf_ofPage] at h
  obtain ⟨n, hfind, -⟩ := Option.bind_eq_some_iff.mp h
  have hid := List.find?_some hfind
  exact ⟨n, List.mem_of_find?_eq_some hfind, beq_iff_eq.mp hid⟩

/-- A node of the page is linked on the page store to its stored parent when that parent is on
the page. -/
theorem parentOf_ofPage_eq_some (hnodup : (page.map (·.id)).Nodup) {n : Node} (hn : n ∈ page)
    {x : Int} (hx : x ∈ page.map (·.id)) :
    (Store.ofPage page).parentOf n.id = some x ↔ n.link = some x := by
  rw [parentOf_ofPage_of_mem hnodup hn, Option.filter_eq_some_iff]
  simp [hx]

/-- A node of the page is unlinked on the page store exactly when it is shown at the top. -/
theorem parentOf_ofPage_eq_none (hnodup : (page.map (·.id)).Nodup) {n : Node} (hn : n ∈ page) :
    (Store.ofPage page).parentOf n.id = none ↔ n.atTop page = true := by
  rw [parentOf_ofPage_of_mem hnodup hn, Node.atTop]
  cases n.link with
  | none => simp
  | some v => simp [Option.filter]

end OfPage

/-! ## The builder's tables on a page -/

section Tables

variable {page : List Node}

/-- Looking a key up in a table of pairs finds the first entry with that key. -/
theorem lookup_map_eq_find? {α β : Type} (l : List α) (key : α → Int) (val : α → β) (x : Int) :
    (l.map fun a => (key a, val a)).lookup x = (l.find? fun a => key a == x).map val := by
  induction l with
  | nil => rfl
  | cons a l ih =>
    by_cases h : key a = x
    · simp [h]
    · have hne : (x == key a) = false := by simpa using Ne.symm h
      simp [List.lookup, hne, h, ih]

theorem find?_reverse_of_nodup (hnodup : (page.map (·.id)).Nodup) (x : Int) :
    page.reverse.find? (·.id == x) = page.find? (·.id == x) := by
  by_cases hx : x ∈ page.map (·.id)
  · obtain ⟨n, hn, rfl⟩ := List.mem_map.mp hx
    have hrev : (page.reverse.map (·.id)).Nodup := by
      rw [List.map_reverse]
      exact List.nodup_reverse.mpr hnodup
    rw [find?_id_of_nodup hrev (List.mem_reverse.mpr hn), find?_id_of_nodup hnodup hn]
  · have hnone : ∀ l : List Node, (∀ n ∈ l, n ∈ page) → l.find? (·.id == x) = none := by
      intro l hl
      refine List.find?_eq_none.mpr fun n hn hid => hx ?_
      exact (beq_iff_eq.mp hid) ▸ List.mem_map_of_mem (hl n hn)
    rw [hnone _ fun n hn => List.mem_reverse.mp hn, hnone _ fun n hn => hn]

/-- The builder's link of an id, before any link is dropped, is its link on the page store. -/
theorem linkIn_nil_ofPage (hnodup : (page.map (·.id)).Nodup) (x : Int) :
    Forest.linkIn (Forest.pageParents (page.map Node.row)) [] x = (Store.ofPage page).parentOf x := by
  have htable : Forest.pageParents (page.map Node.row) =
      page.reverse.map fun n => (n.id, n.link.filter (page.map (·.id)).contains) := by
    simp [Forest.pageParents, Node.row, List.map_reverse, Function.comp_def]
  simp only [Forest.linkIn, List.contains_nil, Bool.false_eq_true, ↓reduceIte]
  rw [htable, lookup_map_eq_find?, find?_reverse_of_nodup hnodup, parentOf_ofPage]
  cases page.find? (·.id == x) <;> rfl

/-- The builder's walk up the links is the store's walk `reachesUp` on the same links. -/
theorem reaches_parentOf (s : Store) (target : Int) (start : Option Int) (fuel : Nat) :
    Forest.reaches (· == ·) s.parentOf target start fuel = s.reachesUp target start fuel := by
  induction fuel generalizing start with
  | zero => cases start <;> rfl
  | succ fuel ih =>
    cases start with
    | none => rfl
    | some x =>
      simp only [Forest.reaches, Store.reachesUp, ih]
      rfl

/-- **The cycle guard never fires on a page whose climbs end.** A row would close a cycle only
if the climb from its parent came back to it, and then the climb from the row would go round for
ever. -/
theorem breakers_ofPage (hnodup : (page.map (·.id)).Nodup)
    (hends : ∀ n ∈ page, (Store.ofPage page).Ends n.id) :
    Forest.breakers (· == ·) (page.map Node.row) = [] := by
  have hlink : Forest.linkIn (Forest.pageParents (page.map Node.row)) [] =
      (Store.ofPage page).parentOf := funext (linkIn_nil_ofPage hnodup)
  unfold Forest.breakers
  refine List.foldl_fixed' (fun r => ?_) _
  simp only [hlink]
  cases hp : (Store.ofPage page).parentOf r.id with
  | none => rfl
  | some p =>
    simp only [Forest.closesCycle_eq_reaches, hlink, reaches_parentOf]
    split
    · next hreach =>
      obtain ⟨i, -, hclimb⟩ := (Store.reachesUp_iff _ _ _).mp hreach
      have hcycle : (Store.ofPage page).climb (some r.id) (i + 1) = some r.id := by
        rw [Store.climb_some_succ, hp]
        exact hclimb
      obtain ⟨n, hn, hid⟩ := mem_of_parentOf_ofPage hp
      exact absurd (hid ▸ hends n hn) (Store.not_ends_of_climb_self hcycle)
    · rfl

end Tables

/-! ## The displayed tree of a node of the page -/

section Trees

variable {page : List Node}

/-- The builder's rows of a page, each with its link on the page store. -/
def pageLinked (page : List Node) : List (Row Int × Option Int) :=
  (page.map Node.row).map fun r => (r, (Store.ofPage page).parentOf r.id)

/-- The displayed tree of the node `x` of a page, at most `fuel` levels deep, as the builder
expands it. -/
def pageTree (page : List Node) (fuel : Nat) (x : Int) : Tree :=
  Forest.expand Json.int (page.map Node.row) (pageLinked page) fuel x

/-- The nodes of the page whose parent on the page store is `x`, in page order. -/
def pageChildren (page : List Node) (x : Int) : List Node :=
  page.filter fun m => (Store.ofPage page).parentOf m.id == some x

theorem shownAs_row (hnodup : (page.map (·.id)).Nodup) {n : Node} (hn : n ∈ page) :
    Forest.shownAs Json.int (page.map Node.row) n.id = n.shown := by
  have hrow : (page.map Node.row).reverse.find? (·.id == n.id) = some n.row := by
    rw [← List.map_reverse, List.find?_map]
    have hpred : ((·.id == n.id) ∘ Node.row : Node → Bool) = (·.id == n.id) := rfl
    rw [hpred, find?_reverse_of_nodup hnodup, find?_id_of_nodup hnodup hn]
    rfl
  simp [Forest.shownAs, hrow, Node.shown, Node.row]

theorem pageTree_succ (hnodup : (page.map (·.id)).Nodup) {n : Node} (hn : n ∈ page) (f : Nat) :
    pageTree page (f + 1) n.id =
      .mk (.int n.id) n.label ((pageChildren page n.id).map fun m => pageTree page f m.id) := by
  have hshown := shownAs_row hnodup hn
  simp only [Node.shown] at hshown
  simp only [pageTree, Forest.expand, hshown, pageLinked, pageChildren, List.filter_map,
    List.map_map]
  rfl

theorem pageTree_id (hnodup : (page.map (·.id)).Nodup) {n : Node} (hn : n ∈ page) (f : Nat) :
    (pageTree page f n.id).id = .int n.id := by
  cases f with
  | zero =>
    have hshown := shownAs_row hnodup hn
    simp only [Node.shown] at hshown
    simp [pageTree, Forest.expand, hshown, Tree.id]
  | succ f => rw [pageTree_succ hnodup hn]; rfl

theorem mem_pageChildren {x : Int} {m : Node} :
    m ∈ pageChildren page x ↔ m ∈ page ∧ (Store.ofPage page).parentOf m.id = some x := by
  simp [pageChildren]

/-- Every node whose climb meets a child of `n` one link earlier than it meets `n`: the
builder's depth bound passes from a node to its children with one level less. -/
theorem bound_child {n c : Node} {f : Nat} (hc : c ∈ pageChildren page n.id)
    (hbound : ∀ m ∈ page, ∀ k, (Store.ofPage page).climb (some m.id) k = some n.id → k < f + 1) :
    ∀ m ∈ page, ∀ k, (Store.ofPage page).climb (some m.id) k = some c.id → k < f := by
  intro m hm k hk
  have hnext : (Store.ofPage page).climb (some m.id) (k + 1) = some n.id := by
    rw [Store.climb_succ_of_some hk]
    exact (mem_pageChildren.mp hc).2
  have := hbound m hm (k + 1) hnext
  omega

/-- **What a node's tree shows.** Within the depth bound, the displayed tree of a node `n` of
the page shows exactly the nodes whose climb meets `n`. The induction is on the bound. -/
theorem mem_pageTree_nodes (hnodup : (page.map (·.id)).Nodup) {f : Nat} {n : Node}
    (hn : n ∈ page)
    (hbound : ∀ m ∈ page, ∀ k, (Store.ofPage page).climb (some m.id) k = some n.id → k < f)
    (v : Json × Json) :
    v ∈ (pageTree page f n.id).nodes ↔
      ∃ m ∈ page, v = m.shown ∧ ∃ k, (Store.ofPage page).climb (some m.id) k = some n.id := by
  induction f generalizing n with
  | zero => exact absurd (hbound n hn 0 rfl) (Nat.not_lt_zero 0)
  | succ f ih =>
    rw [pageTree_succ hnodup hn, Tree.nodes_mk, List.mem_cons, List.flatMap_map,
      List.mem_flatMap]
    constructor
    · rintro (rfl | ⟨c, hc, hv⟩)
      · exact ⟨n, hn, rfl, 0, rfl⟩
      · -- a node below a child climbs one link further to `n`
        obtain ⟨m, hm, rfl, k, hk⟩ :=
          (ih (mem_pageChildren.mp hc).1 (bound_child hc hbound)).mp hv
        refine ⟨m, hm, rfl, k + 1, ?_⟩
        rw [Store.climb_succ_of_some hk]
        exact (mem_pageChildren.mp hc).2
    · rintro ⟨m, hm, rfl, k, hk⟩
      cases k with
      | zero =>
        -- the node itself: ids on the page are distinct
        have hmn : m = n := eq_of_id_eq hnodup hm hn (Option.some.inj hk)
        exact .inl (hmn ▸ rfl)
      | succ k =>
        -- a node further down: its climb passed a child of `n` one link earlier
        obtain ⟨c, hcl, hcp⟩ := Store.climb_succ_eq_some hk
        obtain ⟨c', hc', rfl⟩ := climb_ofPage_mem hm hcl
        have hchild : c' ∈ pageChildren page n.id := mem_pageChildren.mpr ⟨hc', hcp⟩
        exact .inr ⟨c', hchild, (ih hc' (bound_child hchild hbound)).mpr ⟨m, hm, rfl, k, hcl⟩⟩

theorem shown_inj (hnodup : (page.map (·.id)).Nodup) {m n : Node} (hm : m ∈ page)
    (hn : n ∈ page) (h : m.shown = n.shown) : m = n :=
  eq_of_id_eq hnodup hm hn (Json.int.inj (congrArg Prod.fst h))

/-- Two nodes with one link show no node in common, when the climb from that link ends: a node
shown in both trees would climb to each, and two climbs from one node meet a link once. -/
theorem disjoint_pageTree_nodes (hnodup : (page.map (·.id)).Nodup) {a b : Node} (ha : a ∈ page)
    (hb : b ∈ page) (hab : a ≠ b) {fa fb : Nat}
    (hbounda : ∀ m ∈ page, ∀ k, (Store.ofPage page).climb (some m.id) k = some a.id → k < fa)
    (hboundb : ∀ m ∈ page, ∀ k, (Store.ofPage page).climb (some m.id) k = some b.id → k < fb)
    (hsame : (Store.ofPage page).parentOf a.id = (Store.ofPage page).parentOf b.id)
    (hends : ∀ p, (Store.ofPage page).parentOf a.id = some p → (Store.ofPage page).Ends p) :
    (pageTree page fa a.id).nodes.Disjoint (pageTree page fb b.id).nodes := by
  intro v hva hvb
  obtain ⟨m, hm, rfl, i, hi⟩ := (mem_pageTree_nodes hnodup ha hbounda v).mp hva
  obtain ⟨m', hm', hmm, j, hj⟩ := (mem_pageTree_nodes hnodup hb hboundb _).mp hvb
  obtain rfl := shown_inj hnodup hm hm' hmm
  exact hab (eq_of_id_eq hnodup ha hb (Store.climb_meets_once hi hj hsame hends))

/-- **No node is shown twice.** On a page whose nodes all end their climbs, a node's tree
repeats no node: a node shown below itself would climb back to itself, and a node shown
below two children would have two climbs meeting `n` through different links. -/
theorem nodup_pageTree_nodes (hnodup : (page.map (·.id)).Nodup)
    (hends : ∀ m ∈ page, (Store.ofPage page).Ends m.id) {f : Nat} {n : Node} (hn : n ∈ page)
    (hbound : ∀ m ∈ page, ∀ k, (Store.ofPage page).climb (some m.id) k = some n.id → k < f) :
    (pageTree page f n.id).nodes.Nodup := by
  induction f generalizing n with
  | zero => exact absurd (hbound n hn 0 rfl) (Nat.not_lt_zero 0)
  | succ f ih =>
    have hchild : ∀ c ∈ pageChildren page n.id,
        c ∈ page ∧ (Store.ofPage page).parentOf c.id = some n.id := fun c hc =>
      mem_pageChildren.mp hc
    rw [pageTree_succ hnodup hn, Tree.nodes_mk, List.flatMap_map, List.nodup_cons,
      List.nodup_flatMap]
    refine ⟨?_, ⟨fun c hc => ih (hchild c hc).1 (bound_child hc hbound), ?_⟩⟩
    · -- `n` is not shown below itself
      intro hmem
      obtain ⟨c, hc, hv⟩ := List.mem_flatMap.mp hmem
      obtain ⟨m, hm, hmn, k, hk⟩ :=
        (mem_pageTree_nodes hnodup (hchild c hc).1 (bound_child hc hbound) _).mp hv
      obtain rfl := shown_inj hnodup hn hm hmn
      have hloop : (Store.ofPage page).climb (some n.id) (k + 1) = some n.id := by
        rw [Store.climb_succ_of_some hk]
        exact (hchild c hc).2
      exact Store.not_ends_of_climb_self hloop (hends n hn)
    · -- the trees of two children share no node: both hang from `n`, whose climb ends
      have hnd : (pageChildren page n.id).Nodup := (List.Nodup.of_map _ hnodup).filter _
      refine hnd.pairwise_of_forall_ne fun a ha b hb hab => ?_
      have hsame : (Store.ofPage page).parentOf a.id = (Store.ofPage page).parentOf b.id := by
        rw [(hchild a ha).2, (hchild b hb).2]
      refine disjoint_pageTree_nodes hnodup (hchild a ha).1 (hchild b hb).1 hab
        (bound_child ha hbound) (bound_child hb hbound) hsame fun p hp => ?_
      rw [(hchild a ha).2] at hp
      cases hp
      exact hends n hn

/-- **Each tree shows its part of the page faithfully.** Within the depth bound, the children
of each shown node are the nodes of the page linked to it, in page order. -/
theorem shows_pageTree (hnodup : (page.map (·.id)).Nodup) {f : Nat} {n : Node} (hn : n ∈ page)
    (hbound : ∀ m ∈ page, ∀ k, (Store.ofPage page).climb (some m.id) k = some n.id → k < f) :
    Shows page (pageTree page f n.id) := by
  induction f generalizing n with
  | zero => exact absurd (hbound n hn 0 rfl) (Nat.not_lt_zero 0)
  | succ f ih =>
    rw [pageTree_succ hnodup hn]
    refine .node n _ hn ?_ ?_
    · -- a node's link on the page store is its own link, `n` being on the page
      have hlink : ∀ m ∈ page,
          ((Store.ofPage page).parentOf m.id == some n.id) = (m.link == some n.id) := by
        intro m hm
        have hiff := parentOf_ofPage_eq_some hnodup hm (List.mem_map_of_mem hn)
        rw [Bool.eq_iff_iff, beq_iff_eq, beq_iff_eq]
        exact hiff
      rw [List.map_map, pageChildren, List.filter_congr hlink]
      exact List.map_congr_left fun m hm => pageTree_id hnodup (List.mem_of_mem_filter hm) f
    · intro c hc
      obtain ⟨m, hm, rfl⟩ := List.mem_map.mp hc
      exact ih (mem_pageChildren.mp hm).1 (bound_child hm hbound)

end Trees

/-! ## The forest of a page -/

section Forest

variable {page : List Node}

/-- A climb that ends passes a node at the top of the page store. The induction is on the
length of the climb. -/
theorem exists_top {x : Int} (hx : x ∈ page.map (·.id)) {t : Nat}
    (ht : (Store.ofPage page).climb (some x) t = none) :
    ∃ c ∈ page, (Store.ofPage page).parentOf c.id = none ∧
      ∃ k, (Store.ofPage page).climb (some x) k = some c.id := by
  induction t generalizing x with
  | zero => cases ht
  | succ t ih =>
    obtain ⟨n, hn, rfl⟩ := List.mem_map.mp hx
    rw [Store.climb_some_succ] at ht
    cases hp : (Store.ofPage page).parentOf n.id with
    | none => exact ⟨n, hn, hp, 0, rfl⟩
    | some y =>
      rw [hp] at ht
      obtain ⟨c, hc, htop, k, hk⟩ := ih (parentOf_ofPage_mem hp) ht
      refine ⟨c, hc, htop, k + 1, ?_⟩
      rw [Store.climb_some_succ, hp]
      exact hk

/-- On a page whose climbs end, every climb is shorter than the page. -/
theorem climb_lt_length (hends : ∀ m ∈ page, (Store.ofPage page).Ends m.id) {m : Node}
    (hm : m ∈ page) {k : Nat} {y : Int} (h : (Store.ofPage page).climb (some m.id) k = some y) :
    k < page.length := by
  have hstart : m.id ∈ (Store.ofPage page).nodes.map (·.id) := by
    rw [ofPage_ids]
    exact List.mem_map_of_mem hm
  have hstop := Store.climb_length_eq_none ofPage_closed hstart (hends m hm)
  have hlen : (Store.ofPage page).nodes.length = page.length := by simp [Store.ofPage]
  rw [hlen] at hstop
  by_contra hk
  rw [Store.climb_eq_none_of_le hstop (Nat.le_of_not_lt hk)] at h
  cases h

/-- The trees shown for a page: one for each node at its top, in page order. -/
def pageForest (page : List Node) : List Tree :=
  (page.filter (·.atTop page)).map fun n => pageTree page (page.length + 1) n.id

theorem atTop_of_parentOf (hnodup : (page.map (·.id)).Nodup) {c : Node} (hc : c ∈ page)
    (htop : (Store.ofPage page).parentOf c.id = none) : c ∈ page.filter (·.atTop page) :=
  List.mem_filter.mpr ⟨hc, (parentOf_ofPage_eq_none hnodup hc).mp htop⟩

theorem parentOf_of_atTop (hnodup : (page.map (·.id)).Nodup) {c : Node}
    (hc : c ∈ page.filter (·.atTop page)) : (Store.ofPage page).parentOf c.id = none :=
  (parentOf_ofPage_eq_none hnodup (List.mem_filter.mp hc).1).mpr (List.mem_filter.mp hc).2

/-- **The builder on a page whose climbs end.** No link is dropped, and the forest is one tree
for each node at the top, in page order. -/
theorem build_ofPage (hnodup : (page.map (·.id)).Nodup)
    (hends : ∀ m ∈ page, (Store.ofPage page).Ends m.id) (hne : page ≠ []) :
    Forest.build Json.int (· == ·) (page.map Node.row) = .ok (pageForest page) := by
  have hlink : Forest.linkIn (Forest.pageParents (page.map Node.row)) [] =
      (Store.ofPage page).parentOf := funext (linkIn_nil_ofPage hnodup)
  -- the rows at the top are those of the nodes at the top
  have htops : (pageLinked page).filter (fun p => p.2 == none) =
      (page.filter (·.atTop page)).map fun n => (n.row, none) := by
    have hcongr : ∀ n ∈ page, ((Store.ofPage page).parentOf n.id == none) = n.atTop page :=
      fun n hn => by
        rw [Bool.eq_iff_iff, beq_iff_eq]
        exact parentOf_ofPage_eq_none hnodup hn
    simp only [pageLinked, List.map_map, List.filter_map, Function.comp_def, Node.row_id]
    rw [List.filter_congr hcongr]
    refine List.map_congr_left fun n hn => ?_
    have hn' := List.mem_filter.mp hn
    rw [(parentOf_ofPage_eq_none hnodup hn'.1).mpr hn'.2]
  -- some node is at the top: the climb from any node passes one
  obtain ⟨n, hn⟩ := List.exists_mem_of_ne_nil page hne
  obtain ⟨t, ht⟩ := hends n hn
  obtain ⟨c, hc, htop, -⟩ := exists_top (List.mem_map_of_mem hn) ht
  have hfilter : page.filter (·.atTop page) ≠ [] := List.ne_nil_of_mem (atTop_of_parentOf hnodup hc htop)
  have hlinked : (page.map Node.row).map (fun r => (r, (Store.ofPage page).parentOf r.id)) =
      pageLinked page := rfl
  have hrows : (page.map Node.row).isEmpty = false := by simp [hne]
  have htopsne : ((page.filter (·.atTop page)).map fun n => (n.row, (none : Option Int))).isEmpty =
      false := by simp [hfilter]
  simp only [Forest.build, breakers_ofPage hnodup hends, hlink, hlinked, htops, hrows, htopsne,
    Bool.false_eq_true, ↓reduceIte, List.map_map, List.length_map]
  rfl

/-- The builder's depth bound holds at a node on a page whose climbs end. -/
theorem bound_length (hends : ∀ m ∈ page, (Store.ofPage page).Ends m.id) (n : Node) :
    ∀ m ∈ page, ∀ k, (Store.ofPage page).climb (some m.id) k = some n.id → k < page.length + 1 :=
  fun _ hm _ hk => Nat.lt_succ_of_lt (climb_lt_length hends hm hk)

/-- A page whose climbs end shows no tree only when it has no row. -/
theorem pageForest_eq_nil_iff (hnodup : (page.map (·.id)).Nodup)
    (hends : ∀ m ∈ page, (Store.ofPage page).Ends m.id) : pageForest page = [] ↔ page = [] := by
  constructor
  · intro hnil
    by_contra hne
    -- the climb from any row passes a node at the top, which has a tree
    obtain ⟨n, hn⟩ := List.exists_mem_of_ne_nil page hne
    obtain ⟨t, ht⟩ := hends n hn
    obtain ⟨c, hc, htop, -⟩ := exists_top (List.mem_map_of_mem hn) ht
    have htree : pageTree page (page.length + 1) c.id ∈ pageForest page :=
      List.mem_map_of_mem (atTop_of_parentOf hnodup hc htop)
    rw [hnil] at htree
    cases htree
  · rintro rfl
    rfl

/-- The roots of the forest are the nodes at the top of the page, in page order. -/
theorem pageForest_ids (hnodup : (page.map (·.id)).Nodup) :
    (pageForest page).map Tree.id = (page.filter (·.atTop page)).map fun n => .int n.id := by
  rw [pageForest, List.map_map]
  exact List.map_congr_left fun n hn => pageTree_id hnodup (List.mem_of_mem_filter hn) _

theorem shows_pageForest (hnodup : (page.map (·.id)).Nodup)
    (hends : ∀ m ∈ page, (Store.ofPage page).Ends m.id) : ∀ t ∈ pageForest page, Shows page t := by
  intro t ht
  obtain ⟨n, hn, rfl⟩ := List.mem_map.mp ht
  exact shows_pageTree hnodup (List.mem_of_mem_filter hn) (bound_length hends n)

/-- Two trees of the forest show no node in common. -/
theorem nodup_pageForest_nodes (hnodup : (page.map (·.id)).Nodup)
    (hends : ∀ m ∈ page, (Store.ofPage page).Ends m.id) :
    ((pageForest page).flatMap Tree.nodes).Nodup := by
  rw [pageForest, List.flatMap_map, List.nodup_flatMap]
  refine ⟨fun n hn => nodup_pageTree_nodes hnodup hends (List.mem_of_mem_filter hn)
    (bound_length hends n), ?_⟩
  -- two nodes at the top share no node below them: neither has a parent
  have hnd : (page.filter (·.atTop page)).Nodup := (List.Nodup.of_map _ hnodup).filter _
  refine hnd.pairwise_of_forall_ne fun a ha b hb hab => ?_
  have hsame : (Store.ofPage page).parentOf a.id = (Store.ofPage page).parentOf b.id := by
    rw [parentOf_of_atTop hnodup ha, parentOf_of_atTop hnodup hb]
  refine disjoint_pageTree_nodes hnodup (List.mem_of_mem_filter ha) (List.mem_of_mem_filter hb)
    hab (bound_length hends a) (bound_length hends b) hsame fun p hp => ?_
  rw [parentOf_of_atTop hnodup ha] at hp
  cases hp

/-- The forest shows the nodes of the page: a node's climb passes a node at the top, in whose
tree it is shown. -/
theorem mem_pageForest_nodes (hnodup : (page.map (·.id)).Nodup)
    (hends : ∀ m ∈ page, (Store.ofPage page).Ends m.id) (v : Json × Json) :
    v ∈ (pageForest page).flatMap Tree.nodes ↔ v ∈ page.map Node.shown := by
  rw [pageForest, List.flatMap_map, List.mem_flatMap, List.mem_map]
  constructor
  · rintro ⟨n, hn, hv⟩
    obtain ⟨m, hm, rfl, -⟩ :=
      (mem_pageTree_nodes hnodup (List.mem_of_mem_filter hn) (bound_length hends n) v).mp hv
    exact ⟨m, hm, rfl⟩
  · rintro ⟨m, hm, rfl⟩
    obtain ⟨t, ht⟩ := hends m hm
    obtain ⟨c, hc, hctop, k, hk⟩ := exists_top (List.mem_map_of_mem hm) ht
    refine ⟨c, atTop_of_parentOf hnodup hc hctop, ?_⟩
    exact (mem_pageTree_nodes hnodup hc (bound_length hends c) _).mpr ⟨m, hm, rfl, k, hk⟩

/-- **Every node of the page is shown once.** The nodes shown across the forest are those of the
page, each exactly once. -/
theorem pageForest_nodes_perm (hnodup : (page.map (·.id)).Nodup)
    (hends : ∀ m ∈ page, (Store.ofPage page).Ends m.id) :
    ((pageForest page).flatMap Tree.nodes).Perm (page.map Node.shown) := by
  have hshown : (page.map Node.shown).Nodup :=
    (List.Nodup.of_map _ hnodup).map_on fun m hm n hn h => shown_inj hnodup hm hn h
  exact (List.perm_ext_iff_of_nodup (nodup_pageForest_nodes hnodup hends) hshown).mpr
    (mem_pageForest_nodes hnodup hends)

end Forest

end Arbor
