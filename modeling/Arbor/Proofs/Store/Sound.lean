import Arbor.Proofs.Store.Ops

set_option autoImplicit false

/-! # The store stays sound

`Store.Sound` is what every store reached by its operations satisfies: nodes are kept in ascending
id order, so no two share an id; every label passes the label check; every parent is the id of a
stored node; parent links from any stored node pass a root within as many links as there are
nodes, so the parent graph has no cycle; and every id is below the next id handed out.

Each write keeps it:

* `Sound.append` (create): the new node takes the next id, above every stored one, under a stored
  parent; climbs from old nodes never meet it, and the new node's climb continues as its
  parent's;
* `Sound.relink` (update): a climb that never meets the moved node is as before; one that meets
  it continues from the new parent, whose climb never meets the moved node, or the update would
  have refused it;
* `Sound.prune` (delete): the nodes removed are those whose climb meets the node, so the parent
  of a kept node is kept too, and every kept node keeps its parent and its climb;
* `Sound.close`: the memory backend forgets every node, the SQL backend keeps its rows.

Acyclicity is shown as "every climb ends" (`Store.Ends`) and turned into the bound on its length
by the pigeonhole lemma `climb_length_eq_none`.
-/

namespace Arbor

@[simp] theorem Json.intValue?_int (k : Int) : (Json.int k).intValue? = some k := by
  simp [Json.intValue?, Num.ofJson?, Num.intValue?, Num.exact]

namespace Store

/-- The invariant of every store its operations reach. -/
structure Sound (s : Store) : Prop where
  /-- nodes are kept in ascending id order, so no two share an id -/
  ascending : s.nodes.Pairwise fun a b => a.id < b.id
  labels : ∀ n ∈ s.nodes, validateLabel n.label = .ok n.label
  /-- every parent is the id of a stored node -/
  parents : ∀ n ∈ s.nodes, ∀ v, n.parent = some v → ∃ m ∈ s.nodes, v = .int m.id
  /-- parent links from a stored node pass a root within as many links as there are nodes -/
  rooted : ∀ n ∈ s.nodes, s.climb (some n.id) s.nodes.length = none
  /-- every id is below the next id handed out -/
  below : ∀ n ∈ s.nodes, n.id < s.nextId

variable {s : Store}

/-! ## Facts of ascending ids and stored parents -/

theorem nodup_ids (hasc : s.nodes.Pairwise fun a b => a.id < b.id) :
    (s.nodes.map (·.id)).Nodup :=
  (List.pairwise_map.mpr hasc).nodup

theorem find?_of_mem (hasc : s.nodes.Pairwise fun a b => a.id < b.id) {n : Node}
    (hn : n ∈ s.nodes) : s.find? n.id = some n :=
  find?_of_nodup (nodup_ids hasc) hn

theorem parentOf_mem
    (hparents : ∀ n ∈ s.nodes, ∀ v, n.parent = some v → ∃ m ∈ s.nodes, v = .int m.id) (x y : Int) (h : s.parentOf x = some y) : y ∈ s.nodes.map (·.id) := by
  obtain ⟨n, hfind, hlink⟩ := Option.bind_eq_some_iff.mp h
  obtain ⟨v, hv, hint⟩ := Option.bind_eq_some_iff.mp hlink
  obtain ⟨m, hm, rfl⟩ := hparents n (mem_of_find? hfind).1 v hv
  rw [Json.intValue?_int, Option.some.injEq] at hint
  exact hint ▸ List.mem_map_of_mem hm

theorem parentOf_of_mem (hasc : s.nodes.Pairwise fun a b => a.id < b.id) {n : Node}
    (hn : n ∈ s.nodes) : s.parentOf n.id = n.link := by
  simp [parentOf, find?_of_mem hasc hn]

/-- The four facts other than the bound, and that every climb ends, make a store sound. -/
theorem Sound.of_ends (hasc : s.nodes.Pairwise fun a b => a.id < b.id)
    (hlabels : ∀ n ∈ s.nodes, validateLabel n.label = .ok n.label)
    (hparents : ∀ n ∈ s.nodes, ∀ v, n.parent = some v → ∃ m ∈ s.nodes, v = .int m.id)
    (hbelow : ∀ n ∈ s.nodes, n.id < s.nextId) (hends : ∀ n ∈ s.nodes, s.Ends n.id) : s.Sound :=
  ⟨hasc, hlabels, hparents, fun n hn =>
    climb_length_eq_none (parentOf_mem hparents) (List.mem_map_of_mem hn) (hends n hn), hbelow⟩

theorem Sound.closed (h : s.Sound) (x y : Int) (hxy : s.parentOf x = some y) :
    y ∈ s.nodes.map (·.id) :=
  parentOf_mem h.parents x y hxy

/-! ## Each write keeps the store sound -/

/-- Creating a node keeps the store sound. -/
theorem Sound.append (h : s.Sound) {s' : Store} {label : Json} {parent : Option Int}
    (hnodes : s'.nodes = s.nodes ++ [⟨s.nextId, label, parent.map .int⟩])
    (hnext : s'.nextId = s.nextId + 1) (hlabel : validateLabel label = .ok label)
    (hparent : ∀ k, parent = some k → ∃ n, s.find? k = some n) : s'.Sound := by
  have hasc : s'.nodes.Pairwise fun a b => a.id < b.id := by
    rw [hnodes, List.pairwise_append]
    refine ⟨h.ascending, List.pairwise_singleton _ _, fun a ha b hb => ?_⟩
    rw [List.mem_singleton.mp hb]
    exact h.below a ha
  have hnew : (⟨s.nextId, label, parent.map .int⟩ : Node) ∈ s'.nodes := by simp [hnodes]
  have hold : ∀ n ∈ s.nodes, n ∈ s'.nodes := fun n hn => by simp [hnodes, hn]
  -- old nodes keep their links, so climbs from them are as before
  have hclimb : ∀ x ∈ s.nodes.map (·.id), ∀ t, s'.climb (some x) t = s.climb (some x) t := by
    intro x hx t
    refine climb_congr fun j _ y hy => ?_
    obtain ⟨n, hn, rfl⟩ := List.mem_map.mp (climb_mem h.closed hx hy)
    rw [parentOf_of_mem hasc (hold n hn), parentOf_of_mem h.ascending hn]
  refine Sound.of_ends hasc ?_ ?_ ?_ ?_
  · intro n hn
    rw [hnodes] at hn
    rcases List.mem_append.mp hn with hn | hn
    · exact h.labels n hn
    · rw [List.mem_singleton.mp hn]
      exact hlabel
  · intro n hn v hv
    rw [hnodes] at hn
    rcases List.mem_append.mp hn with hn | hn
    · obtain ⟨m, hm, rfl⟩ := h.parents n hn v hv
      exact ⟨m, hold m hm, rfl⟩
    · rw [List.mem_singleton.mp hn] at hv
      cases parent with
      | none => cases hv
      | some k =>
        obtain ⟨m, hm⟩ := hparent k rfl
        obtain ⟨hmem, rfl⟩ := mem_of_find? hm
        cases hv
        exact ⟨m, hold m hmem, rfl⟩
  · intro n hn
    rw [hnodes] at hn
    rw [hnext]
    rcases List.mem_append.mp hn with hn | hn
    · have := h.below n hn
      omega
    · rw [List.mem_singleton.mp hn]
      dsimp only
      omega
  · intro n hn
    rw [hnodes] at hn
    rcases List.mem_append.mp hn with hn | hn
    · refine ⟨s.nodes.length, ?_⟩
      rw [hclimb _ (List.mem_map_of_mem hn)]
      exact h.rooted n hn
    · -- the new node's climb continues as its parent's
      rw [List.mem_singleton.mp hn]
      have hlink := parentOf_of_mem hasc hnew
      cases parent with
      | none =>
        refine ⟨1, ?_⟩
        rw [climb_some_succ, hlink]
        rfl
      | some k =>
        obtain ⟨m, hm⟩ := hparent k rfl
        obtain ⟨hmem, rfl⟩ := mem_of_find? hm
        refine ⟨1 + s.nodes.length, ?_⟩
        rw [climb_add, climb_some_succ, hlink]
        simp only [Node.link, Option.map_some, Option.bind_some, Json.intValue?_int, climb_zero]
        rw [hclimb _ (List.mem_map_of_mem hmem)]
        exact h.rooted m hmem

/-- Updating a node keeps the store sound, when its new parent is a stored node outside its
subtree. -/
theorem Sound.relink (h : s.Sound) {s' : Store} {i : Int} {label : Json} {parent : Option Int}
    (hnodes : s'.nodes = s.nodes.map fun n =>
      if n.id == i then ⟨n.id, label, parent.map .int⟩ else n)
    (hnext : s'.nextId = s.nextId) (hlabel : validateLabel label = .ok label)
    (hnode : ∃ node, s.find? i = some node)
    (hparent : ∀ k, parent = some k → k ≠ i ∧ (∃ n, s.find? k = some n) ∧
      ¬ ∃ d, s.climb (some k) d = some i) :
    s'.Sound := by
  let moved : Node → Node := fun n => if n.id == i then ⟨n.id, label, parent.map .int⟩ else n
  have hnodes' : s'.nodes = s.nodes.map moved := hnodes
  have hid : ∀ n, (moved n).id = n.id := fun n => by
    simp only [moved]
    split <;> rfl
  have hmem : ∀ n ∈ s.nodes, moved n ∈ s'.nodes := fun n hn => by
    rw [hnodes']
    exact List.mem_map_of_mem hn
  have hasc : s'.nodes.Pairwise fun a b => a.id < b.id := by
    rw [hnodes', List.pairwise_map]
    exact h.ascending.imp fun hab => by rwa [hid, hid]
  have hfind : ∀ y, s'.find? y = (s.find? y).map moved := by
    intro y
    simp only [find?, hnodes', List.find?_map]
    congr 2
    funext n
    simp only [Function.comp_apply, hid]
  -- the moved node links to its new parent; every other node keeps its link
  obtain ⟨node, hnodefind⟩ := hnode
  obtain ⟨hnodemem, rfl⟩ := mem_of_find? hnodefind
  have hmoved_self : ∀ n : Node, n.id = node.id → moved n = ⟨n.id, label, parent.map .int⟩ :=
    fun n hn => by simp [moved, hn]
  have hmoved_other : ∀ n : Node, n.id ≠ node.id → moved n = n := fun n hn => by simp [moved, hn]
  have hlinkmoved : s'.parentOf node.id = parent := by
    simp only [parentOf, hfind, hnodefind, Option.map_some, Option.bind_some, moved, beq_self_eq_true,
      if_true, Node.link]
    cases parent <;> simp
  have hother : ∀ y, y ≠ node.id → s'.parentOf y = s.parentOf y := by
    intro y hy
    simp only [parentOf, hfind]
    cases hy' : s.find? y with
    | none => rfl
    | some n =>
      obtain ⟨-, rfl⟩ := mem_of_find? hy'
      rw [Option.map_some, hmoved_other n hy]
  refine Sound.of_ends hasc ?_ ?_ ?_ ?_
  · intro m hm
    rw [hnodes'] at hm
    obtain ⟨n, hn, rfl⟩ := List.mem_map.mp hm
    by_cases hni : n.id = node.id
    · rw [hmoved_self n hni]
      exact hlabel
    · rw [hmoved_other n hni]
      exact h.labels n hn
  · intro m hm v hv
    rw [hnodes'] at hm
    obtain ⟨n, hn, rfl⟩ := List.mem_map.mp hm
    by_cases hni : n.id = node.id
    · -- the new parent is stored
      rw [hmoved_self n hni] at hv
      cases parent with
      | none => cases hv
      | some k =>
        obtain ⟨-, ⟨m, hmk⟩, -⟩ := hparent k rfl
        obtain ⟨hmmem, rfl⟩ := mem_of_find? hmk
        cases hv
        exact ⟨moved m, hmem m hmmem, by rw [hid]⟩
    · rw [hmoved_other n hni] at hv
      obtain ⟨m, hmmem, rfl⟩ := h.parents n hn v hv
      exact ⟨moved m, hmem m hmmem, by rw [hid]⟩
  · intro m hm
    rw [hnodes'] at hm
    obtain ⟨n, hn, rfl⟩ := List.mem_map.mp hm
    rw [hid, hnext]
    exact h.below n hn
  · intro m hm
    rw [hnodes'] at hm
    obtain ⟨n, hn, rfl⟩ := List.mem_map.mp hm
    rw [hid]
    by_cases hmeet : ∃ t, s.climb (some n.id) t = some node.id
    · -- up to its first meeting with the moved node the climb is as before; then it continues
      -- from the new parent, whose own climb never meets the moved node
      classical
      have hj := Nat.find_spec hmeet
      have hpre : s'.climb (some n.id) (Nat.find hmeet) = some node.id := by
        rw [climb_congr fun t ht y hy => hother y fun hyi => Nat.find_min hmeet ht (hyi ▸ hy)]
        exact hj
      cases hpk : parent with
      | none =>
        refine ⟨Nat.find hmeet + 1, ?_⟩
        rw [climb_add, hpre, climb_some_succ, hlinkmoved, hpk, climb_none]
      | some k =>
        obtain ⟨-, ⟨p, hpfind⟩, hout⟩ := hparent k hpk
        obtain ⟨hpmem, rfl⟩ := mem_of_find? hpfind
        have hfrom : s'.climb (some p.id) s.nodes.length = none := by
          rw [climb_congr fun t _ y hy => hother y fun hyi => hout ⟨t, hyi ▸ hy⟩]
          exact h.rooted p hpmem
        refine ⟨Nat.find hmeet + 1 + s.nodes.length, ?_⟩
        rw [climb_add, climb_add, hpre, climb_some_succ, hlinkmoved, hpk, climb_zero]
        exact hfrom
    · refine ⟨s.nodes.length, ?_⟩
      rw [climb_congr fun t _ y hy => hother y fun hyi => hmeet ⟨t, hyi ▸ hy⟩]
      exact h.rooted n hn

open Classical in
/-- Deleting the nodes whose climb meets `i` keeps the store sound. -/
theorem Sound.prune (h : s.Sound) {s' : Store} (i : Int)
    (hnodes : s'.nodes = s.nodes.filter fun n => !decide (∃ k, s.climb (some n.id) k = some i))
    (hnext : s'.nextId = s.nextId) : s'.Sound := by
  have hkept : ∀ n, n ∈ s'.nodes ↔ n ∈ s.nodes ∧ ¬ ∃ k, s.climb (some n.id) k = some i := by
    intro n
    simp [hnodes]
  have hasc : s'.nodes.Pairwise fun a b => a.id < b.id := by
    rw [hnodes]
    exact h.ascending.filter _
  -- the parent of a kept node is kept: had its climb met `i`, so would the child's
  have hparentkept : ∀ n ∈ s'.nodes, ∀ p, s.parentOf n.id = some p →
      ∃ m ∈ s'.nodes, m.id = p := by
    intro n hn p hp
    obtain ⟨hns, hnout⟩ := (hkept n).mp hn
    obtain ⟨m, hm, rfl⟩ := List.mem_map.mp (h.closed _ _ hp)
    refine ⟨m, (hkept m).mpr ⟨hm, fun ⟨k, hk⟩ => hnout ⟨k + 1, ?_⟩⟩, rfl⟩
    rw [climb_some_succ, hp]
    exact hk
  have hsame : ∀ m ∈ s'.nodes, s'.parentOf m.id = s.parentOf m.id := by
    intro m hm
    rw [parentOf_of_mem hasc hm, parentOf_of_mem h.ascending ((hkept m).mp hm).1]
  -- so a climb from a kept node visits kept nodes only
  have hvisit : ∀ t, ∀ n ∈ s'.nodes, ∀ y, s.climb (some n.id) t = some y → ∃ m ∈ s'.nodes, m.id = y := by
    intro t
    induction t with
    | zero =>
      intro n hn y hy
      exact ⟨n, hn, Option.some.inj hy⟩
    | succ t ih =>
      intro n hn y hy
      rw [climb_some_succ] at hy
      cases hp : s.parentOf n.id with
      | none => rw [hp, climb_none] at hy; cases hy
      | some p =>
        rw [hp] at hy
        obtain ⟨m, hm, rfl⟩ := hparentkept n hn p hp
        exact ih m hm y hy
  refine Sound.of_ends hasc ?_ ?_ ?_ ?_
  · intro n hn
    exact h.labels n ((hkept n).mp hn).1
  · intro n hn v hv
    obtain ⟨m, hm, rfl⟩ := h.parents n ((hkept n).mp hn).1 v hv
    have hp : s.parentOf n.id = some m.id := by
      rw [parentOf_of_mem h.ascending ((hkept n).mp hn).1]
      simp [Node.link, hv]
    obtain ⟨m', hm', hid⟩ := hparentkept n hn m.id hp
    exact ⟨m', hm', by rw [hid]⟩
  · intro n hn
    rw [hnext]
    exact h.below n ((hkept n).mp hn).1
  · intro n hn
    refine ⟨s.nodes.length, ?_⟩
    rw [climb_congr fun t _ y hy => ?_]
    · exact h.rooted n ((hkept n).mp hn).1
    · obtain ⟨m, hm, rfl⟩ := hvisit t n hn y hy
      exact hsame m hm

/-- Closing keeps the store sound: the memory backend forgets every node, the SQL backend keeps
them. -/
theorem Sound.close (h : s.Sound) : s.close.Sound := by
  unfold Store.close
  split
  · exact ⟨List.Pairwise.nil, by simp, by simp, by simp, by simp⟩
  · exact h

end Store

end Arbor
