import Arbor.Proofs.Store.Subtree
import Arbor.Proofs.Store.Write
import Arbor.Proofs.Number.Basic

set_option autoImplicit false

/-! # The writes of the store, on integer ids

The store's operations take values of any kind; its callers pass integers for ids, parents,
pages and page sizes. On an integer both backends find a node the same way: the SQL backend
first binds the integer, which must fit 64 bits, and then both look the node up by its id
(`Store.locate_int`).

On integers a write's checks read as the rules they enforce. A parent is found when a node has
its id (`findParent_int`). A new parent is refused when it is the node itself, when no node has
its id, or when its climb meets the node (`findNewParent_int`): whichever backend searches, the
subtree it finds holds exactly the ids whose climb meets the node, each once (`subtreeOf_int`),
when the stored ids are distinct.

For each write this module also says what a successful call did, so that later proofs never
take the writes apart again:

* `create_ok`: the label passed its check, a parent was a stored node, and the node was
  appended with the next id, which moved on by one;
* `update_ok`: the node was stored, a new parent was a stored node other than the node whose
  climb never meets it, and only that node changed, to its new label and parent;
* `delete_ok`: the node was stored, and the stored nodes whose climb meets it went, as many as
  the delete answered.
-/

namespace Arbor

theorem Json.equal_int (a b : Int) : (Json.int a).equal (.int b) = (a == b) := by
  rw [Bool.eq_iff_iff]
  simp [Json.equal, Num.ofJson?, Num.isNaN, Num.exact]

theorem Json.eq_int (a b : Int) : (Json.int a).eq (.int b) = (a == b) := by
  simp [Json.eq, Json.equal_int, Num.ofJson?, Num.isNaN, Num.exact]

theorem Param.ofKey_int (k : Int) (cached : Bool) :
    Param.ofKey (.int k) cached =
      if fitsColumn k then .ok (.integer k) else .error .intTooLargeForStore := by
  cases cached <;> rfl

theorem validateLabel_ok {l l' : Json} (h : validateLabel l = .ok l') : l' = l := by
  unfold validateLabel at h
  split at h
  · cases h
  · split at h
    · cases h
    · split at h
      · cases h
      · exact (Except.ok.inj h).symm

/-- A text of Unicode scalar values: a string with no surrogate, as every text of the service's
interface is. -/
def Json.IsScalarText (v : Json) : Prop :=
  ∃ t : Text, v = .str t ∧ ∀ c ∈ t.points, c.isValidChar

namespace Store

variable {s : Store}

theorem mem_of_find? {k : Int} {n : Node} (h : s.find? k = some n) : n ∈ s.nodes ∧ n.id = k :=
  ⟨List.mem_of_find?_eq_some h, by simpa using List.find?_some h⟩

theorem find?_eq_none_iff {k : Int} : s.find? k = none ↔ k ∉ s.nodes.map (·.id) := by
  simp [find?, List.find?_eq_none]

/-! ## Naming a node by an integer -/

/-- On an integer both backends look the node up by its id, once the SQL backend has bound it. -/
theorem locate_int (k : Int) (cached : Bool) :
    s.locate (.int k) cached = (s.bind k).map fun _ => s.find? k := by
  unfold locate bind find?
  cases hb : s.backend with
  | memory => simp [Json.hashFault?, Json.equal_int, Except.map]
  | sql =>
    rw [Param.ofKey_int]
    by_cases hk : fitsColumn k = true
    · -- a bound integer selects the ids equal to it
      have hsel : (fun n : Node => (Param.integer k).selects n.id) = (fun n => n.id == k) := by
        funext n
        simp [Param.selects, eq_comm]
      simp only [hk, if_true, Except.map]
      change Except.ok (s.nodes.find? fun n => (Param.integer k).selects n.id) = _
      rw [hsel]
      rfl
    · simp [hk, Except.map]

/-- An id the store can bind names the stored node with that id, if there is one. -/
theorem named_int_of_bind {k : Int} {cached : Bool} {fault : Fault} (hb : s.bind k = .ok ()) :
    s.named (.int k) cached fault = match s.find? k with
      | some n => .ok n
      | none => .error fault := by
  unfold named
  rw [locate_int, hb]
  cases s.find? k <;> rfl

theorem named_int_ok {k : Int} {cached : Bool} {fault : Fault} {n : Node}
    (h : s.named (.int k) cached fault = .ok n) : s.bind k = .ok () ∧ s.find? k = some n := by
  cases hb : s.bind k with
  | error e =>
    unfold named at h
    simp [locate_int, hb, Except.map, Bind.bind, Except.bind] at h
  | ok u =>
    rw [named_int_of_bind hb] at h
    cases hf : s.find? k with
    | none => simp [hf] at h
    | some m =>
      simp only [hf, Except.ok.injEq] at h
      exact ⟨rfl, congrArg some h⟩

theorem fitsColumn_of_bind {k : Int} (hb : s.bind k = .ok ()) (hback : s.backend = .sql) :
    fitsColumn k = true := by
  unfold bind at hb
  rw [hback] at hb
  by_contra hk
  simp [hk] at hb

theorem keepParent_int {k : Int} (hb : s.bind k = .ok ()) :
    s.keepParent (.int k) k = .ok (.int k) := by
  unfold keepParent
  cases hback : s.backend with
  | memory => rfl
  | sql => simp [Param.ofJson, fitsColumn_of_bind hb hback, Bind.bind, Except.bind, pure, Except.pure]

/-! ## Values the SQL backend binds -/

theorem bind_of_fits {k : Int} (hk : fitsColumn k = true) : s.bind k = .ok () := by
  simp [Store.bind, hk]

/-- UTF-8 writes every Unicode scalar value. -/
theorem firstRefused_utf8_of_valid {points : List Nat} (h : ∀ c ∈ points, c.isValidChar) :
    Codec.utf8.firstRefused points = none := by
  have hnone : points.findIdx? Codec.utf8.refuses = none := by
    rw [List.findIdx?_eq_none_iff]
    intro c hc
    have hvalid := h c hc
    simp only [Nat.isValidChar] at hvalid
    simp only [Codec.refuses, Utf8.isSurrogate, Bool.and_eq_false_iff, decide_eq_false_iff_not]
    omega
  simp [Codec.firstRefused, hnone]

theorem bindLabel_of_scalar {label : Json} (hl : label.IsScalarText) :
    s.bindLabel label = .ok () := by
  obtain ⟨t, rfl, ht⟩ := hl
  unfold bindLabel
  split
  · simp [firstRefused_utf8_of_valid ht]
  · rfl

/-! ## The subtree a backend finds -/

/-- The ids `gone` are the subtree of `i`: exactly the ids whose climb meets `i`, each once. -/
def IsSubtree (s : Store) (i : Int) (gone : List Int) : Prop :=
  (∀ x, x ∈ gone ↔ ∃ k, s.climb (some x) k = some i) ∧ gone.Nodup

/-- **Either backend finds the subtree**, the memory backend by its search and the SQL backend by
its rounds, when the stored ids are distinct and the node's name can be bound. -/
theorem subtreeOf_int (hnodup : (s.nodes.map (·.id)).Nodup) {i : Int} (hb : s.bind i = .ok ())
    (id : Int) : ∃ gone, s.subtreeOf (.int i) id = .ok gone ∧ s.IsSubtree id gone := by
  unfold subtreeOf
  cases hback : s.backend with
  | memory => exact ⟨_, rfl, mem_subtreeIds hnodup id, nodup_subtreeIds hnodup id⟩
  | sql =>
    refine ⟨cteIds s.nodes id, ?_, mem_cteIds hnodup id, nodup_cteIds hnodup id⟩
    simp [Param.ofJson, fitsColumn_of_bind hb hback, Bind.bind, Except.bind, pure, Except.pure]

open Classical in
theorem IsSubtree.contains_eq {i : Int} {gone : List Int} (h : s.IsSubtree i gone) (x : Int) :
    gone.contains x = decide (∃ k, s.climb (some x) k = some i) := by
  rw [Bool.eq_iff_iff, List.contains_iff_mem, decide_eq_true_iff]
  exact h.1 x

open Classical in
/-- The subtree of a stored node counts the stored nodes whose climb meets it: it holds their ids
and nothing else, each once. -/
theorem IsSubtree.length_eq (hnodup : (s.nodes.map (·.id)).Nodup) {i : Int} {gone : List Int}
    (h : s.IsSubtree i gone) (hi : i ∈ s.nodes.map (·.id)) :
    gone.length = (s.nodes.filter fun n => decide (∃ k, s.climb (some n.id) k = some i)).length := by
  have hperm : gone.Perm
      ((s.nodes.filter fun n => decide (∃ k, s.climb (some n.id) k = some i)).map (·.id)) := by
    refine (List.perm_ext_iff_of_nodup h.2 (hnodup.sublist (List.filter_sublist.map _))).mpr
      fun x => ?_
    rw [h.1 x]
    simp only [List.mem_map, List.mem_filter, decide_eq_true_eq]
    constructor
    · intro hx
      -- an id that climbs to a stored node is stored itself
      have hstored : x ∈ s.nodes.map (·.id) := by
        rcases climbs_iff.mp hx with rfl | ⟨hx', -⟩
        · exact hi
        · exact hx'
      obtain ⟨n, hn, rfl⟩ := List.mem_map.mp hstored
      exact ⟨n, ⟨hn, hx⟩, rfl⟩
    · rintro ⟨n, ⟨-, hx⟩, rfl⟩
      exact hx
  rw [hperm.length_eq, List.length_map]

/-! ## The checks of a write, on integers -/

theorem findParent_int {k : Int} (hk : s.bind k = .ok ()) :
    s.findParent (some (.int k)) =
      if k ∈ s.nodes.map (·.id) then .ok (some (.int k, k))
      else .error (.nodeNotFound "parent node not found") := by
  simp only [findParent]
  rw [named_int_of_bind hk]
  cases hf : s.find? k with
  | none => simp [find?_eq_none_iff.mp hf, Bind.bind, Except.bind]
  | some n =>
    obtain ⟨hn, rfl⟩ := mem_of_find? hf
    simp [List.mem_map_of_mem hn, Bind.bind, Except.bind, pure, Except.pure]

open Classical in
/-- The checks of a new parent, on integers: it is not the node itself, a node has its id, and its
climb never meets the node. -/
theorem findNewParent_int (hnodup : (s.nodes.map (·.id)).Nodup) {i k : Int}
    (hi : s.bind i = .ok ()) (hk : s.bind k = .ok ()) {node : Node} (hnode : node.id = i) :
    s.findNewParent (.int i) node (some (.int k)) =
      if k = i then .error (.invalidInput "node cannot be its own parent")
      else if k ∉ s.nodes.map (·.id) then .error (.nodeNotFound "parent node not found")
      else if ∃ d, s.climb (some k) d = some i then
        .error (.invalidInput "parent cannot be a descendant of the node")
      else .ok (some (.int k, k)) := by
  obtain ⟨gone, hgone, hsub⟩ := subtreeOf_int hnodup hi node.id
  simp only [findNewParent]
  by_cases hki : k = i
  · simp [hki, Json.eq_int, throw, throwThe, MonadExceptOf.throw, Bind.bind, Except.bind]
  rw [named_int_of_bind hk]
  cases hf : s.find? k with
  | none =>
    simp [hki, Json.eq_int, find?_eq_none_iff.mp hf, Bind.bind, Except.bind]
  | some n =>
    obtain ⟨hn, rfl⟩ := mem_of_find? hf
    -- the descendant check looks for the parent among the ids of the subtree found
    have hany : (gone.any fun d => (Json.int d).equal (.int n.id)) = true ↔
        ∃ d, s.climb (some n.id) d = some i := by
      rw [← hnode, ← hsub.1 n.id]
      simp [Json.equal_int]
    by_cases hclimb : ∃ d, s.climb (some n.id) d = some i
    · simp [hki, Json.eq_int, List.mem_map_of_mem hn, hgone, hany.mpr hclimb, hclimb,
        Json.hashFault?, throw, throwThe, MonadExceptOf.throw, Bind.bind, Except.bind]
    · have hnot : (gone.any fun d => (Json.int d).equal (.int n.id)) = false := by
        simpa using mt hany.mp hclimb
      simp [hki, Json.eq_int, List.mem_map_of_mem hn, hgone, hnot, hclimb, Json.hashFault?,
        Bind.bind, Except.bind, pure, Except.pure]

theorem keepFound_none (label : Json) :
    s.keepFound label none = (s.bindLabel label).map fun _ => none := by
  unfold keepFound
  cases s.bindLabel label <;> rfl

theorem keepFound_int {label : Json} {k : Int} (hk : s.bind k = .ok ()) :
    s.keepFound label (some (.int k, k)) = (s.bindLabel label).map fun _ => some (.int k) := by
  unfold keepFound
  cases s.bindLabel label <;>
    simp [keepParent_int hk, Bind.bind, Except.bind, Functor.map, Except.map]

/-! ## What a successful write did -/

/-- A parent found for a create was named by a bound integer that a stored node has as its id. -/
theorem findParent_ok {parent : Option Int} {found : Option (Json × Int)}
    (h : s.findParent (parent.map .int) = .ok found) :
    found = parent.map (fun k => (.int k, k)) ∧
      ∀ k, parent = some k → s.bind k = .ok () ∧ ∃ n, s.find? k = some n := by
  cases parent with
  | none =>
    cases h
    exact ⟨rfl, by simp⟩
  | some k =>
    obtain ⟨n, hn, h⟩ := bind_eq_ok h
    obtain ⟨hb, hf⟩ := named_int_ok hn
    obtain ⟨-, rfl⟩ := mem_of_find? hf
    cases h
    refine ⟨rfl, ?_⟩
    rintro k ⟨⟩
    exact ⟨hb, n, hf⟩

/-- A row kept with a parent found by a bound integer holds that integer. -/
theorem keepFound_ok {label : Json} {parent : Option Int} {kept : Option Json}
    (hb : ∀ k, parent = some k → s.bind k = .ok ())
    (h : s.keepFound label (parent.map fun k => (.int k, k)) = .ok kept) :
    kept = parent.map .int := by
  cases parent with
  | none =>
    rw [Option.map_none, keepFound_none] at h
    cases hl : s.bindLabel label <;> simp [hl, Except.map] at h
    exact h.symm
  | some k =>
    rw [Option.map_some, keepFound_int (hb k rfl)] at h
    cases hl : s.bindLabel label <;> simp [hl, Except.map] at h
    exact h.symm

/-- An update that answers changes nothing but the nodes. -/
theorem update_frame {ref label : Json} {parent : Option Json} {s' : Store}
    (h : s.update ref label parent = .ok s') : ∃ nodes, s' = { s with nodes } := by
  rw [update_eq] at h
  obtain ⟨_, -, h₁⟩ := bind_eq_ok h
  obtain ⟨_, -, h₂⟩ := bind_eq_ok h₁
  obtain ⟨_, -, h₃⟩ := bind_eq_ok h₂
  obtain ⟨_, -, h₄⟩ := bind_eq_ok h₃
  cases h₄
  exact ⟨_, rfl⟩

/-- A delete that answers changes nothing but the nodes. -/
theorem delete_frame {ref : Json} {count : Nat} {s' : Store}
    (h : s.delete ref = .ok (count, s')) : ∃ nodes, s' = { s with nodes } := by
  rw [delete_eq] at h
  obtain ⟨_, -, h₁⟩ := bind_eq_ok h
  obtain ⟨_, -, h₂⟩ := bind_eq_ok h₁
  cases h₂
  exact ⟨_, rfl⟩

theorem create_ok {label : Json} {parent : Option Int} {id : Int} {s' : Store}
    (h : s.create label (parent.map .int) = .ok (id, s')) :
    validateLabel label = .ok label ∧ (∀ k, parent = some k → ∃ n, s.find? k = some n) ∧
      id = s.nextId ∧
      s' = { s with nodes := s.nodes ++ [⟨s.nextId, label, parent.map .int⟩],
                    nextId := s.nextId + 1 } := by
  rw [create_eq] at h
  -- the steps of the create, each of which answered
  obtain ⟨l, hl, h₁⟩ := bind_eq_ok h
  obtain ⟨found, hfound, h₂⟩ := bind_eq_ok h₁
  obtain ⟨kept, hkept, h₃⟩ := bind_eq_ok h₂
  obtain ⟨-, -, hl⟩ := bind_eq_ok hl
  obtain rfl := validateLabel_ok hl
  obtain ⟨rfl, hparent⟩ := findParent_ok hfound
  obtain rfl := keepFound_ok (fun k hk => (hparent k hk).1) hkept
  cases h₃
  exact ⟨hl, fun k hk => (hparent k hk).2, rfl, rfl⟩

/-- A new parent that passed the checks of an update is a stored node other than the node, whose
climb never meets it. -/
theorem findNewParent_ok (hnodup : (s.nodes.map (·.id)).Nodup) {i : Int} {node : Node}
    (hi : s.bind i = .ok ()) (hnode : node.id = i) {parent : Option Int}
    {found : Option (Json × Int)} (h : s.findNewParent (.int i) node (parent.map .int) = .ok found) :
    found = parent.map (fun k => (.int k, k)) ∧
      ∀ k, parent = some k → s.bind k = .ok () ∧ k ≠ i ∧ k ∈ s.nodes.map (·.id) ∧
        ¬ ∃ d, s.climb (some k) d = some i := by
  cases parent with
  | none =>
    cases h
    exact ⟨rfl, by simp⟩
  | some k =>
    -- a parent that passed the lookup was bound
    have hk : s.bind k = .ok () := by
      cases hb : s.bind k with
      | ok u => rfl
      | error e =>
        simp only [findNewParent] at h
        by_cases hki : k = i
        · simp [hki, Json.eq_int, throw, throwThe, MonadExceptOf.throw, Bind.bind, Except.bind] at h
        · simp [hki, Json.eq_int, named, locate_int, hb, Except.map, Bind.bind, Except.bind] at h
    rw [Option.map_some, findNewParent_int hnodup hi hk hnode] at h
    by_cases hki : k = i
    · simp [hki] at h
    by_cases hkin : k ∈ s.nodes.map (·.id)
    · by_cases hclimb : ∃ d, s.climb (some k) d = some i
      · simp [hki, hkin, hclimb] at h
      · simp only [hki, hkin, hclimb, if_false, not_true_eq_false, Except.ok.injEq] at h
        subst h
        refine ⟨rfl, ?_⟩
        rintro k ⟨⟩
        exact ⟨hk, hki, hkin, hclimb⟩
    · simp [hki, hkin] at h

theorem update_ok (hnodup : (s.nodes.map (·.id)).Nodup) {i : Int} {label : Json}
    {parent : Option Int} {s' : Store} (h : s.update (.int i) label (parent.map .int) = .ok s') :
    validateLabel label = .ok label ∧ (∃ node, s.find? i = some node) ∧
      (∀ k, parent = some k → k ≠ i ∧ (∃ n, s.find? k = some n) ∧
        ¬ ∃ d, s.climb (some k) d = some i) ∧
      s' = { s with nodes := s.nodes.map fun n =>
        if n.id == i then ⟨n.id, label, parent.map .int⟩ else n } := by
  rw [update_eq] at h
  -- the steps of the update, each of which answered
  obtain ⟨l, hl, h₁⟩ := bind_eq_ok h
  obtain ⟨node, hnode, h₂⟩ := bind_eq_ok h₁
  obtain ⟨found, hfound, h₃⟩ := bind_eq_ok h₂
  obtain ⟨kept, hkept, h₄⟩ := bind_eq_ok h₃
  obtain ⟨-, -, hl⟩ := bind_eq_ok hl
  obtain rfl := validateLabel_ok hl
  obtain ⟨hbi, hfi⟩ := named_int_ok hnode
  obtain ⟨-, hid⟩ := mem_of_find? hfi
  obtain ⟨rfl, hparent⟩ := findNewParent_ok hnodup hbi hid hfound
  obtain rfl := keepFound_ok (fun k hk => (hparent k hk).1) hkept
  cases h₄
  refine ⟨hl, ⟨node, hfi⟩, fun k hk => ?_, by rw [hid]⟩
  obtain ⟨-, hki, hkin, hclimb⟩ := hparent k hk
  obtain ⟨n, hn, rfl⟩ := List.mem_map.mp hkin
  exact ⟨hki, ⟨n, find?_of_nodup hnodup hn⟩, hclimb⟩

open Classical in
theorem delete_ok (hnodup : (s.nodes.map (·.id)).Nodup) {i : Int} {count : Nat} {s' : Store}
    (h : s.delete (.int i) = .ok (count, s')) :
    i ∈ s.nodes.map (·.id) ∧
      count = (s.nodes.filter fun n => decide (∃ k, s.climb (some n.id) k = some i)).length ∧
      s' = { s with nodes := s.nodes.filter fun n => !decide (∃ k, s.climb (some n.id) k = some i) } := by
  rw [delete_eq] at h
  obtain ⟨node, hnode, h⟩ := bind_eq_ok h
  obtain ⟨-, -, hnode⟩ := bind_eq_ok hnode
  obtain ⟨hbi, hfi⟩ := named_int_ok hnode
  obtain ⟨hmem, rfl⟩ := mem_of_find? hfi
  have hi : node.id ∈ s.nodes.map (·.id) := List.mem_map_of_mem hmem
  obtain ⟨gone, hgone, hsub⟩ := subtreeOf_int hnodup hbi node.id
  rw [hgone] at h
  cases h
  refine ⟨hi, hsub.length_eq hnodup hi, ?_⟩
  simp only [hsub.contains_eq]

end Store

end Arbor
