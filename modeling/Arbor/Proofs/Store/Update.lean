import Arbor.Proofs.Store.Page

set_option autoImplicit false

/-! # Which moves the store accepts

An update names a node by its id and gives it a label (a text, or none) and a new parent (an id,
or none for a root). The store checks in a fixed order, and the first rule broken decides the
answer (`Store.updateAnswer`): the label must be given, not be empty and have at most 100 code
points; the node must be stored; a new parent must not be the node itself, must be stored, and
must not lie below the node, which is to say that following parent links up from it never meets
the node. When no rule is broken, that node alone changes, to its new label and parent.

The store decides "below" by the subtree it finds for the node, the memory backend by its
search and the SQL backend by its rounds. On a sound store either subtree holds exactly the ids
whose climb meets the node (`Store.findNewParent_int`), so the store answers every update as
`updateAnswer` says (`Store.update_eq_answer`): on the memory backend for every id, label and
parent, and on the SQL backend when the ids fit its 64-bit columns and the label is made of
Unicode scalar values (`updates_accept_exactly_acyclic_moves`). Beyond those the
SQL backend refuses the id or the label itself, after or instead of the checks
(`sql_update_refuses_wide_values`).
-/

namespace Arbor

/-- A label as a caller gives it: a text, or `null` when there is none. -/
def labelValue : Option Text → Json
  | none => .null
  | some t => .str t

namespace Store

/-- The store with node `i` given the label `label` and the parent `parent`, every other node as
it was. -/
def relabel (s : Store) (i : Int) (label : Json) (parent : Option Json) : Store :=
  { s with nodes := s.nodes.map fun n => if n.id == i then ⟨n.id, label, parent⟩ else n }

open Classical in
/-- How an update of node `i` to `label` under `parent` must be answered: the first rule it breaks
decides the fault, and when it breaks none, node `i` alone changes. A parent lies below the node
when following parent links up from it meets the node. -/
noncomputable def updateAnswer (s : Store) (i : Int) (label : Option Text)
    (parent : Option Int) : Except Fault Store :=
  match label with
  | none => .error (.invalidInput "label must not be empty")
  | some t =>
    if t.length = 0 then .error (.invalidInput "label must not be empty")
    else if 100 < t.length then .error (.invalidInput "label must be at most 100 characters")
    else if i ∉ s.nodes.map (·.id) then .error (.nodeNotFound "node not found")
    else match parent with
      | none => .ok (s.relabel i (.str t) none)
      | some k =>
        if k = i then .error (.invalidInput "node cannot be its own parent")
        else if k ∉ s.nodes.map (·.id) then .error (.nodeNotFound "parent node not found")
        else if ∃ d, s.climb (some k) d = some i then
          .error (.invalidInput "parent cannot be a descendant of the node")
        else .ok (s.relabel i (.str t) (some (.int k)))

variable {s : Store}

/-! ## The checks one by one -/

/-- A text label passes the label check when it is neither empty nor longer than 100 code
points. -/
theorem validateLabel_str (t : Text) :
    validateLabel (.str t) =
      if t.length = 0 then .error (.invalidInput "label must not be empty")
      else if 100 < t.length then .error (.invalidInput "label must be at most 100 characters")
      else .ok (.str t) := by
  have hempty : t.isEmpty = decide (t.length = 0) := by
    cases hp : t.points <;> simp [Text.isEmpty, Text.length, hp]
  simp only [validateLabel, Json.isFalsy, Json.length?, hempty, maxLabelLength]
  by_cases h0 : t.length = 0
  · simp [h0]
  · by_cases hlong : 100 < t.length
    · simp [h0, hlong]
      rfl
    · simp [h0, hlong]

/-! ## The answer of an update -/

/-- **The store answers an update as `updateAnswer` says**, on a sound store that can be reached,
when the backend can bind the ids and write the label. -/
theorem update_eq_answer (h : s.Sound) (hr : s.reachable = true) {i : Int} {label : Option Text}
    {parent : Option Int} (hi : s.bind i = .ok ()) (hp : ∀ k ∈ parent, s.bind k = .ok ())
    (hl : ∀ t ∈ label, s.bindLabel (.str t) = .ok ()) :
    s.update (.int i) (labelValue label) (parent.map .int) = s.updateAnswer i label parent := by
  have hreach : s.reach = .ok () := by simp [reach, hr]
  rw [update_eq]
  cases label with
  | none =>
    simp [updateAnswer, hreach, labelValue, validateLabel, Json.isFalsy, Bind.bind, Except.bind]
  | some t =>
    simp only [updateAnswer, hreach, labelValue, validateLabel_str, named_int_of_bind hi,
      Bind.bind, Except.bind]
    by_cases h0 : t.length = 0
    · simp [h0]
    by_cases hlong : 100 < t.length
    · simp [h0, hlong]
    cases hn : s.find? i with
    | none =>
      -- the node is not stored
      simp [h0, hlong, find?_eq_none_iff.mp hn]
    | some node =>
      obtain ⟨hnode, rfl⟩ := mem_of_find? hn
      have hin : node.id ∈ s.nodes.map (·.id) := List.mem_map_of_mem hnode
      cases parent with
      | none =>
        simp [h0, hlong, hin, findNewParent, keepFound_none, hl t rfl, relabel, Except.map,
          pure, Except.pure]
      | some k =>
        -- the checks of the new parent, in the order the rules give them
        simp only [Option.map_some, h0, hlong, if_false,
          findNewParent_int (nodup_ids h.ascending) hi (hp k rfl) rfl]
        by_cases hki : k = node.id
        · simp [hin, hki]
        by_cases hkin : k ∈ s.nodes.map (·.id)
        · by_cases hclimb : ∃ d, s.climb (some k) d = some node.id
          · simp [hin, hki, hkin, hclimb]
          · simp [hin, hki, hkin, hclimb, keepFound_int (hp k rfl), hl t rfl, relabel,
              Except.map, pure, Except.pure]
        · simp [hin, hki, hkin]

end Store

/-- The SQL backend binds an id that fits its columns, and the memory backend binds every id. -/
theorem Store.bind_of_backend {s : Store} {k : Int} (h : s.backend = .sql → fitsColumn k = true) :
    s.bind k = .ok () := by
  unfold Store.bind
  cases hb : s.backend with
  | memory => rfl
  | sql => simp [h hb]

/-- The SQL backend writes a label of Unicode scalar values, and the memory backend every
label. -/
theorem Store.bindLabel_of_backend {s : Store} {t : Text}
    (h : s.backend = .sql → ∀ c ∈ t.points, c.isValidChar) :
    s.bindLabel (.str t) = .ok () := by
  cases hb : s.backend with
  | memory => simp [Store.bindLabel, hb]
  | sql => exact Store.bindLabel_of_scalar ⟨t, rfl, h hb⟩

/-- **Updates accept exactly the acyclic moves.** On every store that a run of operations reaches
from an empty store of either backend, an update of node `i` to `label` under `parent` fails with
the first rule it breaks, in this order: a missing or empty label, or one of more than 100 code
points; a node that is not stored; a parent that is the node itself; a parent that is not stored;
a parent from which following parent links up meets the node. An update that breaks none changes
that node alone, to its new label and parent. On the SQL backend the ids and parent fit its 64-bit
columns and the label is made of Unicode scalar values. -/
theorem updates_accept_exactly_acyclic_moves (backend : Backend) (ops : List StoreOp) (i : Int)
    (label : Option Text) (parent : Option Int)
    (hsql : backend = .sql → fitsColumn i = true ∧ (∀ k ∈ parent, fitsColumn k = true) ∧
      ∀ t ∈ label, ∀ c ∈ t.points, c.isValidChar) :
    let s := ((Store.empty backend).runOps ops).1
    s.update (.int i) (labelValue label) (parent.map .int) = s.updateAnswer i label parent := by
  intro s
  obtain ⟨hsound, -⟩ := Store.runOps_sound (Store.empty_sound backend) ops
  obtain ⟨hback, hreach⟩ := Store.runOps_keeps (Store.empty backend) ops
  have hsql' : s.backend = .sql → _ := fun hb => hsql (hback.symm.trans hb)
  exact Store.update_eq_answer hsound hreach
    (Store.bind_of_backend fun hb => (hsql' hb).1)
    (fun k hk => Store.bind_of_backend fun hb => (hsql' hb).2.1 k hk)
    (fun t ht => Store.bindLabel_of_backend fun hb => (hsql' hb).2.2 t ht)

/-- Moving the root of a chain of two nodes below its own child, on the SQL backend: the ids fit
its columns and the label is plain, so the update is answered as the rules say. -/
theorem moving_a_root_below_its_child :
    (Backend.sql = .sql → fitsColumn 1 = true ∧
      (∀ k ∈ some (2 : Int), fitsColumn k = true) ∧
      ∀ t ∈ some (Text.ofString "c"), ∀ c ∈ t.points, c.isValidChar) ∧
    let s := ((Store.empty .sql).runOps [.create (.text "a") none, .create (.text "b") (some 1)]).1
    s.update (.int 1) (labelValue (some (Text.ofString "c"))) ((some (2 : Int)).map .int) =
      s.updateAnswer 1 (some (Text.ofString "c")) (some 2) := by
  have hyp : Backend.sql = .sql → fitsColumn 1 = true ∧
      (∀ k ∈ some (2 : Int), fitsColumn k = true) ∧
      ∀ t ∈ some (Text.ofString "c"), ∀ c ∈ t.points, c.isValidChar := fun _ =>
    ⟨by decide, by decide, by decide⟩
  exact ⟨hyp, updates_accept_exactly_acyclic_moves .sql _ 1 _ _ hyp⟩

/-- On the SQL backend a parent beyond 64 bits is refused by the column before the store can look
for it, and a label holding a lone surrogate is refused when it is written, once every check has
passed. -/
theorem sql_update_refuses_wide_values :
    let s := ((Store.empty .sql).runOps [.create (.text "a") none]).1
    s.update (.int 1) (labelValue (some (Text.ofString "b"))) (some (.int 9223372036854775808)) =
        .error .intTooLargeForStore ∧
      s.update (.int 1) (labelValue (some ⟨[0xD800]⟩)) none =
        .error (.notEncodable .utf8 0xD800 0 1) :=
  ⟨rfl, rfl⟩

end Arbor
