import Arbor.Page.Codec
import Arbor.Proofs.Cache.Key
import Arbor.Proofs.Number.Basic

set_option autoImplicit false

/-! # Page documents read back

A page written as a document reads back as the same page, and a single node as the same node
(`Page.ofJson?_toJson`, `Tree.ofJson?_toJson`), at any depth and whatever values its fields hold:
a cached page comes back as it was stored.

Reading keeps only what a page holds. `Json.normalPage` says what that leaves of a document: the
keys `data` and `pagination` in that order, the six keys of the pagination, and in every node
`id`, `label` and `children`, each value copied unchanged, where a `data` or `children` that is
missing or false (or any other value that is no array) lists no node, at every depth. A document
that reads as a page is written back as exactly that (`Page.toJson_of_ofJson?`), so writing back
what was read is idempotent (`page_documents_read_back`).
-/

namespace Arbor

namespace Json

/-- The value of the field `key`, or `null` when there is none. -/
def fieldOr (fields : List (Text × Json)) (key : String) : Json :=
  (lookup fields (Text.ofString key)).getD .null

mutual

/-- The normal form of a node document: its `id`, its `label` and its children, in that order. -/
def normalNode : Json → Json
  | .obj fields =>
    .obj [("id", fieldOr fields "id"), ("label", fieldOr fields "label"),
      ("children", .arr (normalNodesAt fields "children"))]
  | other => other

/-- The normal forms of the nodes that the first field named `key` lists, none when there is no
such field. -/
def normalNodesAt : List (Text × Json) → String → List Json
  | [], _ => []
  | (k, v) :: rest, key => if k == Text.ofString key then normalNodes v else normalNodesAt rest key

/-- The normal forms of the nodes an array lists; any other value lists none. -/
def normalNodes : Json → List Json
  | .arr items => normalItems items
  | _ => []

/-- The normal forms of the items, in order. -/
def normalItems : List Json → List Json
  | [] => []
  | v :: vs => normalNode v :: normalItems vs

end

/-- The normal form of a pagination document: its six keys, in order. -/
def normalPagination : Json → Json
  | .obj fields =>
    record [("page", fieldOr fields "page"), ("pageSize", fieldOr fields "pageSize"),
      ("total", fieldOr fields "total"), ("totalPages", fieldOr fields "totalPages"),
      ("hasNext", fieldOr fields "hasNext"), ("hasPrev", fieldOr fields "hasPrev")]
  | other => other

/-- The normal form of a page document: its nodes and its pagination, in normal form. -/
def normalPage : Json → Json
  | .obj fields =>
    record [("data", .arr (normalNodesAt fields "data")),
      ("pagination", normalPagination (fieldOr fields "pagination"))]
  | other => other

/-! ## Fields of objects -/

theorem lookup_cons (k key : Text) (v : Json) (fs : List (Text × Json)) :
    lookup ((k, v) :: fs) key = if k == key then some v else lookup fs key := by
  by_cases h : k == key <;> simp [lookup, h]

theorem member_obj (fields : List (Text × Json)) (key : String) :
    member (.obj fields) key =
      match lookup fields (Text.ofString key) with
      | some x => .ok x
      | none => .error (.missingKey (Text.ofString key)) := rfl

/-- A key found in a value: the value is an object, and the key's field holds what was found. -/
theorem member_eq_ok {v x : Json} {key : String} (h : member v key = .ok x) :
    ∃ fields, v = .obj fields ∧ fieldOr fields key = x := by
  cases v with
  | obj fields =>
    refine ⟨fields, rfl, ?_⟩
    rw [member_obj] at h
    cases hl : lookup fields (Text.ofString key) with
    | none => simp [hl] at h
    | some y =>
      simp only [hl, Except.ok.injEq] at h
      simp [fieldOr, hl, h]
  | _ => cases h

/-- The nodes listed under a key are those of the first field with that key. -/
theorem normalNodesAt_eq (fields : List (Text × Json)) (key : String) :
    normalNodesAt fields key =
      match lookup fields (Text.ofString key) with
      | some v => normalNodes v
      | none => [] := by
  induction fields with
  | nil => rfl
  | cons kv rest ih =>
    obtain ⟨k, v⟩ := kv
    rw [normalNodesAt, lookup_cons]
    by_cases hk : k == Text.ofString key
    · simp [hk]
    · simp [hk, ih]

end Json

/-! ## Nodes -/

namespace Tree

/-- A value that is no array lists no node, if it lists any. -/
theorem listOf_eq_nil {v : Json} {ts : List Tree} (hv : ∀ items, v ≠ .arr items)
    (h : listOf v = .ok ts) : ts = [] := by
  cases v with
  | arr items => exact absurd rfl (hv items)
  | obj fields =>
    cases fields with
    | nil => simpa [listOf] using h.symm
    | cons kv rest => cases h
  | str s =>
    simp only [listOf] at h
    split at h
    · exact (Except.ok.inj h).symm
    · cases h
  | _ =>
    simp only [listOf] at h
    split at h
    · exact (Except.ok.inj h).symm
    · cases h

mutual

/-- **A node's document reads back as the node**, whatever its depth. -/
theorem ofJson?_toJson : ∀ t : Tree, ofJson? t.toJson = .ok t
  | .mk i l cs => by
    have hcs := itemsOf_map_toJson cs
    simp [toJson, ofJson?, Json.member, Json.lookup, childrenIn, listOf, hcs,
      Text.ofString_injective.eq_iff, Bind.bind, Except.bind, pure, Except.pure]

/-- The documents of a list of nodes read back as the list. -/
theorem itemsOf_map_toJson : ∀ ts : List Tree, itemsOf (ts.map toJson) = .ok ts
  | [] => rfl
  | t :: ts => by
    have ht := ofJson?_toJson t
    have hts := itemsOf_map_toJson ts
    simp [itemsOf, ht, hts, Bind.bind, Except.bind, pure, Except.pure]

end

mutual

/-- **A node read from a document is written back as the document's normal form.** -/
theorem toJson_of_ofJson? : ∀ {v : Json} {t : Tree}, ofJson? v = .ok t → t.toJson = v.normalNode
  | .obj fields, t, h => by
    obtain ⟨i, hi, h⟩ := bind_eq_ok h
    obtain ⟨l, hl, h⟩ := bind_eq_ok h
    obtain ⟨cs, hcs, h⟩ := bind_eq_ok h
    cases h
    obtain ⟨_, hobj, rfl⟩ := Json.member_eq_ok hi
    obtain ⟨_, hobj', rfl⟩ := Json.member_eq_ok hl
    cases hobj
    cases hobj'
    rw [toJson, Json.normalNode, toJson_of_childrenIn hcs]
  | .null, _, h | .bool _, _, h | .int _, _, h | .float _, _, h | .str _, _, h | .arr _, _, h => by
    cases h

/-- The children read from a node's fields are written back as the normal forms of the nodes
that its `children` field lists. -/
theorem toJson_of_childrenIn : ∀ {fields : List (Text × Json)} {ts : List Tree},
    childrenIn fields = .ok ts → ts.map toJson = Json.normalNodesAt fields "children"
  | [], _, h => by
    cases h
    rfl
  | (k, v) :: rest, ts, h => by
    rw [childrenIn] at h
    rw [Json.normalNodesAt]
    by_cases hk : k == Text.ofString "children"
    · simp only [hk, if_true] at h ⊢
      exact toJson_of_listOf h
    · simp only [hk, Bool.false_eq_true, if_false] at h ⊢
      exact toJson_of_childrenIn h

/-- The nodes a value lists are written back as their normal forms. -/
theorem toJson_of_listOf : ∀ {v : Json} {ts : List Tree},
    listOf v = .ok ts → ts.map toJson = v.normalNodes
  | .arr items, _, h => toJson_of_itemsOf h
  | .null, _, h | .bool _, _, h | .int _, _, h | .float _, _, h | .str _, _, h | .obj _, _, h => by
    rw [listOf_eq_nil (fun _ hv => by cases hv) h]
    rfl

/-- The nodes of an array are written back as the items' normal forms. -/
theorem toJson_of_itemsOf : ∀ {vs : List Json} {ts : List Tree},
    itemsOf vs = .ok ts → ts.map toJson = Json.normalItems vs
  | [], _, h => by
    cases h
    rfl
  | v :: vs, _, h => by
    obtain ⟨t, ht, h⟩ := bind_eq_ok h
    obtain ⟨ts, hts, h⟩ := bind_eq_ok h
    cases h
    rw [List.map_cons, toJson_of_ofJson? ht, toJson_of_itemsOf hts, Json.normalItems]

end

end Tree

/-! ## Paginations and pages -/

namespace Pagination

theorem ofJson?_toJson (p : Pagination) : ofJson? p.toJson = .ok p := by
  simp [toJson, ofJson?, Json.record, Json.member, Json.lookup, Text.ofString_injective.eq_iff,
    Bind.bind, Except.bind, pure, Except.pure]

/-- A pagination read from a document is written back as the document's normal form. -/
theorem toJson_of_ofJson? {v : Json} {p : Pagination} (h : ofJson? v = .ok p) :
    p.toJson = v.normalPagination := by
  obtain ⟨page, hpage, h⟩ := bind_eq_ok h
  obtain ⟨pageSize, hpageSize, h⟩ := bind_eq_ok h
  obtain ⟨total, htotal, h⟩ := bind_eq_ok h
  obtain ⟨totalPages, htotalPages, h⟩ := bind_eq_ok h
  obtain ⟨hasNext, hhasNext, h⟩ := bind_eq_ok h
  obtain ⟨hasPrev, hhasPrev, h⟩ := bind_eq_ok h
  cases h
  -- every key was found in one and the same object
  obtain ⟨fields, rfl, rfl⟩ := Json.member_eq_ok hpage
  obtain ⟨_, hobj, rfl⟩ := Json.member_eq_ok hpageSize
  cases hobj
  obtain ⟨_, hobj, rfl⟩ := Json.member_eq_ok htotal
  cases hobj
  obtain ⟨_, hobj, rfl⟩ := Json.member_eq_ok htotalPages
  cases hobj
  obtain ⟨_, hobj, rfl⟩ := Json.member_eq_ok hhasNext
  cases hobj
  obtain ⟨_, hobj, rfl⟩ := Json.member_eq_ok hhasPrev
  cases hobj
  rfl

end Pagination

namespace Page

/-- **A page's document reads back as the page.** -/
theorem ofJson?_toJson (p : Page) : ofJson? p.toJson = .ok p := by
  have hdata := Tree.itemsOf_map_toJson p.data
  have hpag := Pagination.ofJson?_toJson p.pagination
  simp [toJson, ofJson?, Json.record, Json.member, Json.lookup, Tree.listOf, hdata, hpag,
    Text.ofString_injective.eq_iff, Bind.bind, Except.bind, pure, Except.pure]

/-- **A page read from a document is written back as the document's normal form.** -/
theorem toJson_of_ofJson? {v : Json} {p : Page} (h : ofJson? v = .ok p) :
    p.toJson = v.normalPage := by
  cases v with
  | obj fields =>
    rw [ofJson?] at h
    -- the nodes are those of the first `data` field, none without one
    obtain ⟨data, hnodes, h⟩ : ∃ data : List Tree,
        data.map Tree.toJson = Json.normalNodesAt fields "data" ∧
          (do
            let pagination ← Pagination.ofJson? (← Json.member (.obj fields) "pagination")
            pure ({ data, pagination } : Page)) = .ok p := by
      rw [Json.normalNodesAt_eq]
      cases hl : Json.lookup fields (Text.ofString "data") with
      | some v =>
        rw [hl] at h
        obtain ⟨data, hdata, h⟩ := bind_eq_ok h
        exact ⟨data, Tree.toJson_of_listOf hdata, h⟩
      | none =>
        rw [hl] at h
        exact ⟨[], rfl, h⟩
    obtain ⟨doc, hdoc, h⟩ := bind_eq_ok h
    obtain ⟨pagination, hpag, h⟩ := bind_eq_ok h
    cases h
    obtain ⟨_, hobj, rfl⟩ := Json.member_eq_ok hdoc
    cases hobj
    rw [toJson, Json.normalPage, hnodes, Pagination.toJson_of_ofJson? hpag]
  | _ => cases h

end Page

/-- **Page documents read back.** A page's document reads back as the page and a node's as the
node, at any depth; a document that reads as a page is written back in its normal form, and what
is written back reads back the same, so writing back what was read is idempotent. -/
theorem page_documents_read_back :
    (∀ p : Page, Page.ofJson? p.toJson = .ok p) ∧
    (∀ t : Tree, Tree.ofJson? t.toJson = .ok t) ∧
    (∀ (v : Json) (p : Page), Page.ofJson? v = .ok p →
      p.toJson = v.normalPage ∧ (Page.ofJson? p.toJson).map Page.toJson = .ok p.toJson) := by
  refine ⟨Page.ofJson?_toJson, Tree.ofJson?_toJson,
    fun v p h => ⟨Page.toJson_of_ofJson? h, ?_⟩⟩
  rw [Page.ofJson?_toJson]
  rfl

end Arbor
