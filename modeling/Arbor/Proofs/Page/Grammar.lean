import Arbor.Proofs.Page.Codec

set_option autoImplicit false

/-! # Which documents read as pages

A page document is an object whose `data` is missing, counts as false, or is an array of node
documents, and whose `pagination` is an object with the six keys `page`, `pageSize`, `total`,
`totalPages`, `hasNext` and `hasPrev`; a node document is an object with the keys `id` and
`label` whose `children` is again missing, false or an array of node documents (`PageDoc`,
`NodeDoc`, `NodesDoc`). Reading accepts exactly these documents.

A document outside the grammar has defects, and `pageDefects` lists them in the order a reader
meets them: the nodes first, left to right and depth first, each node's `id`, then its `label`,
then its children, and the pagination last, key by key. A document that is not an object has the
one defect of not being an object. Reading fails with a fault that reports the first defect
(`DocDefect.Reports`): `AttributeError` for a document that is no object, `KeyError` naming the
missing key, and `TypeError` for a value of the wrong kind: a true `data` or `children` that is no
array, or a node or a pagination that is no object.

The proof runs along one compositional fact. `ReadsAs r ds` says that a reading `r` succeeds when
the list of defects `ds` is empty and otherwise fails reporting its first; it is closed under
sequencing, the defects of the first step coming before those of the rest (`ReadsAs.bind`). Each
reader of a page then reads as the defects of what it reads, one lemma per reader
(`page_reader_accepts_exactly_its_grammar`). Every defect met inside a document is a missing key
or a value of the wrong kind, so reading fails as no object exactly when the document itself is
none (`Page.ofJson?_eq_notAnObject_iff`).
-/

namespace Arbor

/-! ## The grammar -/

/-- What is wrong with a document read as a page, as a reader reports it. -/
inductive DocDefect where
  /-- the document itself is no object -/
  | notAnObject
  /-- an object lacks the key `key` -/
  | missing (key : String)
  /-- a value is of the wrong kind: a true `data` or `children` that is no array, or a node or a
  pagination that is no object -/
  | wrongKind
  deriving DecidableEq

/-- A fault reports a defect: `AttributeError` for a document that is no object, `KeyError`
naming the missing key, `TypeError` for a value of the wrong kind. -/
def DocDefect.Reports : DocDefect → Fault → Prop
  | .notAnObject, e => e.className = "AttributeError"
  | .missing key, e => e = .missingKey (Text.ofString key)
  | .wrongKind, e => e.className = "TypeError"

mutual

/-- A node document: an object with the keys `id` and `label`, whose `children` lists node
documents or nothing. -/
inductive NodeDoc : Json → Prop
  | node {fields : List (Text × Json)} :
      (Json.lookup fields (Text.ofString "id")).isSome →
      (Json.lookup fields (Text.ofString "label")).isSome →
      NodesDoc (Json.lookup fields (Text.ofString "children")) → NodeDoc (.obj fields)

/-- What a `data` or `children` key may hold, `none` when the key is missing: nothing, a value
that counts as false, or an array of node documents. -/
inductive NodesDoc : Option Json → Prop
  | absent : NodesDoc none
  | falsy {v : Json} : v.isFalsy → NodesDoc (some v)
  | items {items : List Json} : (∀ x ∈ items, NodeDoc x) → NodesDoc (some (.arr items))

end

/-- The keys of a pagination document, in the order they are read. -/
def paginationKeys : List String := ["page", "pageSize", "total", "totalPages", "hasNext", "hasPrev"]

/-- A pagination document: an object with every key of `paginationKeys`. -/
def PaginationDoc : Json → Prop
  | .obj fields => ∀ key ∈ paginationKeys, (Json.lookup fields (Text.ofString key)).isSome
  | _ => False

/-- A page document: an object whose `data` lists node documents or nothing, and whose
`pagination` is a pagination document. -/
def PageDoc : Json → Prop
  | .obj fields =>
    NodesDoc (Json.lookup fields (Text.ofString "data")) ∧
      ∃ p, Json.lookup fields (Text.ofString "pagination") = some p ∧ PaginationDoc p
  | _ => False

/-! ## Defects in reading order -/

/-- The defect of a missing key `key` among `fields`, if it is missing. -/
def keyDefects (fields : List (Text × Json)) (key : String) : List DocDefect :=
  if (Json.lookup fields (Text.ofString key)).isSome then [] else [.missing key]

mutual

/-- The defects of a node document: a missing `id`, a missing `label`, then those of its
children; a value that is no object is of the wrong kind. -/
def nodeDefects : Json → List DocDefect
  | .obj fields => keyDefects fields "id" ++ keyDefects fields "label" ++ childrenDefects fields
  | _ => [.wrongKind]

/-- The defects of the nodes that the first `children` field among `fields` lists. -/
def childrenDefects : List (Text × Json) → List DocDefect
  | [] => []
  | (k, v) :: rest => if k == Text.ofString "children" then listDefects v else childrenDefects rest

/-- The defects of the nodes a `data` or `children` value lists: those of an array's items, none
for another value that counts as false, and a wrong kind for any other value. -/
def listDefects : Json → List DocDefect
  | .arr items => itemsDefects items
  | v => if v.isFalsy then [] else [.wrongKind]

/-- The defects of the items of an array, left to right. -/
def itemsDefects : List Json → List DocDefect
  | [] => []
  | x :: xs => nodeDefects x ++ itemsDefects xs

end

/-- The defects of a pagination found under the key `pagination`, `none` when there is none. -/
def paginationDefects : Option Json → List DocDefect
  | none => [.missing "pagination"]
  | some (.obj fields) => paginationKeys.flatMap (keyDefects fields)
  | some _ => [.wrongKind]

/-- The defects of a page document in the order a reader meets them: its nodes, then its
pagination; a document that is no object has only the one defect. -/
def pageDefects : Json → List DocDefect
  | .obj fields =>
    ((Json.lookup fields (Text.ofString "data")).elim [] listDefects) ++
      paginationDefects (Json.lookup fields (Text.ofString "pagination"))
  | _ => [.notAnObject]

/-! ## No defect, exactly the grammar -/

theorem keyDefects_eq_nil (fields : List (Text × Json)) (key : String) :
    keyDefects fields key = [] ↔ (Json.lookup fields (Text.ofString key)).isSome := by
  unfold keyDefects
  split <;> simp_all

mutual

theorem nodeDefects_eq_nil : ∀ v : Json, nodeDefects v = [] ↔ NodeDoc v
  | .obj fields => by
    have hchildren := childrenDefects_eq_nil fields
    rw [nodeDefects, List.append_eq_nil_iff, List.append_eq_nil_iff, keyDefects_eq_nil,
      keyDefects_eq_nil, hchildren]
    constructor
    · rintro ⟨⟨hid, hlabel⟩, hnodes⟩
      exact .node hid hlabel hnodes
    · rintro (⟨hid, hlabel, hnodes⟩)
      exact ⟨⟨hid, hlabel⟩, hnodes⟩
  | .null | .bool _ | .int _ | .float _ | .str _ | .arr _ => by
    simp only [nodeDefects, reduceCtorEq, false_iff]
    intro h
    cases h

theorem childrenDefects_eq_nil : ∀ fields : List (Text × Json),
    childrenDefects fields = [] ↔ NodesDoc (Json.lookup fields (Text.ofString "children"))
  | [] => by
    simp only [childrenDefects, Json.lookup, List.find?_nil, Option.map_none, true_iff]
    exact .absent
  | (k, v) :: rest => by
    rw [childrenDefects, Json.lookup_cons]
    by_cases hk : k == Text.ofString "children"
    · simp only [hk, if_true]
      exact listDefects_eq_nil v
    · simp only [hk, Bool.false_eq_true, if_false]
      exact childrenDefects_eq_nil rest

theorem listDefects_eq_nil : ∀ v : Json, listDefects v = [] ↔ NodesDoc (some v)
  | .arr items => by
    rw [listDefects, itemsDefects_eq_nil items]
    constructor
    · exact .items
    · intro h
      cases h with
      | falsy hfalse =>
        -- only the empty array counts as false, and it has no items
        have hnil : items = [] := by simpa [Json.isFalsy] using hfalse
        simp [hnil]
      | items hitems => exact hitems
  | .null | .bool _ | .int _ | .float _ | .str _ | .obj _ => by
    simp only [listDefects]
    split
    · exact iff_of_true rfl (.falsy ‹_›)
    · refine iff_of_false (by simp) fun h => ?_
      cases h
      contradiction

theorem itemsDefects_eq_nil : ∀ xs : List Json, itemsDefects xs = [] ↔ ∀ x ∈ xs, NodeDoc x
  | [] => by simp [itemsDefects]
  | x :: xs => by
    rw [itemsDefects, List.append_eq_nil_iff, nodeDefects_eq_nil x, itemsDefects_eq_nil xs,
      List.forall_mem_cons]

end

theorem paginationDefects_eq_nil (p : Option Json) :
    paginationDefects p = [] ↔ ∃ v, p = some v ∧ PaginationDoc v := by
  match p with
  | none => simp [paginationDefects]
  | some (.obj fields) =>
    simp [paginationDefects, PaginationDoc, List.flatMap_eq_nil_iff, keyDefects_eq_nil]
  | some (.null) | some (.bool _) | some (.int _) | some (.float _) | some (.str _)
  | some (.arr _) => simp [paginationDefects, PaginationDoc]

theorem pageDefects_eq_nil (v : Json) : pageDefects v = [] ↔ PageDoc v := by
  cases v with
  | obj fields =>
    have hdata : (Json.lookup fields (Text.ofString "data")).elim [] listDefects = [] ↔
        NodesDoc (Json.lookup fields (Text.ofString "data")) := by
      cases Json.lookup fields (Text.ofString "data") with
      | none => exact iff_of_true rfl .absent
      | some d => exact listDefects_eq_nil d
    rw [pageDefects, List.append_eq_nil_iff, hdata, paginationDefects_eq_nil, PageDoc]
  | _ => simp [pageDefects, PageDoc]

/-! ## Readings and their defects -/

/-- A reading reads as a list of defects when it succeeds exactly when the list is empty, and
otherwise fails with a fault that reports the list's first defect. -/
def ReadsAs {α : Type} : Except Fault α → List DocDefect → Prop
  | .ok _, [] => True
  | .error e, d :: _ => d.Reports e
  | _, _ => False

section ReadsAs

variable {α β : Type}

theorem readsAs_ok_iff {a : α} {ds : List DocDefect} : ReadsAs (.ok a) ds ↔ ds = [] := by
  cases ds <;> simp [ReadsAs]

theorem readsAs_error_iff {e : Fault} {ds : List DocDefect} :
    ReadsAs (.error e : Except Fault α) ds ↔ ∃ d rest, ds = d :: rest ∧ d.Reports e := by
  cases ds <;> simp [ReadsAs]

theorem ReadsAs.pure (a : α) : ReadsAs (pure a : Except Fault α) [] := trivial

/-- **Readings in sequence read as their defects in sequence**: a failing first step reports
its own first defect, and a succeeding one has none, so the rest decides. -/
theorem ReadsAs.bind {x : Except Fault α} {f : α → Except Fault β} {ds es : List DocDefect}
    (hx : ReadsAs x ds) (hf : ∀ a, x = .ok a → ReadsAs (f a) es) :
    ReadsAs (x >>= f) (ds ++ es) := by
  cases x with
  | ok a =>
    obtain rfl := readsAs_ok_iff.mp hx
    exact hf a rfl
  | error e =>
    obtain ⟨d, rest, rfl, hd⟩ := readsAs_error_iff.mp hx
    exact hd

/-- A reading succeeds exactly when it has no defect. -/
theorem ReadsAs.ok_iff {r : Except Fault α} {ds : List DocDefect} (h : ReadsAs r ds) :
    (∃ a, r = .ok a) ↔ ds = [] := by
  cases r with
  | ok a => exact iff_of_true ⟨a, rfl⟩ (readsAs_ok_iff.mp h)
  | error e =>
    obtain ⟨d, rest, rfl, -⟩ := readsAs_error_iff.mp h
    simp

/-- A reading that fails reports its first defect. -/
theorem ReadsAs.error {r : Except Fault α} {ds : List DocDefect} {e : Fault} (h : ReadsAs r ds)
    (he : r = .error e) : ∃ d rest, ds = d :: rest ∧ d.Reports e := by
  rw [he] at h
  exact readsAs_error_iff.mp h

end ReadsAs

/-- A key asked of an object is missing or found. -/
theorem member_readsAs (fields : List (Text × Json)) (key : String) :
    ReadsAs (Json.member (.obj fields) key) (keyDefects fields key) := by
  rw [Json.member_obj, keyDefects]
  cases Json.lookup fields (Text.ofString key) <;> simp [ReadsAs, DocDefect.Reports]

/-- A key asked of a value that is no object is a value of the wrong kind. -/
theorem keyFault_className (v : Json) : v.keyFault.className = "TypeError" := by
  cases v <;> rfl

namespace Tree

mutual

/-- **A node document reads as its defects.** -/
theorem ofJson?_readsAs : ∀ v : Json, ReadsAs (ofJson? v) (nodeDefects v)
  | .obj fields => by
    have hchildren := childrenIn_readsAs fields
    rw [ofJson?, nodeDefects, List.append_assoc, ← List.append_nil (childrenDefects fields)]
    refine ReadsAs.bind (member_readsAs fields "id") fun _ _ => ?_
    refine ReadsAs.bind (member_readsAs fields "label") fun _ _ => ?_
    exact ReadsAs.bind hchildren fun _ _ => ReadsAs.pure _
  | .null | .bool _ | .int _ | .float _ | .str _ | .arr _ => keyFault_className _

theorem childrenIn_readsAs : ∀ fields : List (Text × Json),
    ReadsAs (childrenIn fields) (childrenDefects fields)
  | [] => trivial
  | (k, v) :: rest => by
    rw [childrenIn, childrenDefects]
    split
    · exact listOf_readsAs v
    · exact childrenIn_readsAs rest

theorem listOf_readsAs : ∀ v : Json, ReadsAs (listOf v) (listDefects v)
  | .arr items => itemsOf_readsAs items
  | .obj [] => trivial
  | .obj (_ :: _) => rfl
  | .str s => by
    -- a text is read as its characters, and a field asked of one is of the wrong kind
    by_cases hs : s.isEmpty
    · simp [listOf, listDefects, Json.isFalsy, hs, ReadsAs]
    · simp [listOf, listDefects, Json.isFalsy, hs, ReadsAs, DocDefect.Reports, Fault.className]
  | .null | .bool _ | .int _ | .float _ => by
    simp only [listOf, listDefects]
    split
    · trivial
    · rfl

theorem itemsOf_readsAs : ∀ xs : List Json, ReadsAs (itemsOf xs) (itemsDefects xs)
  | [] => trivial
  | x :: xs => by
    rw [itemsOf, itemsDefects, ← List.append_nil (itemsDefects xs)]
    refine ReadsAs.bind (ofJson?_readsAs x) fun _ _ => ?_
    exact ReadsAs.bind (itemsOf_readsAs xs) fun _ _ => ReadsAs.pure _

end

end Tree

/-- A pagination read from an object reads as its missing keys, in order; one read from any other
value fails at its first key. -/
theorem Pagination.ofJson?_readsAs (v : Json) :
    ReadsAs (Pagination.ofJson? v) (paginationDefects (some v)) := by
  cases v with
  | obj fields =>
    simp only [paginationDefects, paginationKeys, List.flatMap_cons, List.flatMap_nil,
      List.append_nil, ofJson?]
    rw [← List.append_nil (keyDefects fields "hasPrev")]
    refine ReadsAs.bind (member_readsAs fields "page") fun _ _ => ?_
    refine ReadsAs.bind (member_readsAs fields "pageSize") fun _ _ => ?_
    refine ReadsAs.bind (member_readsAs fields "total") fun _ _ => ?_
    refine ReadsAs.bind (member_readsAs fields "totalPages") fun _ _ => ?_
    refine ReadsAs.bind (member_readsAs fields "hasNext") fun _ _ => ?_
    exact ReadsAs.bind (member_readsAs fields "hasPrev") fun _ _ => ReadsAs.pure _
  | _ => exact keyFault_className _

/-- **A page document reads as its defects.** -/
theorem Page.ofJson?_readsAs (v : Json) : ReadsAs (Page.ofJson? v) (pageDefects v) := by
  cases v with
  | obj fields =>
    -- whatever the nodes read as, the pagination is looked up, then read
    have hrest : ∀ data : List Tree, ReadsAs (do
        let doc ← Json.member (.obj fields) "pagination"
        let pagination ← Pagination.ofJson? doc
        pure ({ data, pagination } : Page))
        (paginationDefects (Json.lookup fields (Text.ofString "pagination")) ++ []) := by
      intro data
      rw [Json.member_obj]
      cases Json.lookup fields (Text.ofString "pagination") with
      | none => rfl
      | some p =>
        have hread := ReadsAs.bind (Pagination.ofJson?_readsAs p)
          fun pagination _ => ReadsAs.pure ({ data, pagination } : Page)
        exact hread
    rw [Page.ofJson?, pageDefects, ← List.append_nil (paginationDefects _)]
    cases Json.lookup fields (Text.ofString "data") with
    | none => exact ReadsAs.bind (ReadsAs.pure _) fun data _ => hrest data
    | some d => exact ReadsAs.bind (Tree.listOf_readsAs d) fun data _ => hrest data
  | _ => rfl

/-- A document reads as a page exactly when it is a page document. -/
theorem Page.ofJson?_ok_iff (v : Json) : (∃ p, Page.ofJson? v = .ok p) ↔ PageDoc v :=
  (Page.ofJson?_readsAs v).ok_iff.trans (pageDefects_eq_nil v)

/-! ## Only the document itself can be no object -/

theorem notAnObject_not_mem_keyDefects (fields : List (Text × Json)) (key : String) :
    DocDefect.notAnObject ∉ keyDefects fields key := by
  unfold keyDefects
  split <;> simp

mutual

/-- Every defect met inside a node is a missing key or a value of the wrong kind. -/
theorem notAnObject_not_mem_nodeDefects : ∀ v : Json, DocDefect.notAnObject ∉ nodeDefects v
  | .obj fields => by
    simp only [nodeDefects, List.mem_append, not_or]
    exact ⟨⟨notAnObject_not_mem_keyDefects fields "id",
      notAnObject_not_mem_keyDefects fields "label"⟩,
      notAnObject_not_mem_childrenDefects fields⟩
  | .null | .bool _ | .int _ | .float _ | .str _ | .arr _ => by simp [nodeDefects]

theorem notAnObject_not_mem_childrenDefects : ∀ fields : List (Text × Json),
    DocDefect.notAnObject ∉ childrenDefects fields
  | [] => by simp [childrenDefects]
  | (k, v) :: rest => by
    rw [childrenDefects]
    split
    · exact notAnObject_not_mem_listDefects v
    · exact notAnObject_not_mem_childrenDefects rest

theorem notAnObject_not_mem_listDefects : ∀ v : Json, DocDefect.notAnObject ∉ listDefects v
  | .arr items => notAnObject_not_mem_itemsDefects items
  | .null | .bool _ | .int _ | .float _ | .str _ | .obj _ => by
    simp only [listDefects]
    split <;> simp

theorem notAnObject_not_mem_itemsDefects : ∀ xs : List Json,
    DocDefect.notAnObject ∉ itemsDefects xs
  | [] => by simp [itemsDefects]
  | x :: xs => by
    simp only [itemsDefects, List.mem_append, not_or]
    exact ⟨notAnObject_not_mem_nodeDefects x, notAnObject_not_mem_itemsDefects xs⟩

end

/-- Every defect of an object read as a page is a missing key or a value of the wrong kind. -/
theorem notAnObject_not_mem_pageDefects (fields : List (Text × Json)) :
    DocDefect.notAnObject ∉ pageDefects (.obj fields) := by
  simp only [pageDefects, List.mem_append, not_or]
  constructor
  · cases Json.lookup fields (Text.ofString "data") with
    | none => simp
    | some w => exact notAnObject_not_mem_listDefects w
  · cases Json.lookup fields (Text.ofString "pagination") with
    | none => simp [paginationDefects]
    | some w =>
      cases w <;> simp [paginationDefects, List.mem_flatMap, notAnObject_not_mem_keyDefects]

/-- **Reading a page fails as no object exactly when the document is no object**, and the fault
names the document's kind: an object's first defect is a missing key or a value of the wrong
kind, which no `AttributeError` reports. -/
theorem Page.ofJson?_eq_notAnObject_iff (v : Json) (kind : String) :
    Page.ofJson? v = .error (.notAnObject kind) ↔
      (∀ fields, v ≠ .obj fields) ∧ kind = v.kindName := by
  constructor
  · intro hkind
    cases v with
    | obj fields =>
      obtain ⟨d, rest, hfirst, hd⟩ := (Page.ofJson?_readsAs (.obj fields)).error hkind
      cases d with
      | notAnObject => exact absurd (by simp [hfirst]) (notAnObject_not_mem_pageDefects fields)
      | missing key => cases hd
      | wrongKind => simp [DocDefect.Reports, Fault.className] at hd
    | _ =>
      cases hkind
      exact ⟨fun _ h => Json.noConfusion h, rfl⟩
  · rintro ⟨hnot, rfl⟩
    cases v with
    | obj fields => exact absurd rfl (hnot fields)
    | _ => rfl

/-- **Reading accepts exactly the page grammar, and a failure reports the first defect.** Every
JSON value reads as a page exactly when it is a page document, which is to say exactly when it has
no defect; when it does not read, reading fails with a fault that reports the first defect met in
reading order: `AttributeError` when the value is no object, else a `KeyError` naming the first
missing key or a `TypeError` for the first value of the wrong kind, the nodes first (left to
right, depth first, each node's `id`, `label`, then its children) and the pagination last (its
keys in order). -/
theorem page_reader_accepts_exactly_its_grammar (v : Json) :
    ((∃ p, Page.ofJson? v = .ok p) ↔ PageDoc v) ∧ (pageDefects v = [] ↔ PageDoc v) ∧
      ∀ e, Page.ofJson? v = .error e → ∃ d rest, pageDefects v = d :: rest ∧ d.Reports e :=
  ⟨Page.ofJson?_ok_iff v, pageDefects_eq_nil v, fun _ he => (Page.ofJson?_readsAs v).error he⟩

/-- A node without a label, in a page without a pagination: the node's defect is met first. -/
example : pageDefects (Json.record [("data", .arr [Json.record [("id", .int 1)]])]) =
    [.missing "label", .missing "pagination"] := by decide

end Arbor
