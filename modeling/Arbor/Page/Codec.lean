import Arbor.Page.Basic

/-!
# Pages as JSON documents

`Page.toJson` writes a page as the document `{"data": [...], "pagination": {...}}`, a node as
`{"id", "label", "children"}` and a pagination with the keys `page`, `pageSize`, `total`,
`totalPages`, `hasNext`, `hasPrev`, in that order.

`Page.ofJson?` reads such a document back, keeping exactly those keys and copying their values
unchanged. A missing or false `data` or `children` (null, false, zero, an empty text, array or
object) reads as no nodes. Reading goes in document order, the nodes first, depth first, each
node's `id`, then `label`, then `children`, and the pagination last, key by key; the first thing
that cannot be read decides the fault:

* a value that is not an object where the document itself is read: `notAnObject`;
* an object without a key that is asked for: `missingKey`;
* a key asked of a text, an array or another kind of value: `keyOfText`, `keyOfArray`,
  `keyOfScalar`;
* a true `data` or `children` that is no array: a text or an object yields its characters or
  keys, which are texts, so the fault is `keyOfText`; a number or `true` gives `notIterable`.
-/

set_option autoImplicit false

namespace Arbor

namespace Json

/-- Why a key cannot be asked of a value that is not an object. -/
def keyFault : Json → Fault
  | .str _ => .keyOfText
  | .arr _ => .keyOfArray
  | other => .keyOfScalar other.kindName

/-- The value of the key `key` of `v`, or why `v` has none. -/
def member (v : Json) (key : String) : Except Fault Json :=
  match v with
  | .obj fields =>
    match lookup fields (Text.ofString key) with
    | some x => .ok x
    | none => .error (.missingKey (Text.ofString key))
  | other => .error other.keyFault

end Json

namespace Tree

/-- The document of a displayed node. -/
def toJson : Tree → Json
  | .mk i l cs => .obj [("id", i), ("label", l), ("children", .arr (cs.map toJson))]

mutual

/-- A displayed node read from its document. -/
def ofJson? : Json → Except Fault Tree
  | .obj fields => do
    let i ← Json.member (.obj fields) "id"
    let l ← Json.member (.obj fields) "label"
    let cs ← childrenIn fields
    pure (.mk i l cs)
  | other => .error other.keyFault

/-- The children that the `children` field among `fields` lists. -/
def childrenIn : List (Text × Json) → Except Fault (List Tree)
  | [] => .ok []
  | (k, v) :: rest => if k == Text.ofString "children" then listOf v else childrenIn rest

/-- The nodes that a `data` or `children` value lists. -/
def listOf : Json → Except Fault (List Tree)
  | .arr items => itemsOf items
  | .obj [] => .ok []
  | .obj _ => .error .keyOfText
  | .str s => if s.isEmpty then .ok [] else .error .keyOfText
  | other => if other.isFalsy then .ok [] else .error (.notIterable other.kindName)

/-- The nodes of an array, read left to right. -/
def itemsOf : List Json → Except Fault (List Tree)
  | [] => .ok []
  | v :: vs => do
    let t ← ofJson? v
    let ts ← itemsOf vs
    pure (t :: ts)

end

end Tree

namespace Pagination

/-- The document of a pagination. -/
def toJson (p : Pagination) : Json :=
  Json.record [("page", p.page), ("pageSize", p.pageSize), ("total", p.total),
    ("totalPages", p.totalPages), ("hasNext", p.hasNext), ("hasPrev", p.hasPrev)]

/-- A pagination read from its document, key by key. -/
def ofJson? (v : Json) : Except Fault Pagination := do
  let page ← v.member "page"
  let pageSize ← v.member "pageSize"
  let total ← v.member "total"
  let totalPages ← v.member "totalPages"
  let hasNext ← v.member "hasNext"
  let hasPrev ← v.member "hasPrev"
  pure { page, pageSize, total, totalPages, hasNext, hasPrev }

end Pagination

namespace Page

/-- The document of a page. -/
def toJson (p : Page) : Json :=
  Json.record [("data", .arr (p.data.map Tree.toJson)), ("pagination", p.pagination.toJson)]

/-- A page read from its document. -/
def ofJson? : Json → Except Fault Page
  | .obj fields => do
    let data ← match Json.lookup fields (Text.ofString "data") with
      | some v => Tree.listOf v
      | none => pure []
    let pagination ← Pagination.ofJson? (← Json.member (.obj fields) "pagination")
    pure { data, pagination }
  | other => .error (.notAnObject other.kindName)

end Page

end Arbor
