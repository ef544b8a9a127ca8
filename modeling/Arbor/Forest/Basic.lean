import Arbor.Json.Value
import Arbor.Number

/-!
# Stored nodes and displayed trees

The service stores a forest as flat `Node` rows: an id, a label and the parent, if any. The
parent is kept as the writer named it, which may be a value equal to the parent's id rather
than the id itself (`1.0` or `true` for node 1); the node links to the id the name equals
(`Node.link`). It displays a page of rows as `Tree`s, each node carrying its children.

A label is a JSON value: the service's checks let through any value that is not empty and not
too long, so a label may be a text, an array or an object. A displayed node holds its id and
label as JSON values. A page read back from a cache holds whatever values the cached document
held, and the service passes them on unchanged; a page built from rows (`Row`) holds the id and
the label of a row.
-/

set_option autoImplicit false

namespace Arbor

/-- A stored node: its id, its label, and its parent as the writer named it, when it has one. -/
structure Node where
  id : Int
  label : Json
  parent : Option Json
  deriving Inhabited

/-- The id of the parent a node links to: the integer its parent's name equals. -/
def Node.link (n : Node) : Option Int := n.parent.bind Json.intValue?

/-- A node as an answer shows it: its id, label and parent as values, as stored or as a request
named them. -/
structure NodeView where
  id : Json
  label : Json
  parent : Option Json
  deriving Inhabited

/-- The JSON object of a node: `id`, `label` and `parentId` (null for a root). -/
def NodeView.toJson (n : NodeView) : Json :=
  Json.record [("id", n.id), ("label", n.label), ("parentId", n.parent.getD .null)]

/-- A stored node as an answer shows it. -/
def Node.view (n : Node) : NodeView := ⟨.int n.id, n.label, n.parent⟩

/-- The JSON object of a stored node. -/
def Node.toJson (n : Node) : Json := n.view.toJson

/-- A row of a page as a forest is built from it: an id, a label, and the id of the parent when
it has one. The ids are of any type that can be compared: a stored node's are integers, but a
page may hold ids of any kind (`Key`). -/
structure Row (κ : Type) where
  id : κ
  label : Json
  parent : Option κ

/-- The row of a stored node. -/
def Node.row (n : Node) : Row Int := ⟨n.id, n.label, n.link⟩

/-- A displayed node: an id, a label, and the displayed children in order. -/
inductive Tree where
  | mk (id : Json) (label : Json) (children : List Tree)
  deriving Inhabited

namespace Tree

/-- The id of a displayed node. -/
def id : Tree → Json
  | mk i _ _ => i

/-- The label of a displayed node. -/
def label : Tree → Json
  | mk _ l _ => l

/-- The children of a displayed node. -/
def children : Tree → List Tree
  | mk _ _ cs => cs

end Tree

end Arbor
