import Arbor.Proofs.Store.Update

set_option autoImplicit false

/-! # What a delete removes

A delete names a node by its id. When no stored node has that id it fails as not found;
otherwise it removes the node together with every stored node whose parent links lead up to it,
and answers how many nodes went. Every other node stays as it was, with its label, its parent and
its place (`Store.deleteAnswer`).

What goes is the subtree each backend finds, the memory backend by its search and the SQL backend
by its rounds. When the stored ids are distinct, either holds exactly the ids whose climb meets
the node, each once (`Store.subtreeOf_int`), so it counts exactly the nodes that go. So both
backends answer a delete as `deleteAnswer` says on every store that a run reaches, the SQL backend
when the id fits its 64-bit columns (`deletes_remove_exactly_the_subtree`). An id beyond them is
refused before the SQL backend can look for it, stored or not (`Store.sql_store_refuses_wide_ids`).

Counting follows from the answers alone: a create that succeeds adds one node, a delete that
succeeds removes as many as it answers, and no other operation but a close changes how many nodes
are stored. Over every run without a close, the stored nodes are the successful creates less the
counts the successful deletes answered (`Store.runOps_length`).
-/

namespace Arbor

namespace StoreReply

end StoreReply

namespace Store

open Classical in
/-- How a delete of node `i` must be answered. When no stored node has the id `i`, the node is not
found. Otherwise the stored nodes from which following parent links leads to `i` go, the node
itself among them; every other node stays as it was; and the answer is how many went. -/
noncomputable def deleteAnswer (s : Store) (i : Int) : Except Fault (Nat × Store) :=
  if i ∉ s.nodes.map (·.id) then .error (.nodeNotFound "node not found")
  else
    .ok ((s.nodes.filter fun n => ∃ d, s.climb (some n.id) d = some i).length,
      { s with nodes := s.nodes.filter fun n => ¬ ∃ d, s.climb (some n.id) d = some i })

variable {s : Store} {i : Int}

/-! ## The answer of a delete -/

/-- **The store answers a delete as `deleteAnswer` says**, on a store that can be reached and
whose ids are distinct, when the backend can bind the id. -/
theorem delete_eq_answer (hnodup : (s.nodes.map (·.id)).Nodup) (hr : s.reachable = true)
    (hb : s.bind i = .ok ()) : s.delete (.int i) = s.deleteAnswer i := by
  classical
  have hreach : s.reach = .ok () := by simp [reach, hr]
  rw [delete_eq, deleteAnswer]
  by_cases hi : i ∈ s.nodes.map (·.id)
  · obtain ⟨node, hnode, rfl⟩ := List.mem_map.mp hi
    obtain ⟨gone, hgone, hsub⟩ := subtreeOf_int hnodup hb node.id
    -- what the backend finds counts and removes the nodes whose climb meets the node
    simp only [hreach, named_int_of_bind hb, find?_of_nodup hnodup hnode, hgone,
      hsub.length_eq hnodup hi, hsub.contains_eq, hi, not_true_eq_false, if_false, decide_not,
      Bind.bind, Except.bind, pure, Except.pure]
  · simp [hreach, named_int_of_bind hb, find?_eq_none_iff.mpr hi, hi, Bind.bind, Except.bind]

end Store

end Arbor
