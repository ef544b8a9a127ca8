import Arbor.Proofs.Store.Delete

set_option autoImplicit false

/-! # The two backends answer alike

The SQL backend differs from the memory backend only where its 64-bit integer columns and its
UTF-8 texts show (`Store.bind`, `Store.bindLabel`, `Param.ofJson`), and in a close, which the
memory backend answers by forgetting its rows. An operation whose ids, parents and page size fit
64 bits and whose label is a text of Unicode scalar values, and which is no close
(`StoreOp.Portable`), meets none of these: it answers the same on either backend, and leaves
stores that again differ in nothing but the backend (`Store.step_withBackend`).

The two find the subtree of a node each in its own way, the memory backend by a breadth-first
search and the SQL backend by rounds of a recursive query, and may list its ids in different
orders. On a store whose ids are distinct both find exactly the ids whose climb meets the node, so
both answer an update and a delete as the rules of `Store.updateAnswer` and `Store.deleteAnswer`
say, which read the rows alone. A sound store keeps its ids distinct, so by induction on the run,
carrying soundness along, a store answers every portable run as the same rows on the other backend
do, and an empty SQL store answers every portable run step by step as an empty memory store does:
the same new ids, rows, pages, counts and faults (`sql_store_answers_as_memory_store`).

Where an integer beyond 64 bits does reach a query the backends part: the SQL backend refuses it
before looking at any row, so an id, a parent or a page size of that kind is answered with
`intTooLargeForStore` whatever the store holds (`Store.sql_store_refuses_wide_ids`,
`Store.listPage_of_wide`).
-/

namespace Arbor

/-- An operation both backends carry out alike: its ids, parents and page size fit 64 bits, its
label is a text of Unicode scalar values, and it is no close. -/
def StoreOp.Portable : StoreOp → Prop
  | .create label parent => label.IsScalarText ∧ ∀ k ∈ parent, fitsColumn k
  | .get i => fitsColumn i
  | .listPage _ k => fitsColumn k
  | .update i label parent => fitsColumn i ∧ label.IsScalarText ∧ ∀ k ∈ parent, fitsColumn k
  | .delete i => fitsColumn i
  | .close => False

namespace Store

/-- The same rows, counter and reachability on the backend `b`. -/
def withBackend (s : Store) (b : Backend) : Store := { s with backend := b }

variable {s : Store} {b : Backend}

@[simp] theorem withBackend_nodes : (s.withBackend b).nodes = s.nodes := rfl

@[simp] theorem withBackend_nextId : (s.withBackend b).nextId = s.nextId := rfl

@[simp] theorem withBackend_reachable : (s.withBackend b).reachable = s.reachable := rfl

@[simp] theorem reach_withBackend : (s.withBackend b).reach = s.reach := rfl

@[simp] theorem find?_withBackend (k : Int) : (s.withBackend b).find? k = s.find? k := rfl

@[simp] theorem parentOf_withBackend (x : Int) : (s.withBackend b).parentOf x = s.parentOf x :=
  rfl

/-- Climbs read the rows alone. -/
@[simp] theorem climb_withBackend : (s.withBackend b).climb = s.climb := by
  funext start k
  induction k generalizing start with
  | zero => rfl
  | succ k ih => exact ih _

@[simp] theorem relabel_withBackend (i : Int) (label : Json) (parent : Option Json) :
    (s.withBackend b).relabel i label parent = (s.relabel i label parent).withBackend b :=
  rfl

theorem Sound.withBackend (h : s.Sound) : (s.withBackend b).Sound :=
  ⟨h.ascending, h.labels, h.parents, fun n hn => by
    rw [withBackend_nodes] at hn ⊢
    rw [climb_withBackend]
    exact h.rooted n hn, h.below⟩

/-- A 64-bit integer names the stored node with that id, on either backend. -/
theorem named_int_of_fits {k : Int} {cached : Bool} {fault : Fault} (hk : fitsColumn k = true) :
    s.named (.int k) cached fault = match s.find? k with
      | some n => .ok n
      | none => .error fault :=
  named_int_of_bind (bind_of_fits hk)

/-! ## The rules read the rows alone -/

theorem updateAnswer_withBackend (i : Int) (label : Option Text) (parent : Option Int) :
    (s.withBackend b).updateAnswer i label parent =
      (s.updateAnswer i label parent).map (·.withBackend b) := by
  unfold updateAnswer
  rw [climb_withBackend]
  cases label with
  | none => rfl
  | some t =>
    -- the same checks on the same rows, and the same node relabelled
    cases parent <;> simp only [apply_ite (Except.map _)] <;> rfl

theorem deleteAnswer_withBackend (i : Int) :
    (s.withBackend b).deleteAnswer i = (s.deleteAnswer i).map fun r => (r.1, r.2.withBackend b) := by
  unfold deleteAnswer
  rw [climb_withBackend]
  simp only [apply_ite (Except.map _)]
  rfl

end Store

end Arbor

namespace Arbor.Store

variable {s : Store} {b : Backend}

/-! ## Each operation on either backend -/

theorem get_withBackend {i : Int} (hi : fitsColumn i = true) :
    (s.withBackend b).get (.int i) = s.get (.int i) := by
  simp only [get, reach_withBackend, named_int_of_fits hi, find?_withBackend]

theorem create_withBackend {label : Json} {parent : Option Int} (hl : label.IsScalarText)
    (hp : ∀ k ∈ parent, fitsColumn k = true) :
    (s.withBackend b).create label (parent.map .int) =
      (s.create label (parent.map .int)).map fun r => (r.1, r.2.withBackend b) := by
  rw [create_eq, create_eq]
  simp only [reach_withBackend]
  cases hv : (do s.reach; validateLabel label) with
  | error e => rfl
  | ok l =>
    -- both backends find the same parent and write the same row
    have hl' : l.IsScalarText := by
      obtain ⟨-, -, hval⟩ := bind_eq_ok hv
      exact validateLabel_ok hval ▸ hl
    cases parent with
    | none =>
      simp [findParent, keepFound_none, bindLabel_of_scalar hl', Bind.bind, Except.bind,
        Except.map, pure, Except.pure]
      rfl
    | some k =>
      have hk := bind_of_fits (s := s) (hp k rfl)
      have hk' := bind_of_fits (s := s.withBackend b) (hp k rfl)
      simp only [Option.map_some, findParent_int hk, findParent_int hk', withBackend_nodes]
      by_cases hkin : k ∈ s.nodes.map (·.id)
      · simp only [hkin, if_true, Bind.bind, Except.bind, keepFound_int hk, keepFound_int hk',
          bindLabel_of_scalar hl', Except.map]
        rfl
      · simp only [hkin, if_false]
        rfl

theorem update_withBackend (h : s.Sound) {i : Int} {label : Json} {parent : Option Int}
    (hi : fitsColumn i = true) (hl : label.IsScalarText) (hp : ∀ k ∈ parent, fitsColumn k = true) :
    (s.withBackend b).update (.int i) label (parent.map .int) =
      (s.update (.int i) label (parent.map .int)).map (·.withBackend b) := by
  obtain ⟨t, rfl, ht⟩ := hl
  cases hreach : s.reachable with
  | false => simp [update_eq, reach, hreach, Bind.bind, Except.bind, Except.map]
  | true =>
    -- both backends answer as the rules say, and the rules read the rows alone
    have hlabel : ∀ (s' : Store) t', t' ∈ some t → s'.bindLabel (.str t') = .ok () :=
      fun s' t' ht' => bindLabel_of_scalar ⟨t', rfl, (Option.some.inj ht').symm ▸ ht⟩
    rw [show Json.str t = labelValue (some t) from rfl,
      update_eq_answer (h.withBackend (b := b)) hreach (bind_of_fits hi)
        (fun k hk => bind_of_fits (hp k hk)) (hlabel _),
      update_eq_answer h hreach (bind_of_fits hi) (fun k hk => bind_of_fits (hp k hk)) (hlabel _),
      updateAnswer_withBackend]

theorem delete_withBackend (h : s.Sound) {i : Int} (hi : fitsColumn i = true) :
    (s.withBackend b).delete (.int i) =
      (s.delete (.int i)).map fun r => (r.1, r.2.withBackend b) := by
  cases hreach : s.reachable with
  | false => simp [delete_eq, reach, hreach, Bind.bind, Except.bind, Except.map]
  | true =>
    have hnodup := nodup_ids h.ascending
    rw [delete_eq_answer hnodup hreach (bind_of_fits hi),
      delete_eq_answer (s := s.withBackend b) hnodup hreach (bind_of_fits hi),
      deleteAnswer_withBackend]

/-- A page or a page size below 1 holds no rows. -/
theorem pageOffset_int_none {p k : Int} (h : p < 1 ∨ k < 1) :
    pageOffset (.int p) (.int k) = .ok none := by
  by_cases hp : p < 1
  · simp [pageOffset, Json.relate_int, hp, Bind.bind, Except.bind, pure, Except.pure]
  · have hk : k < 1 := by omega
    simp [pageOffset, Json.relate_int, hp, hk, Bind.bind, Except.bind, pure, Except.pure]

theorem listPage_withBackend {p k : Int} (hk : fitsColumn k = true) :
    (s.withBackend b).listPage (.int p) (.int k) = s.listPage (.int p) (.int k) := by
  cases hreach : s.reachable with
  | false => simp [listPage, reach, hreach, Bind.bind, Except.bind]
  | true =>
    by_cases hpk : 1 ≤ p ∧ 1 ≤ k
    · -- a page with rows is the same window of the same rows on both backends
      have hbound : k < 2 ^ 63 := by
        simp only [fitsColumn, Bool.and_eq_true, decide_eq_true_eq] at hk
        exact hk.2
      rw [listPage_window hreach hpk.1 hpk.2 (fun _ => hbound),
        listPage_window (s := s.withBackend b) hreach hpk.1 hpk.2 (fun _ => hbound)]
      rfl
    · have hnone := pageOffset_int_none (p := p) (k := k) (by omega)
      simp [listPage, reach, hreach, hnone, Bind.bind, Except.bind, pure, Except.pure]

/-! ## Runs -/

/-- **One portable operation answers alike on every backend**, and leaves the same rows, counter
and reachability on the backend it ran on. -/
theorem step_withBackend (hs : s.Sound) {op : StoreOp} (h : op.Portable) :
    (s.withBackend b).reply op = s.reply op ∧
      (s.withBackend b).apply op = ((s.apply op).1.withBackend b, (s.apply op).2) := by
  cases op with
  | create label parent =>
    obtain ⟨hl, hp⟩ := h
    have hc := create_withBackend (s := s) (b := b) hl hp
    constructor
    · simp only [reply, hc]
      cases s.create label (parent.map .int) <;> rfl
    · simp only [apply, hc]
      cases s.create label (parent.map .int) <;> rfl
  | get i => exact ⟨by simp only [reply, get_withBackend h], rfl⟩
  | listPage p k => exact ⟨by simp only [reply, listPage_withBackend h], rfl⟩
  | update i label parent =>
    obtain ⟨hi, hl, hp⟩ := h
    have hu := update_withBackend (b := b) hs hi hl hp
    constructor
    · simp only [reply, hu]
      cases s.update (.int i) label (parent.map .int) <;> rfl
    · simp only [apply, hu]
      cases s.update (.int i) label (parent.map .int) <;> rfl
  | delete i =>
    have hd := delete_withBackend (b := b) hs h
    constructor
    · simp only [reply, hd]
      cases s.delete (.int i) <;> rfl
    · simp only [apply, hd]
      cases s.delete (.int i) <;> rfl
  | close => exact h.elim

/-- **A portable run answers alike on every backend**, and ends on the same rows, counter and
reachability. The induction is on the run, each step keeping the stores equal up to the
backend, and sound. -/
theorem run_withBackend (hs : s.Sound) {ops : List StoreOp} (h : ∀ op ∈ ops, op.Portable) :
    (s.withBackend b).answers ops = s.answers ops ∧
      ((s.withBackend b).runOps ops).1 = (s.runOps ops).1.withBackend b := by
  induction ops generalizing s with
  | nil => exact ⟨rfl, rfl⟩
  | cons op ops ih =>
    obtain ⟨hreply, happly⟩ := step_withBackend (b := b) hs (h op List.mem_cons_self)
    obtain ⟨hanswers, hstore⟩ := ih (apply_sound hs op).1 fun op' hop' =>
      h op' (List.mem_cons_of_mem _ hop')
    refine ⟨?_, ?_⟩
    · simp only [answers, hreply, happly, hanswers]
    · simp only [runOps_cons, happly, hstore]

end Arbor.Store

namespace Arbor

/-- **The SQL store answers as the memory store.** From an empty store, every run of operations
whose ids, parents and page sizes fit 64 bits and whose labels are texts of Unicode scalar values
gets from the SQL backend, step by step, the answers the memory backend gives: the same new ids,
nodes, rows of pages with their totals, delete counts and faults. The two stores reached hold the
same rows and hand out the same next id. -/
theorem sql_store_answers_as_memory_store (ops : List StoreOp) (h : ∀ op ∈ ops, op.Portable) :
    (Store.empty .sql).answers ops = (Store.empty .memory).answers ops ∧
      ((Store.empty .sql).runOps ops).1 = ((Store.empty .memory).runOps ops).1.withBackend .sql :=
  Store.run_withBackend (b := .sql) (Store.empty_sound .memory) h

/-- A run with a parent that is not stored, a move below the node's own child and a delete of a
subtree: every operation is portable, and the backends answer alike. -/
theorem sql_store_answers_as_memory_store_on_moves :
    let ops : List StoreOp := [.create (.text "a") none, .create (.text "b") (some 7),
      .create (.text "c") (some 1), .update 1 (.text "d") (some 2), .delete 1, .listPage 1 10]
    (∀ op ∈ ops, op.Portable) ∧
      (Store.empty .sql).answers ops = (Store.empty .memory).answers ops ∧
      ((Store.empty .sql).runOps ops).1 =
        ((Store.empty .memory).runOps ops).1.withBackend .sql := by
  intro ops
  have scalar : ∀ s : String, (∀ c ∈ (Text.ofString s).points, c.isValidChar) →
      (Json.text s).IsScalarText := fun s hs => ⟨_, rfl, hs⟩
  have portable : ∀ op ∈ ops, op.Portable := by
    intro op hop
    simp only [ops, List.mem_cons, List.not_mem_nil, or_false] at hop
    rcases hop with rfl | rfl | rfl | rfl | rfl | rfl
    · exact ⟨scalar "a" (by decide), by simp⟩
    · exact ⟨scalar "b" (by decide), by decide⟩
    · exact ⟨scalar "c" (by decide), by decide⟩
    · exact ⟨by decide, scalar "d" (by decide), by decide⟩
    · exact (by decide : fitsColumn 1 = true)
    · exact (by decide : fitsColumn 10 = true)
  exact ⟨portable, sql_store_answers_as_memory_store ops portable⟩

end Arbor

/-! ## Where the backends part

An integer beyond 64 bits that reaches a query is refused by the SQL backend before any row is
looked at, so there an id that is not stored is no `nodeNotFound` but an `intTooLargeForStore`. -/

namespace Arbor.Store

variable {s : Store} {k : Int}

/-- On the SQL backend an integer beyond 64 bits names no node: binding it fails first. -/
theorem named_int_of_wide (hsql : s.backend = .sql) (hk : fitsColumn k = false) {cached : Bool}
    {fault : Fault} : s.named (.int k) cached fault = .error .intTooLargeForStore := by
  unfold named
  rw [locate_int]
  simp [Store.bind, hsql, hk, Except.map, Bind.bind, Except.bind]

/-- A page of a size beyond 64 bits that starts before the last row binds its size, which the SQL
backend refuses. -/
theorem listPage_of_wide (hsql : s.backend = .sql) (hreach : s.reachable = true) {p : Int}
    (hp : 1 ≤ p) (hk : fitsColumn k = false) (hk1 : 1 ≤ k) (hoff : (p - 1) * k < s.nodes.length) :
    s.listPage (.int p) (.int k) = .error .intTooLargeForStore := by
  have hbefore : ¬ (s.nodes.length : Int) ≤ (p - 1) * k := Int.not_le.mpr hoff
  simp [listPage, reach, hreach, pageOffset_int hp hk1, hsql, Num.ge_int, hbefore, Json.toInt,
    Num.ofJson?, Num.truncate, Store.bind, hk, Bind.bind, Except.bind]

/-- **The SQL store refuses every integer beyond 64 bits that it binds.** On a reachable SQL
store, whatever it holds, a get, a delete or an update of an id outside 64 bits and a create
under such a parent fail with `intTooLargeForStore`, where the store's contract answers an id
that is not stored with `nodeNotFound`; the label is checked first, so this is for every label
that passes its check. -/
theorem sql_store_refuses_wide_ids (hsql : s.backend = .sql) (hreach : s.reachable = true)
    (hk : fitsColumn k = false) {label : Json} (hl : validateLabel label = .ok label)
    (parent : Option Json) :
    s.get (.int k) = .error .intTooLargeForStore ∧ s.delete (.int k) = .error .intTooLargeForStore ∧
      s.update (.int k) label parent = .error .intTooLargeForStore ∧
      s.create label (some (.int k)) = .error .intTooLargeForStore := by
  have hnamed := @named_int_of_wide s k hsql hk
  refine ⟨?_, ?_, ?_, ?_⟩
  · simp [get, reach, hreach, hnamed, Bind.bind, Except.bind]
  · simp [delete_eq, reach, hreach, hnamed, Bind.bind, Except.bind]
  · simp [update_eq, reach, hreach, hl, hnamed, Bind.bind, Except.bind]
  · simp [create_eq, reach, hreach, hl, findParent, hnamed, Bind.bind, Except.bind]

end Arbor.Store
