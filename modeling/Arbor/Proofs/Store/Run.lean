import Arbor.Proofs.Store.Sound

set_option autoImplicit false

/-! # Runs of the node store

A run is a list of the store's operations, with the argument types of its interface: labels of
any kind, ids, parents, pages and page sizes as integers. Each operation succeeds or fails; a
failed one leaves the store as it was, and reads (`get`, `listPage`) never change it. What each
operation answers is `Store.reply`, and the answers of a run step by step `Store.answers`.

Every store a run reaches from an empty store is sound (`Store.Sound`), and the ids its creates
hand out only grow and stay below the next id of the counter, on both backends and across deletes
and closes (`stored_forest_stays_sound`).
-/

namespace Arbor

/-- An operation on the node store. -/
inductive StoreOp where
  | create (label : Json) (parent : Option Int)
  | get (id : Int)
  | listPage (page pageSize : Int)
  | update (id : Int) (label : Json) (parent : Option Int)
  | delete (id : Int)
  | close

/-- What a store operation answers. -/
inductive StoreReply where
  /-- the id of the new node -/
  | created (id : Int)
  | node (n : Node)
  /-- the rows of a page, and how many nodes are stored -/
  | rows (rows : List Node) (total : Nat)
  | updated
  /-- how many nodes were deleted -/
  | deleted (count : Nat)
  | closed

namespace Store

/-- The store after the operation `op`, and the id a successful create hands out. -/
def apply (s : Store) : StoreOp → Store × Option Int
  | .create label parent =>
    match s.create label (parent.map .int) with
    | .ok (id, s') => (s', some id)
    | .error _ => (s, none)
  | .get _ => (s, none)
  | .listPage _ _ => (s, none)
  | .update i label parent =>
    match s.update (.int i) label (parent.map .int) with
    | .ok s' => (s', none)
    | .error _ => (s, none)
  | .delete i =>
    match s.delete (.int i) with
    | .ok (_, s') => (s', none)
    | .error _ => (s, none)
  | .close => (s.close, none)

/-- The store after a run of operations, and the ids its creates handed out, in order. -/
def runOps (s : Store) : List StoreOp → Store × List Int
  | [] => (s, [])
  | op :: ops =>
    let (s₁, ids) := (s.apply op).1.runOps ops
    (s₁, (s.apply op).2.toList ++ ids)

/-- The answer of the operation `op`. -/
def reply (s : Store) : StoreOp → Except Fault StoreReply
  | .create label parent => (s.create label (parent.map .int)).map fun r => .created r.1
  | .get i => (s.get (.int i)).map .node
  | .listPage p k => (s.listPage (.int p) (.int k)).map fun r => .rows r.1 r.2
  | .update i label parent => (s.update (.int i) label (parent.map .int)).map fun _ => .updated
  | .delete i => (s.delete (.int i)).map fun r => .deleted r.1
  | .close => .ok .closed

/-- The answers of a run of operations, step by step. -/
def answers (s : Store) : List StoreOp → List (Except Fault StoreReply)
  | [] => []
  | op :: ops => s.reply op :: (s.apply op).1.answers ops

variable {s : Store}

theorem empty_sound (backend : Backend) : (Store.empty backend).Sound :=
  ⟨List.Pairwise.nil, by simp [empty], by simp [empty], by simp [empty], by simp [empty]⟩

/-- **One operation keeps the store sound.** The counter never goes back, and a create hands out
the next id and moves the counter past it. -/
theorem apply_sound (h : s.Sound) (op : StoreOp) :
    (s.apply op).1.Sound ∧ s.nextId ≤ (s.apply op).1.nextId ∧
      ∀ id, (s.apply op).2 = some id → id = s.nextId ∧ (s.apply op).1.nextId = s.nextId + 1 := by
  cases op with
  | create label parent =>
    cases hc : s.create label (parent.map .int) with
    | error e =>
      simp only [apply, hc]
      exact ⟨h, le_refl _, by simp⟩
    | ok r =>
      obtain ⟨id, s'⟩ := r
      obtain ⟨hlabel, hparent, rfl, rfl⟩ := create_ok hc
      simp only [apply, hc]
      exact ⟨h.append rfl rfl hlabel hparent, by omega, by simp [eq_comm]⟩
  | get i => exact ⟨h, le_refl _, by simp [apply]⟩
  | listPage p ps => exact ⟨h, le_refl _, by simp [apply]⟩
  | update i label parent =>
    cases hu : s.update (.int i) label (parent.map .int) with
    | error e =>
      simp only [apply, hu]
      exact ⟨h, le_refl _, by simp⟩
    | ok s' =>
      obtain ⟨hlabel, hnode, hparent, rfl⟩ := update_ok (nodup_ids h.ascending) hu
      simp only [apply, hu]
      exact ⟨h.relink rfl rfl hlabel hnode hparent, le_refl _, by simp⟩
  | delete i =>
    cases hd : s.delete (.int i) with
    | error e =>
      simp only [apply, hd]
      exact ⟨h, le_refl _, by simp⟩
    | ok r =>
      obtain ⟨count, s'⟩ := r
      obtain ⟨-, -, rfl⟩ := delete_ok (nodup_ids h.ascending) hd
      simp only [apply, hd]
      exact ⟨h.prune i rfl rfl, le_refl _, by simp⟩
  | close =>
    have hnext : s.close.nextId = s.nextId := by
      unfold Store.close
      split <;> rfl
    exact ⟨h.close, by simp [apply, hnext], by simp [apply]⟩

theorem runOps_cons (op : StoreOp) (ops : List StoreOp) :
    s.runOps (op :: ops) = (((s.apply op).1.runOps ops).1,
      (s.apply op).2.toList ++ ((s.apply op).1.runOps ops).2) :=
  rfl

/-- **A run keeps the store sound.** The ids handed out grow, lie at or above the counter the run
started from, and stay below the counter it ends with. The induction is on the run. -/
theorem runOps_sound (h : s.Sound) (ops : List StoreOp) :
    (s.runOps ops).1.Sound ∧ s.nextId ≤ (s.runOps ops).1.nextId ∧
      (s.runOps ops).2.Pairwise (· < ·) ∧
      ∀ id ∈ (s.runOps ops).2, s.nextId ≤ id ∧ id < (s.runOps ops).1.nextId := by
  induction ops generalizing s with
  | nil => exact ⟨h, le_refl _, List.Pairwise.nil, by simp [runOps]⟩
  | cons op ops ih =>
    rw [runOps_cons]
    dsimp only
    obtain ⟨hsound, hle, hnew⟩ := apply_sound h op
    obtain ⟨hsound', hle', hpair, hbounds⟩ := ih hsound
    refine ⟨hsound', le_trans hle hle', ?_, ?_⟩
    · -- a handed-out id is the counter before the operation, below every later one
      cases hop : (s.apply op).2 with
      | none => simpa [hop] using hpair
      | some id =>
        obtain ⟨rfl, hnext⟩ := hnew id hop
        simp only [Option.toList_some, List.singleton_append]
        refine List.pairwise_cons.mpr ⟨fun id' hid' => ?_, hpair⟩
        have := (hbounds id' hid').1
        omega
    · intro id hid
      cases hop : (s.apply op).2 with
      | none =>
        simp only [hop, Option.toList_none, List.nil_append] at hid
        have := hbounds id hid
        exact ⟨le_trans hle this.1, this.2⟩
      | some first =>
        obtain ⟨rfl, hnext⟩ := hnew first hop
        simp only [hop, Option.toList_some, List.singleton_append, List.mem_cons] at hid
        rcases hid with rfl | hid
        · refine ⟨le_refl _, ?_⟩
          have := hle'
          omega
        · have := hbounds id hid
          exact ⟨by omega, this.2⟩

end Store

/-- **The node store stays sound over every run.** Whatever operations run from an empty store of
either backend, each succeeding or failing, the store reached keeps every node under its own id
with a label that passes the label check, every parent is a stored node, parent links from every
stored node pass a root within as many links as there are nodes, and every id is below the next id
the counter hands out. The ids handed out by successful creates grow strictly, so none is handed
out twice, even after a delete or a close. -/
theorem stored_forest_stays_sound (backend : Backend) (ops : List StoreOp) :
    let run := (Store.empty backend).runOps ops
    run.1.Sound ∧ (∀ n ∈ run.1.nodes, run.1.find? n.id = some n) ∧
      run.2.Pairwise (· < ·) ∧ ∀ id ∈ run.2, id < run.1.nextId := by
  intro run
  obtain ⟨hsound, -, hpair, hbounds⟩ := Store.runOps_sound (Store.empty_sound backend) ops
  exact ⟨hsound, fun n hn => Store.find?_of_mem hsound.ascending hn, hpair,
    fun id hid => (hbounds id hid).2⟩

end Arbor
