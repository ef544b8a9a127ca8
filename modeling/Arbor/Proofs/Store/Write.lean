import Arbor.Store.Write

set_option autoImplicit false

/-! # Writes of the store fail without a trace

A write of the store is atomic (`StoreM.Atomic`) when a failure leaves the store as the write
found it, whatever it wrote before failing. The three writes are atomic on both backends, for the
same reason: each step that can fail only reads the store (`Store.read`), and the steps that write
it, taking an id and writing the nodes, cannot fail (`StoreM.Sure`). So a write fails, if at all,
before its first write (`atomic_read_bind`). Moving a write before a check would break this, and
with it every statement that a failed operation leaves the store as it was.

An atomic write needs no transaction: rolling back restores only what it never changes, so the
SQL backend's transaction leaves it as it is (`transaction_of_atomic`). Without the transaction,
what a write answers is a computation in `Except` over the store as found: its checks, and then
the store it writes (`Store.create_eq`, `Store.update_eq`, `Store.delete_eq`). Later proofs take
the writes apart in that form.
-/

namespace Arbor

namespace StoreM

variable {α β : Type}

/-- A write that fails without a trace: a failure leaves the store it started from. -/
def Atomic (w : StoreM α) : Prop := ∀ s e s', w s = .error e s' → s' = s

/-- A write that cannot fail. -/
def Sure (w : StoreM α) : Prop := ∀ s e s', w s ≠ .error e s'

/-- A bound program runs its first step, and the rest from the store that step leaves. -/
theorem run_bind (w : StoreM α) (g : α → StoreM β) (s : Store) :
    (w >>= g) s = match w s with
      | .ok a s' => g a s'
      | .error e s' => .error e s' := by
  show EStateM.bind w g s = _
  unfold EStateM.bind
  cases w s <;> rfl

theorem Sure.atomic {w : StoreM α} (h : w.Sure) : w.Atomic :=
  fun s e s' hw => absurd hw (h s e s')

theorem sure_pure (a : α) : (pure a : StoreM α).Sure := fun _ _ _ h => by cases h

theorem Sure.bind {w : StoreM α} {g : α → StoreM β} (hw : w.Sure) (hg : ∀ a, (g a).Sure) :
    (w >>= g).Sure := by
  intro s e s' h
  rw [run_bind] at h
  cases hws : w s with
  | ok a s₁ =>
    rw [hws] at h
    exact hg a s₁ e s' h
  | error e₁ s₁ => exact hw s e₁ s₁ hws

/-- A write whose first step only reads fails without a trace when the rest does: a failure of
the read leaves the store untouched, and after it the store is the one found. -/
theorem atomic_read_bind {f : Store → Except Fault α} {g : α → StoreM β}
    (hg : ∀ a, (g a).Atomic) : (Store.read f >>= g).Atomic := by
  intro s e s' h
  rw [run_bind] at h
  cases hf : f s with
  | ok a =>
    have hread : Store.read f s = .ok a s := by simp [Store.read, hf]
    rw [hread] at h
    exact hg a s e s' h
  | error e₁ =>
    have hread : Store.read f s = .error e₁ s := by simp [Store.read, hf]
    rw [hread] at h
    exact (EStateM.Result.error.inj h).2.symm

theorem Atomic.map {w : StoreM α} (h : w.Atomic) (f : α → β) : (f <$> w).Atomic := by
  intro s e s' hmap
  cases hw : w s with
  | ok a s₁ => simp [Functor.map, EStateM.map, hw] at hmap
  | error e₁ s₁ =>
    simp only [Functor.map, EStateM.map, hw, EStateM.Result.error.injEq] at hmap
    exact hmap.2 ▸ h s e₁ s₁ hw

/-! ## The writing steps -/

theorem sure_takeId : Store.takeId.Sure := fun _ _ _ h => by cases h

theorem sure_writeNodes (f : List Node → List Node) : (Store.writeNodes f).Sure :=
  fun _ _ _ h => by cases h

/-- The SQL backend's transaction leaves a write that fails without a trace as it is. -/
theorem transaction_of_atomic {w : StoreM α} (h : w.Atomic) : Store.transaction w = w := by
  funext s
  unfold Store.transaction
  cases hw : w s with
  | ok a s' => cases s.backend <;> rfl
  | error e s' =>
    rw [h s e s' hw]
    cases s.backend <;> rfl

theorem Atomic.transaction {w : StoreM α} (h : w.Atomic) : (Store.transaction w).Atomic := by
  rw [transaction_of_atomic h]
  exact h

/-! ## What a write answers, step by step -/

theorem answer_read_bind (f : Store → Except Fault α) (g : α → StoreM β) (s : Store) :
    (Store.read f >>= g).answer s = f s >>= fun a => (g a).answer s := by
  cases hf : f s with
  | ok a => simp [answer, bind, EStateM.bind, Store.read, hf, Except.bind]
  | error e => simp [answer, bind, EStateM.bind, Store.read, hf, Except.bind]

theorem answer_takeId_bind (g : Int → StoreM β) (s : Store) :
    (Store.takeId >>= g).answer s = (g s.nextId).answer { s with nextId := s.nextId + 1 } :=
  rfl

theorem answer_writeNodes_bind (f : List Node → List Node) (g : Unit → StoreM β) (s : Store) :
    (Store.writeNodes f >>= g).answer s = (g ()).answer { s with nodes := f s.nodes } :=
  rfl

theorem answer_writeNodes (f : List Node → List Node) (s : Store) :
    (Store.writeNodes f).answer s = .ok ((), { s with nodes := f s.nodes }) :=
  rfl

theorem answer_pure (a : α) (s : Store) : (pure a : StoreM α).answer s = .ok (a, s) := rfl

/-- What a write with its result mapped answers. -/
theorem answer_map (f : α → β) (w : StoreM α) (s : Store) :
    (f <$> w).answer s = (w.answer s).map fun r => (f r.1, r.2) := by
  show (match EStateM.map f w s with
    | .ok a s' => Except.ok (a, s')
    | .error e _ => .error e) = _
  unfold answer EStateM.map
  cases w s <;> rfl

/-- Mapping a write's result leaves the store it answers with. -/
theorem answer_map_snd (f : α → β) (w : StoreM α) (s : Store) :
    ((f <$> w).answer s).map Prod.snd = (w.answer s).map Prod.snd := by
  rw [answer_map]
  cases w.answer s <;> rfl

/-- What a write answers does not depend on the rollback of its failures. -/
theorem answer_transaction (w : StoreM α) (s : Store) :
    (Store.transaction w).answer s = w.answer s := by
  unfold Store.transaction answer
  dsimp only
  cases w s <;> cases s.backend <;> rfl

end StoreM

namespace Store

open StoreM

/-! ## The three writes -/

/-- A create checks the label, the parent and the row before it takes an id and writes. -/
theorem createM_atomic (label : Json) (parent : Option Json) : (createM label parent).Atomic := by
  unfold createM
  refine Atomic.transaction <| atomic_read_bind fun _ => atomic_read_bind fun _ =>
    atomic_read_bind fun _ => ?_
  exact (sure_takeId.bind fun id => (sure_writeNodes _).bind fun _ => sure_pure id).atomic

/-- An update checks the label, the node, the new parent and the row before it writes. -/
theorem updateM_atomic (ref label : Json) (parent : Option Json) :
    (updateM ref label parent).Atomic := by
  unfold updateM
  refine Atomic.transaction <| atomic_read_bind fun _ => atomic_read_bind fun _ =>
    atomic_read_bind fun _ => atomic_read_bind fun _ => ?_
  exact (sure_writeNodes _).atomic

/-- A delete finds the node and its subtree before it removes anything. -/
theorem deleteM_atomic (ref : Json) : (deleteM ref).Atomic := by
  unfold deleteM
  refine Atomic.transaction <| atomic_read_bind fun _ => atomic_read_bind fun gone => ?_
  exact ((sure_writeNodes _).bind fun _ => sure_pure gone.length).atomic

/-! ## What the writes answer -/

/-- What a create answers: its checks on the store as found, then the new node under the next
id, which moves on by one. -/
theorem create_eq (s : Store) (label : Json) (parent : Option Json) :
    s.create label parent = (do
      let label ← (do s.reach; validateLabel label)
      let found ← s.findParent parent
      let kept ← s.keepFound label found
      pure (s.nextId,
        { s with nodes := s.nodes ++ [⟨s.nextId, label, kept⟩], nextId := s.nextId + 1 })) := by
  simp only [create, createM, answer_transaction, answer_read_bind, answer_takeId_bind,
    answer_writeNodes_bind, answer_pure]
  rfl

/-- What an update answers: its checks on the store as found, then the store with the node's
label and parent rewritten. -/
theorem update_eq (s : Store) (ref label : Json) (parent : Option Json) :
    s.update ref label parent = (do
      let label ← (do s.reach; validateLabel label)
      let node ← s.named ref false (.nodeNotFound "node not found")
      let found ← s.findNewParent ref node parent
      let kept ← s.keepFound label found
      pure { s with nodes := s.nodes.map fun n =>
        if n.id == node.id then ⟨n.id, label, kept⟩ else n }) := by
  have hmap : ∀ x : Except Fault (Unit × Store), x.map Prod.snd = Prod.snd <$> x := fun _ => rfl
  simp only [update, updateM, answer_transaction, answer_read_bind, answer_writeNodes, hmap,
    map_bind]
  rfl

/-- What a delete answers: the node and its subtree found on the store as found, then the count
of the subtree and the store without it. -/
theorem delete_eq (s : Store) (ref : Json) :
    s.delete ref = (do
      let node ← (do s.reach; s.named ref false (.nodeNotFound "node not found"))
      let gone ← s.subtreeOf ref node.id
      pure (gone.length, { s with nodes := s.nodes.filter fun n => !gone.contains n.id })) := by
  simp only [delete, deleteM, answer_transaction, answer_read_bind, answer_writeNodes_bind,
    answer_pure]
  rfl

end Store

end Arbor
