import Metaobject.Proofs.Lifecycle.Frame

/-!
# What is due stays due

Whatever is dropped, freed or given up, the record of a buffer stays: its block, and the manager
that takes it back. Nothing needs to be known of the values for that.
-/

namespace Metaobject

open Metaobject.Action

variable {α : Type}

/-- The action makes no buffer, and what is due for the others stays so. -/
def Action.KeepsDue (a : Action α) : Prop :=
  ∀ h, (a.run h).2.due? = h.due?

namespace Action

lemma KeepsDue.pure (x : α) : KeepsDue (pure x) :=
  fun _ => rfl

/-- To log changes nothing that is due. -/
lemma keepsDue_log (r : LogRecord) : (log r).KeepsDue :=
  fun h => (step_log r h).due?

/-- A buffer that is given up is due to whom it was due. -/
lemma keepsDue_disown (b : BufferId) : (disown b).KeepsDue := by
  intro h
  cases live : h.cell? (.to b) with
  | none =>
    rw [disown]
    simp only [StateT.run_bind, StateT.run_get, pure_bind, live]
    rfl
  | some c =>
    rw [(step_disown live).due?]
    exact Heap.due?_withCell (Heap.getElem?_of_cell? live) rfl

end Action

/-- What is due stays so along every run of such actions. -/
lemma Heap.frame_due? : Heap.Frame fun h h' => h'.due? = h.due? where
  refl _ := rfl
  trans first second := second.trans first
  emit e h := (step_emit e h).due?
  disown := keepsDue_disown

/-- A release changes nothing that is due. -/
lemma Tracker.keepsDue_release (t : Tracker) : t.release.KeepsDue :=
  t.framed_release Heap.frame_due?

/-- Nor does it to drop a value. -/
lemma Value.keepsDue_drop (v : Value) : v.drop.KeepsDue :=
  v.framed_drop Heap.frame_due?

namespace Universe

/-- Nor does it to free one. -/
lemma keepsDue_free (u : Universe) (t : TypeId) (v : Value) : (u.free t v).KeepsDue :=
  u.framed_free Heap.frame_due? t v

/-- Nor does it to give up an object that was not finished. -/
lemma keepsDue_abandon (u : Universe) (v : Value) : (u.abandon v).KeepsDue :=
  u.framed_abandon Heap.frame_due? v

end Universe

end Metaobject
