import Metaobject.Proofs.Storage.Upkeep

/-!
# Custody

Values own buffers, and whatever is done with a value hands them on: to a value that is made of it,
or back to the manager. `Custody` is what a condition on the heap and on the buffers that are held
has to satisfy in order to be kept on the way, as long as the list of these buffers goes along.
`Ledger.custody` is the case that all the books are right. `Unheld.custody` follows one buffer that
nobody holds, and nothing happens to it; `Listed.custody` follows one buffer that somebody may hold,
and once nobody does it is owned no more.
-/

namespace Metaobject

open Metaobject.Action

/-- A condition on the heap, given the buffers that are held, is kept by all that is done with
buffers: it is no matter of their order nor of what concerns no buffer, one that is disowned is held
no longer, and one that is allocated for a tracker is held from then on. -/
structure Custody (I : List BufferId → Heap → Prop) : Prop where
  perm : ∀ {bs bs' h}, bs.Perm bs' → I bs h → I bs' h
  quiet : ∀ {bs h h'}, Heap.Step h h' 0 [] [] → I bs h → I bs h'
  disown : ∀ b bs, Triple (I (b :: bs)) (disown b) fun _ => I bs
  allocateNow : ∀ (t : Tracker) size fill bs, Triple (I (t.buffers ++ bs))
    (t.allocateNow size fill) fun r h =>
      I (r.2.buffers ++ bs) h ∧ r.2.setup = t.setup ∧ (r.1 = none → r.2 = t)

namespace Custody

variable {I : List BufferId → Heap → Prop} (custody : Custody I) {held : List BufferId}

include custody

/-- To log changes nothing that is held. -/
lemma log (r : LogRecord) : Triple (I held) (Action.log r) fun _ => I held :=
  fun h => custody.quiet (step_log r h)

/-- Nor does it to record a hook. -/
lemma hook (t : TypeId) (use : HookUse) :
    Triple (I held) (emit (.hook t use)) fun _ => I held :=
  fun h => custody.quiet (step_emit (.hook t use) h)

/-! ### Trackers -/

/-- Buffers that are given up are held no longer. -/
lemma disownAll (bs : List BufferId) :
    Triple (I (bs ++ held)) (Tracker.disownAll bs) fun _ => I held := by
  induction bs with
  | nil => exact .pure fun _ => id
  | cons b bs ih => exact .bind (custody.disown b (bs ++ held)) fun _ => ih

/-- Nor is what a tracker lists that gives up its list. -/
lemma giveUp (t : Tracker) : Triple (I (t.buffers ++ held)) t.giveUp fun _ => I held :=
  .bind (custody.disownAll t.buffers) fun _ => custody.log _

/-- Nor is what a tracker lists that is dropped. -/
lemma dropTracker (t : Tracker) : Triple (I (t.buffers ++ held)) t.drop fun _ => I held := by
  rw [Tracker.drop]
  split
  · exact .bind (custody.log _) fun _ => custody.giveUp t
  · rename_i none
    have empty : t.buffers = [] := by simpa using none
    rw [empty]
    exact .pure fun _ => id

/-- After a release nothing is held for the tracker. -/
lemma release (t : Tracker) :
    Triple (I (t.buffers ++ held)) t.release fun r h => I held h ∧ r.2 = t.released := by
  have gone : Triple (I (t.buffers ++ held)) (do let _ ← t.release) fun _ => I held := by
    rw [Tracker.release]
    split
    · rename_i idle
      obtain ⟨empty, _⟩ : t.buffers = [] ∧ t.capacity = 0 := by simpa using idle
      rw [empty]
      exact .pure fun _ => id
    · exact custody.giveUp t
  intro h before
  exact ⟨gone h before, congrArg (·.2) (t.run_release h)⟩

end Custody

/-! ### Values -/

mutual

/-- With a value the buffers go that it owns. -/
lemma Custody.drop {I : List BufferId → Heap → Prop} (custody : Custody I) :
    (v : Value) → ∀ {held}, Triple (I (v.owned ++ held)) v.drop fun _ => I held
  | .object _ fields none, held => by
    rw [Value.owned, Option.elim_none, List.append_nil]
    exact .bind (custody.dropAll fields) fun _ => .pure fun _ => id
  | .object _ fields (some t), held => by
    rw [Value.owned, Option.elim_some, List.append_assoc]
    exact .bind (custody.dropAll fields) fun _ => custody.dropTracker t
  | .null, held | .scalar _, held | .buffer _, held | .reference _ _, held
  | .descriptor _, held => .pure fun _ => id

/-- The same for values one after the other. -/
lemma Custody.dropAll {I : List BufferId → Heap → Prop} (custody : Custody I) :
    (vs : List Value) → ∀ {held},
      Triple (I (Value.ownedByAll vs ++ held)) (Value.dropAll vs) fun _ => I held
  | [], held => .pure fun _ => id
  | v :: vs, held => by
    rw [Value.ownedByAll, List.append_assoc]
    exact .bind (custody.drop v) fun _ => custody.dropAll vs

end

/-! ### What is kept -/

/-- The books are kept. -/
lemma Ledger.custody (base : Heap) (o : Outside) : Custody fun held => Ledger base held o where
  perm p ledger := ledger.perm p
  quiet step ledger := ledger.quiet step
  disown b _ := (givesUp_disown b).triple
  allocateNow t size fill _ := t.ledger_allocateNow size fill

/-- A buffer that is disowned is owned no more, and nothing happens to the cells of others. -/
lemma Action.cells_disown (b : BufferId) (h : Heap) :
    (∀ c : Cell, ((disown b).run h).2.cells[b]? = some c → c.owned = false) ∧
      ∀ b' ≠ b, ((disown b).run h).2.cells[b']? = h.cells[b']? := by
  cases live : h.cell? (.to b) with
  | none =>
    have same : ((disown b).run h).2 = h := by
      rw [disown]
      simp only [StateT.run_bind, StateT.run_get, pure_bind, live]
      rfl
    rw [same]
    refine ⟨fun c hc => ?_, fun _ _ => rfl⟩
    -- a cell that nobody needs is owned by nobody
    rw [Heap.cell?, hc, Option.filter_eq_none_iff] at live
    have held := live c rfl
    rw [Cell.isHeld, Bool.or_eq_true, not_or] at held
    exact eq_false_of_ne_true held.1
  | some c =>
    have step := step_disown live
    have cells : ((disown b).run h).2.cells =
        h.cells.setIfInBounds b { c with owned := false } := step.cells
    rw [cells]
    constructor
    · intro c' hc'
      rw [Array.getElem?_setIfInBounds_self] at hc'
      split at hc'
      · cases hc'
        rfl
      · cases hc'
    · intro b' ne
      rw [Array.getElem?_setIfInBounds_ne ne.symm]

/-- An allocation for a tracker leaves the cells alone, or it adds one for a buffer that the tracker
lists. -/
lemma Tracker.cells_allocateNow (t : Tracker) (size : Nat) (fill : Bytes → Bytes) (h : Heap) :
    ((t.allocateNow size fill).run h).1.2 = t ∧
        ((t.allocateNow size fill).run h).2.cells = h.cells ∨
      ((t.allocateNow size fill).run h).1.1 ≠ none ∧
        ((t.allocateNow size fill).run h).1.2 = t.push h.cells.size ∧
        ∃ c, ((t.allocateNow size fill).run h).2.cells = h.cells.push c := by
  have cases := t.allocateNow_cases size fill h
  generalize (t.allocateNow size fill).run h = r at cases ⊢
  cases cases with
  | refused step => exact .inl ⟨rfl, step.cells⟩
  | spoiled step => exact .inl ⟨rfl, step.cells⟩
  | @tracked h' x b step =>
    refine .inr ⟨nofun, congrArg (t.push ·.size) step.cells,
      { block := b, manager := t.manager }, ?_⟩
    exact congrArg (·.push { block := b, manager := t.manager }) step.cells

/-- A condition that depends on the cells is kept if disowning a buffer keeps it, and adding one. -/
lemma Custody.of_cells {P : List BufferId → Array Cell → Prop}
    (perm : ∀ {bs bs' cells}, bs.Perm bs' → P bs cells → P bs' cells)
    (disown : ∀ {b bs} {h : Heap}, P (b :: bs) h.cells → P bs ((Action.disown b).run h).2.cells)
    (push : ∀ {bs cells} (c : Cell), P bs cells → P (cells.size :: bs) (cells.push c)) :
    Custody fun held h => P held h.cells where
  perm := perm
  quiet step before := step.cells.symm ▸ before
  disown _ _ _ before := disown before
  allocateNow t size fill bs h before := by
    rcases t.cells_allocateNow size fill h with ⟨same, cells⟩ | ⟨some, more, c, cells⟩
    · rw [same, cells]
      exact ⟨before, rfl, fun _ => rfl⟩
    · rw [more, cells, t.buffers_push, List.append_assoc]
      refine ⟨perm List.perm_middle.symm (push c before), t.setup_push _, fun none => ?_⟩
      exact absurd none some

/-- Nobody holds the buffer, and this is its cell. -/
def Unheld (b : BufferId) (c : Cell) (held : List BufferId) (h : Heap) : Prop :=
  b ∉ held ∧ h.cells[b]? = some c

/-- If the buffer is owned it is one of those that are held. -/
def Listed (b : BufferId) (held : List BufferId) (h : Heap) : Prop :=
  ∀ c, h.cells[b]? = some c → c.owned = true → b ∈ held

/-- Nothing happens to a buffer that nobody holds. -/
lemma Unheld.custody (b : BufferId) (c : Cell) : Custody (Unheld b c) := by
  refine .of_cells (P := fun held cells => b ∉ held ∧ cells[b]? = some c) ?_ ?_ ?_
  · rintro bs bs' cells p ⟨free, place⟩
    exact ⟨fun mem => free (p.mem_iff.2 mem), place⟩
  · rintro b' bs h ⟨free, place⟩
    obtain ⟨ne, free⟩ := not_or.1 (mt List.mem_cons.2 free)
    exact ⟨free, ((cells_disown b' h).2 b ne).trans place⟩
  · rintro bs cells c' ⟨free, place⟩
    have old := (Array.getElem?_eq_some_iff.1 place).1
    refine ⟨fun mem => ?_, ?_⟩
    · rcases List.mem_cons.1 mem with rfl | mem
      · exact absurd old (Nat.lt_irrefl _)
      · exact free mem
    · rw [Array.getElem?_push_lt old, ← Array.getElem?_eq_getElem old]
      exact place

/-- A buffer that is owned stays with those that are held. -/
lemma Listed.custody (b : BufferId) : Custody (Listed b) := by
  refine .of_cells (P := fun held cells => ∀ c, cells[b]? = some c → c.owned = true → b ∈ held)
    ?_ ?_ ?_
  · exact fun p listed c hc own => p.mem_iff.1 (listed c hc own)
  · intro b' bs h listed c hc own
    by_cases same : b = b'
    · subst same
      cases ((cells_disown b h).1 c hc).symm.trans own
    · rw [(cells_disown b' h).2 b same] at hc
      exact (List.mem_cons.1 (listed c hc own)).resolve_left same
  · intro bs cells c' listed c hc own
    by_cases new : b = cells.size
    · exact List.mem_cons.2 (.inl new)
    · rw [Array.getElem?_push, if_neg new] at hc
      exact List.mem_cons_of_mem _ (listed c hc own)

end Metaobject
