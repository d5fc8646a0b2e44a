import Metaobject.Proofs.Lifecycle.Assignment
import Metaobject.Proofs.Universe.Subtyping

/-!
# Freed or dropped

Freeing walks through a value by itself, makes objects on the heap null as it goes and empties
trackers, while dropping just follows who owns what. `Universe.free_returns_as_drop` says that the
blocks go back all the same: the same ones, to the same managers, in the same order, which is that
of `Value.owned`.
-/

namespace Metaobject

variable {base h h₁ h₂ : Heap} {held bs : List BufferId} {o : Outside}

/-- Where the same buffers were given up the same can be read. -/
lemma Ledger.read_eq_read (before : Ledger base (bs ++ held) o h)
    (closed : ∀ b ∈ bs, b ∉ o.readings) (first : Ledger base held o h₁) (due₁ : h₁.due? = h.due?)
    (second : Ledger base held o h₂) (due₂ : h₂.due? = h.due?) (ref : Handle) :
    h₁.read ref = h₂.read ref := by
  by_cases given : ∃ b ∈ bs, ref = .to b
  · obtain ⟨b, hb, rfl⟩ := given
    rw [Heap.read_of_dead (before.dead_of_given_up first hb (closed b hb)),
      Heap.read_of_dead (before.dead_of_given_up second hb (closed b hb))]
  · have other : ∀ b ∈ bs, ref ≠ .to b := fun b hb same => given ⟨b, hb, same⟩
    rw [before.read_eq first due₁ other, before.read_eq second due₂ other]

/-- What is given up while nobody reads it goes back without exception. -/
lemma GivesUp.returned_all {a : Action Unit} (gives : GivesUp bs a)
    (ledger : Ledger base (bs ++ held) o h) (closed : ∀ b ∈ bs, b ∉ o.readings) :
    (a.run h).2.returned = h.returned ++ bs.filterMap h.due? := by
  obtain ⟨_, returned, _⟩ := gives base held o h ledger
  rwa [List.filter_eq_self.2 fun b hb => decide_eq_true (closed b hb)] at returned

namespace Universe

/-- What freeing a value and dropping the rest comes to, `freed` being the heap after the free,
`rest` the heap after that, and `dropped` the heap if the value is just dropped. -/
structure HandsBackAlike (v : Value) (h freed rest dropped : Heap) : Prop where
  /-- Every buffer has a block, which goes back to the manager that it was tracked for. -/
  due : ∀ b ∈ v.owned, (h.due? b).isSome = true
  /-- Fields in order and then the object's own, at every depth. -/
  returned : dropped.returned = h.returned ++ v.owned.filterMap h.due?
  alike : rest.returned = dropped.returned
  /-- All of that happens during the free. -/
  early : freed.returned = dropped.returned
  /-- Afterwards the same buffers are alive, with the same contents. -/
  read : ∀ ref, rest.read ref = dropped.read ref

/-- A value that no object has a say about hands back the same blocks in the same order, whether it
is freed first or just dropped. -/
theorem free_returns_as_drop (u : Universe) {t : TypeId} {v : Value}
    (leaves : u.leavesFreeing v = true) (typed : u.isWellTyped t v = true)
    (ledger : Ledger base (v.owned ++ held) o h) (closed : ∀ b ∈ v.owned, b ∉ o.readings) :
    ((u.free t v).run h).1 = (u.left t v, none) ∧
      HandsBackAlike v h ((u.free t v).run h).2
        ((u.left t v).drop.run ((u.free t v).run h).2).2 (v.drop.run h).2 := by
  obtain ⟨accepted, sound⟩ := isWellTyped_iff.1 typed
  have able := isFreeable_of_isSound v sound leaves
  have free := disposes_free v able t accepted
  have answer := free.answer h
  have both := givesUp_replaced able accepted
  have drop := Value.givesUp_drop v
  -- freeing and then dropping is one action, which ends in the drop of what is left
  have rest : ((do
      let r ← u.free t v
      r.1.drop : Action Unit).run h).2 = ((u.left t v).drop.run ((u.free t v).run h).2).2 := by
    rw [StateT.run_bind]
    show ((((u.free t v).run h).1.1.drop).run _).2 = _
    rw [answer]
  obtain ⟨after, _, due⟩ := both base held o h ledger
  obtain ⟨after', _, due'⟩ := drop base held o h ledger
  have returned := drop.returned_all ledger closed
  rw [rest] at after due
  refine ⟨answer, ?_⟩
  constructor
  case due =>
    intro b hb
    obtain ⟨c, _, live, _⟩ := ledger.cell_of_mem (List.mem_append_left held hb)
    rw [Heap.due?, Heap.getElem?_of_cell? live]
    rfl
  case returned => exact returned
  case alike =>
    have returned' := both.returned_all ledger closed
    rw [rest] at returned'
    exact returned'.trans returned.symm
  case early => exact (free.givesUp.returned_all ledger closed).trans returned.symm
  case read => exact fun ref => ledger.read_eq_read closed after due after' due' ref

/-- An object on the heap inside of another one, each with buffers of its own. -/
def family : Value :=
  .object 21 [.object 19 [.buffer (.to 1)] (some { onHeap := true, buffers := [1], capacity := 4 }),
    .null, .scalar (.bool true), .buffer (.to 2)] (some { buffers := [0, 2], capacity := 4 })

/-- How the family comes about. The inner object gets its buffer after the outer one has its
first. -/
def raised : World :=
  (World.start #[]).run [
    .place (.object 21 [.object 19 [.buffer (.to 1)] (some {}), .null, .scalar (.bool true),
      .buffer (.to 2)] (some {})),
    .mark [0, 0] true, .make [97], .track [0] 0, .make [98], .track [0, 0] 0, .make [99],
    .track [0] 0]

/-- The block of the inner object goes back first, although it was tracked between the others. -/
theorem free_returns_as_drop_family :
    withGenerations.leavesFreeing family = true ∧ withGenerations.isWellTyped 19 family = true ∧
      family.owned = [1, 0, 2] ∧ (withGenerations.left 19 family).isObject = true ∧
      (family.drop.run raised.heap).2.returned.map (·.2.bytes) = [[98], [97], [99]] ∧
      HandsBackAlike family raised.heap ((withGenerations.free 19 family).run raised.heap).2
        ((withGenerations.left 19 family).drop.run
          ((withGenerations.free 19 family).run raised.heap).2).2
        (family.drop.run raised.heap).2 := by
  have free : withGenerations.HookFree := hookFree_of_all rfl
  have ledger : Ledger (World.start #[]).heap (family.owned ++ []) {} raised.heap :=
    (World.sound_run #[] _ : World.Sound #[] raised).ledger
  have below : withGenerations.accepts 19 family = true := by
    refine (accepts_struct rfl _).trans ((isSome_subtype?_iff (free.isPlain 21)).2 ?_)
    exact .head (b := 20) rfl (.single rfl)
  have sound : withGenerations.isSound family = true := by
    refine isSound_object.2 ⟨_, rfl, .cons ⟨?_, rfl⟩ (.cons ⟨nofun, rfl⟩ (.cons ⟨?_, rfl⟩
      (.cons ⟨?_, rfl⟩ .nil)))⟩
    · rintro _ ⟨⟩
      exact accepts_self rfl _ _
    · rintro _ ⟨⟩
      rfl
    · rintro _ ⟨⟩
      rfl
  have typed := isWellTyped_iff.2 ⟨below, sound⟩
  obtain ⟨_, alike⟩ := free_returns_as_drop withGenerations rfl typed ledger (by decide)
  refine ⟨rfl, typed, rfl, rfl, rfl, alike⟩

end Universe

end Metaobject
