import Metaobject.Proofs.Lifecycle.Building

/-!
# Failures leave nothing behind

When a construction or a duplication fails, at whatever depth and for whatever reason, every block
that was handed out on the way has gone back, once, to whom it came from, and every buffer that was
alive before is as it was. `Heap.Restored` is that relation between the heap before and after, and
`Universe.failure_restores` says it of all the operations.
-/

namespace Metaobject

/-- From `h` to `h'` what was handed out went back, each block once and to whom it came from,
nothing else went back, and the buffers are as they were. -/
structure Heap.Restored (h h' : Heap) : Prop where
  buffers : ∀ ref, h'.cell? ref = h.cell? ref
  balanced : ∃ new back, h'.answers = h.answers ++ new ∧ h'.returned = h.returned ++ back ∧
    (∀ x ∈ new, answersAt new x.block.address = [x] ∧
      ∃ b, returnsAt back x.block.address = [(x.service, b)]) ∧
    ∀ r ∈ back, h.nextAddress ≤ r.2.address

/-- A cell that was made since, which nobody lists and nobody reads, holds its block no more. -/
lemma Books.isHeld_eq_false {h h' : Heap} {place : Nat → Place} {new : List Answer}
    {back : List (Service × Block)} (books : Books h [] {} place new back h') {b : BufferId}
    {c : Cell} (hc : Heap.cellSince h h' b = some c) : c.isHeld = false := by
  have owned := books.owned b
  have read := books.read b
  rw [hc] at owned read
  have owned : 0 = c.owned.toNat := owned
  have read : 0 = c.borrows := read
  rw [Cell.isHeld, ← read, Bool.toNat_eq_zero.1 owned.symm]
  rfl

/-- What the ledger says when nothing is held any more. -/
lemma Ledger.restored {h h' : Heap} (ledger : Ledger h [] {} h') : h.Restored h' := by
  obtain ⟨place, new, back, books⟩ := ledger
  constructor
  case buffers =>
    intro ref
    obtain _ | b := ref
    · rfl
    · by_cases old : b < h.cells.size
      · rw [Heap.cell?, Heap.cell?, books.kept b old]
      · have none_before : h.cell? (.to b) = none := by
          rw [Heap.cell?, Array.getElem?_eq_none (Nat.le_of_not_lt old)]
          rfl
        rw [none_before, Heap.cell?]
        cases hc : h'.cells[b]? with
        | none => rfl
        | some c =>
          have since : Heap.cellSince h h' b = some c := by
            rw [Heap.cellSince, if_pos (Nat.le_of_not_lt old), hc]
          rw [Option.filter_some, books.isHeld_eq_false since]
          rfl
  case balanced =>
    refine ⟨new, back, books.answers, books.returned, ?_, ?_⟩
    · intro x hx
      obtain ⟨one, ⟨b, c, placed, hc, address, service, _⟩ | ⟨_, _, b, _, went⟩⟩ :=
        books.answered hx List.not_mem_nil
      all_goals refine ⟨one, ?_⟩
      · have account := books.account x.block.address
        rw [placed] at account
        obtain ⟨⟩ | ⟨⟩ | ⟨_, _, _, holds, _, _, went⟩ := account
        rw [hc] at holds
        cases holds
        rw [books.isHeld_eq_false hc] at went
        exact ⟨c.block, service ▸ went⟩
      · exact ⟨b, went⟩
    · exact fun r => books.since_of_returned

namespace Universe

lemma run_constructReporting (u : Universe) (depth : Nat) (t : TypeId) (c : Template) (h : Heap) :
    ∃ message, (u.constructReporting depth t c).run h =
      ((((u.construct depth t c).run.run h).1, message),
        ((u.construct depth t c).run.run h).2) := by
  rw [constructReporting]
  rw [StateT.run_bind]
  rcases (u.construct depth t c).run.run h with ⟨(e | violation | _) | v, h'⟩
  · exact ⟨_, rfl⟩
  · exact ⟨_, rfl⟩
  · exact ⟨_, rfl⟩
  · exact ⟨_, rfl⟩

/-- Where there is nothing yet, a construction is done as anywhere else, and the target is touched
only by its success. -/
lemma constructAt_cases (u : Universe) (depth : Nat) (t : TypeId) (target : Value) (c : Template)
    (h : Heap) {fault : Fault}
    (failed : ((u.constructAt depth t target c).run h).1.2.1 = some fault) :
    ((u.constructAt depth t target c).run h).1.1 = target ∧
      (((u.constructAt depth t target c).run h).2 = h ∨
        ((u.construct depth t c).run.run h).1 = .error fault ∧
          ((u.constructAt depth t target c).run h).2 = ((u.construct depth t c).run.run h).2) := by
  obtain ⟨message, ran⟩ := u.run_constructReporting depth t c h
  unfold constructAt at failed ⊢
  split at failed
  · rename_i vacant
    rw [StateT.run_bind, ran] at failed
    rw [if_pos vacant, StateT.run_bind, ran]
    generalize (u.construct depth t c).run.run h = r at failed ⊢
    obtain ⟨fault' | v, h'⟩ := r
    · cases failed
      exact ⟨rfl, .inr ⟨rfl, rfl⟩⟩
    · cases failed
  · rename_i taken
    rw [if_neg taken]
    exact ⟨rfl, .inl rfl⟩

/-- A failure of any of the operations that build values leaves nothing behind. -/
theorem failure_restores {u : Universe} (hooks : u.HookFree) (h : Heap) :
    (∀ depth t c fault, ((u.construct depth t c).run.run h).1 = .error fault →
      h.Restored ((u.construct depth t c).run.run h).2) ∧
    (∀ depth t c fault, ((u.constructStruct (u.construct depth) t c).run.run h).1 = .error fault →
      h.Restored ((u.constructStruct (u.construct depth) t c).run.run h).2) ∧
    (∀ depth t target c fault, ((u.constructAt depth t target c).run h).1.2.1 = some fault →
      ((u.constructAt depth t target c).run h).1.1 = target ∧
        h.Restored ((u.constructAt depth t target c).run h).2) ∧
    (∀ t recursive source fault, ((u.duplicate t recursive source).run.run h).1 = .error fault →
      h.Restored ((u.duplicate t recursive source).run.run h).2) ∧
    ∀ type values tracker recursive fault,
      ((u.duplicateObject type values tracker recursive).run.run h).1 = .error fault →
      h.Restored ((u.duplicateObject type values tracker recursive).run.run h).2 := by
  have owed : ∀ {a : Attempt Value} {fault : Fault},
      Attempt.Triple (Ledger h [] {}) a (Owes h [] {}) →
      (a.run.run h).1 = .error fault → h.Restored (a.run.run h).2 := by
    intro a fault owes failed
    have owes := owes h (.start h)
    rw [failed] at owes
    exact Ledger.restored owes
  refine ⟨?_, ?_, ?_, ?_, ?_⟩
  · intro depth t c fault
    exact owed (ledger_construct hooks.builds depth t c [])
  · intro depth t c fault
    exact owed (u.ledger_constructStruct (ledger_construct hooks.builds depth) t c [])
  · intro depth t target c fault failed
    obtain ⟨same, idle | ⟨failed, ran⟩⟩ := u.constructAt_cases depth t target c h failed
    · rw [idle]
      exact ⟨same, (Ledger.start h).restored⟩
    · rw [ran]
      exact ⟨same, owed (ledger_construct hooks.builds depth t c []) failed⟩
  · intro t recursive source fault
    exact owed (ledger_duplicate hooks.builds source t recursive [])
  · intro type values tracker recursive fault
    exact owed (ledger_duplicateObject hooks.builds type values tracker recursive [])

/-- Types with one more struct: two buffers, a tracker, and a default. -/
def withPair : Universe :=
  let pair : Declaration :=
    { name := "Pair"
      shape := .struct [⟨"first", .typed 14, false, none⟩, ⟨"second", .typed 14, false, none⟩] none
        true }
  match builtin.declareStruct {} pair (some [.buffer (.to 0), .buffer (.to 1)]) with
  | some (.ok (_, u)) => u
  | _ => builtin

/-- The buffers of the default of a pair, and an allocator that serves one request. -/
def scarce : Heap :=
  { arenas := #[{ allocator := .metered 0 (some 1) 0 }]
    cells := #[{ block := ⟨0, [97]⟩, manager := none }, { block := ⟨1, [98]⟩, manager := none }]
    nextAddress := 2 }

/-- The second buffer of a pair is refused, and the first one goes back. -/
theorem failure_restores_pair :
    let c : Template := { manager := some { malloc := some (.custom 0), free := some (.custom 0) } }
    withPair.HookFree ∧
      ((withPair.construct 1 19 c).run.run scarce).1 =
        .error (.refused (.field 1 "second" (.outOfMemory 1))) ∧
      scarce.Restored ((withPair.construct 1 19 c).run.run scarce).2 := by
  intro c
  have hooks : withPair.HookFree := hookFree_of_all rfl
  have failed : ((withPair.construct 1 19 c).run.run scarce).1 =
      .error (.refused (.field 1 "second" (.outOfMemory 1))) := rfl
  exact ⟨hooks, failed, (failure_restores hooks scarce).1 1 19 c _ failed⟩

end Universe

end Metaobject
