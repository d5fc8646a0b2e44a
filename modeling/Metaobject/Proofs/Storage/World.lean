import Mathlib.Data.List.Perm.Basic
import Metaobject.Proofs.Storage.Embedded
import Metaobject.Proofs.Storage.Upkeep

/-!
# A world of trackers

A program works with any number of trackers, which stand alone or belong to objects, with blocks in
its own hands, and with buffers that it is reading. `World.step` are the things that it may do next,
in whatever order; a step that does not make sense changes nothing. `World.sound_run` says that the
books stay right along every run, and that every tracker lists its buffers in the order in which
they were tracked.
-/

namespace Metaobject

/-- What a program has. -/
structure World where
  heap : Heap
  /-- The objects that it has not dropped yet. -/
  store : List Value := []
  /-- The blocks in its own hands. -/
  blocks : List Block := []
  /-- The buffers that it is reading, as often as it opened them. -/
  readings : List BufferId := []
  /-- The addresses of the blocks that it asked a manager for, without a tracker. -/
  direct : List Nat := []

namespace World

/-- What a program may do next. A path leads to a tracker, from a position in the store. -/
inductive Op where
  /-- Makes an object, with trackers that own nothing yet. -/
  | place (v : Value)
  /-- Makes a block. -/
  | make (bytes : Bytes)
  /-- Asks a manager for a block. -/
  | ask (m : Option Manager) (size : Nat)
  /-- Gives a block in its hands to a manager. -/
  | give (m : Option Manager) (i : Nat)
  | bind (path : List Nat) (m : Option Manager)
  | mark (path : List Nat) (onHeap : Bool)
  | ensure (path : List Nat)
  /-- Has a block in its hands tracked. -/
  | track (path : List Nat) (i : Nat)
  | allocate (path : List Nat) (size : Nat) (fill : Bytes → Bytes)
  | release (path : List Nat)
  /-- Drops an object. -/
  | drop (i : Nat)
  /-- Opens a buffer that is alive. -/
  | read (b : BufferId)
  | endReading (b : BufferId)

/-- The tracker at the end of a path. -/
def tracker? (w : World) (path : List Nat) : Option Tracker :=
  Value.trackerIn? path w.store

/-- Lets a tracker do something. -/
def onTracker (w : World) (path : List Nat) (a : Tracker → Action Tracker) : World :=
  match w.tracker? path with
  | none => w
  | some t =>
    { w with
      heap := ((a t).run w.heap).2
      store := Value.withTrackerIn ((a t).run w.heap).1 path w.store }

/-- The world after one more thing is done. -/
def step (w : World) : Op → World
  | .place v => if v.owned = [] then { w with store := w.store ++ [v] } else w
  | .make bytes =>
    let (b, heap) := (Action.mint bytes).run w.heap
    { w with heap, blocks := b :: w.blocks }
  | .ask m size =>
    match (Action.allocate m size).run w.heap with
    | (none, heap) => { w with heap }
    | (some b, heap) => { w with heap, blocks := b :: w.blocks, direct := b.address :: w.direct }
  | .give m i =>
    match w.blocks[i]? with
    | none => w
    | some b =>
      { w with heap := ((Action.release m b).run w.heap).2, blocks := w.blocks.eraseIdx i }
  | .bind path m => w.onTracker path fun t => return { t with manager := m }
  | .mark path onHeap => w.onTracker path fun t => return { t with onHeap }
  | .ensure path => w.onTracker path (·.ensureSetup)
  | .track path i =>
    match w.blocks[i]? with
    | none => w
    | some b =>
      if (w.tracker? path).isSome then
        { w.onTracker path fun t => return (← t.track b).2 with blocks := w.blocks.eraseIdx i }
      else w
  | .allocate path size fill => w.onTracker path fun t => return (← t.allocateWith size fill).2
  | .release path => w.onTracker path fun t => return (← t.release).2
  | .drop i =>
    match w.store[i]? with
    | none => w
    | some v => { w with heap := (v.drop.run w.heap).2, store := w.store.eraseIdx i }
  | .read b =>
    if w.heap.isLive (.to b) then
      { w with heap := ((Action.borrow b).run w.heap).2, readings := b :: w.readings }
    else w
  | .endReading b =>
    if b ∈ w.readings then
      { w with heap := ((Action.endBorrow b).run w.heap).2, readings := w.readings.erase b }
    else w

/-- The world after some things are done. -/
def run (w : World) : List Op → World
  | [] => w
  | op :: ops => (w.step op).run ops

/-- Nothing has happened yet. -/
def start (arenas : Array Arena) : World :=
  { heap := { arenas } }

/-- The buffers that some tracker lists. -/
def listed (w : World) : List BufferId :=
  Value.ownedByAll w.store

/-- What is in the hands of the program. -/
def outside (w : World) : Outside :=
  ⟨w.readings, w.blocks.map (·.address), w.direct⟩

/-- The books are right since the start, and every tracker lists its buffers in order. -/
structure Sound (arenas : Array Arena) (w : World) : Prop where
  ledger : Ledger (start arenas).heap w.listed w.outside w.heap
  ordered : ∀ path t, w.tracker? path = some t → t.buffers.Pairwise (· < ·)

variable {arenas : Array Arena} {w : World}

/-- Every cell was made since the start. -/
lemma cellSince_start (h : Heap) (b : BufferId) :
    Heap.cellSince (start arenas).heap h b = h.cells[b]? :=
  if_pos (Nat.zero_le b)

/-- Nothing is done where there is no tracker. -/
lemma onTracker_none {path : List Nat} {a : Tracker → Action Tracker}
    (ht : w.tracker? path = none) : w.onTracker path a = w := by
  rw [World.onTracker]
  rw [ht]

/-- What a tracker does changes the heap, and in the store that tracker. -/
lemma onTracker_some {path : List Nat} {t : Tracker} {a : Tracker → Action Tracker}
    (ht : w.tracker? path = some t) :
    w.onTracker path a = { w with
      heap := ((a t).run w.heap).2
      store := Value.withTrackerIn ((a t).run w.heap).1 path w.store } := by
  rw [World.onTracker]
  rw [ht]

/-- What is listed is listed by one of the objects or by the others. -/
lemma listed_perm {i : Nat} {v : Value} (hv : w.store[i]? = some v) :
    w.listed.Perm (v.owned ++ Value.ownedByAll (w.store.eraseIdx i)) := by
  obtain ⟨lt, rfl⟩ := List.getElem?_eq_some_iff.1 hv
  rw [listed, Value.ownedByAll_eq_flatMap, Value.ownedByAll_eq_flatMap, ← List.flatMap_cons]
  exact (List.getElem_cons_eraseIdx_perm lt).symm.flatMap_right _

/-- What a tracker does keeps the books, the order of every list, and what was due before. -/
lemma Sound.onTracker (sound : Sound arenas w) {path : List Nat} {t : Tracker}
    (ht : w.tracker? path = some t) {a : Tracker → Action Tracker} {o : Outside}
    (keeps : ∀ held, Action.Triple (t.Upheld (start arenas).heap held w.outside w.heap) (a t)
      (fun t' => t'.Upheld (start arenas).heap held o w.heap)) :
    Ledger (start arenas).heap (w.onTracker path a).listed o (w.onTracker path a).heap ∧
      (∀ path' t', (w.onTracker path a).tracker? path' = some t' →
        t'.buffers.Pairwise (· < ·)) ∧
      Heap.Later w.heap (w.onTracker path a).heap := by
  obtain ⟨rest, before, after⟩ := Value.ownedByAll_perm_withTrackerIn ht
  have upheld : t.Upheld (start arenas).heap rest w.outside w.heap w.heap :=
    ⟨sound.ledger.perm before, sound.ordered path t ht, .refl⟩
  obtain ⟨ledger, ordered, later⟩ := keeps rest w.heap upheld
  rw [onTracker_some ht]
  refine ⟨ledger.perm (after _).symm, ?_, later⟩
  intro path' t' ht'
  rw [tracker?, Value.trackerIn?_withTrackerIn ht] at ht'
  split at ht'
  · cases ht'
    exact ordered
  · exact sound.ordered path' t' ht'

/-- The same where nothing comes into or out of the hands of the program. -/
lemma Sound.onTracker_inside (sound : Sound arenas w) {path : List Nat}
    {a : Tracker → Action Tracker}
    (keeps : ∀ t held, Action.Triple (t.Upheld (start arenas).heap held w.outside w.heap) (a t)
      (fun t' => t'.Upheld (start arenas).heap held w.outside w.heap)) :
    Sound arenas (w.onTracker path a) ∧ Heap.Later w.heap (w.onTracker path a).heap := by
  cases ht : w.tracker? path with
  | none =>
    rw [onTracker_none ht]
    exact ⟨sound, .refl⟩
  | some t =>
    obtain ⟨ledger, ordered, later⟩ := sound.onTracker ht (keeps t)
    rw [onTracker_some ht] at ledger ordered later ⊢
    exact ⟨⟨ledger, ordered⟩, later⟩

/-- At the start everything is in order, as there is nothing. -/
lemma sound_start (arenas : Array Arena) : Sound arenas (start arenas) where
  ledger := .start _
  ordered path t ht := by
    cases path <;> cases ht

/-- A block that leaves the hands of the program is counted once less. -/
lemma count_eraseIdx_address {blocks : List Block} {i : Nat} {b : Block} (hb : blocks[i]? = some b)
    (a : Nat) :
    ((blocks.eraseIdx i).map (·.address)).count a =
      ((blocks.map (·.address)).erase b.address).count a := by
  obtain ⟨lt, rfl⟩ := List.getElem?_eq_some_iff.1 hb
  have perm := (List.getElem_cons_eraseIdx_perm lt).map (·.address)
  have erased := perm.erase blocks[i].address
  rw [List.map_cons, List.erase_cons_head] at erased
  exact erased.count_eq a

/-- A block that the program has is outside the trackers. -/
lemma address_mem_outside {i : Nat} {b : Block} (hb : w.blocks[i]? = some b) :
    b.address ∈ w.outside.blocks :=
  List.mem_map_of_mem (List.mem_of_getElem? hb)

/-- A tracker of an object that owns nothing lists nothing. -/
lemma buffers_eq_nil_of_owned {is : List Nat} {v : Value} {t : Tracker} (own : v.owned = [])
    (ht : Value.trackerAt? is v = some t) : t.buffers = [] := by
  obtain ⟨rest, before, _⟩ := Value.owned_perm_withTrackerAt ht
  rw [own] at before
  exact (List.append_eq_nil_iff.1 before.nil_eq.symm).1

/-! ### One step

All that is done without a tracker leaves it alone what is due. -/

/-- The lists of all trackers are in order. -/
lemma Sound.ordered_store (sound : Sound arenas w) :
    ∀ v ∈ w.store, v.Trackers fun t => t.buffers.Pairwise (· < ·) :=
  Value.forall_trackerIn?.1 sound.ordered

/-- A value is taken into the store only if it owns nothing. -/
lemma sound_place (sound : Sound arenas w) (v : Value) :
    Sound arenas (w.step (.place v)) ∧ (w.step (.place v)).heap.due? = w.heap.due? := by
  rw [step]
  split
  · rename_i own
    refine ⟨⟨?_, ?_⟩, rfl⟩
    · refine sound.ledger.congr fun b => ?_
      show (Value.ownedByAll (w.store ++ [v])).count b = _
      rw [Value.ownedByAll_append, Value.ownedByAll, own]
      exact congrArg (List.count b) (List.append_nil w.listed)
    · -- the new object owns nothing, so its trackers have nothing to put in order
      refine Value.forall_trackerIn?.2 (List.forall_mem_append.2
        ⟨sound.ordered_store, List.forall_mem_singleton.2 fun path t ht => ?_⟩)
      show t.buffers.Pairwise (· < ·)
      rw [buffers_eq_nil_of_owned own ht]
      exact .nil
  · exact ⟨sound, rfl⟩

/-- A new block comes into the hands of the program. -/
lemma sound_make (sound : Sound arenas w) (bytes : Bytes) :
    Sound arenas (w.step (.make bytes)) ∧ (w.step (.make bytes)).heap.due? = w.heap.due? := by
  obtain ⟨address, minted⟩ := Action.step_mint bytes w.heap
  exact ⟨⟨sound.ledger.obtain minted (by simp) (fun _ => id) (.inr rfl), sound.ordered⟩,
    minted.due?⟩

/-- So does a block that a manager hands out. -/
lemma sound_ask (sound : Sound arenas w) (m : Option Manager) (size : Nat) :
    Sound arenas (w.step (.ask m size)) ∧ (w.step (.ask m size)).heap.due? = w.heap.due? := by
  have asks := Action.asked_allocate m size w.heap
  rw [step]
  generalize (Action.allocate m size).run w.heap = r at asks ⊢
  obtain ⟨_ | b, h'⟩ := r
  · exact ⟨⟨sound.ledger.quiet asks, sound.ordered⟩, Heap.Step.due? asks⟩
  · obtain ⟨address, x, _, _, same, _, step⟩ := asks
    refine ⟨⟨?_, sound.ordered⟩, step.due?⟩
    have mine := sound.ledger.obtain step (by simp [same, address])
      (fun _ => List.mem_cons_of_mem w.heap.nextAddress) (.inl (List.mem_cons_self ..))
    rwa [← address] at mine

/-- A block that is given to a manager leaves them. -/
lemma sound_give (sound : Sound arenas w) (m : Option Manager) (i : Nat) :
    Sound arenas (w.step (.give m i)) ∧ (w.step (.give m i)).heap.due? = w.heap.due? := by
  rw [step]
  split
  · exact ⟨sound, rfl⟩
  · rename_i b hb
    have back := Action.step_release m b w.heap
    refine ⟨⟨?_, sound.ordered⟩, back.due?⟩
    exact (sound.ledger.give (address_mem_outside hb) back).congrBlocks (count_eraseIdx_address hb)

/-- So does a block that is tracked, and it is listed. -/
lemma sound_track (sound : Sound arenas w) (path : List Nat) (i : Nat) :
    Sound arenas (w.step (.track path i)) ∧ Heap.Later w.heap (w.step (.track path i)).heap := by
  rw [step]
  split
  · exact ⟨sound, .refl⟩
  · rename_i b hb
    split
    · rename_i present
      obtain ⟨t, ht⟩ := Option.isSome_iff_exists.1 present
      obtain ⟨ledger, ordered, later⟩ := sound.onTracker ht (a := fun t => return (← t.track b).2)
        fun held => .bind (t.upheld_track (address_mem_outside hb)) fun _ => .pure fun _ => id
      rw [onTracker_some ht] at ledger ordered later ⊢
      exact ⟨⟨ledger.congrBlocks (count_eraseIdx_address hb), ordered⟩, later⟩
    · exact ⟨sound, .refl⟩

/-- A value that is dropped gives up what it owns. -/
lemma sound_drop (sound : Sound arenas w) (i : Nat) :
    Sound arenas (w.step (.drop i)) ∧ (w.step (.drop i)).heap.due? = w.heap.due? := by
  rw [step]
  split
  · exact ⟨sound, rfl⟩
  · rename_i v hv
    have ledger := sound.ledger.perm (listed_perm hv)
    obtain ⟨ledger, _, due⟩ := v.givesUp_drop _ _ _ w.heap ledger
    refine ⟨⟨ledger, ?_⟩, due⟩
    exact Value.forall_trackerIn?.2 fun v hv => sound.ordered_store v (List.mem_of_mem_eraseIdx hv)

/-- A buffer that is alive may be opened once more. -/
lemma sound_read (sound : Sound arenas w) (b : BufferId) :
    Sound arenas (w.step (.read b)) ∧ (w.step (.read b)).heap.due? = w.heap.due? := by
  rw [step]
  split
  · rename_i live
    obtain ⟨c, hc⟩ := Option.isSome_iff_exists.1 live
    obtain ⟨ledger, due, _⟩ := sound.ledger.borrow (b := b)
      ((cellSince_start w.heap b).trans (Heap.getElem?_of_cell? hc)) hc
    exact ⟨⟨ledger, sound.ordered⟩, due⟩
  · exact ⟨sound, rfl⟩

/-- A reading that there is may be ended. -/
lemma sound_endReading (sound : Sound arenas w) (b : BufferId) :
    Sound arenas (w.step (.endReading b)) ∧
      (w.step (.endReading b)).heap.due? = w.heap.due? := by
  rw [step]
  split
  · rename_i reading
    obtain ⟨ledger, due, _⟩ := sound.ledger.endBorrow reading
    exact ⟨⟨ledger, sound.ordered⟩, due⟩
  · exact ⟨sound, rfl⟩

/-- One thing that the program does keeps the books, the order of every list, and what was due
before. -/
lemma sound_step (sound : Sound arenas w) (op : Op) :
    Sound arenas (w.step op) ∧ Heap.Later w.heap (w.step op).heap := by
  have closed : Sound arenas (w.step op) ∧ (w.step op).heap.due? = w.heap.due? →
      Sound arenas (w.step op) ∧ Heap.Later w.heap (w.step op).heap :=
    And.imp_right .of_due?
  cases op with
  | place v => exact closed (sound_place sound v)
  | make bytes => exact closed (sound_make sound bytes)
  | ask m size => exact closed (sound_ask sound m size)
  | give m i => exact closed (sound_give sound m i)
  | bind path m =>
    exact sound.onTracker_inside fun t held => .pure fun h upheld => upheld.rebound m
  | mark path onHeap =>
    exact sound.onTracker_inside fun t held => .pure fun h upheld => upheld.marked onHeap
  | ensure path =>
    exact sound.onTracker_inside fun t held => (t.upheld_ensureSetup).weaken fun _ _ => And.left
  | track path i => exact sound_track sound path i
  | allocate path size fill =>
    exact sound.onTracker_inside fun t held =>
      .bind (t.upheld_allocateWith size fill) fun _ => .pure fun _ => id
  | release path =>
    exact sound.onTracker_inside fun t held =>
      .bind (t.upheld_release.weaken fun _ _ => And.left) fun _ => .pure fun _ => id
  | drop i => exact closed (sound_drop sound i)
  | read b => exact closed (sound_read sound b)
  | endReading b => exact closed (sound_endReading sound b)

/-- Whatever a program does, the books are right. -/
theorem sound_run (arenas : Array Arena) (ops : List Op) :
    Sound arenas ((start arenas).run ops) := by
  suffices ∀ w, Sound arenas w → Sound arenas (w.run ops) from this _ (sound_start arenas)
  intro w sound
  induction ops generalizing w with
  | nil => exact sound
  | cons op ops ih => exact ih _ (sound_step sound op).1

end World

end Metaobject
