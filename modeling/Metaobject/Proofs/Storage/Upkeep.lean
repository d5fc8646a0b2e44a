import Metaobject.Proofs.Storage.Ledger
import Metaobject.Value

/-!
# Trackers keep the books

Every operation of a tracker keeps the ledger, whatever else is held beside the buffers of that
tracker. A block is tracked for the manager that the tracker has at that moment, and a buffer that a
tracker gives up goes back, at once or when nobody reads it any more.
-/

namespace Metaobject

open Metaobject.Action

variable {base : Heap} {held : List BufferId} {o : Outside}

/-- The cell of a buffer tells how often it is listed and how often it is read. -/
lemma Ledger.counts {h : Heap} {b : BufferId} {c : Cell} (ledger : Ledger base held o h)
    (hc : Heap.cellSince base h b = some c) :
    held.count b = c.owned.toNat ∧ o.readings.count b = c.borrows := by
  obtain ⟨place, new, back, books⟩ := ledger
  have owned := books.owned b
  have read := books.read b
  rw [hc] at owned read
  exact ⟨owned, read⟩

/-- A buffer that somebody holds is in a cell. -/
lemma Ledger.cell_of_mem {h : Heap} {b : BufferId} (ledger : Ledger base held o h)
    (hb : b ∈ held) :
    ∃ c, Heap.cellSince base h b = some c ∧ h.cell? (.to b) = some c ∧ c.owned = true ∧
      held.count b = 1 := by
  obtain ⟨place, new, back, books⟩ := ledger
  have count := books.owned b
  have pos := List.count_pos_iff.2 hb
  cases hc : Heap.cellSince base h b with
  | none =>
    rw [hc, Option.elim_none] at count
    omega
  | some c =>
    rw [hc, Option.elim_some] at count
    cases ho : c.owned with
    | false =>
      rw [ho] at count
      have : Bool.toNat false = 0 := rfl
      omega
    | true =>
      rw [ho] at count
      refine ⟨c, rfl, ?_, ho, count⟩
      rw [Heap.cell?, Heap.getElem?_of_cellSince hc, Option.filter_some, Cell.isHeld, ho]
      rfl

/-- A buffer that somebody reads is in a cell. -/
lemma Ledger.cell_of_reading {h : Heap} {b : BufferId} (ledger : Ledger base held o h)
    (hb : b ∈ o.readings) :
    ∃ c, Heap.cellSince base h b = some c ∧ h.cell? (.to b) = some c ∧ c.isHeld = true := by
  obtain ⟨place, new, back, books⟩ := ledger
  have count := books.read b
  have pos := List.count_pos_iff.2 hb
  cases hc : Heap.cellSince base h b with
  | none =>
    rw [hc, Option.elim_none] at count
    omega
  | some c =>
    rw [hc, Option.elim_some] at count
    have live : c.isHeld = true := by
      rw [Cell.isHeld, ← count, decide_eq_true pos, Bool.or_true]
    refine ⟨c, rfl, ?_, live⟩
    rw [Heap.cell?, Heap.getElem?_of_cellSince hc, Option.filter_some, if_pos live]

/-- One more reader is entered for a buffer that is alive, and nothing goes back. -/
lemma Ledger.borrow {h : Heap} {b : BufferId} {c : Cell} (ledger : Ledger base held o h)
    (hc : Heap.cellSince base h b = some c) (live : h.cell? (.to b) = some c) :
    Ledger base held { o with readings := b :: o.readings } ((Action.borrow b).run h).2 ∧
      ((Action.borrow b).run h).2.due? = h.due? ∧
      ((Action.borrow b).run h).2.returned = h.returned := by
  have step := step_updateCell (fun c => { c with borrows := c.borrows + 1 }) live
  obtain ⟨owned, read⟩ := ledger.counts hc
  refine ⟨ledger.update { c with borrows := c.borrows + 1 } hc ?_ rfl rfl step owned ?_
    (fun _ _ => rfl) ?_, ?_, ?_⟩
  · exact (Option.filter_eq_some_iff.1 live).2
  · rw [List.count_cons_self, read]
  · intro b' ne
    exact List.count_cons_of_ne ne.symm
  · exact step.due?.trans (Heap.due?_withCell (Heap.getElem?_of_cell? live) rfl)
  · apply step.returned.trans
    simp [Cell.isHeld]
    rfl

/-- A reading that ends is one less. With the last one the block goes back if no tracker lists
it. -/
lemma Ledger.endBorrow {h : Heap} {b : BufferId} (ledger : Ledger base held o h)
    (hb : b ∈ o.readings) :
    Ledger base held { o with readings := o.readings.erase b } ((Action.endBorrow b).run h).2 ∧
      ((Action.endBorrow b).run h).2.due? = h.due? ∧
      ((Action.endBorrow b).run h).2.returned = h.returned ++
        if b ∈ held ∨ b ∈ o.readings.erase b then [] else (h.due? b).toList := by
  obtain ⟨c, hc, live, isHeld⟩ := ledger.cell_of_reading hb
  have step := step_updateCell (fun c => { c with borrows := c.borrows - 1 }) live
  obtain ⟨owned, read⟩ := ledger.counts hc
  have at_b := Heap.getElem?_of_cell? live
  refine ⟨ledger.update { c with borrows := c.borrows - 1 } hc isHeld rfl rfl step owned ?_
    (fun _ _ => rfl) ?_, ?_, ?_⟩
  · rw [List.count_erase_self, read]
  · intro b' ne
    exact List.count_erase_of_ne ne
  · exact step.due?.trans (Heap.due?_withCell at_b rfl)
  · refine step.returned.trans (congrArg (h.returned ++ ·) ?_)
    rw [Heap.due?, at_b]
    refine if_congr ?_ rfl rfl
    rw [← List.count_pos_iff, ← List.count_pos_iff, owned, List.count_erase_self, read]
    cases c.owned <;> simp [Cell.isHeld]

/-- The action gives up the buffers, in order: nobody lists them afterwards, and the blocks of those
that nobody reads go back. -/
def GivesUp (bs : List BufferId) (a : Action Unit) : Prop :=
  ∀ base held o h, Ledger base (bs ++ held) o h →
    Ledger base held o (a.run h).2 ∧
    (a.run h).2.returned = h.returned ++ (bs.filter (· ∉ o.readings)).filterMap h.due? ∧
    (a.run h).2.due? = h.due?

namespace GivesUp

variable {bs bs' : List BufferId} {a a' : Action Unit}

/-- To do nothing gives nothing up. -/
lemma nothing : GivesUp [] (return ()) := by
  intro base held o h ledger
  exact ⟨ledger, (List.append_nil _).symm, rfl⟩

/-- To log gives nothing up. -/
lemma log (r : LogRecord) : GivesUp [] (Action.log r) := by
  intro base held o h ledger
  have step := step_log r h
  exact ⟨ledger.quiet step, step.returned, step.due?⟩

/-- One action after another gives up first the buffers of the one and then those of the other. -/
lemma bind (first : GivesUp bs a) (second : GivesUp bs' a') :
    GivesUp (bs ++ bs') (a >>= fun _ => a') := by
  intro base held o h ledger
  rw [List.append_assoc] at ledger
  obtain ⟨ledger, returned, due⟩ := first base _ o h ledger
  obtain ⟨ledger', returned', due'⟩ := second base _ o _ ledger
  refine ⟨ledger', ?_, due'.trans due⟩
  apply returned'.trans
  rw [returned, due, List.filter_append, List.filterMap_append, List.append_assoc]

/-- What is given up is no longer held. -/
lemma triple (gives : GivesUp bs a) :
    Triple (Ledger base (bs ++ held) o) a (fun _ => Ledger base held o) := by
  intro h ledger
  exact (gives base held o h ledger).1

end GivesUp

/-- A buffer that is disowned is given up. -/
lemma Action.givesUp_disown (b : BufferId) : GivesUp [b] (disown b) := by
  intro base held o h ledger
  obtain ⟨c, hc, live, owned, one⟩ := ledger.cell_of_mem (List.mem_cons_self ..)
  rw [List.singleton_append, List.count_cons_self] at one
  have step := step_disown live
  have read := (ledger.counts hc).2
  have at_b := Heap.getElem?_of_cellSince hc
  refine ⟨?_, ?_, ?_⟩
  · refine ledger.update { c with owned := false } hc ?_ rfl rfl ?_ ?_ read ?_ fun _ _ => rfl
    · rw [Cell.isHeld, owned]
      rfl
    · simpa [Cell.isHeld] using step
    · show held.count b = 0
      omega
    · intro b' ne
      exact (List.count_cons_of_ne ne.symm).symm
  · rw [step.returned]
    show h.returned ++ _ = _
    congr 1
    by_cases reading : b ∈ o.readings
    · -- the block waits for the end of the reading
      have pos := List.count_pos_iff.2 reading
      rw [if_pos (read ▸ pos), List.filter_cons_of_neg (by simpa using reading)]
      rfl
    · have zero := List.count_eq_zero.2 reading
      rw [if_neg (by omega), List.filter_cons_of_pos (by simpa using reading)]
      simp [Heap.due?, at_b]
  · rw [step.due?]
    exact Heap.due?_withCell at_b rfl

namespace Tracker

/-- Buffers are given up one after the other. -/
lemma givesUp_disownAll (bs : List BufferId) : GivesUp bs (disownAll bs) := by
  induction bs with
  | nil => exact .nothing
  | cons b bs ih => exact .bind (givesUp_disown b) ih

/-- A tracker gives up its buffers in the order in which it tracked them. -/
lemma givesUp_giveUp (t : Tracker) : GivesUp t.buffers t.giveUp := by
  have gives := GivesUp.bind (givesUp_disownAll t.buffers) (.log (.released t.buffers.length))
  rwa [List.append_nil] at gives

/-- With a tracker its buffers go. -/
lemma givesUp_drop (t : Tracker) : GivesUp t.buffers t.drop := by
  rw [drop]
  split
  · exact .bind (.log (.droppedLive t.buffers.length)) (givesUp_giveUp t)
  · rename_i none
    have empty : t.buffers = [] := by simpa using none
    rw [empty]
    exact .nothing

/-- The tracker after a release. -/
def released (t : Tracker) : Tracker :=
  { t with onHeap := false, buffers := [], capacity := 0 }

/-- A release gives up what the tracker lists. -/
lemma givesUp_release (t : Tracker) : GivesUp t.buffers (do let _ ← t.release) := by
  rw [release]
  split
  · rename_i idle
    obtain ⟨empty, small⟩ : t.buffers = [] ∧ t.capacity = 0 := by simpa using idle
    rw [empty]
    exact .nothing
  · exact givesUp_giveUp t

/-- A release answers whether the value is on the heap, and leaves the tracker empty. -/
lemma run_release (t : Tracker) (h : Heap) : (t.release.run h).1 = (t.onHeap, t.released) := by
  rw [release]
  split
  · rename_i idle
    obtain ⟨empty, small⟩ : t.buffers = [] ∧ t.capacity = 0 := by simpa using idle
    rw [released, ← empty, ← small]
    rfl
  · rfl

/-- After a release nothing is held for the tracker. -/
lemma ledger_release (t : Tracker) :
    Triple (Ledger base (t.buffers ++ held) o) t.release (fun r h =>
      Ledger base held o h ∧ r.2 = t.released) := by
  intro h ledger
  exact ⟨(givesUp_release t).triple h ledger, congrArg (·.2) (run_release t h)⟩

/-- A block that is tracked is listed, and it was in the hands of the program before. -/
lemma ledger_trackNow (t : Tracker) {b : Block} (hand : b.address ∈ o.blocks) :
    Triple (Ledger base (t.buffers ++ held) o) (t.trackNow b) (fun r h =>
      Ledger base (r.2.buffers ++ held) { o with blocks := o.blocks.erase b.address } h ∧
        r.2.setup = t.setup) := by
  intro h ledger
  rw [run_trackNow]
  refine ⟨(ledger.track hand t.manager).perm ?_, setup_push t _⟩
  rw [buffers_push, List.append_assoc]
  exact List.perm_middle.symm

/-- What was allocated is listed; what was refused or spoiled leaves the tracker as it was. -/
lemma ledger_allocateNow (t : Tracker) (size : Nat) (fill : Bytes → Bytes) :
    Triple (Ledger base (t.buffers ++ held) o) (t.allocateNow size fill) (fun r h =>
      Ledger base (r.2.buffers ++ held) o h ∧ r.2.setup = t.setup ∧ (r.1 = none → r.2 = t)) := by
  intro h ledger
  have cases := allocateNow_cases t size fill h
  generalize (t.allocateNow size fill).run h = r at cases ⊢
  cases cases with
  | refused step => exact ⟨ledger.quiet step, rfl, fun _ => rfl⟩
  | spoiled step service asked wrong address same length =>
    exact ⟨ledger.spoil step (asked ▸ wrong) address same length, rfl, fun _ => rfl⟩
  | tracked step service asked right address same =>
    refine ⟨?_, setup_push t _, fun none => nomatch none⟩
    refine (ledger.allot step service (asked ▸ right) address same).perm ?_
    rw [buffers_push, List.append_assoc]
    exact List.perm_middle.symm

/-- A deferred step keeps the books, and what is deferred. -/
lemma ledger_perform (t : Tracker) (s : SetupStep) :
    Triple (Ledger base (t.buffers ++ held) o) (t.perform s) (fun t' h =>
      Ledger base (t'.buffers ++ held) o h ∧ t'.setup = t.setup) := by
  cases s with
  | bind m => exact .pure fun h ledger => ⟨ledger, rfl⟩
  | mark onHeap => exact .pure fun h ledger => ⟨ledger, rfl⟩
  | allocate size =>
    exact .bind (ledger_allocateNow t size id) fun _ => .pure fun h after => ⟨after.1, after.2.1⟩
  | copy bytes =>
    exact .bind (ledger_allocateNow t _ _) fun _ => .pure fun h after => ⟨after.1, after.2.1⟩
  | track bytes =>
    intro h ledger
    -- the new block is in the hands of the program for as long as it takes to track it
    obtain ⟨address, minted⟩ := step_mint bytes h
    have mine := ledger.obtain minted (by simp) (fun _ => id) (.inr rfl)
    obtain ⟨after, setup⟩ := ledger_trackNow t (b := ((mint bytes).run h).1)
      (address ▸ List.mem_cons_self ..) _ mine
    rw [address, List.erase_cons_head] at after
    exact ⟨after, setup⟩
  | release =>
    refine .bind (ledger_release t) fun r => .pure fun h after => ?_
    rw [after.2]
    exact ⟨after.1, rfl⟩

/-- A setup that was put off keeps the books, and is then no longer pending. -/
lemma ledger_ensureSetup (t : Tracker) :
    Triple (Ledger base (t.buffers ++ held) o) t.ensureSetup (fun t' h =>
      Ledger base (t'.buffers ++ held) o h ∧ t'.setup = none) := by
  have performAll : ∀ (steps : List SetupStep) (t : Tracker),
      Triple (Ledger base (t.buffers ++ held) o) (t.performAll steps) fun t' h =>
        Ledger base (t'.buffers ++ held) o h ∧ t'.setup = t.setup := by
    intro steps
    induction steps with
    | nil => exact fun t => .pure fun h ledger => ⟨ledger, rfl⟩
    | cons s steps ih =>
      intro t
      refine .bind (ledger_perform t s) fun t' => .of_imp (fun h after => after.2) fun setup => ?_
      exact (setup ▸ ih t').strengthen fun h after => after.1
  rw [ensureSetup]
  split
  · rename_i none
    exact .pure fun h ledger => ⟨ledger, none⟩
  · rename_i s _
    refine .bind (Q := fun _ => Ledger base (t.buffers ++ held) o) ?_ fun _ => ?_
    · exact fun h ledger => ledger.quiet (step_emit (.setup s) h)
    · exact performAll s.steps { t with setup := none }

/-- Taking memory keeps the books, and leaves nothing deferred. -/
lemma ledger_allocateWith (t : Tracker) (size : Nat) (fill : Bytes → Bytes) :
    Triple (Ledger base (t.buffers ++ held) o) (t.allocateWith size fill) (fun r h =>
      Ledger base (r.2.buffers ++ held) o h ∧ r.2.setup = none) := by
  refine .bind (ledger_ensureSetup t) fun t' => .of_imp (fun h after => after.2) fun setup => ?_
  intro h before
  obtain ⟨after, kept, _⟩ := ledger_allocateNow t' size fill h before.1
  exact ⟨after, kept.trans setup⟩

/-- What an allocation adds to the list comes last. -/
lemma buffers_allocateNow (t : Tracker) (size : Nat) (fill : Bytes → Bytes) (h : Heap) :
    ((t.allocateNow size fill).run h).1.2.buffers = t.buffers ∨
      ((t.allocateNow size fill).run h).1.2.buffers = t.buffers ++ [h.cells.size] := by
  have cases := allocateNow_cases t size fill h
  generalize (t.allocateNow size fill).run h = r at cases ⊢
  cases cases with
  | refused => exact .inl rfl
  | spoiled => exact .inl rfl
  | tracked step =>
    rw [buffers_push, step.cells]
    exact .inr rfl

/-- Memory that is taken is due to the manager of the tracker. -/
lemma grown_allocateNow (t : Tracker) (size : Nat) (fill : Bytes → Bytes) (h : Heap) :
    Heap.Grown (.of t.manager) h ((t.allocateNow size fill).run h).2 := by
  have cases := allocateNow_cases t size fill h
  generalize (t.allocateNow size fill).run h = r at cases ⊢
  cases cases with
  | refused step => exact .of_due? step.due?
  | spoiled step => exact .of_due? step.due?
  | tracked step => exact (Heap.Grown.of_due? step.due?).trans (.withNewCell rfl)

/-- So is a block that is tracked. -/
lemma grown_trackNow (t : Tracker) (b : Block) (h : Heap) :
    Heap.Grown (.of t.manager) h ((t.trackNow b).run h).2 := by
  rw [run_trackNow]
  exact .withNewCell rfl

/-- What the operations of a tracker keep up, since the heap was `h₀`: the ledger, the order of the
list, and what was due before. -/
structure Upheld (base : Heap) (held : List BufferId) (o : Outside) (h₀ : Heap) (t : Tracker)
    (h : Heap) : Prop where
  ledger : Ledger base (t.buffers ++ held) o h
  ordered : t.buffers.Pairwise (· < ·)
  later : Heap.Later h₀ h

namespace Upheld

variable {h₀ h h' : Heap} {t t' : Tracker}

/-- The next buffer comes after those that the tracker lists. -/
lemma ordered_push (upheld : Upheld base held o h₀ t h) :
    (t.buffers ++ [h.cells.size]).Pairwise (· < ·) := by
  refine List.pairwise_append.2 ⟨upheld.ordered, List.pairwise_singleton .., ?_⟩
  intro b hb b' hb'
  rw [List.mem_singleton.1 hb']
  obtain ⟨c, _, live, _⟩ := upheld.ledger.cell_of_mem (List.mem_append_left _ hb)
  exact h.lt_size_of_cell? live

/-- A tracker may be bound to another manager. -/
lemma rebound (upheld : Upheld base held o h₀ t h) (m : Option Manager) :
    Upheld base held o h₀ { t with manager := m } h :=
  ⟨upheld.ledger, upheld.ordered, upheld.later⟩

/-- A tracker may be marked. -/
lemma marked (upheld : Upheld base held o h₀ t h) (onHeap : Bool) :
    Upheld base held o h₀ { t with onHeap } h :=
  ⟨upheld.ledger, upheld.ordered, upheld.later⟩

end Upheld

variable {h₀ : Heap}

/-- Memory that is taken at once is listed last. -/
lemma upheld_allocateNow (t : Tracker) (size : Nat) (fill : Bytes → Bytes) :
    Triple (Upheld base held o h₀ t) (t.allocateNow size fill) (fun r h =>
      Upheld base held o h₀ r.2 h ∧ r.2.setup = t.setup) := by
  intro h upheld
  obtain ⟨ledger, setup, _⟩ := ledger_allocateNow t size fill h upheld.ledger
  refine ⟨⟨ledger, ?_, upheld.later.trans (grown_allocateNow t size fill h).toLater⟩, setup⟩
  obtain same | more := buffers_allocateNow t size fill h
  · exact same ▸ upheld.ordered
  · exact more ▸ upheld.ordered_push

/-- A block that is tracked leaves the hands of the program and is listed last. -/
lemma upheld_trackNow (t : Tracker) {b : Block} (hand : b.address ∈ o.blocks) :
    Triple (Upheld base held o h₀ t) (t.trackNow b) (fun r h =>
      Upheld base held { o with blocks := o.blocks.erase b.address } h₀ r.2 h ∧
        r.2.setup = t.setup) := by
  intro h upheld
  obtain ⟨ledger, setup⟩ := ledger_trackNow t hand h upheld.ledger
  refine ⟨⟨ledger, ?_, upheld.later.trans (grown_trackNow t b h).toLater⟩, setup⟩
  rw [run_trackNow]
  exact (buffers_push t _).symm ▸ upheld.ordered_push

/-- A release keeps up everything, as its list is empty. -/
lemma upheld_release (t : Tracker) :
    Triple (Upheld base held o h₀ t) t.release (fun r h =>
      Upheld base held o h₀ r.2 h ∧ r.2.setup = t.setup) := by
  intro h upheld
  obtain ⟨ledger, _, due⟩ := givesUp_release t base held o h upheld.ledger
  rw [run_release]
  exact ⟨⟨ledger, .nil, upheld.later.trans (.of_due? due)⟩, rfl⟩

/-- A deferred step keeps up everything, and what is deferred. -/
lemma upheld_perform (t : Tracker) (s : SetupStep) :
    Triple (Upheld base held o h₀ t) (t.perform s) (fun t' h =>
      Upheld base held o h₀ t' h ∧ t'.setup = t.setup) := by
  cases s with
  | bind m => exact .pure fun h upheld => ⟨upheld.rebound m, rfl⟩
  | mark onHeap => exact .pure fun h upheld => ⟨upheld.marked onHeap, rfl⟩
  | allocate size => exact .bind (upheld_allocateNow t size id) fun _ => .pure fun _ => id
  | copy bytes => exact .bind (upheld_allocateNow t _ _) fun _ => .pure fun _ => id
  | track bytes =>
    intro h upheld
    -- the new block is in the hands of the program for as long as it takes to track it
    obtain ⟨address, minted⟩ := step_mint bytes h
    have mine := upheld.ledger.obtain minted (by simp) (fun _ => id) (.inr rfl)
    obtain ⟨after, setup⟩ := upheld_trackNow t (b := ((mint bytes).run h).1)
      (address ▸ List.mem_cons_self ..) _
      ⟨mine, upheld.ordered, upheld.later.trans (.of_due? minted.due?)⟩
    rw [address, List.erase_cons_head] at after
    exact ⟨after, setup⟩
  | release => exact .bind (upheld_release t) fun _ => .pure fun _ => id

/-- So do all of them. -/
lemma upheld_performAll (t : Tracker) (steps : List SetupStep) :
    Triple (Upheld base held o h₀ t) (t.performAll steps) (fun t' h =>
      Upheld base held o h₀ t' h ∧ t'.setup = t.setup) := by
  induction steps generalizing t with
  | nil => exact .pure fun h upheld => ⟨upheld, rfl⟩
  | cons s steps ih =>
    refine .bind (upheld_perform t s) fun t' => .of_imp (fun h after => after.2) fun setup => ?_
    exact (setup ▸ ih t').strengthen fun h after => after.1

/-- Running what is deferred keeps up everything, and leaves nothing deferred. -/
lemma upheld_ensureSetup (t : Tracker) :
    Triple (Upheld base held o h₀ t) t.ensureSetup (fun t' h =>
      Upheld base held o h₀ t' h ∧ t'.setup = none) := by
  rw [ensureSetup]
  split
  · rename_i none
    exact .pure fun h upheld => ⟨upheld, none⟩
  · rename_i s _
    refine .bind (Q := fun _ => Upheld base held o h₀ { t with setup := none }) ?_ fun _ => ?_
    · intro h upheld
      have step := step_emit (.setup s) h
      exact ⟨upheld.ledger.quiet step, upheld.ordered, upheld.later.trans (.of_due? step.due?)⟩
    · exact upheld_performAll { t with setup := none } s.steps

/-- Tracking keeps up everything, deferred steps and all. -/
lemma upheld_track (t : Tracker) {b : Block} (hand : b.address ∈ o.blocks) :
    Triple (Upheld base held o h₀ t) (t.track b) (fun r =>
      Upheld base held { o with blocks := o.blocks.erase b.address } h₀ r.2) := by
  refine .bind (upheld_ensureSetup t) fun t' => ?_
  exact ((upheld_trackNow t' hand).strengthen fun h after => after.1).weaken fun r h after =>
    after.1

/-- And so does taking memory. -/
lemma upheld_allocateWith (t : Tracker) (size : Nat) (fill : Bytes → Bytes) :
    Triple (Upheld base held o h₀ t) (t.allocateWith size fill) (fun r =>
      Upheld base held o h₀ r.2) := by
  refine .bind (upheld_ensureSetup t) fun t' => ?_
  exact ((upheld_allocateNow t' size fill).strengthen fun h after => after.1).weaken
    fun r h after => after.1

end Tracker

namespace Value

mutual

/-- With a value the buffers go that its trackers own. -/
lemma givesUp_drop : (v : Value) → GivesUp v.owned v.drop
  | .object _ fields none => .bind (givesUp_dropAll fields) .nothing
  | .object _ fields (some t) => .bind (givesUp_dropAll fields) t.givesUp_drop
  | .null | .scalar _ | .buffer _ | .reference _ _ | .descriptor _ => .nothing

/-- Dropping values gives up what they own, one after the other. -/
lemma givesUp_dropAll : (vs : List Value) → GivesUp (ownedByAll vs) (dropAll vs)
  | [] => .nothing
  | v :: vs => .bind (givesUp_drop v) (givesUp_dropAll vs)

end

end Value

end Metaobject
