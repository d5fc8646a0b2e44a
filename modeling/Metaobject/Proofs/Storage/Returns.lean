import Metaobject.Proofs.Storage.World

/-!
# What goes back, when, and to whom

The books of a world say of every block what became of it. `World.Settled` reads that off for the
blocks that were tracked and for those of the wrong length, and `World.Orderly` says of every step
that may come next whom a new buffer is due to and what goes back in which order. A setup that was
put off is nothing but some of the other steps, done before the first use.
`World.run_settled` is that all of this holds after every run.
-/

namespace Metaobject

namespace World

variable {arenas : Array Arena} {w : World}

/-- What has become of the blocks. -/
structure Settled (w : World) : Prop where
  /-- No buffer is listed twice. -/
  once : w.listed.Nodup
  /-- A buffer that is listed or read is in a cell. -/
  present : ∀ b, b ∈ w.listed ∨ b ∈ w.readings → b < w.heap.cells.size
  /-- No block is in two cells. -/
  apart : ∀ (b b' : BufferId) (c c' : Cell), w.heap.cells[b]? = some c →
    w.heap.cells[b']? = some c' → c.block.address = c'.block.address → b = b'
  /-- A block that was tracked goes back once, when no tracker lists it and nobody reads it. -/
  returned : ∀ (b : BufferId) (c : Cell), w.heap.cells[b]? = some c →
    returnsAt w.heap.returned c.block.address =
      if b ∈ w.listed ∨ b ∈ w.readings then [] else [c.due]
  /-- A block of the right length that was handed out for a tracker is tracked. -/
  accepted : ∀ x ∈ w.heap.answers, x.block.address ∉ w.direct →
    x.block.bytes.length = x.asked →
    ∃ (b : BufferId) (c : Cell), w.heap.cells[b]? = some c ∧
      c.block.address = x.block.address ∧ c.due.1 = x.service
  /-- Any other block that was handed out for a tracker is never tracked and went back once, to whom
  it came from. -/
  spoiled : ∀ x ∈ w.heap.answers, x.block.address ∉ w.direct →
    x.block.bytes.length ≠ x.asked →
    (∀ (b : BufferId) (c : Cell), w.heap.cells[b]? = some c → c.block.address ≠ x.block.address) ∧
      ∃ b, b.bytes.length = x.block.bytes.length ∧
        returnsAt w.heap.returned x.block.address = [(x.service, b)]

/-- A buffer is held if it is listed or being read. -/
lemma isHeld_iff {place : Nat → Place} {new : List Answer} {back : List (Service × Block)}
    (books : Books (start arenas).heap w.listed w.outside place new back w.heap) {b : BufferId}
    {c : Cell} (hc : w.heap.cells[b]? = some c) :
    c.isHeld = true ↔ b ∈ w.listed ∨ b ∈ w.readings := by
  have owned := books.owned b
  have read := books.read b
  rw [cellSince_start, hc, Option.elim_some] at owned read
  rw [← List.count_pos_iff, ← List.count_pos_iff, owned, show w.readings.count b = _ from read]
  cases ho : c.owned <;> simp [Cell.isHeld, ho]

/-- The books say what has become of the blocks. -/
lemma Sound.settled (sound : Sound arenas w) : w.Settled := by
  obtain ⟨place, new, back, books⟩ := sound.ledger
  have answers : w.heap.answers = new := books.answers
  have returned : w.heap.returned = back := books.returned
  have holds : ∀ {b : BufferId} {c : Cell}, w.heap.cells[b]? = some c →
      Heap.cellSince (start arenas).heap w.heap b = some c := by
    intro b c hc
    rw [cellSince_start, hc]
  constructor
  case once =>
    refine List.nodup_iff_count.2 fun b => ?_
    rw [books.owned b]
    cases Heap.cellSince (start arenas).heap w.heap b with
    | none => exact Nat.zero_le 1
    | some c => exact Bool.toNat_le c.owned
  case present =>
    intro b hb
    obtain hb | hb := hb
    · obtain ⟨c, _, live, _⟩ := sound.ledger.cell_of_mem hb
      exact Heap.lt_size_of_cell? live
    · obtain ⟨c, _, live, _⟩ := sound.ledger.cell_of_reading hb
      exact Heap.lt_size_of_cell? live
  case apart =>
    intro b b' c c' hc hc' same
    have here := books.placed b c (holds hc)
    have there := books.placed b' c' (holds hc')
    rw [same, there] at here
    cases here
    rfl
  case returned =>
    intro b c hc
    have account := books.account c.block.address
    rw [books.placed b c (holds hc)] at account
    obtain ⟨⟩ | ⟨⟩ | ⟨_, _, _, holds', _, _, went⟩ := account
    rw [holds hc] at holds'
    cases holds'
    rw [returned, went]
    exact if_congr (isHeld_iff books hc) rfl rfl
  case accepted =>
    intro x hx direct right
    rw [answers] at hx
    obtain ⟨_, ⟨b, c, _, hc, address, service, _⟩ | ⟨_, wrong, _⟩⟩ := books.answered hx direct
    · rw [cellSince_start] at hc
      exact ⟨b, c, hc, address, service.symm⟩
    · exact absurd right wrong
  case spoiled =>
    intro x hx direct wrong
    rw [answers] at hx
    obtain ⟨_, ⟨_, _, _, _, _, _, right⟩ | ⟨gone, _, b, length, went⟩⟩ := books.answered hx direct
    · exact absurd right wrong
    · refine ⟨?_, b, length, returned ▸ went⟩
      intro b c hc same
      have placed := books.placed b c (holds hc)
      rw [same, gone] at placed
      cases placed

/-! ### Setups -/

/-- A step of a setup is done by steps that a program could take itself. -/
def opsOf (path : List Nat) : SetupStep → List Op
  | .bind m => [.bind path m]
  | .mark onHeap => [.mark path onHeap]
  | .allocate size => [.allocate path size id]
  | .copy bytes => [.allocate path bytes.length fun _ => bytes]
  | .track bytes => [.make bytes, .track path 0]
  | .release => [.release path]

/-- The setup of a tracker is pending no longer, and nothing of it is done. -/
def begin (w : World) (path : List Nat) : World :=
  w.onTracker path fun t => do
    if let some s := t.setup then Action.emit (.setup s)
    return { t with setup := none }

variable {path : List Nat} {t : Tracker} {a a' : Tracker → Action Tracker}

/-- What the tracker there does is all that counts. -/
lemma onTracker_congr (ht : w.tracker? path = some t) (same : a t = a' t) :
    w.onTracker path a = w.onTracker path a' := by
  rw [onTracker_some ht, onTracker_some ht, same]

/-- After a tracker did something it is still there. -/
lemma tracker?_onTracker (ht : w.tracker? path = some t) :
    (w.onTracker path a).tracker? path = some ((a t).run w.heap).1 := by
  rw [onTracker_some ht, tracker?, Value.trackerIn?_withTrackerIn ht, if_pos rfl]

/-- A tracker may do one thing after another in one step or in two. -/
lemma onTracker_bind (ht : w.tracker? path = some t) (f : Tracker → Action Tracker) :
    w.onTracker path (fun t => a t >>= f) = (w.onTracker path a).onTracker path f := by
  rw [onTracker_some (tracker?_onTracker ht), onTracker_some ht, onTracker_some ht,
    Value.withTrackerIn_withTrackerIn]
  rfl

/-- Tracking is something that the tracker does, and the block leaves the hands of the program. -/
lemma step_track (ht : w.tracker? path = some t) {i : Nat} {b : Block}
    (hb : w.blocks[i]? = some b) :
    w.step (.track path i) =
      { w.onTracker path fun t => return (← t.track b).2 with blocks := w.blocks.eraseIdx i } := by
  rw [step, hb]
  dsimp only
  rw [ht, Option.isSome_some, if_pos rfl]

/-- A step of a setup does what some steps of the program do. -/
lemma run_opsOf (ht : w.tracker? path = some t) (setup : t.setup = none) (s : SetupStep) :
    w.onTracker path (·.perform s) = w.run (opsOf path s) := by
  cases s with
  | bind m => rfl
  | mark onHeap => rfl
  | release => rfl
  | allocate size =>
    apply onTracker_congr ht
    rw [Tracker.allocateWith, Tracker.ensureSetup_of_none setup]
    rfl
  | copy bytes =>
    apply onTracker_congr ht
    rw [Tracker.allocateWith, Tracker.ensureSetup_of_none setup]
    rfl
  | track bytes =>
    -- the program makes the block first, and then it has that block tracked
    have ht' : (w.step (.make bytes)).tracker? path = some t := ht
    have run : w.run (opsOf path (.track bytes)) =
        (w.step (.make bytes)).step (.track path 0) := rfl
    have hb : (w.step (.make bytes)).blocks[0]? = some ((Action.mint bytes).run w.heap).1 := rfl
    rw [run, step_track ht' hb, onTracker_some ht', onTracker_some ht, Tracker.track,
      Tracker.ensureSetup_of_none setup]
    rfl

/-- A deferred step defers nothing else. -/
lemma setup_perform (t : Tracker) (s : SetupStep) (h : Heap) :
    ((t.perform s).run h).1.setup = t.setup := by
  have allocated : ∀ size fill, ((t.allocateNow size fill).run h).1.2.setup = t.setup := by
    intro size fill
    have cases := t.allocateNow_cases size fill h
    generalize (t.allocateNow size fill).run h = r at cases ⊢
    cases cases with
    | refused => rfl
    | spoiled => rfl
    | tracked => exact Tracker.setup_push t _
  cases s with
  | bind m => rfl
  | mark onHeap => rfl
  | allocate size => exact allocated size id
  | copy bytes => exact allocated bytes.length fun _ => bytes
  | track bytes =>
    have ran := t.run_trackNow ((Action.mint bytes).run h).1 ((Action.mint bytes).run h).2
    show (((t.trackNow ((Action.mint bytes).run h).1).run ((Action.mint bytes).run h).2).1.2).setup
      = t.setup
    rw [ran]
    exact Tracker.setup_push t _
  | release =>
    show (t.release.run h).1.2.setup = t.setup
    rw [t.run_release]
    rfl

/-- Some operations after others are one list of them. -/
lemma run_append (w : World) (ops ops' : List Op) :
    w.run (ops ++ ops') = (w.run ops).run ops' := by
  induction ops generalizing w with
  | nil => rfl
  | cons op ops ih => exact ih (w.step op)

/-- The steps of a setup do what the program could do. -/
lemma run_flatMap_opsOf (ht : w.tracker? path = some t) (setup : t.setup = none)
    (steps : List SetupStep) :
    w.onTracker path (·.performAll steps) = w.run (steps.flatMap (opsOf path)) := by
  induction steps generalizing w t with
  | nil =>
    rw [onTracker_some ht]
    show { w with store := Value.withTrackerIn t path w.store } = w
    rw [Value.withTrackerIn_self ht]
  | cons s steps ih =>
    have first := run_opsOf ht setup s
    have ht' := tracker?_onTracker (a := (·.perform s)) ht
    rw [List.flatMap_cons, run_append, ← first, ← ih ht' ((setup_perform t s w.heap).trans setup)]
    exact onTracker_bind ht fun t => t.performAll steps

/-- A setup that was put off is done, at the first use, as if the program had done it then. -/
lemma step_ensure (ht : w.tracker? path = some t) {s : Setup} (setup : t.setup = some s) :
    w.step (.ensure path) = (w.begin path).run (s.steps.flatMap (opsOf path)) := by
  have begun := tracker?_onTracker (a := fun t => do
    if let some s := t.setup then Action.emit (.setup s)
    return { t with setup := none }) ht
  rw [begin, ← run_flatMap_opsOf begun, ← onTracker_bind ht]
  · apply onTracker_congr ht
    rw [Tracker.ensureSetup, setup]
    rfl
  · rw [setup]
    rfl

/-- Once it has run nothing is deferred. -/
lemma setup_ensureSetup (t : Tracker) (h : Heap) : (t.ensureSetup.run h).1.setup = none := by
  have all : ∀ (steps : List SetupStep) (t : Tracker) (h : Heap),
      ((t.performAll steps).run h).1.setup = t.setup := by
    intro steps
    induction steps with
    | nil => exact fun t h => rfl
    | cons s steps ih => exact fun t h => (ih _ _).trans (setup_perform t s h)
  rw [Tracker.ensureSetup]
  cases hs : t.setup with
  | none => exact hs
  | some s => exact all s.steps { t with setup := none } _

/-- What begins with the setup may as well be preceded by it. -/
lemma onTracker_ensure (ht : w.tracker? path = some t) (now : Tracker → Action Tracker) :
    w.onTracker path (fun t => t.ensureSetup >>= now) =
      (w.step (.ensure path)).onTracker path (fun t => t.ensureSetup >>= now) := by
  have after := tracker?_onTracker (a := (·.ensureSetup)) ht
  rw [onTracker_bind ht now]
  -- the setup that comes second has nothing left to do
  apply onTracker_congr after
  rw [Tracker.ensureSetup_of_none (setup_ensureSetup t w.heap), pure_bind]

/-- Tracking runs what is deferred first. -/
lemma step_track_ensure (ht : w.tracker? path = some t) {i : Nat} {b : Block}
    (hb : w.blocks[i]? = some b) :
    w.step (.track path i) = (w.step (.ensure path)).step (.track path i) := by
  have ensured : w.step (.ensure path) = _ := onTracker_some ht
  have after : (w.step (.ensure path)).tracker? path = _ := tracker?_onTracker ht
  have same : (w.step (.ensure path)).blocks = w.blocks := by rw [ensured]
  rw [step_track ht hb, step_track after (same.symm ▸ hb), same]
  exact congrArg (fun w' : World => { w' with blocks := w.blocks.eraseIdx i })
    (onTracker_ensure ht fun t => return (← t.trackNow b).2)

/-- So does taking memory. -/
lemma step_allocate_ensure (ht : w.tracker? path = some t) (size : Nat) (fill : Bytes → Bytes) :
    w.step (.allocate path size fill) =
      (w.step (.ensure path)).step (.allocate path size fill) :=
  onTracker_ensure ht fun t => return (← t.allocateNow size fill).2

/-! ### The next step -/

/-- The step may bring a new buffer. -/
def Op.brings : Op → Bool
  | .ensure _ | .track .. | .allocate .. => true
  | _ => false

/-- What the next step does, whichever it is. -/
structure Orderly (w : World) : Prop where
  /-- To whom a buffer is due never changes, whatever is bound. -/
  kept : ∀ op b, b < w.heap.cells.size → (w.step op).heap.due? b = w.heap.due? b
  /-- Only three kinds of steps bring new buffers. -/
  closed : ∀ op, op.brings = false → (w.step op).heap.due? = w.heap.due?
  /-- A block is tracked for the manager that the tracker is bound to. -/
  tracks : ∀ path t i b, w.tracker? path = some t → t.setup = none → w.blocks[i]? = some b →
    (w.step (.track path i)).heap.due? w.heap.cells.size = some (.of t.manager, b) ∧
      ((w.step (.track path i)).tracker? path).map (·.buffers) =
        some (t.buffers ++ [w.heap.cells.size])
  /-- So is one that is handed out. -/
  allocates : ∀ path t size fill, w.tracker? path = some t → t.setup = none →
    Heap.Grown (.of t.manager) w.heap (w.step (.allocate path size fill)).heap ∧
      ∃ t', (w.step (.allocate path size fill)).tracker? path = some t' ∧
        (t'.buffers = t.buffers ∨ t'.buffers = t.buffers ++ [w.heap.cells.size])
  /-- A setup that was put off is done as if the program had done it at the first use. -/
  ensures : ∀ path t s, w.tracker? path = some t → t.setup = some s →
    w.step (.ensure path) = (w.begin path).run (s.steps.flatMap (opsOf path)) ∧
    (∀ i, i < w.blocks.length →
      w.step (.track path i) = (w.step (.ensure path)).step (.track path i)) ∧
    ∀ size fill, w.step (.allocate path size fill) =
      (w.step (.ensure path)).step (.allocate path size fill)
  /-- A release gives the blocks back in the order in which they were tracked, but for those that
  are being read, and it leaves nothing. -/
  releases : ∀ path t, w.tracker? path = some t →
    t.buffers.Pairwise (· < ·) ∧
    (w.step (.release path)).heap.returned = w.heap.returned ++
      (t.buffers.filter (· ∉ w.readings)).filterMap w.heap.due? ∧
    (w.step (.release path)).tracker? path = some t.released
  /-- With an object all goes that its trackers list, in the order of the fields. -/
  drops : ∀ i v, w.store[i]? = some v →
    (w.step (.drop i)).heap.returned = w.heap.returned ++
      (v.owned.filter (· ∉ w.readings)).filterMap w.heap.due? ∧
    (w.step (.drop i)).store = w.store.eraseIdx i
  /-- A block that nobody lists any more goes back when the last reading ends. -/
  ends : ∀ b ∈ w.readings,
    (w.step (.endReading b)).heap.returned = w.heap.returned ++
      if b ∈ w.listed ∨ b ∈ w.readings.erase b then [] else (w.heap.due? b).toList

/-- What a release gives up. -/
lemma Sound.release (sound : Sound arenas w) (ht : w.tracker? path = some t) :
    (w.step (.release path)).heap.returned = w.heap.returned ++
      (t.buffers.filter (· ∉ w.readings)).filterMap w.heap.due? ∧
    (w.step (.release path)).heap.due? = w.heap.due? := by
  obtain ⟨rest, before, _⟩ := Value.ownedByAll_perm_withTrackerIn ht
  have ledger := sound.ledger.perm before
  obtain ⟨_, returned, due⟩ := t.givesUp_release _ _ _ w.heap ledger
  rw [step, onTracker_some ht]
  exact ⟨returned, due⟩

/-- What a drop gives up. -/
lemma Sound.drop (sound : Sound arenas w) {i : Nat} {v : Value} (hv : w.store[i]? = some v) :
    (w.step (.drop i)).heap.returned = w.heap.returned ++
      (v.owned.filter (· ∉ w.readings)).filterMap w.heap.due? := by
  have ledger := sound.ledger.perm (listed_perm hv)
  obtain ⟨_, returned, _⟩ := v.givesUp_drop _ _ _ w.heap ledger
  rw [step, hv]
  exact returned

/-- Every other step leaves it alone what is due. -/
lemma Sound.closed (sound : Sound arenas w) {op : Op} (brings : op.brings = false) :
    (w.step op).heap.due? = w.heap.due? := by
  cases op with
  | ensure path => cases brings
  | track path i => cases brings
  | allocate path size fill => cases brings
  | place v => exact (sound_place sound v).2
  | make bytes => exact (sound_make sound bytes).2
  | ask m size => exact (sound_ask sound m size).2
  | give m i => exact (sound_give sound m i).2
  | bind path m =>
    cases ht : w.tracker? path with
    | none => rw [step, onTracker_none ht]
    | some t => rw [step, onTracker_some ht]; rfl
  | mark path onHeap =>
    cases ht : w.tracker? path with
    | none => rw [step, onTracker_none ht]
    | some t => rw [step, onTracker_some ht]; rfl
  | release path =>
    cases ht : w.tracker? path with
    | none => rw [step, onTracker_none ht]
    | some t => exact (sound.release ht).2
  | drop i => exact (sound_drop sound i).2
  | read b => exact (sound_read sound b).2
  | endReading b => exact (sound_endReading sound b).2

/-- Where the books are right the next step is as it should be. -/
lemma Sound.orderly (sound : Sound arenas w) : w.Orderly := by
  constructor
  case kept =>
    intro op b hb
    exact (sound_step sound op).2.kept b hb
  case closed =>
    intro op brings
    exact sound.closed brings
  case tracks =>
    intro path t i b ht setup hb
    have now : t.track b = t.trackNow b := by
      rw [Tracker.track, Tracker.ensureSetup_of_none setup, pure_bind]
    have ran : (do return (← t.track b).2 : Action Tracker).run w.heap =
        (t.push w.heap.cells.size, w.heap.withNewCell { block := b, manager := t.manager }) := by
      rw [now, StateT.run_bind, t.run_trackNow]
      rfl
    rw [step_track ht hb, onTracker_some ht, ran]
    constructor
    · show ((w.heap.cells.push _)[w.heap.cells.size]?).map _ = _
      rw [Array.getElem?_push_size]
      rfl
    · show (Value.trackerIn? path (Value.withTrackerIn _ path w.store)).map _ = _
      rw [Value.trackerIn?_withTrackerIn ht, if_pos rfl, Option.map_some, Tracker.buffers_push]
  case allocates =>
    intro path t size fill ht setup
    have now : t.allocateWith size fill = t.allocateNow size fill := by
      rw [Tracker.allocateWith, Tracker.ensureSetup_of_none setup, pure_bind]
    have after : (w.step (.allocate path size fill)).tracker? path = _ := tracker?_onTracker ht
    rw [step, onTracker_some ht, now] at after ⊢
    exact ⟨t.grown_allocateNow size fill w.heap, _, after, t.buffers_allocateNow size fill w.heap⟩
  case ensures =>
    intro path t s ht setup
    refine ⟨step_ensure ht setup, fun i hi => ?_, step_allocate_ensure ht⟩
    exact step_track_ensure ht (List.getElem?_eq_getElem hi)
  case releases =>
    intro path t ht
    refine ⟨sound.ordered path t ht, (sound.release ht).1, ?_⟩
    refine (tracker?_onTracker ht).trans (congrArg some ?_)
    show (t.release.run w.heap).1.2 = _
    rw [t.run_release]
  case drops =>
    intro i v hv
    refine ⟨sound.drop hv, ?_⟩
    rw [step, hv]
  case ends =>
    intro b hb
    rw [step, if_pos hb]
    exact (sound.ledger.endBorrow hb).2.2

/-- Whatever a program has done with its trackers, every block that was tracked went back once or is
still needed, every block of the wrong length went back at once, and the next step is as it should
be. -/
theorem run_settled (arenas : Array Arena) (ops : List Op) :
    ((start arenas).run ops).Settled ∧ ((start arenas).run ops).Orderly := by
  have sound := sound_run arenas ops
  exact ⟨sound.settled, sound.orderly⟩

end World

end Metaobject
