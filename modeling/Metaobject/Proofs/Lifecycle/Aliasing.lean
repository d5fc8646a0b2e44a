import Metaobject.Proofs.Lifecycle.Accounting

/-!
# What a duplicate shares with its source

A duplicate refers to new buffers in some places and to those of its source in the others, and its
trackers list exactly the new ones. So the two can be given up in any order: neither of them takes a
buffer of the other one with it. `Universe.duplicate_aliases` says so for values without hooks.
-/

namespace Metaobject

open Attempt

variable {base h h' : Heap} {held : List BufferId} {o : Outside}

/-- The buffers that the value refers to were tracked before. -/
def Value.Known (h : Heap) (v : Value) : Prop :=
  ∀ path b, v.at? path = some (.buffer (.to b)) → b < h.cells.size

/-- What happens to `v` is of no concern to `w`: the buffers of `w` read as before, and every block
that went back is that of a buffer of `v`. -/
structure Heap.Apart (h h' : Heap) (v w : Value) : Prop where
  read : ∀ b ∈ w.owned, h'.read (.to b) = h.read (.to b)
  returned : ∃ back, h'.returned = h.returned ++ back ∧
    ∀ r ∈ back, ∃ b ∈ v.owned, h.due? b = some r

lemma Heap.Apart.refl (h : Heap) (v w : Value) : h.Apart h v w :=
  ⟨fun _ _ => rfl, [], (List.append_nil _).symm, nofun⟩

/-- Where two values are held, the one that is given up leaves the other one alone. -/
lemma GivesUp.apart {v w : Value} {a : Action Unit} (gives : GivesUp v.owned a)
    (ledger : Ledger base (v.owned ++ (w.owned ++ held)) o h) : h.Apart (a.run h).2 v w := by
  obtain ⟨after, returned, due⟩ := gives base _ o h ledger
  constructor
  case read =>
    intro b hb
    refine ledger.read_eq after due fun b' hb' same => ?_
    cases same
    exact (List.nodup_append.1 ledger.nodup).2.2 b hb' b (List.mem_append_left _ hb) rfl
  case returned =>
    refine ⟨_, returned, fun r hr => ?_⟩
    obtain ⟨b, hb, due⟩ := List.mem_filterMap.1 hr
    exact ⟨b, List.mem_of_mem_filter hb, due⟩

namespace Universe

variable {u : Universe}

/-- Nothing happens to a value that is freed through a type that does not accept it. -/
lemma run_free_refused {t : TypeId} {v : Value} (refused : u.accepts t v = false) (h : Heap) :
    ((u.free t v).run h).2 = h := by
  cases v with
  | null =>
    rw [free]
    rfl
  | object =>
    rw [free, if_neg (Bool.eq_false_iff.1 refused)]
    rfl
  | _ =>
    simp only [free]
    rw [freePlain, if_neg (Bool.eq_false_iff.1 refused)]
    rfl

/-- A value that may be freed leaves others alone, whatever type it is freed through. -/
lemma apart_free {v w : Value} (able : u.isFreeable v = true)
    (ledger : Ledger base (v.owned ++ (w.owned ++ held)) o h) (t : TypeId) :
    h.Apart ((u.free t v).run h).2 v w := by
  cases accepted : u.accepts t v with
  | false =>
    rw [run_free_refused accepted]
    exact .refl h v w
  | true => exact (disposes_free v able t accepted).givesUp.apart ledger

/-- What is at a path in a duplicate, which buffers its trackers list, and what becomes of the one
value when the other one is given up. -/
structure Aliased (u : Universe) (recursive : Bool) (h : Heap) (v w : Value) (h' : Heap) : Prop where
  /-- A duplicate refers to buffers in the places where its source does. -/
  places : ∀ path, (∃ ref, w.at? path = some (.buffer ref)) ↔ ∃ ref, v.at? path = some (.buffer ref)
  /-- A buffer is a new one that the tracker of the object around it lists if the duplication is
  recursive, all fields on the way to it are marked, and that object has a tracker. -/
  fresh : ∀ path ref, w.at? path = some (.buffer ref) →
    ((∃ b tr, ref = .to b ∧ h.cells.size ≤ b ∧ w.trackerAt? path.dropLast = some tr ∧
      b ∈ tr.buffers) ↔ u.isCopiedAt recursive path v = true)
  /-- Such a buffer has the bytes of that of the source. -/
  bytes : ∀ path ref ref', u.isCopiedAt recursive path v = true → v.at? path = some (.buffer ref) →
    w.at? path = some (.buffer ref') → ∃ bytes, h.read ref = some bytes ∧ h'.read ref' = some bytes
  /-- Any other buffer is that of the source. -/
  shared : ∀ path ref, u.isCopiedAt recursive path v = false →
    (w.at? path = some (.buffer ref) ↔ v.at? path = some (.buffer ref))
  /-- The trackers list no other buffers, and none of them twice. -/
  listed : ∀ parent tr b, w.trackerAt? parent = some tr → b ∈ tr.buffers →
    ∃ i, u.isCopiedAt recursive (parent ++ [i]) v = true ∧
      w.at? (parent ++ [i]) = some (.buffer (.to b))
  once : w.owned.Nodup
  /-- There are trackers in the same places, bound to the same managers. -/
  managers : ∀ path, (w.trackerAt? path).map (·.manager) = (v.trackerAt? path).map (·.manager)
  /-- The duplicate may be given up, and no buffer of the source is released. -/
  freed : ∀ t, h'.Apart ((u.free t w).run h').2 w v
  dropped : h'.Apart (w.drop.run h').2 w v
  /-- The source may be given up, and the new buffers can still be read. -/
  sourceFreed : ∀ t, h'.Apart ((u.free t v).run h').2 v w
  sourceDropped : h'.Apart (v.drop.run h').2 v w

/-- A buffer that is copied could be read when its turn came, and the copy has its bytes. -/
lemma copied_twin {recursive : Bool} {v : Value} (sound : u.isSound v = true)
    (clear : Transfer.firstStuck (u.transfersOf recursive v) h = none) {path : List Nat}
    {ref : Handle} (found : v.at? path = some (.buffer ref))
    (copied : u.isCopiedAt recursive path v = true) :
    ∃ b tr, ∃ bytes : Bytes, ∃ h₁, (u.twin recursive h.cells.size v).at? path =
        some (.buffer (.to b)) ∧ h.cells.size ≤ b ∧
      (u.twin recursive h.cells.size v).trackerAt? path.dropLast = some tr ∧ b ∈ tr.buffers ∧
      h.Extends h₁ ∧ h₁.read ref = some bytes ∧
      (Transfer.afterAll (u.transfersOf recursive v) h).read (.to b) = some bytes := by
  obtain ⟨k, t, tr, ht, rfl, there, around, mem⟩ :=
    at?_twin_of_copied (n := h.cells.size) sound found copied
  obtain ⟨bytes, block, read, rfl, cell⟩ := Transfer.cells_afterAll clear ht
  refine ⟨_, tr, block.bytes, _, there, Nat.le_add_right .., around, mem,
    Transfer.extends_afterAll (Transfer.firstStuck_take clear k), read, ?_⟩
  rw [Heap.read, Heap.cell?, cell]
  rfl

/-- What a duplication makes of a value without hooks, if it succeeds. -/
lemma twin_of_duplicate {t : TypeId} {recursive : Bool} {v w : Value}
    (hookless : u.isHookless v = true) (silent : v.isObject = false → u.isSilent t = true)
    (typed : u.isWellTyped t v = true)
    (ran : (u.duplicate t recursive v).run.run h = (.ok w, h')) :
    Transfer.firstStuck (u.transfersOf recursive v) h = none ∧
      w = u.twin recursive h.cells.size v ∧
      h' = Transfer.afterAll (u.transfersOf recursive v) h := by
  have accounted := accounted_duplicate hookless silent typed recursive h
  rw [ran] at accounted
  cases stuck : Transfer.firstStuck (u.transfersOf recursive v) h with
  | none =>
    obtain ⟨_, same, rfl⟩ := accounted.served stuck
    cases same
    exact ⟨rfl, rfl, rfl⟩
  | some s => cases (accounted.denied s stuck).1

/-- What a duplicate shares with its source: nothing but the buffers that are not copied. -/
theorem duplicate_aliases {t : TypeId} {recursive : Bool} {v w : Value}
    (hookless : u.isHookless v = true) (silent : v.isObject = false → u.isSilent t = true)
    (typed : u.isWellTyped t v = true) (known : v.Known h)
    (ledger : Ledger base (v.owned ++ held) o h)
    (ran : (u.duplicate t recursive v).run.run h = (.ok w, h')) :
    u.Aliased recursive h v w h' := by
  have sound := (isWellTyped_iff.1 typed).2
  obtain ⟨clear, rfl, rfl⟩ := twin_of_duplicate hookless silent typed ran
  have able := isFreeable_of_isSound v sound (leavesFreeing_of_isHookless v hookless)
  have both := (Transfer.ledger_afterAll clear ledger).perm
    ((owned_twin v recursive h.cells.size).symm.append_right _)
  have swapped := both.perm (List.perm_append_comm_assoc ..)
  have share : ∀ path ref, v.at? path = some (.buffer ref) → u.isCopiedAt recursive path v = false →
      (u.twin recursive h.cells.size v).at? path = some (.buffer ref) :=
    fun path ref => at?_twin_of_shared sound
  have source : ∀ path ref, (u.twin recursive h.cells.size v).at? path = some (.buffer ref) →
      ∃ ref', v.at? path = some (.buffer ref') := by
    intro path ref there
    obtain ⟨x, hx, alike⟩ := exists_at?_of_twin there
    cases alike with
    | refl => exact ⟨ref, hx⟩
    | buffer ref' => exact ⟨ref', hx⟩
  constructor
  case places =>
    intro path
    refine ⟨fun ⟨ref, there⟩ => source path ref there, fun ⟨ref, found⟩ => ?_⟩
    cases copied : u.isCopiedAt recursive path v with
    | false => exact ⟨ref, share path ref found copied⟩
    | true =>
      obtain ⟨b, _, _, _, there, _⟩ := copied_twin sound clear found copied
      exact ⟨_, there⟩
  case fresh =>
    intro path ref there
    obtain ⟨ref', found⟩ := source path ref there
    constructor
    · rintro ⟨b, tr, rfl, new, _⟩
      by_contra shared
      cases there.symm.trans (share path ref' found (Bool.eq_false_iff.2 shared))
      exact Nat.not_lt_of_le new (known path b found)
    · intro copied
      obtain ⟨b, tr, _, _, there', new, around, mem, _⟩ := copied_twin sound clear found copied
      cases there.symm.trans there'
      exact ⟨b, tr, rfl, new, around, mem⟩
  case bytes =>
    intro path ref ref' copied found there
    obtain ⟨b, _, bytes, h₁, there', _, _, _, later, read, read'⟩ :=
      copied_twin sound clear found copied
    cases there.symm.trans there'
    refine ⟨bytes, ?_, read'⟩
    -- the buffer of the source is older than all the copies
    rcases ref with _ | b
    · cases read
    · exact (later.read_old (known path b found)).symm.trans read
  case shared =>
    intro path ref shared
    refine ⟨fun there => ?_, fun found => share path ref found shared⟩
    obtain ⟨ref', found⟩ := source path ref there
    cases there.symm.trans (share path ref' found shared)
    exact found
  case listed =>
    intro parent tr b around hb
    obtain ⟨i, ref, _, copied, there⟩ := at?_twin_of_listed sound around hb
    exact ⟨i, copied, there⟩
  case once => exact both.nodup.sublist (List.sublist_append_left ..)
  case managers => exact fun path => trackerAt?_twin sound
  case freed => exact apart_free (isFreeable_twin v able recursive _) both
  case dropped => exact (Value.givesUp_drop _).apart both
  case sourceFreed => exact apart_free able swapped
  case sourceDropped => exact (Value.givesUp_drop _).apart swapped

/-- A label whose tracker lists its buffer. -/
def label : Value :=
  .object 19 [.scalar (.char 'a'), .buffer (.to 0)] (some { buffers := [0], capacity := 4 })

/-- How the label comes about. -/
def labelled : World :=
  (World.start #[]).run [.place (.object 19 [.scalar (.char 'a'), .buffer (.to 0)] (some {})),
    .make [97], .track [0] 0]

lemma known_label : label.Known labelled.heap := by
  intro path b found
  have one : labelled.heap.cells.size = 1 := rfl
  rw [one]
  rcases path with _ | ⟨_ | _ | i, _ | ⟨j, path⟩⟩ <;> cases found
  exact Nat.zero_lt_one

lemma ledger_label : Ledger (World.start #[]).heap (label.owned ++ []) {} labelled.heap :=
  (World.sound_run #[] _ : World.Sound #[] labelled).ledger

/-- A deep copy of the label has a buffer of its own. -/
lemma exists_duplicate_label :
    ∃ h', (withLabel.duplicate 19 true label).run.run labelled.heap =
      (.ok (.object 19 [.scalar (.char 'a'), .buffer (.to 1)]
        (some { onHeap := true, buffers := [1], capacity := 4 })), h') := by
  rw [label, duplicate, if_pos (accepts_self rfl _ _)]
  exact ⟨_, rfl⟩

theorem duplicate_aliases_label :
    withLabel.isHookless label = true ∧ withLabel.isWellTyped 19 label = true ∧
      label.Known labelled.heap ∧
      ∃ w h', (withLabel.duplicate 19 true label).run.run labelled.heap = (.ok w, h') ∧
        w.at? [1] = some (.buffer (.to 1)) ∧ withLabel.isCopiedAt true [1] label = true ∧
        withLabel.Aliased true labelled.heap label w h' := by
  have typed : withLabel.isWellTyped 19 label = true := isWellTyped_self rfl
  obtain ⟨h', ran⟩ := exists_duplicate_label
  exact ⟨rfl, typed, known_label, _, h', ran, rfl, rfl,
    duplicate_aliases rfl nofun typed known_label ledger_label ran⟩

end Universe

end Metaobject
