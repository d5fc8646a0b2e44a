import Metaobject.Proofs.Lifecycle.Aliasing
import Metaobject.Proofs.Lifecycle.Editing

/-!
# Duplicating over a value

A value that is duplicated over another one is copied first, and then that other one is freed. So
what the copy shares with the source survives, unless the value that was there before owned it.
`Universe.duplicateOver_assigns` says that this is the only way in which such an assignment loses a
buffer.
-/

namespace Metaobject

variable {base h h' : Heap} {held : List BufferId} {o : Outside}

/-- When some buffers are given up, what they do not concern, and what is being read, reads as
before. -/
lemma Ledger.read_kept {bs : List BufferId} (before : Ledger base (bs ++ held) o h)
    (after : Ledger base held o h') (due : h'.due? = h.due?) {ref : Handle}
    (kept : ∀ b ∈ bs, ref = .to b → b ∈ o.readings) : h'.read ref = h.read ref := by
  by_cases given : ∃ b ∈ bs, ref = .to b
  · obtain ⟨b, hb, rfl⟩ := given
    have reading := kept b hb rfl
    have since := before.since_of_mem (List.mem_append_left held hb)
    refine Heap.read_congr (congrFun due b) ?_
    rw [(before.isLive_iff since).2 (.inr reading), (after.isLive_iff since).2 (.inr reading)]
  · exact before.read_eq after due fun b hb same => given ⟨b, hb, same⟩

/-- A dead buffer cannot be read. -/
lemma Heap.read_of_dead {ref : Handle} (dead : h.isLive ref = false) : h.read ref = none := by
  rw [isLive, Option.isSome_eq_false_iff, Option.isNone_iff_eq_none] at dead
  rw [read, dead]
  rfl

namespace Value

/-- Only the flag of the outermost object is cleared. -/
lemma at?_offHeap {path : List Nat} {v : Value} {ref : Handle} :
    v.offHeap.at? path = some (.buffer ref) ↔ v.at? path = some (.buffer ref) := by
  cases v with
  | object type vs a =>
    cases a with
    | none => rfl
    | some t =>
      cases path with
      | nil => exact ⟨nofun, nofun⟩
      | cons => rfl
  | _ => rfl

end Value

namespace Universe

variable {u : Universe}

/-- Freeing a value that nothing stops and dropping what is left gives up all that it owns. -/
lemma givesUp_replaced {t : TypeId} {v : Value} (able : u.isFreeable v = true)
    (accepted : u.accepts t v = true) :
    GivesUp v.owned (do
      let r ← u.free t v
      r.1.drop) := by
  have rest := Value.givesUp_drop (u.left t v)
  rw [owned_left] at rest
  have both := (disposes_free v able t accepted).map (f := fun r => r.1.drop) (.of_givesUp rest)
  exact both.givesUp

/-- Once the duplicate is made it takes the place of a value that nothing stops from being freed. -/
lemma run_duplicateOver {t : TypeId} {target source v : Value} {recursive : Bool} {h₁ : Heap}
    (made : (u.duplicate t recursive source).run.run h = (.ok v, h₁))
    (able : u.isFreeable target = true) (accepted : u.accepts t target = true) :
    (u.duplicateOver t target source recursive).run h = ((v.offHeap, none),
      ((do
        let r ← u.free t target
        r.1.drop : Action Unit).run h₁).2) := by
  have answer := (disposes_free target able t accepted).answer h₁
  rw [duplicateOver, StateT.run_bind, made]
  show (_ : Action (Value × Option Fault)).run h₁ = _
  rw [StateT.run_bind]
  rcases freed : (u.free t target).run h₁ with ⟨r, h₂⟩
  rw [freed] at answer
  cases answer
  show ((v.offHeap, none), _) = _
  rw [StateT.run_bind, freed]
  rfl

/-- What an assignment from `source` to `target` comes to: `w` is there afterwards, and `h'` is the
heap. -/
structure Assigned (u : Universe) (recursive : Bool) (o : Outside) (h : Heap)
    (target source w : Value) (h' : Heap) : Prop where
  /-- A buffer that is copied can be read at its place afterwards. -/
  copied : ∀ path ref bytes, source.at? path = some (.buffer ref) → h.read ref = some bytes →
    u.isCopiedAt recursive path source = true →
    ∃ b, w.at? path = some (.buffer (.to b)) ∧ h.cells.size ≤ b ∧ h'.read (.to b) = some bytes
  /-- So can any other one, unless it was released with the value that was there before. -/
  shared : ∀ path ref bytes, source.at? path = some (.buffer ref) → h.read ref = some bytes →
    u.isCopiedAt recursive path source = false → w.at? path = some (.buffer ref) ∧
      (h'.read ref = some bytes ↔ ∀ b ∈ target.owned, ref = .to b → b ∈ o.readings)
  /-- Whatever that value did not own reads as before, and what it did own is dead, unless somebody
  reads it. -/
  others : ∀ ref bytes, h.read ref = some bytes → (∀ b ∈ target.owned, ref ≠ .to b) →
    h'.read ref = some bytes
  released : ∀ b ∈ target.owned, b ∉ o.readings → h'.read (.to b) = none
  /-- In particular nothing happens to the buffers that the source itself owns. -/
  source : ∀ b ∈ source.owned, h'.read (.to b) = h.read (.to b)

/-- An assignment loses no buffer but those that the value which was there before has owned, and
that are shared with it. -/
theorem duplicateOver_assigns {t : TypeId} {recursive : Bool} {target source w : Value}
    (hookless : u.isHookless source = true) (silent : u.isSilent t = true)
    (typed : u.isWellTyped t source = true) (there : u.isWellTyped t target = true)
    (leaves : u.isHookless target = true)
    (ledger : Ledger base (target.owned ++ (source.owned ++ held)) o h)
    (ran : (u.duplicateOver t target source recursive).run h = ((w, none), h')) :
    u.Assigned recursive o h target source w h' := by
  obtain ⟨accepted, sound⟩ := isWellTyped_iff.1 there
  have able := isFreeable_of_isSound target sound (leavesFreeing_of_isHookless target leaves)
  rcases made : (u.duplicate t recursive source).run.run h with ⟨fault | v, h₁⟩
  · rw [duplicateOver, StateT.run_bind, made] at ran
    cases ran
  rw [run_duplicateOver made able accepted] at ran
  cases ran
  have sound := (isWellTyped_iff.1 typed).2
  obtain ⟨clear, rfl, rfl⟩ := twin_of_duplicate hookless (fun _ => silent) typed made
  have later := Transfer.extends_afterAll clear
  have old : ∀ b ∈ target.owned ++ (source.owned ++ held), b < h.cells.size := by
    intro b hb
    obtain ⟨c, hc, _⟩ := ledger.cell_of_mem hb
    exact (Array.getElem?_eq_some_iff.1 (Heap.getElem?_of_cellSince hc)).1
  have before := (Transfer.ledger_afterAll clear ledger).perm (List.perm_append_comm_assoc ..)
  obtain ⟨after, _, due⟩ := givesUp_replaced able accepted base _ o _ before
  have kept : ∀ {ref bytes}, h.read ref = some bytes →
      (∀ b ∈ target.owned, ref = .to b → b ∈ o.readings) → _ = some bytes :=
    fun known kept => (before.read_kept after due kept).trans (later.read known)
  have lost : ∀ b ∈ target.owned, b ∉ o.readings → _ = none :=
    fun b hb closed => Heap.read_of_dead (before.dead_of_given_up after hb closed)
  constructor
  case copied =>
    intro path ref bytes found known copied
    obtain ⟨b, _, bytes', h₁, there, new, _, _, between, read, read'⟩ :=
      copied_twin sound clear found copied
    cases (between.read known).symm.trans read
    refine ⟨b, Value.at?_offHeap.2 there, new, (before.read_kept after due ?_).trans read'⟩
    rintro _ hb ⟨⟩
    exact absurd (old b (List.mem_append_left _ hb)) (Nat.not_lt_of_le new)
  case shared =>
    intro path ref bytes found known shared
    refine ⟨Value.at?_offHeap.2 (at?_twin_of_shared sound found shared), ?_, kept known⟩
    rintro read b hb rfl
    by_contra closed
    cases read.symm.trans (lost b hb closed)
  case others =>
    exact fun ref bytes known other => kept known fun b hb same => absurd same (other b hb)
  case released => exact lost
  case source =>
    intro b hb
    have here := old b (List.mem_append_right _ (List.mem_append_left _ hb))
    refine (before.read_kept after due ?_).trans (later.read_old here)
    rintro _ hb' ⟨⟩
    exact absurd rfl ((List.nodup_append.1 ledger.nodup).2.2 b hb' b (List.mem_append_left _ hb))

/-- What a flat duplication makes of the label. -/
def sharing : Value :=
  .object 19 [.scalar (.char 'a'), .buffer (.to 0)] (some { onHeap := true })

lemma duplicate_label : ((withLabel.duplicate 19 false label).run.run labelled.heap).1 =
    .ok sharing := by
  rw [label, duplicate, if_pos (accepts_self rfl _ _)]
  rfl

lemma ledger_sharing :
    Ledger (World.start #[]).heap (label.owned ++ (sharing.owned ++ [])) {} labelled.heap :=
  ledger_label

/-- The label is replaced by a deep copy of the value that shares its buffer. -/
theorem duplicateOver_assigns_label :
    withLabel.isHookless sharing = true ∧ withLabel.isSilent 19 = true ∧
      withLabel.isWellTyped 19 sharing = true ∧ withLabel.isWellTyped 19 label = true ∧
      withLabel.isHookless label = true ∧
      ∃ w h', (withLabel.duplicateOver 19 label sharing true).run labelled.heap = ((w, none), h') ∧
        h'.read (.to 1) = some [97] ∧
        withLabel.Assigned true {} labelled.heap label sharing w h' := by
  have typed : withLabel.isWellTyped 19 sharing = true := isWellTyped_self rfl
  have there : withLabel.isWellTyped 19 label = true := isWellTyped_self rfl
  have ran : ∃ w h', (withLabel.duplicateOver 19 label sharing true).run labelled.heap =
      ((w, none), h') ∧ h'.read (.to 1) = some [97] := by
    rw [duplicateOver, sharing, duplicate, if_pos (accepts_self rfl _ _), label, free,
      if_pos (accepts_self rfl _ _)]
    exact ⟨_, _, rfl, rfl⟩
  obtain ⟨w, h', ran, read⟩ := ran
  exact ⟨rfl, rfl, typed, there, rfl, w, h', ran, read,
    duplicateOver_assigns rfl rfl typed there rfl ledger_sharing ran⟩

/-- A label is replaced by a flat copy of the value that shares its buffer, and the buffer is
lost. -/
theorem duplicateOver_loses :
    withLabel.HookFree ∧ withLabel.isWellTyped 19 label = true ∧
      withLabel.isWellTyped 19 sharing = true ∧
      Ledger (World.start #[]).heap (label.owned ++ (sharing.owned ++ [])) {} labelled.heap ∧
      ((withLabel.duplicate 19 false label).run.run labelled.heap).1 = .ok sharing ∧
      labelled.heap.read (.to 0) = some [97] ∧ sharing.at? [1] = some (.buffer (.to 0)) ∧
      ∃ w h', (withLabel.duplicateOver 19 label sharing false).run labelled.heap = ((w, none), h') ∧
        w.at? [1] = some (.buffer (.to 0)) ∧ h'.read (.to 0) = none := by
  refine ⟨hookFree_of_all rfl, isWellTyped_self rfl, isWellTyped_self rfl, ledger_sharing,
    duplicate_label, rfl, rfl, ?_⟩
  rw [duplicateOver, sharing, duplicate, if_pos (accepts_self rfl _ _), label, free,
    if_pos (accepts_self rfl _ _)]
  exact ⟨_, _, rfl, rfl, rfl⟩

end Universe

end Metaobject
