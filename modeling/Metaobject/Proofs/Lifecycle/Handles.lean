import Mathlib.Logic.Relation
import Metaobject.Proofs.Lifecycle.Editing
import Metaobject.Proofs.Storage.World

/-!
# Handles are faithful

A handle is a number that may be copied at will, and it stays what it was when the buffer is gone.
`World.Act` is all that a program does in a world, to trackers, readings and objects alike, together
with the buffers of the tracker or of the object that it is done to; what it does with values are
the moves of a program, `Program.Move`. In every world that is reached in this way a handle is alive
for as long as some tracker lists its buffer or somebody reads it; a step leaves every buffer alone
that belongs to other trackers; and a tracker goes on with the list that it had, so that it is
always the same tracker that lists a buffer: `World.handles_faithful`.
-/

namespace Metaobject

open Metaobject.Action

namespace World

open Program (Maker Edit)

variable {arenas : Array Arena} {w w' : World}

/-- The buffers of the tracker that something is done to, or of the object that is dropped. -/
def buffersAt (w : World) : Op → List BufferId
  | .bind path _ | .mark path _ | .ensure path | .track path _ | .allocate path _ _
  | .release path => buffersOf (w.tracker? path)
  | .drop i => (w.store[i]?).elim [] (·.owned)
  | _ => []

/-- What a program may do next, with the buffers that it may concern. What it does with values it
may do with any types, as long as their hooks do not build values that own buffers, and it may look
at any value, whether that is in the world or not. The default instances of types are objects of the
world like any other. -/
inductive Act (w : World) : List BufferId → World → Prop where
  /-- Something is done to a tracker, a block or a reading. -/
  | tend (op : Op) : Act w (w.buffersAt op) (w.step op)
  /-- Something is done with the values. -/
  | move {u : Universe} {about : List BufferId} {h : Heap} {vs : List Value}
    (builds : u.Builds (·.owned = []))
    (moved : Program.Move u (fun _ => True) w.heap w.store about h vs) :
    Act w about { w with heap := h, store := vs }

/-- One world can come from another one. -/
def Reaches : World → World → Prop :=
  Relation.ReflTransGen fun w w' => ∃ about, Act w about w'

/-! ### What a step leads to -/

/-- The list is new, or it is that of a tracker in the world, with new buffers behind. -/
def Continues (w : World) (bs : List BufferId) : Prop :=
  ∃ old new, bs = old ++ new ∧ (∀ b ∈ new, w.heap.cells.size ≤ b) ∧
    (old = [] ∨ ∃ path t, w.tracker? path = some t ∧ t.buffers = old)

/-- Any manager may be asked, lists are in order, and trackers go on with the lists that they have
in the world. -/
def regime (w : World) : Regime where
  asks _ := True
  since := w.heap.cells.size
  lists bs := bs.Pairwise (· < ·) ∧ w.Continues bs
  nil := ⟨.nil, [], [], rfl, nofun, .inl rfl⟩
  push := by
    rintro _ b since later ⟨ordered, old, new, rfl, fresh, known⟩
    refine ⟨List.pairwise_append.2 ⟨ordered, List.pairwise_singleton .., ?_⟩, old, new ++ [b],
      List.append_assoc .., ?_, known⟩
    · intro b' hb' b'' hb''
      rw [List.mem_singleton.1 hb'']
      exact later b' hb'
    · intro b' hb'
      obtain hb' | hb' := List.mem_append.1 hb'
      · exact fresh b' hb'
      · rw [List.mem_singleton.1 hb']
        exact since

/-- Values are within a regime if the trackers at the ends of all paths into them are. -/
lemma within_iff {M : Regime} {h : Heap} {vs : List Value} :
    (∀ v ∈ vs, v.Within M h) ↔ ∀ path t, Value.trackerIn? path vs = some t → t.Within M h :=
  Value.forall_trackerIn?.symm

/-- What a tracker in the store lists is listed. -/
lemma mem_listed {path : List Nat} {t : Tracker} (ht : w.tracker? path = some t) {b : BufferId}
    (hb : b ∈ t.buffers) : b ∈ w.listed := by
  cases path with
  | nil => cases ht
  | cons i is => exact (Value.mem_ownedByAll_iff w.store).2 ⟨i, is, t, ht, hb⟩

/-- A buffer that is listed or being read is in its cell. -/
lemma Sound.keepsFor (sound : Sound arenas w) {b : BufferId}
    (hb : b ∈ w.listed ∨ b ∈ w.readings) : w.heap.KeepsFor (fun _ => True) b := by
  obtain hb | hb := hb
  · obtain ⟨c, hc, _⟩ := sound.ledger.cell_of_mem hb
    exact ⟨c, Heap.getElem?_of_cellSince hc, trivial⟩
  · obtain ⟨c, hc, _⟩ := sound.ledger.cell_of_reading hb
    exact ⟨c, Heap.getElem?_of_cellSince hc, trivial⟩

/-- To begin with all trackers keep to the regime of their world. -/
lemma Sound.within (sound : Sound arenas w) : ∀ v ∈ w.store, v.Within w.regime w.heap := by
  refine within_iff.2 fun path t ht => ⟨trivial, fun _ _ _ _ => trivial, ?_, fun b hb => ?_⟩
  · exact ⟨sound.ordered path t ht, t.buffers, [], (List.append_nil _).symm, nofun,
      .inr ⟨path, t, ht, rfl⟩⟩
  · exact sound.keepsFor (.inl (mem_listed ht hb))

/-- What a step leads to. -/
structure Leads (arenas : Array Arena) (w : World) (about : List BufferId) (w' : World) : Prop where
  ledger : Ledger (start arenas).heap w'.listed w'.outside w'.heap
  passes : w.heap.Passes (fun _ => True) w'.heap
  within : ∀ v ∈ w'.store, v.Within w.regime w'.heap
  spared : ∀ b ∈ w.listed, b ∈ about ∨ b ∈ w'.listed

/-- What a step leads to is in order. -/
lemma Leads.sound {about : List BufferId} (leads : Leads arenas w about w') : Sound arenas w' where
  ledger := leads.ledger
  ordered path t ht := (within_iff.1 leads.within path t ht).lists.1

/-! ### Steps with trackers and readings -/

/-- What a tracker does concerns its own list. -/
lemma Sound.leads_onTracker (sound : Sound arenas w) {path : List Nat}
    {a : Tracker → Action Tracker}
    (keeps : ∀ t, (a t).Passes w.regime (t.Within w.regime ·) fun t' h => t'.Within w.regime h)
    (ledger : Ledger (start arenas).heap w'.listed w'.outside w'.heap)
    (heap : w'.heap = (w.onTracker path a).heap) (store : w'.store = (w.onTracker path a).store) :
    Leads arenas w (buffersOf (w.tracker? path)) w' := by
  cases ht : w.tracker? path with
  | none =>
    rw [onTracker_none ht] at heap store
    refine ⟨ledger, heap ▸ .refl _, heap ▸ store ▸ sound.within, fun b hb => .inr ?_⟩
    rwa [listed, store]
  | some t =>
    have within := within_iff.1 sound.within
    obtain ⟨passes, own⟩ := keeps t w.heap (Nat.le_refl _) (within path t ht)
    rw [onTracker_some ht] at heap store
    replace heap : w'.heap = ((a t).run w.heap).2 := heap
    rw [← heap] at passes own
    refine ⟨ledger, passes, within_iff.2 fun path' t' ht' => ?_, fun b hb => ?_⟩
    · -- the other trackers are as they were
      rw [store, Value.trackerIn?_withTrackerIn ht] at ht'
      split at ht'
      · cases ht'
        exact own
      · exact Tracker.Within.lasts t' _ _ passes (within path' t' ht')
    · rw [listed, store]
      obtain ⟨rest, before, after⟩ := Value.ownedByAll_perm_withTrackerIn ht
      obtain hb | hb := List.mem_append.1 (before.mem_iff.1 hb)
      · exact .inl hb
      · exact .inr ((after _).mem_iff.2 (List.mem_append_right _ hb))

/-- What does not touch the objects leaves all trackers alone. -/
lemma Sound.leads_heap (sound : Sound arenas w) {α : Type} {a : Action α} {P : Heap → Prop}
    (passes : a.Passes w.regime P fun _ _ => True) (holds : P w.heap)
    (ledger : Ledger (start arenas).heap w'.listed w'.outside w'.heap)
    (heap : w'.heap = (a.run w.heap).2) (store : w'.store = w.store) (about : List BufferId) :
    Leads arenas w about w' := by
  obtain ⟨passes, _⟩ := passes w.heap (Nat.le_refl _) holds
  rw [← heap] at passes
  refine ⟨ledger, passes, ?_, fun b hb => .inr ?_⟩
  · rw [store]
    exact Value.lasts_all w.store _ _ passes sound.within
  · rwa [listed, store]

/-- What trackers, blocks and readings are made to do leads on. -/
lemma Sound.leads_tend (sound : Sound arenas w) (op : Op) :
    Leads arenas w (w.buffersAt op) (w.step op) := by
  have ledger := (sound_step sound op).1.ledger
  -- a step that does not make sense changes nothing
  have nothing : ∀ about, Ledger (start arenas).heap w.listed w.outside w.heap →
      Leads arenas w about w := fun _ ledger =>
    ⟨ledger, .refl _, sound.within, fun b => .inr⟩
  revert ledger
  cases op with
  | place v =>
    rw [step]
    split
    · rename_i own
      intro ledger
      refine ⟨ledger, .refl _, List.forall_mem_append.2 ⟨sound.within, ?_⟩, fun b hb => .inr ?_⟩
      · refine List.forall_mem_singleton.2 ?_
        exact Value.bare_of_owned (M := w.regime) (fun _ => trivial) own w.heap
      · rw [listed, Value.ownedByAll_append]
        exact List.mem_append_left _ hb
    · exact nothing _
  | make bytes =>
    exact fun ledger => sound.leads_heap (asks_mint bytes) trivial ledger rfl rfl _
  | ask m size =>
    have asks : (Action.allocate m size).Asks w.regime := asks_allocate trivial size
    rw [step]
    cases ran : (Action.allocate m size).run w.heap with
    | mk r h' =>
      have heap : h' = ((Action.allocate m size).run w.heap).2 := by rw [ran]
      cases r with
      | none => exact fun ledger => sound.leads_heap asks trivial ledger heap rfl _
      | some b => exact fun ledger => sound.leads_heap asks trivial ledger heap rfl _
  | give m i =>
    rw [step]
    split
    · exact nothing _
    · rename_i b hb
      exact fun ledger =>
        sound.leads_heap (asks_release (m := m) trivial b) trivial ledger rfl rfl _
  | bind path m =>
    refine fun ledger => sound.leads_onTracker (fun t => ?_) ledger rfl rfl
    exact .pure fun h within => { within with manager := trivial }
  | mark path onHeap =>
    refine fun ledger => sound.leads_onTracker (fun t => ?_) ledger rfl rfl
    exact .pure fun h within => ⟨within.manager, within.setup, within.lists, within.kept⟩
  | ensure path =>
    exact fun ledger => sound.leads_onTracker (fun t => t.passes_ensureSetup) ledger rfl rfl
  | track path i =>
    rw [step]
    split
    · exact nothing _
    · rename_i b hb
      split
      · refine fun ledger => sound.leads_onTracker (fun t => ?_) ledger rfl rfl
        exact .bind (t.passes_track b) fun _ => .pure fun h => id
      · exact nothing _
  | allocate path size fill =>
    refine fun ledger => sound.leads_onTracker (fun t => ?_) ledger rfl rfl
    exact .bind (t.passes_allocateWith size fill) fun _ => .pure fun h => id
  | release path =>
    refine fun ledger => sound.leads_onTracker (fun t => ?_) ledger rfl rfl
    exact .bind t.passes_release fun _ => .pure fun h after => after.1
  | drop i =>
    rw [step, buffersAt]
    split
    · exact nothing _
    · rename_i v hv
      intro ledger
      have own := sound.within v (List.mem_of_getElem? hv)
      obtain ⟨passes, _⟩ := v.passes_drop w.heap (Nat.le_refl _) own
      have within := Value.lasts_all w.store _ _ passes sound.within
      refine ⟨ledger, passes, fun v hv => within v (List.mem_of_mem_eraseIdx hv), fun b hb => ?_⟩
      rw [hv]
      exact List.mem_append.1 ((listed_perm hv).mem_iff.1 hb)
  | read b =>
    rw [step]
    split
    · rename_i live
      obtain ⟨c, hc⟩ := Option.isSome_iff_exists.1 live
      have there : w.heap.KeepsFor w.regime.asks b := ⟨c, Heap.getElem?_of_cell? hc, trivial⟩
      exact fun ledger => sound.leads_heap (passes_borrow b) there ledger rfl rfl _
    · exact nothing _
  | endReading b =>
    rw [step]
    split
    · rename_i reading
      have there := sound.keepsFor (.inr reading)
      exact fun ledger => sound.leads_heap (passes_endBorrow b) there ledger rfl rfl _
    · exact nothing _

/-! ### Steps with objects -/

/-- What a maker takes goes into what it makes, and where nothing comes of it it is gone. -/
lemma Sound.leads_make (sound : Sound arenas w) {u : Universe} {m : Maker} {rest : List Value}
    {r : Except Fault Value} {h : Heap} (builds : u.Builds (·.owned = []))
    (store : w.store = m.takes ++ rest) (ran : (m.run u).run.run w.heap = (r, h)) :
    Leads arenas w (r.toOption.elim (Value.ownedByAll m.takes) fun _ => [])
      { w with heap := h, store := r.toOption.toList ++ rest } := by
  have parts : w.listed = Value.ownedByAll m.takes ++ Value.ownedByAll rest := by
    rw [listed, store, Value.ownedByAll_append]
  have before := sound.ledger
  rw [parts] at before
  have owes := m.ledger_run builds w.heap before
  obtain ⟨takes, others⟩ := List.forall_mem_append.1 (store ▸ sound.within)
  obtain ⟨passes, arrives⟩ := m.passes_run (M := w.regime) (fun _ => trivial) builds w.heap
    (Nat.le_refl _) takes
  have subset := m.owned_subset_run u w.heap
  have rests := Value.lasts_all rest _ _ passes others
  rw [ran] at owes passes arrives subset rests
  cases r with
  | error fault =>
    refine ⟨owes, passes, rests, fun b hb => ?_⟩
    rw [parts] at hb
    exact List.mem_append.1 hb
  | ok v =>
    refine ⟨owes, passes, List.forall_mem_cons.2 ⟨arrives v rfl, rests⟩, fun b hb => .inr ?_⟩
    rw [parts] at hb
    exact List.mem_append.2 ((List.mem_append.1 hb).imp (subset v rfl ·) id)

/-- What an edit takes goes into the object, unless that refuses it. -/
lemma Sound.leads_edit (sound : Sound arenas w) {u : Universe} {e : Edit} {v x y : Value}
    {path : List Nat} {rest : List Value} {h : Heap} (builds : u.Builds (·.owned = []))
    (store : w.store = e.takes ++ v :: rest) (found : v.at? path = some x)
    (ran : (e.run u x).run w.heap = (y, h)) :
    Leads arenas w (x.owned ++ if e.refuses u x w.heap then Value.ownedByAll e.takes else [])
      { w with heap := h, store := y.putAt path v :: rest } := by
  obtain ⟨around, before, after⟩ := Value.owned_perm_putAt found
  -- what is listed belongs to the object, to what is taken, or to the rest of the world
  have parts : w.listed.Perm
      (x.owned ++ (Value.ownedByAll e.takes ++ (around ++ Value.ownedByAll rest))) := by
    rw [listed, store, Value.ownedByAll_append, Value.ownedByAll]
    refine ((before.append_right _).append_left _).trans ?_
    rw [List.append_assoc]
    exact List.perm_append_comm_assoc ..
  obtain ⟨takes, others⟩ := List.forall_mem_append.1 (store ▸ sound.within)
  obtain ⟨whole, others⟩ := List.forall_mem_cons.1 others
  have part := whole.at? found
  have owes := Edit.ledger_run builds w.heap (sound.ledger.perm parts)
  obtain ⟨passes, arrives⟩ := e.passes_run (M := w.regime) (fun _ => trivial) builds x w.heap
    (Nat.le_refl _) ⟨part, takes⟩
  have rests := Value.lasts_all rest _ _ passes others
  have wholes := Value.Within.lasts v _ _ passes whole
  have subset := Edit.owned_subset_run (u := u) (e := e) (x := x) (h := w.heap)
  rw [ran] at owes passes arrives rests wholes subset
  have parts' : (Value.ownedByAll (y.putAt path v :: rest)).Perm
      (y.owned ++ (around ++ Value.ownedByAll rest)) := by
    rw [Value.ownedByAll, ← List.append_assoc]
    exact (after y).append_right _
  refine ⟨owes.perm parts'.symm, passes,
    List.forall_mem_cons.2 ⟨wholes.putAt path arrives, rests⟩, fun b hb => ?_⟩
  rw [listed, parts'.mem_iff]
  have hb := parts.mem_iff.1 hb
  cases refused : e.refuses u x w.heap with
  | true =>
    rw [if_pos rfl]
    simp only [List.mem_append] at hb ⊢
    tauto
  | false =>
    have more : b ∈ Value.ownedByAll e.takes → b ∈ y.owned := fun hb => subset refused hb
    rw [if_neg Bool.false_ne_true]
    simp only [List.mem_append] at hb ⊢
    tauto

/-- Where only the objects are put in other places nothing comes to an end. -/
lemma Sound.leads_store (sound : Sound arenas w) {vs : List Value}
    (same : w.listed.Perm (Value.ownedByAll vs)) (within : ∀ v ∈ vs, v.Within w.regime w.heap)
    (about : List BufferId) : Leads arenas w about { w with store := vs } :=
  ⟨sound.ledger.perm same, .refl _, within, fun _ hb => .inr (same.mem_iff.1 hb)⟩

/-- So does what is done with values, whatever it is. -/
lemma Sound.leads_move (sound : Sound arenas w) {u : Universe} (builds : u.Builds (·.owned = []))
    {known : Value → Prop} {about : List BufferId} {h : Heap} {vs : List Value}
    (move : Program.Move u known w.heap w.store about h vs) :
    Leads arenas w about { w with heap := h, store := vs } := by
  cases move with
  | arrange perm =>
    refine sound.leads_store ?_ (fun v hv => sound.within v (perm.mem_iff.2 hv)) _
    rw [listed, Value.ownedByAll_eq_flatMap, Value.ownedByAll_eq_flatMap]
    exact perm.flatMap_right _
  | @drop v _ store =>
    have first : w.store[0]? = some v := congrArg (·[0]?) store
    have others : w.store.eraseIdx 0 = vs := congrArg (·.eraseIdx 0) store
    have dropped := sound.leads_tend (.drop 0)
    rwa [buffersAt, step, first, Option.elim_some, others] at dropped
  | make store _ ran => exact sound.leads_make builds store ran
  | edit store _ found ran => exact sound.leads_edit builds store found ran
  | @exchange v x y path rest store found =>
    have within := sound.within
    rw [store] at within
    obtain ⟨first, within⟩ := List.forall_mem_cons.1 within
    obtain ⟨second, within⟩ := List.forall_mem_cons.1 within
    refine sound.leads_store ?_ (List.forall_mem_cons.2 ⟨second.at? found,
      List.forall_mem_cons.2 ⟨second.putAt path first, within⟩⟩) _
    obtain ⟨around, before, after⟩ := Value.owned_perm_putAt found
    rw [listed, store]
    refine List.perm_iff_count.2 fun b => ?_
    have old := before.count_eq b
    have new := (after x).count_eq b
    simp only [Value.ownedByAll, List.count_append] at old new ⊢
    omega

/-- Whatever a program does next, what was said of the world goes on being true. -/
lemma Sound.leads (sound : Sound arenas w) {about : List BufferId} (act : Act w about w') :
    Leads arenas w about w' := by
  cases act with
  | tend op => exact sound.leads_tend op
  | move builds moved => exact sound.leads_move builds moved

/-- From one world to a later one buffers only become what they can become, and the books stay
right. -/
lemma Reaches.passes (later : Reaches w w') (sound : Sound arenas w) :
    w.heap.Passes (fun _ => True) w'.heap ∧ Sound arenas w' := by
  induction later with
  | refl => exact ⟨.refl _, sound⟩
  | tail _ act ih =>
    obtain ⟨passes, sound⟩ := ih
    obtain ⟨about, act⟩ := act
    have leads := sound.leads act
    exact ⟨passes.trans leads.passes, leads.sound⟩

/-- Whatever trackers and blocks are made to do is reached. -/
lemma reaches_run (w : World) (ops : List Op) : Reaches w (w.run ops) := by
  induction ops generalizing w with
  | nil => exact .refl
  | cons op ops ih => exact .head ⟨_, .tend op⟩ (ih (w.step op))

/-! ### Handles -/

/-- The handle leads to a buffer that was not there before, that the tracker lists, and that reads
as the bytes. -/
def Issued (h : Heap) (bytes : Bytes) (ref : Handle) (t : Tracker) (h' : Heap) : Prop :=
  ∃ b, ref = .to b ∧ h.cells.size ≤ b ∧ b ∈ t.buffers ∧ h'.read ref = some bytes

/-- A handle is issued for a block that is tracked. -/
lemma issued_track {M : Regime} {t : Tracker} {h : Heap} (since : M.since ≤ h.cells.size)
    (within : t.Within M h) (b : Block) :
    Issued h b.bytes ((t.track b).run h).1.1 ((t.track b).run h).1.2 ((t.track b).run h).2 := by
  have grown := (t.passes_ensureSetup h since within).1.size_le
  rw [Tracker.track, StateT.run_bind]
  generalize t.ensureSetup.run h = r at grown ⊢
  obtain ⟨t', h'⟩ := r
  show Issued h b.bytes ((t'.trackNow b).run h').1.1 ((t'.trackNow b).run h').1.2
    ((t'.trackNow b).run h').2
  rw [Tracker.run_trackNow]
  refine ⟨h'.cells.size, rfl, grown, ?_, Heap.read_withNewCell h' rfl⟩
  rw [Tracker.buffers_push]
  exact List.mem_append_right _ (List.mem_singleton_self _)

/-- A handle is issued for memory that is granted. -/
lemma issued_allocateWith {M : Regime} {t t' : Tracker} {h h' : Heap} {size : Nat}
    {fill : Bytes → Bytes} {ref : Handle} (since : M.since ≤ h.cells.size) (within : t.Within M h)
    (ran : (t.allocateWith size fill).run h = ((some ref, t'), h')) :
    ∃ bytes, Issued h (fill bytes) ref t' h' := by
  have grown := (t.passes_ensureSetup h since within).1.size_le
  rw [Tracker.allocateWith, StateT.run_bind] at ran
  generalize t.ensureSetup.run h = r at grown ran
  obtain ⟨t₁, h₁⟩ := r
  obtain ⟨h₂, b, cells, rfl, rfl, rfl⟩ := Tracker.allocateNow_some ran
  refine ⟨b.bytes, h₁.cells.size, rfl, grown, ?_, ?_⟩
  · rw [Tracker.buffers_push]
    exact List.mem_append_right _ (List.mem_singleton_self _)
  · rw [← cells]
    exact Heap.read_withNewCell h₂ rfl

/-- A step that concerns some buffers leaves all others alone that trackers list. A tracker goes on
with the list that it had, so that a buffer of before is still listed by the same tracker. -/
structure Spares (w : World) (about : List BufferId) (w' : World) : Prop where
  others : ∀ b ∈ w.listed, b ∉ about → b ∈ w'.listed ∧ w'.heap.isLive (.to b) = true ∧
    w'.heap.read (.to b) = w.heap.read (.to b)
  same : ∀ path' t', w'.tracker? path' = some t' → ∀ b ∈ t'.buffers, b < w.heap.cells.size →
    ∃ path t, w.tracker? path = some t ∧ b ∈ t.buffers ∧ t.buffers <+: t'.buffers

/-- Handles can be relied on. -/
structure Faithful (w : World) : Prop where
  /-- A handle is alive for as long as a tracker lists its buffer or somebody reads it. -/
  live : ∀ b, w.heap.isLive (.to b) = true ↔ b ∈ w.listed ∨ b ∈ w.readings
  /-- No buffer is listed twice, so that only one tracker lists it. -/
  once : w.listed.Nodup
  /-- A handle that a tracker gives out is that of a new buffer. -/
  tracked : ∀ path t, w.tracker? path = some t → ∀ b : Block,
    Issued w.heap b.bytes ((t.track b).run w.heap).1.1 ((t.track b).run w.heap).1.2
      ((t.track b).run w.heap).2
  allocated : ∀ path t, w.tracker? path = some t → ∀ size fill ref t' h',
    (t.allocateWith size fill).run w.heap = ((some ref, t'), h') →
      ∃ bytes, Issued w.heap (fill bytes) ref t' h'
  /-- Now and later a handle reads as the block that is in the cell now, if it is alive then. -/
  reads : ∀ w', Reaches w w' → ∀ b < w.heap.cells.size, w'.heap.read (.to b) =
    if w'.heap.isLive (.to b) then (w.heap.cells[b]?).map (·.block.bytes) else none
  /-- A handle that is dead stays dead. -/
  dead : ∀ w', Reaches w w' → ∀ b < w.heap.cells.size, w.heap.isLive (.to b) = false →
    w'.heap.isLive (.to b) = false
  spares : ∀ about w', Act w about w' → w.Spares about w'

/-- Alive are the buffers that are listed or being read. -/
lemma Sound.isLive_iff (sound : Sound arenas w) (b : BufferId) :
    w.heap.isLive (.to b) = true ↔ b ∈ w.listed ∨ b ∈ w.readings :=
  sound.ledger.isLive_iff (Nat.zero_le b)

/-- An act spares all buffers that it is not about. -/
lemma Sound.spares (sound : Sound arenas w) {about : List BufferId} (act : Act w about w') :
    w.Spares about w' := by
  have leads := sound.leads act
  constructor
  case others =>
    intro b hb other
    have kept := (leads.spared b hb).resolve_left other
    have before := (sound.isLive_iff b).2 (.inl hb)
    have after := (leads.sound.isLive_iff b).2 (.inl kept)
    obtain ⟨c, hc, _⟩ := sound.keepsFor (.inl hb)
    have due := leads.passes.due?_eq (Array.getElem?_eq_some_iff.1 hc).1
    exact ⟨kept, after, Heap.read_congr due (after.trans before.symm)⟩
  case same =>
    intro path' t' ht' b hb lt
    obtain ⟨_, old, new, eq, fresh, known⟩ := (within_iff.1 leads.within path' t' ht').lists
    rw [eq] at hb ⊢
    -- a buffer of before is in the old part of the list, for all of the new part came later
    obtain hb | hb := List.mem_append.1 hb
    · obtain rfl | ⟨path, t, ht, rfl⟩ := known
      · cases hb
      · exact ⟨path, t, ht, hb, List.prefix_append ..⟩
    · exact absurd lt (Nat.not_lt_of_le (fresh b hb))

/-- In every world that a program can reach handles can be relied on. -/
theorem handles_faithful (reached : Reaches (start arenas) w) : w.Faithful := by
  obtain ⟨_, sound⟩ := reached.passes (sound_start arenas)
  have within := within_iff.1 sound.within
  constructor
  case live => exact sound.isLive_iff
  case once => exact sound.ledger.nodup
  case tracked => exact fun path t ht => issued_track (Nat.le_refl _) (within path t ht)
  case allocated =>
    intro path t ht size fill ref t' h' ran
    exact issued_allocateWith (Nat.le_refl _) (within path t ht) ran
  case reads =>
    intro w' later b lt
    obtain ⟨passes, _⟩ := later.passes sound
    rw [Heap.read_eq_due?, passes.due?_eq lt, Heap.due?, Option.map_map]
    rfl
  case dead =>
    intro w' later b lt dead
    obtain ⟨passes, _⟩ := later.passes sound
    rw [← Bool.not_eq_true] at dead ⊢
    exact fun live => dead (passes.isLive_of_isLive lt live)
  case spares => exact fun about w' => sound.spares

/-- An object with a switch and a tracker, into which a block was tracked. -/
def lantern : Value :=
  .object 19 [.scalar (.bool false)] (some { buffers := [0], capacity := 4 })

/-- Types with one more struct, for such objects. -/
def withLantern : Universe :=
  let lantern : Universe.Declaration :=
    { name := "Lantern", shape := .struct [⟨"lit", .typed 0, false, none⟩] none true }
  match Universe.builtin.declare {} lantern with
  | some (_, u) => u
  | none => .builtin

/-- How the lantern comes about, beside another one that owns nothing. -/
def lanterns : World :=
  (start #[]).run [.place (.object 19 [.scalar (.bool false)] (some {})),
    .place (.object 19 [.scalar (.bool false)] (some {})), .make [97], .track [0] 0]

/-- Two lanterns, of which one has a buffer, are as faithful as any world. -/
theorem handles_faithful_lanterns :
    Reaches (start #[]) lanterns ∧ lanterns.Faithful ∧ lanterns.listed = [0] ∧
      lanterns.heap.read (.to 0) = some [97] := by
  have reached : Reaches (start #[]) lanterns := reaches_run _ _
  exact ⟨reached, handles_faithful reached, rfl, rfl⟩

/-- One lantern is put where a switch belongs in the other one. It is refused, and the buffer that
its tracker lists is gone. -/
theorem refused_not_spared :
    let x : Value := .object 19 [.scalar (.bool false)] (some {})
    let r := (withLantern.writeField "lit" lantern x).run lanterns.heap
    Reaches (start #[]) lanterns ∧ lanterns.store = [lantern, x] ∧ x.owned = [] ∧
      lanterns.listed = [0] ∧ lanterns.heap.isLive (.to 0) = true ∧
      r.1.2 = some (.typeMismatch "bool" "Lantern") ∧ r.2.isLive (.to 0) = false :=
  ⟨reaches_run _ _, rfl, rfl, rfl, rfl, rfl, rfl⟩

end World

end Metaobject
