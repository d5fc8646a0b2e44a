import Metaobject.Proofs.Lifecycle.Failure
import Metaobject.Proofs.Lifecycle.Handles
import Metaobject.Proofs.Lifecycle.StandIn

/-!
# What a program does, and what may happen in its world

What a program may do with its values is said once, by `Program.Move`. A step of a program is such
a move or has to do with types (`Program.Step`), and an act in a world is such a move or has to do
with trackers, blocks and readings (`World.Act`); so a program that keeps to its types does nothing
that could not be done in a world, which is `World.act_of_move`.

A deed tells what is to be done by positions and paths, and it is answered. `Deed.act_allowed` is
that deeds are nothing else either: whatever is done, other than with managers alone, is a chain of
acts in the world of what the program has in its hands. So what holds of every world that can be
reached holds after every run of such deeds: `Deed.run_live`.
-/

namespace Metaobject

open Metaobject.Action

/-! ### Values in their places -/

namespace Value

/-- Only what is done to the value in that position counts. -/
lemma modify_congr {f g : Value → Value} {i : Nat} {vs : List Value}
    (same : ∀ v, vs[i]? = some v → f v = g v) : vs.modify i f = vs.modify i g := by
  rw [List.modify_eq_set_getElem?, List.modify_eq_set_getElem?]
  cases hv : vs[i]? with
  | none => rfl
  | some v => exact congrArg (vs.set i) (same v hv)

/-- A value that is put where it is changes nothing. -/
lemma putAt_self {path : List Nat} {v x : Value} (hx : v.at? path = some x) :
    x.putAt path v = v := by
  induction path generalizing v with
  | nil =>
    cases hx
    rfl
  | cons i is ih =>
    cases v with
    | object type fields own =>
      obtain ⟨v, hv, hx⟩ := Option.bind_eq_some_iff.1 hx
      exact congrArg (object type · own) (modify_eq_self hv (ih hx))
    | _ => cases hx

/-- A tracker is exchanged with the object that it belongs to. -/
lemma withTrackerAt_eq_putAt (t : Tracker) {path : List Nat} {v x : Value}
    (hx : v.at? path = some x) : withTrackerAt t path v = (withTrackerAt t [] x).putAt path v := by
  induction path generalizing v with
  | nil =>
    cases hx
    rfl
  | cons i is ih =>
    cases v with
    | object type fields own =>
      obtain ⟨v, hv, hx⟩ := Option.bind_eq_some_iff.1 hx
      refine congrArg (object type · own) (modify_congr fun w hw => ?_)
      cases hv.symm.trans hw
      exact ih hx
    | _ => cases hx

end Value

/-! ### Moves in a world -/

/-- A program may do as much if it may look at more. -/
lemma Program.Move.imp {u : Universe} {known known' : Value → Prop} {h h' : Heap}
    {store vs : List Value} {about : List BufferId} (more : ∀ v, known v → known' v)
    (moved : Move u known h store about h' vs) : Move u known' h store about h' vs := by
  cases moved with
  | arrange perm => exact .arrange perm
  | drop first => exact .drop first
  | make takes reads ran => exact .make takes (fun v hv => more v (reads v hv)) ran
  | edit takes reads there ran => exact .edit takes (fun v hv => more v (reads v hv)) there ran
  | exchange first there => exact .exchange first there

namespace World

open Program (Maker Edit)

variable {w : World} {u : Universe} {hands : Hands}

/-- What a program does with its values is done in the world as well. -/
lemma act_of_move {p : Program} (builds : p.types.Builds (·.owned = [])) (heap : w.heap = p.heap)
    (store : w.store = p.store) {about : List BufferId} {h : Heap} {vs : List Value}
    (moved : Program.Move p.types p.Has p.heap p.store about h vs) :
    Act w about { w with heap := h, store := vs } := by
  rw [← heap, ← store] at moved
  exact .move builds (moved.imp fun _ _ => trivial)

/-- Putting the values in another order is a move with any types. -/
lemma reaches_arrange {vs : List Value} (perm : w.store.Perm vs) :
    Reaches w { w with store := vs } :=
  .single ⟨_, .move (Universe.builtin_hookFree.builds) (.arrange perm)⟩

/-- What is made of nothing comes last in the store. -/
lemma reaches_make (builds : u.Builds (·.owned = [])) {m : Maker} (takes : m.takes = [])
    {r : Except Fault Value} {h : Heap} (ran : (m.run u).run.run w.heap = (r, h)) :
    Reaches w { w with heap := h, store := w.store ++ r.toOption.toList } := by
  have store : w.store = m.takes ++ w.store := by rw [takes, List.nil_append]
  have made : Act w _ _ := .move builds (.make store (fun _ _ => trivial) ran)
  exact .head ⟨_, made⟩ (reaches_arrange List.perm_append_comm)

/-- What takes nothing can be done to a value wherever that is. -/
lemma reaches_edit (builds : u.Builds (·.owned = [])) {e : Edit} (takes : e.takes = []) {i : Nat}
    {is : List Nat} {v x y : Value} {h : Heap} (hv : w.store[i]? = some v)
    (hx : v.at? is = some x) (ran : (e.run u x).run w.heap = (y, h)) :
    Reaches w { w with heap := h, store := w.store.modify i (y.putAt is) } := by
  obtain ⟨lt, rfl⟩ := List.getElem?_eq_some_iff.1 hv
  have front := (List.getElem_cons_eraseIdx_perm lt).symm
  have edited : Act { w with store := w.store[i] :: w.store.eraseIdx i } _ _ :=
    .move builds (.edit (by rw [takes]; rfl) (fun _ _ => trivial) hx ran)
  have back : (y.putAt is w.store[i] :: w.store.eraseIdx i).Perm
      (w.store.modify i (y.putAt is)) := by
    have lt' : i < (w.store.modify i (y.putAt is)).length := by rwa [List.length_modify]
    have perm := List.getElem_cons_eraseIdx_perm lt'
    rwa [List.eraseIdx_modify_of_eq, List.getElem_modify, if_pos rfl] at perm
  exact (reaches_arrange front).trans (.head ⟨_, edited⟩ (reaches_arrange back))

/-! ### The world of what a program has -/

/-- The world is that of a program with these things in its hands. -/
structure Shows (w : World) (hands : Hands) : Prop where
  store : w.store = hands.store
  blocks : w.blocks.Perm hands.blocks
  readings : w.readings = hands.readings

/-- What the action comes to from this world on can come about in it. -/
def Allows (w : World) (a : Action (Reply × Hands)) : Prop :=
  ∃ w', Reaches w w' ∧ w'.Shows (a.run w.heap).1.2 ∧ w'.heap = (a.run w.heap).2

/-- It is enough that acts lead to a world of what the program has afterwards. -/
lemma Reaches.allows {w' : World} (reaches : Reaches w w') {a : Action (Reply × Hands)} {r : Reply}
    (ran : a.run w.heap = ((r, hands), w'.heap)) (shows : w'.Shows hands) : w.Allows a := by
  refine ⟨w', reaches, ?_, ?_⟩
  · rw [ran]
    exact shows
  · rw [ran]

/-- Nothing may happen, whatever is answered. -/
lemma allows_pure (shows : w.Shows hands) (r : Reply) : w.Allows (pure (r, hands)) :=
  Reaches.allows .refl rfl shows

/-- A step is enough. -/
lemma allows_of_step {a : Action (Reply × Hands)} (op : Op) {w' : World} (goes : w.step op = w')
    {r : Reply} (ran : a.run w.heap = ((r, hands), w'.heap)) (shows : w'.Shows hands) :
    w.Allows a := by
  subst goes
  exact Reaches.allows (.single ⟨_, .tend op⟩) ran shows

/-- A construction or a duplication adds what it makes to the store. -/
lemma allows_keep (builds : u.Builds (·.owned = [])) (shows : w.Shows hands) {m : Maker}
    (takes : m.takes = []) {r : Except Fault Value} {h : Heap}
    (made : (m.run u).run.run w.heap = (r, h)) {a : Action (Reply × Hands)}
    (message : Option Message) (ran : a.run w.heap = (hands.keep r message, h)) : w.Allows a :=
  have kept := congrArg (· ++ r.toOption.toList) shows.store
  (reaches_make builds takes made).allows ran ⟨kept, shows.blocks, shows.readings⟩

/-- What is done to a value at the end of a path, and answered, is an edit. -/
lemma allows_edit (builds : u.Builds (·.owned = [])) (shows : w.Shows hands) {e : Edit}
    (takes : e.takes = []) (path : List Nat) {f : Value → Action (Reply × Value)}
    (edits : ∀ x h y h', (e.run u x).run h = (y, h') → ∃ r, (f x).run h = ((r, y), h')) :
    w.Allows (hands.edit path f) := by
  cases there : hands.at? path with
  | none =>
    rw [Hands.edit, there]
    exact allows_pure shows _
  | some x =>
    cases path with
    | nil => cases there
    | cons i is =>
      obtain ⟨v, hv, hx⟩ := Option.bind_eq_some_iff.1 there
      rcases edited : (e.run u x).run w.heap with ⟨y, h⟩
      obtain ⟨r, ran⟩ := edits x w.heap y h edited
      have answered :
          (hands.edit (i :: is) f).run w.heap = ((r, hands.putAt y (i :: is)), h) := by
        rw [Hands.edit, there]
        show StateT.run (f x >>= _) w.heap = _
        rw [StateT.run_bind, ran]
        rfl
      have placed := congrArg (fun vs => vs.modify i (y.putAt is)) shows.store
      exact (reaches_edit builds takes (shows.store ▸ hv) hx edited).allows answered
        ⟨placed, shows.blocks, shows.readings⟩

/-! ### Trackers -/

/-- Nothing is done at the end of a path where there is no tracker. -/
lemma run_edit_of_none (hands : Hands) {path : List Nat}
    (ht : Value.trackerIn? path hands.store = none) (task : Task) (h : Heap) :
    (hands.edit path task.act).run h = ((.nothing, hands), h) := by
  cases path with
  | nil => rfl
  | cons i is =>
    rw [Hands.edit]
    cases hx : hands.at? (i :: is) with
    | none => rfl
    | some x =>
      obtain ⟨v, hv, hx⟩ := Option.bind_eq_some_iff.1 hx
      rw [Value.trackerIn?, hv, Option.bind_some, Value.trackerAt?_eq_bind, hx] at ht
      -- the value is put where it is
      have nothing : hands.putAt x (i :: is) = hands :=
        congrArg (fun store => { hands with store })
          (Value.modify_eq_self hv (Value.putAt_self hx))
      have idle : task.act x = pure (.nothing, x) := by
        cases x with
        | object type fields a =>
          cases ht
          rfl
        | _ => rfl
      dsimp only
      rw [idle]
      exact congrArg (fun hands => ((Reply.nothing, hands), h)) nothing

/-- A tracker is made to do something, and is put where it was. -/
lemma run_edit_of_some (hands : Hands) {path : List Nat} {t t' : Tracker}
    (ht : Value.trackerIn? path hands.store = some t) {task : Task} {r : Reply} {h h' : Heap}
    (ran : (task.perform t).run h = ((r, t'), h')) : (hands.edit path task.act).run h =
      ((r, { hands with store := Value.withTrackerIn t' path hands.store }), h') := by
  cases path with
  | nil => cases ht
  | cons i is =>
    obtain ⟨v, hv, ht⟩ := Option.bind_eq_some_iff.1 ht
    rw [Value.trackerAt?_eq_bind] at ht
    obtain ⟨x, hx, own⟩ := Option.bind_eq_some_iff.1 ht
    have there : hands.at? (i :: is) = some x := Option.bind_eq_some_iff.2 ⟨v, hv, hx⟩
    rw [Hands.edit, there]
    cases x with
    | object type fields a =>
      cases own
      have placed : hands.putAt (.object type fields (some t')) (i :: is) =
          { hands with store := Value.withTrackerIn t' (i :: is) hands.store } := by
        refine congrArg (fun store => { hands with store }) (Value.modify_congr fun w hw => ?_)
        cases hv.symm.trans hw
        exact (Value.withTrackerAt_eq_putAt t' hx).symm
      rw [← placed]
      show StateT.run (task.perform t >>= _ >>= _) h = _
      rw [StateT.run_bind, StateT.run_bind, ran]
      rfl
    | _ => cases own

/-- What a tracker is made to do by a task it is made to do by a step. -/
lemma allows_task (shows : w.Shows hands) (path : List Nat) {task : Task} (op : Op)
    {a : Tracker → Action Tracker} (step : w.step op = w.onTracker path a)
    (same : ∀ t h t' h', (a t).run h = (t', h') → ∃ r, (task.perform t).run h = ((r, t'), h')) :
    w.Allows (hands.edit path task.act) := by
  have tracker : w.tracker? path = Value.trackerIn? path hands.store := by
    rw [tracker?, shows.store]
  cases ht : Value.trackerIn? path hands.store with
  | none => exact Reaches.allows .refl (run_edit_of_none hands ht task w.heap) shows
  | some t =>
    rcases done : (a t).run w.heap with ⟨t', h'⟩
    obtain ⟨r, performed⟩ := same t w.heap t' h' done
    have goes := step.trans (onTracker_some (tracker.trans ht))
    rw [done] at goes
    have placed := congrArg (Value.withTrackerIn t' path) shows.store
    exact allows_of_step op goes (run_edit_of_some hands ht performed)
      ⟨placed, shows.blocks, shows.readings⟩

/-! ### Blocks -/

/-- A block that the program gets is one more in its world. -/
lemma Shows.blocks_cons (shows : w.Shows hands) (b : Block) :
    (b :: w.blocks).Perm (hands.blocks ++ [b]) :=
  (shows.blocks.cons b).trans (List.perm_append_singleton ..).symm

/-- A block that a program has is one of its world, and the others are the others. -/
lemma Shows.block (shows : w.Shows hands) {i : Nat} {b : Block} (hb : hands.blocks[i]? = some b) :
    ∃ j, w.blocks[j]? = some b ∧ (w.blocks.eraseIdx j).Perm (hands.blocks.eraseIdx i) := by
  obtain ⟨lt, rfl⟩ := List.getElem?_eq_some_iff.1 hb
  obtain ⟨j, hj, same⟩ := List.getElem_of_mem (shows.blocks.mem_iff.2 (List.getElem_mem lt))
  refine ⟨j, List.getElem?_eq_some_iff.2 ⟨hj, same⟩, ?_⟩
  have here := List.getElem_cons_eraseIdx_perm hj
  have there := List.getElem_cons_eraseIdx_perm lt
  rw [same] at here
  exact ((here.trans shows.blocks).trans there.symm).cons_inv

end World

namespace Deed

open World

/-- The program has no manager asked by itself for anything but a plain block, appoints none, and
has no block tracked that it does not have. -/
def IsWorldly : Deed → Prop
  | appoint _ | consult | allocateZeroed .. | reallocate .. | tend _ (.track _) => False
  | _ => True

variable {w : World} {u : Universe} {hands : Hands}

/-- A block that a manager hands out comes into the hands of the program. -/
lemma allocate_allowed (shows : w.Shows hands) (m : Option Manager) (size : Nat) :
    w.Allows (act u hands (.allocate m size)) := by
  rcases asked : (Action.allocate m size).run w.heap with ⟨got, h⟩
  have ran : (act u hands (.allocate m size)).run w.heap = (hands.receive got, h) := by
    rw [act, StateT.run_bind, asked]
    rfl
  cases got with
  | none =>
    have goes : w.step (.ask m size) = { w with heap := h } := by
      rw [step, asked]
    have blocks := shows.blocks.trans (.of_eq (List.append_nil _).symm)
    exact allows_of_step _ goes ran ⟨shows.store, blocks, shows.readings⟩
  | some b =>
    have goes : w.step (.ask m size) =
        { w with heap := h, blocks := b :: w.blocks, direct := b.address :: w.direct } := by
      rw [step, asked]
    exact allows_of_step _ goes ran ⟨shows.store, shows.blocks_cons b, shows.readings⟩

/-- A block that is given to a manager was in the hands of the program. -/
lemma release_allowed (shows : w.Shows hands) (m : Option Manager) (i : Nat) :
    w.Allows (act u hands (.release m i)) := by
  rw [act, Hands.give]
  cases hb : hands.blocks[i]? with
  | none => exact allows_pure shows _
  | some b =>
    obtain ⟨j, hj, others⟩ := shows.block hb
    have goes : w.step (.give m j) =
        { w with
          heap := ((Action.release m b).run w.heap).2
          blocks := w.blocks.eraseIdx j } := by
      rw [step, hj]
    exact allows_of_step _ goes rfl ⟨shows.store, others, shows.readings⟩

/-- A value is dropped from its position, where the world has it too. -/
lemma drop_allowed (shows : w.Shows hands) (i : Nat) : w.Allows (act u hands (.drop i)) := by
  rw [act, ← shows.store]
  cases hv : w.store[i]? with
  | none => exact allows_pure shows _
  | some v =>
    have goes : w.step (.drop i) =
        { w with heap := (v.drop.run w.heap).2, store := w.store.eraseIdx i } := by
      rw [step, hv]
    exact allows_of_step _ goes rfl ⟨rfl, shows.blocks, shows.readings⟩

/-- A tracker is made to do what it can be made to do in a world. -/
lemma tend_allowed (shows : w.Shows hands) (path : List Nat) {task : Task}
    (worldly : IsWorldly (.tend path task)) : w.Allows (act u hands (.tend path task)) := by
  cases task with
  | bind m =>
    refine allows_task shows path (.bind path m) rfl ?_
    rintro t h t' h' ⟨⟩
    exact ⟨_, rfl⟩
  | mark onHeap =>
    refine allows_task shows path (.mark path onHeap) rfl ?_
    rintro t h t' h' ⟨⟩
    exact ⟨_, rfl⟩
  | ensure =>
    refine allows_task shows path (.ensure path) rfl ?_
    intro t h t' h' ran
    refine ⟨.nothing, ?_⟩
    rw [Task.perform, StateT.run_bind, ran]
    rfl
  | allocate size fill =>
    refine allows_task shows path (.allocate path size fill) rfl ?_
    rintro t h t' h' ⟨⟩
    exact ⟨_, rfl⟩
  | release =>
    refine allows_task shows path (.release path) rfl ?_
    rintro t h t' h' ⟨⟩
    exact ⟨_, rfl⟩
  | track b => exact worldly.elim

/-- A block leaves the hands of the program only if there is a tracker for it. -/
lemma track_allowed (shows : w.Shows hands) (path : List Nat) (i : Nat) :
    w.Allows (act u hands (.track path i)) := by
  rw [act, Hands.give]
  cases hb : hands.blocks[i]? with
  | none => exact allows_pure shows _
  | some b =>
    obtain ⟨j, hj, others⟩ := shows.block hb
    have tracker : w.tracker? path = Value.trackerIn? path hands.store := by
      rw [tracker?, shows.store]
    let left : Hands := { hands with blocks := hands.blocks.eraseIdx i }
    cases ht : Value.trackerIn? path hands.store with
    | none =>
      refine Reaches.allows (r := .nothing) .refl ?_ shows
      dsimp only
      rw [StateT.run_bind, run_edit_of_none left ht (.track b) w.heap]
      rfl
    | some t =>
      rcases done : (t.track b).run w.heap with ⟨⟨ref, t'⟩, h'⟩
      have performed : ((Task.track b).perform t).run w.heap =
          ((.handle (some ref), t'), h') := by
        rw [Task.perform, StateT.run_bind, done]
        rfl
      have ran := run_edit_of_some left ht performed
      let later : World :=
        { w with
          heap := h'
          store := Value.withTrackerIn t' path w.store
          blocks := w.blocks.eraseIdx j }
      have goes : w.step (.track path j) = later := by
        rw [step, hj]
        dsimp only
        rw [tracker, ht, onTracker_some (tracker.trans ht), StateT.run_bind, done]
        rfl
      have shows' : later.Shows { left with store := Value.withTrackerIn t' path hands.store } :=
        ⟨congrArg (Value.withTrackerIn t' path) shows.store, others, shows.readings⟩
      refine allows_of_step _ goes (r := .handle (some ref)) ?_ shows'
      dsimp only
      rw [StateT.run_bind, ran]
      rfl

/-- A buffer is opened if it is alive. -/
lemma read_allowed (shows : w.Shows hands) (b : BufferId) :
    w.Allows (act u hands (.read b)) := by
  have ran : (act u hands (.read b)).run w.heap = StateT.run (m := Id)
      (if w.heap.isLive (.to b) then do
        borrow b
        return (.contents (w.heap.read (.to b)), { hands with readings := b :: hands.readings })
      else return (.contents none, hands)) w.heap := rfl
  by_cases live : w.heap.isLive (.to b) = true
  · rw [if_pos live] at ran
    have goes : w.step (.read b) =
        { w with heap := ((borrow b).run w.heap).2, readings := b :: w.readings } := by
      rw [step, if_pos live]
    exact allows_of_step _ goes ran
      ⟨shows.store, shows.blocks, congrArg (b :: ·) shows.readings⟩
  · rw [if_neg live] at ran
    exact Reaches.allows .refl ran shows

/-- A reading is ended if there is one. -/
lemma endReading_allowed (shows : w.Shows hands) (b : BufferId) :
    w.Allows (act u hands (.endReading b)) := by
  rw [act, ← shows.readings]
  by_cases reading : b ∈ w.readings
  · rw [if_pos reading]
    have goes : w.step (.endReading b) =
        { w with
          heap := ((endBorrow b).run w.heap).2
          readings := w.readings.erase b } := by
      rw [step, if_pos reading]
    exact allows_of_step _ goes rfl ⟨shows.store, shows.blocks, rfl⟩
  · rw [if_neg reading]
    exact allows_pure shows _

/-- Whatever is done, it can come about in the world of what the program has. -/
lemma act_allowed (builds : u.Builds (·.owned = [])) (shows : w.Shows hands) {d : Deed}
    (worldly : d.IsWorldly) : w.Allows (d.act u hands) := by
  cases d with
  | make bytes =>
    exact allows_of_step (.make bytes) rfl rfl ⟨shows.store, shows.blocks_cons _, shows.readings⟩
  | allocate m size => exact allocate_allowed shows m size
  | release m i => exact release_allowed shows m i
  | place v =>
    rw [act]
    split
    next unowned =>
      have goes : w.step (.place v) = { w with store := w.store ++ [v] } := by
        rw [step, if_pos unowned]
      have placed := congrArg (· ++ [v]) shows.store
      exact allows_of_step _ goes rfl ⟨placed, shows.blocks, shows.readings⟩
    next => exact allows_pure shows _
  | drop i => exact drop_allowed shows i
  | tend path task => exact tend_allowed shows path worldly
  | track path i => exact track_allowed shows path i
  | read b => exact read_allowed shows b
  | endReading b => exact endReading_allowed shows b
  | construct depth t c initials =>
    obtain ⟨message, ran⟩ := u.run_constructReporting depth t (hands.template c initials) w.heap
    refine allows_keep builds shows (m := .construct depth t (hands.template c initials)) rfl rfl
      message ?_
    rw [act, StateT.run_bind, ran]
    rfl
  | constructAt path depth t c initials =>
    refine allows_edit builds shows
      (e := .constructAt depth t (hands.template c initials)) rfl path ?_
    rintro x h y h' ⟨⟩
    exact ⟨_, rfl⟩
  | duplicate t source recursive =>
    rw [act]
    cases hands.at? source with
    | none => exact allows_pure shows _
    | some v => exact allows_keep builds shows (m := .duplicate t v recursive) rfl rfl none rfl
  | duplicateOver t target source recursive =>
    rw [act]
    cases hands.at? source with
    | none => exact allows_pure shows _
    | some v =>
      refine allows_edit builds shows (e := .duplicateOver t v recursive) rfl target ?_
      rintro x h y h' ⟨⟩
      exact ⟨_, rfl⟩
  | free t path =>
    refine allows_edit builds shows (e := .free t) rfl path ?_
    rintro x h y h' ⟨⟩
    exact ⟨_, rfl⟩
  | _ => exact worldly.elim

/-- And so can a whole run. -/
lemma run_allowed (builds : u.Builds (·.owned = [])) {deeds : List Deed}
    (worldly : ∀ d ∈ deeds, d.IsWorldly) {w : World} {hands : Hands} (shows : w.Shows hands) :
    ∃ w', Reaches w w' ∧ w'.Shows ((run u deeds hands).run w.heap).1.2 ∧
      w'.heap = ((run u deeds hands).run w.heap).2 := by
  induction deeds generalizing w hands with
  | nil => exact ⟨w, .refl, shows, rfl⟩
  | cons d deeds ih =>
    obtain ⟨first, rest⟩ := List.forall_mem_cons.1 worldly
    obtain ⟨w₁, reaches, shows₁, heap₁⟩ := act_allowed builds shows first
    obtain ⟨w₂, later, shows₂, heap₂⟩ := ih rest shows₁
    refine ⟨w₂, reaches.trans later, ?_, ?_⟩
    · rw [heap₁] at shows₂
      exact shows₂
    · rw [heap₁] at heap₂
      exact heap₂

/-- After every run no buffer is listed twice, and those are alive that a tracker of some value in
the hands of the program lists or that it is reading. -/
theorem run_live (builds : u.Builds (·.owned = [])) (arenas : Array Arena) {deeds : List Deed}
    (worldly : ∀ d ∈ deeds, d.IsWorldly) :
    let r := (run u deeds {}).run { arenas }
    (Value.ownedByAll r.1.2.store).Nodup ∧ ∀ b, r.2.isLive (.to b) = true ↔
      b ∈ Value.ownedByAll r.1.2.store ∨ b ∈ r.1.2.readings := by
  intro r
  have shows : (start arenas).Shows {} := ⟨rfl, .refl _, rfl⟩
  obtain ⟨w, reached, shows, heap⟩ := run_allowed builds worldly shows
  obtain ⟨_, sound⟩ := reached.passes (sound_start arenas)
  have listed : w.listed = Value.ownedByAll r.1.2.store := congrArg Value.ownedByAll shows.store
  have readings : w.readings = r.1.2.readings := shows.readings
  have heap : w.heap = r.2 := heap
  rw [← listed, ← readings, ← heap]
  exact ⟨sound.ledger.nodup, sound.isLive_iff⟩

end Deed

end Metaobject
