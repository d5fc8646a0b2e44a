import Metaobject.Hook.Stock
import Metaobject.Proofs.Lifecycle.Substitution

/-!
# The system stands in

A program asks managers for blocks and gives blocks back, binds trackers and lets them allocate,
constructs, duplicates and frees values, and appoints the manager of the process. `Deed` is all that
it may do next, and `Deed.run` does one thing after the other and collects the replies.

A manager that lacks malloc or free is never asked for anything, whatever else it has, and wherever
it is named the program might as well name that of the system: it gets the same replies and comes to
the same state, but for the managers in it. That is `Deed.incomplete_unseen`.
-/

namespace Metaobject

open Metaobject.Action

/-- What a program has in its hands. -/
structure Hands where
  store : List Value := []
  blocks : List Block := []
  /-- The buffers that it is reading, as often as it opened them. -/
  readings : List BufferId := []

/-- What a program gets to know. -/
inductive Reply where
  /-- There was nothing to be done. -/
  | nothing
  | manager (m : Manager)
  | flag (yes : Bool)
  | block (got : Option Block)
  | handle (got : Option Handle)
  | contents (bytes : Option Bytes)
  /-- A value or the reason why there is none. -/
  | built (r : Except Fault Value) (message : Option Message)
  /-- What is in some place, and the reason why nothing else is. -/
  | left (v : Value) (fault : Option Fault) (message : Option Message)

/-- What a tracker may be made to do. -/
inductive Task where
  | bind (m : Option Manager)
  | mark (onHeap : Bool)
  | ensure
  | track (b : Block)
  | allocate (size : Nat) (fill : Bytes → Bytes)
  | release

/-- What a program may do next. A path leads to a value, from a position in the store. The initials
of a template may be a value of the store as well. -/
inductive Deed where
  | appoint (m : Manager)
  | consult
  /-- Makes a block. -/
  | make (bytes : Bytes)
  | allocate (m : Option Manager) (size : Nat)
  | allocateZeroed (m : Option Manager) (count size : Nat)
  | reallocate (m : Option Manager) (i size : Nat)
  | release (m : Option Manager) (i : Nat)
  /-- Makes a value, with trackers that own nothing yet. -/
  | place (v : Value)
  | drop (i : Nat)
  | tend (path : List Nat) (task : Task)
  /-- Has a block in its hands tracked. -/
  | track (path : List Nat) (i : Nat)
  /-- Opens a buffer that is alive. -/
  | read (b : BufferId)
  | endReading (b : BufferId)
  | construct (depth : Nat) (t : TypeId) (c : Template) (initials : Option (List Nat))
  | constructAt (path : List Nat) (depth : Nat) (t : TypeId) (c : Template)
    (initials : Option (List Nat))
  | duplicate (t : TypeId) (source : List Nat) (recursive : Bool)
  | duplicateOver (t : TypeId) (target source : List Nat) (recursive : Bool)
  | free (t : TypeId) (path : List Nat)

namespace Hands

/-- The value at the end of a path. -/
def at? (w : Hands) : List Nat → Option Value
  | [] => none
  | i :: is => (w.store[i]?).bind (Value.at? is)

/-- Puts a value in the place of the one at the end of a path. -/
def putAt (w : Hands) (v : Value) : List Nat → Hands
  | [] => w
  | i :: is => { w with store := w.store.modify i (v.putAt is) }

/-- A block comes into the hands of the program. -/
def receive (w : Hands) (got : Option Block) : Reply × Hands :=
  (.block got, { w with blocks := w.blocks ++ got.toList })

/-- Does something with a block, which leaves the hands of the program. -/
def give (w : Hands) (i : Nat) (f : Block → Hands → Action (Reply × Hands)) :
    Action (Reply × Hands) :=
  match w.blocks[i]? with
  | none => return (.nothing, w)
  | some b => f b { w with blocks := w.blocks.eraseIdx i }

/-- A value is added to the store, if there is one. -/
def keep (w : Hands) (r : Except Fault Value) (message : Option Message) : Reply × Hands :=
  (.built r message, { w with store := w.store ++ r.toOption.toList })

/-- Does something to the value at the end of a path. -/
def edit (w : Hands) (path : List Nat) (f : Value → Action (Reply × Value)) :
    Action (Reply × Hands) :=
  match w.at? path with
  | none => return (.nothing, w)
  | some v => do
    let (r, v) ← f v
    return (r, w.putAt v path)

/-- The template, with the initials at the end of a path. -/
def template (w : Hands) (c : Template) (initials : Option (List Nat)) : Template :=
  match initials with
  | none => c
  | some path => { c with initials := w.at? path }

end Hands

namespace Task

/-- Has a tracker do something, and tells what came of it. -/
def perform (t : Tracker) : Task → Action (Reply × Tracker)
  | bind m => return (.nothing, { t with manager := m })
  | mark onHeap => return (.nothing, { t with onHeap })
  | ensure => do return (.nothing, ← t.ensureSetup)
  | track b => do
    let (ref, t) ← t.track b
    return (.handle (some ref), t)
  | allocate size fill => do
    let (ref, t) ← t.allocateWith size fill
    return (.handle ref, t)
  | release => do
    let (onHeap, t) ← t.release
    return (.flag onHeap, t)

/-- Makes the tracker of an object do something. -/
def act (task : Task) : Value → Action (Reply × Value)
  | .object type fields (some t) => do
    let (r, t) ← task.perform t
    return (r, .object type fields (some t))
  | v => return (.nothing, v)

end Task

namespace Deed

/-- Does something, and tells what came of it. -/
def act (u : Universe) (w : Hands) : Deed → Action (Reply × Hands)
  | appoint m => do return (.flag (← setProcessManager m), w)
  | consult => do return (.manager (← processManager), w)
  | make bytes => do return w.receive (some (← mint bytes))
  | allocate m size => do return w.receive (← Action.allocate m size)
  | allocateZeroed m count size => do return w.receive (← Action.allocateZeroed m count size)
  | reallocate m i size => w.give i fun b w => do return w.receive (← Action.reallocate m b size)
  | release m i => w.give i fun b w => do
    Action.release m b
    return (.nothing, w)
  | place v => return (.nothing, if v.owned = [] then { w with store := w.store ++ [v] } else w)
  | drop i =>
    match w.store[i]? with
    | none => return (.nothing, w)
    | some v => do
      v.drop
      return (.nothing, { w with store := w.store.eraseIdx i })
  | tend path task => w.edit path task.act
  | track path i => do
    match ← w.give i fun b w => w.edit path (Task.track b).act with
    | (.nothing, _) => return (.nothing, w)
    | r => return r
  | read b => do
    let h ← get
    if h.isLive (.to b) then
      borrow b
      return (.contents (h.read (.to b)), { w with readings := b :: w.readings })
    else return (.contents none, w)
  | endReading b => do
    if b ∈ w.readings then
      endBorrow b
      return (.nothing, { w with readings := w.readings.erase b })
    else return (.nothing, w)
  | construct depth t c initials => do
    let (r, message) ← u.constructReporting depth t (w.template c initials)
    return w.keep r message
  | constructAt path depth t c initials =>
    w.edit path fun v => do
      let (v, fault, message) ← u.constructAt depth t v (w.template c initials)
      return (.left v fault message, v)
  | duplicate t source recursive =>
    match w.at? source with
    | none => return (.nothing, w)
    | some v => do return w.keep (← (u.duplicate t recursive v).run) none
  | duplicateOver t target source recursive =>
    match w.at? source with
    | none => return (.nothing, w)
    | some v =>
      w.edit target fun there => do
        let (v, fault) ← u.duplicateOver t there v recursive
        return (.left v fault none, v)
  | free t path =>
    w.edit path fun v => do
      let (v, violation) ← u.free t v
      return (.left v (violation.map .violated) none, v)

/-- Does one thing after the other. -/
def run (u : Universe) : List Deed → Hands → Action (List Reply × Hands)
  | [], w => return ([], w)
  | d :: ds, w => do
    let (r, w) ← d.act u w
    let (rs, w) ← run u ds w
    return (r :: rs, w)

end Deed

/-! ### With other managers -/

namespace Substitution

variable (σ : Substitution)

/-- Everything in the hands of a program, with the other managers. -/
def hands (w : Hands) : Hands :=
  { w with store := w.store.map σ.value }

/-- The reply with the other managers in it. -/
def reply : Reply → Reply
  | .manager m => .manager (σ.manager m)
  | .built r message => .built (r.map σ.value) message
  | .left v fault message => .left (σ.value v) fault message
  | r => r

/-- The task with the other manager, if it binds one. -/
def task : Task → Task
  | .bind m => .bind (m.map σ.manager)
  | k => k

/-- The deed with the other managers, wherever it names one or brings one with it. -/
def deed : Deed → Deed
  | .appoint m => .appoint (σ.manager m)
  | .allocate m size => .allocate (m.map σ.manager) size
  | .allocateZeroed m count size => .allocateZeroed (m.map σ.manager) count size
  | .reallocate m i size => .reallocate (m.map σ.manager) i size
  | .release m i => .release (m.map σ.manager) i
  | .place v => .place (σ.value v)
  | .tend path task => .tend path (σ.task task)
  | .construct depth t c initials => .construct depth t (σ.template c) initials
  | .constructAt path depth t c initials => .constructAt path depth t (σ.template c) initials
  | d => d

end Substitution

/-- The program only names managers that there are. -/
def Deed.KnownTo (σ : Substitution) : Deed → Prop
  | appoint m => σ.known m
  | allocate m _ | allocateZeroed m .. | reallocate m .. | release m _
  | tend _ (.bind m) => σ.Knows m
  | place v => v.KnownTo σ
  | construct _ _ c _ | constructAt _ _ _ c _ => c.KnownTo σ
  | _ => True

/-- The values of the program only have to do with managers that there are. -/
def Hands.KnownTo (σ : Substitution) (w : Hands) : Prop :=
  ∀ v ∈ w.store, v.KnownTo σ

variable {σ : Substitution} {u u' : Universe} {w : Hands}

/-- Something is done, and the program goes on with what it has then. -/
abbrev Action.Goes (σ : Substitution) (a a' : Action (Reply × Hands)) : Prop :=
  Mirrors σ (fun r => (σ.reply r.1, σ.hands r.2)) (·.2.KnownTo σ) a a'

namespace Hands

/-- At the end of a path the program has the image of what it had there. -/
lemma at?_substitution (w : Hands) (path : List Nat) :
    (σ.hands w).at? path = (w.at? path).map σ.value := by
  cases path with
  | nil => rfl
  | cons i is =>
    show ((w.store.map σ.value)[i]?).bind _ = _
    rw [List.getElem?_map, Hands.at?]
    cases w.store[i]? with
    | none => rfl
    | some v => exact Substitution.at?_value is v

/-- A value is put at the end of a path in both. -/
lemma putAt_substitution (w : Hands) (v : Value) (path : List Nat) :
    (σ.hands w).putAt (σ.value v) path = σ.hands (w.putAt v path) := by
  cases path with
  | nil => rfl
  | cons i is =>
    exact congrArg (fun store => { σ.hands w with store })
      (Substitution.modify_value w.store i (Substitution.putAt_value is · v))

/-- What is at the end of a path names managers that there are. -/
lemma KnownTo.at? (known : w.KnownTo σ) {path : List Nat} {v : Value}
    (hv : w.at? path = some v) : v.KnownTo σ := by
  cases path with
  | nil => cases hv
  | cons i is =>
    obtain ⟨x, hx, hv⟩ := Option.bind_eq_some_iff.1 hv
    exact (known x (List.mem_of_getElem? hx)).at? hv

/-- So do all values after another one was put there. -/
lemma KnownTo.putAt (known : w.KnownTo σ) {v : Value} (hv : v.KnownTo σ) (path : List Nat) :
    (w.putAt v path).KnownTo σ := by
  cases path with
  | nil => exact known
  | cons i is =>
    exact Value.forall_mem_modify known i fun x hx => hx.putAt is hv

/-- A value is edited in both, if each way to edit it mirrors. -/
lemma mirrors_edit (known : w.KnownTo σ) (path : List Nat) {f f' : Value → Action (Reply × Value)}
    (each : ∀ v, v.KnownTo σ → Mirrors σ (fun r => (σ.reply r.1, σ.value r.2)) (·.2.KnownTo σ)
      (f v) (f' (σ.value v))) :
    Goes σ (w.edit path f) ((σ.hands w).edit path f') := by
  rw [edit, edit, at?_substitution]
  cases hv : w.at? path with
  | none => exact .pure rfl known
  | some v =>
    exact .bind (each v (known.at? hv)) fun r left =>
      .pure (congrArg (σ.reply r.1, ·) (putAt_substitution w r.2 path)) (known.putAt left path)

/-- The initials of a template are the image of what is at the end of the path. -/
lemma template_substitution (w : Hands) (c : Template) (initials : Option (List Nat)) :
    (σ.hands w).template (σ.template c) initials = σ.template (w.template c initials) := by
  cases initials with
  | none => rfl
  | some path =>
    rw [template, template, at?_substitution]
    rfl

/-- They name managers that there are. -/
lemma KnownTo.template (known : w.KnownTo σ) {c : Template} (hc : c.KnownTo σ)
    (initials : Option (List Nat)) : (w.template c initials).KnownTo σ := by
  cases initials with
  | none => exact hc
  | some path => exact ⟨hc.manager, fun v hv => known.at? hv⟩

/-- A value that was built is one more in the store. -/
lemma goes_keep (known : w.KnownTo σ) {r : Except Fault Value} (made : ∀ v, r = .ok v → v.KnownTo σ)
    (message : Option Message) :
    Goes σ (pure (w.keep r message)) (pure ((σ.hands w).keep (r.map σ.value) message)) := by
  have store : w.store.map σ.value ++ (r.map σ.value).toOption.toList =
      (w.store ++ r.toOption.toList).map σ.value := by
    rw [List.map_append]
    cases r <;> rfl
  refine .pure (congrArg (fun store =>
    (Reply.built (r.map σ.value) message, ({ σ.hands w with store } : Hands))) store) fun v hv => ?_
  obtain old | new := List.mem_append.1 hv
  · exact known v old
  · cases r with
    | error fault => cases new
    | ok x =>
      cases List.mem_singleton.1 new
      exact made _ rfl

/-- A block that was handed out is one more in the hands of the program. -/
lemma goes_receive (known : w.KnownTo σ) {a a' : Action (Option Block)} (same : Same σ a a') :
    Goes σ (do return w.receive (← a)) (do return (σ.hands w).receive (← a')) :=
  .bind same fun _ _ => .pure rfl known

/-- A block leaves the hands of both programs, or neither has it. -/
lemma goes_give (known : w.KnownTo σ) (i : Nat) {f f' : Block → Hands → Action (Reply × Hands)}
    (each : ∀ b w, w.KnownTo σ → Goes σ (f b w) (f' b (σ.hands w))) :
    Goes σ (w.give i f) ((σ.hands w).give i f') := by
  have blocks : (σ.hands w).blocks = w.blocks := rfl
  rw [give, give, blocks]
  cases w.blocks[i]? with
  | none => exact .pure rfl known
  | some b => exact each b { w with blocks := _ } known

end Hands

/-! ### One deed, and all of them -/

/-- A tracker does the same, and answers the same. -/
lemma Task.mirrors_perform {t : Tracker} (known : t.KnownTo σ) {task : Task}
    (binds : ∀ m, task = .bind m → σ.Knows m) :
    Mirrors σ (fun r => (σ.reply r.1, σ.tracker r.2)) (·.2.KnownTo σ) (task.perform t)
      ((σ.task task).perform (σ.tracker t)) := by
  cases task with
  | bind m => exact .pure rfl ⟨binds m rfl, known.setup⟩
  | mark onHeap => exact .pure rfl ⟨known.manager, known.setup⟩
  | ensure => exact .bind (Tracker.mirrors_ensureSetup known) fun t known => .pure rfl known
  | track b => exact .bind (Tracker.mirrors_track known b) fun r known => .pure rfl known
  | allocate size fill =>
    exact .bind (Tracker.mirrors_allocateWith known size fill) fun r known => .pure rfl known
  | release => exact .bind (Tracker.mirrors_release known) fun r known => .pure rfl known

/-- So does the object that it belongs to, or there is no tracker in both. -/
lemma Task.mirrors_act {v : Value} (known : v.KnownTo σ) {task : Task}
    (binds : ∀ m, task = .bind m → σ.Knows m) :
    Mirrors σ (fun r => (σ.reply r.1, σ.value r.2)) (·.2.KnownTo σ) (task.act v)
      ((σ.task task).act (σ.value v)) := by
  cases v with
  | object type vs a =>
    cases a with
    | none => exact .pure rfl known
    | some t =>
      obtain ⟨inside, own⟩ := Value.trackers_object.1 known
      exact .bind (mirrors_perform (own t rfl) binds) fun r left =>
        .pure rfl (Value.knownTo_tracked inside left)
  | _ => exact .pure rfl known

namespace Deed

/-- One thing that the program does comes to the same. -/
lemma goes_act (types : u.Mirrors σ u') (known : w.KnownTo σ) {d : Deed} (hd : d.KnownTo σ) :
    Goes σ (d.act u w) ((σ.deed d).act u' (σ.hands w)) := by
  cases d with
  | appoint m =>
    exact .bind (mirrors_setProcessManager hd) fun _ _ => .pure rfl known
  | consult => exact .bind mirrors_processManager fun _ _ => .pure rfl known
  | make bytes => exact .bind (mirrors_mint bytes) fun _ _ => .pure rfl known
  | allocate m size => exact Hands.goes_receive known (mirrors_allocate hd size)
  | allocateZeroed m count size =>
    exact Hands.goes_receive known (mirrors_allocateZeroed hd count size)
  | reallocate m i size =>
    exact Hands.goes_give known i fun b w known =>
      Hands.goes_receive known (mirrors_reallocate hd b size)
  | release m i =>
    exact Hands.goes_give known i fun b w known =>
      .bind (mirrors_release hd b) fun _ _ => .pure rfl known
  | place v =>
    have owned := Substitution.owned_value (σ := σ) v
    rw [act, Substitution.deed, act, owned]
    split
    · refine .pure ?_ (List.forall_mem_append.2 ⟨known, List.forall_mem_singleton.2 hd⟩)
      have store : w.store.map σ.value ++ [σ.value v] = (w.store ++ [v]).map σ.value := by
        rw [List.map_append, List.map_singleton]
      exact congrArg (fun store => (Reply.nothing, ({ σ.hands w with store } : Hands))) store
    · exact .pure rfl known
  | drop i =>
    have store : (σ.hands w).store[i]? = w.store[i]?.map σ.value := List.getElem?_map
    show Goes σ _ (act u' (σ.hands w) (.drop i))
    rw [act, act, store]
    cases w.store[i]? with
    | none => exact .pure rfl known
    | some v =>
      have rest : (w.store.map σ.value).eraseIdx i = (w.store.eraseIdx i).map σ.value := by
        rw [List.eraseIdx_eq_take_drop_succ, List.eraseIdx_eq_take_drop_succ, List.map_append,
          List.map_take, List.map_drop]
      refine .bind v.mirrors_drop fun _ _ => .pure ?_ fun v hv => known v ?_
      · exact congrArg (fun store => (Reply.nothing, ({ σ.hands w with store } : Hands))) rest
      · exact List.mem_of_mem_eraseIdx hv
  | tend path task =>
    refine Hands.mirrors_edit known path fun v hv => Task.mirrors_act hv ?_
    rintro m rfl
    exact hd
  | track path i =>
    have taken : Goes σ (w.give i fun b w => w.edit path (Task.track b).act)
        ((σ.hands w).give i fun b w => w.edit path (Task.track b).act) :=
      Hands.goes_give known i fun b w known => Hands.mirrors_edit known path fun v hv =>
        show Mirrors σ _ _ _ ((σ.task (.track b)).act (σ.value v)) from Task.mirrors_act hv nofun
    refine .bind taken ?_
    rintro ⟨r, w'⟩ left
    cases r with
    | nothing => exact .pure rfl known
    | _ => exact .pure rfl left
  | read b =>
    refine .get fun x x' like => ?_
    rw [like.isLive, like.read]
    split
    · exact .bind (mirrors_borrow b) fun _ _ => .pure rfl known
    · exact .pure rfl known
  | endReading b =>
    have readings : (σ.hands w).readings = w.readings := rfl
    show Goes σ _ (act u' (σ.hands w) (.endReading b))
    rw [act, act, readings]
    split
    · exact .bind (mirrors_endBorrow b) fun _ _ => .pure rfl known
    · exact .pure rfl known
  | construct depth t c initials =>
    rw [act, Substitution.deed, act, Hands.template_substitution]
    exact .bind (types.constructReporting depth t (known.template hd initials)) fun r made =>
      Hands.goes_keep known made r.2
  | constructAt path depth t c initials =>
    rw [act, Substitution.deed, act, Hands.template_substitution]
    exact Hands.mirrors_edit known path fun v hv =>
      .bind (types.constructAt depth t hv (known.template hd initials)) fun r left =>
        .pure rfl left
  | duplicate t source recursive =>
    show Goes σ _ (act u' (σ.hands w) (.duplicate t source recursive))
    rw [act, act, Hands.at?_substitution]
    cases hv : w.at? source with
    | none => exact .pure rfl known
    | some v =>
      exact .bind (types.duplicate v (known.at? hv) t recursive) fun r made =>
        Hands.goes_keep known made none
  | duplicateOver t target source recursive =>
    show Goes σ _ (act u' (σ.hands w) (.duplicateOver t target source recursive))
    rw [act, act, Hands.at?_substitution]
    cases hv : w.at? source with
    | none => exact .pure rfl known
    | some v =>
      exact Hands.mirrors_edit known target fun there hthere =>
        .bind (types.duplicateOver t hthere (known.at? hv) recursive) fun r left => .pure rfl left
  | free t path =>
    exact Hands.mirrors_edit known path fun v hv =>
      .bind (types.free v hv t) fun r left => .pure rfl left

/-- And so does all that it does. -/
lemma mirrors_run (types : u.Mirrors σ u') {deeds : List Deed} (hd : ∀ d ∈ deeds, d.KnownTo σ) :
    ∀ {w : Hands}, w.KnownTo σ →
      Mirrors σ (fun r => (r.1.map σ.reply, σ.hands r.2)) (·.2.KnownTo σ) (run u deeds w)
        (run u' (deeds.map σ.deed) (σ.hands w)) := by
  induction deeds with
  | nil => exact fun known => .pure rfl known
  | cons d deeds ih =>
    intro w known
    obtain ⟨first, rest⟩ := List.forall_mem_cons.1 hd
    exact .bind (goes_act types known first) fun r left =>
      .bind (ih rest left) fun rs known => .pure rfl known

end Deed

/-! ### Who is asked -/

/-- The allocator that a request was put to. -/
def Event.arena? : Event → Option ArenaId
  | malloc s .. => some s.malloc
  | calloc s .. => s.calloc
  | realloc s .. => s.realloc
  | free s _ => some s.free
  | _ => none

/-- One of the operations is that of the allocator. -/
def Service.Has (s : Service) (a : ArenaId) : Prop :=
  s.malloc = a ∨ s.free = a ∨ s.calloc = some a ∨ s.realloc = some a

/-- An event of an arena is a request to operations in it. -/
lemma Event.has_of_arena {e : Event} {a : ArenaId} (he : e.arena? = some a) :
    ∃ s, e.service? = some s ∧ s.Has a := by
  cases e with
  | malloc s => exact ⟨s, rfl, .inl (Option.some.inj he)⟩
  | free s => exact ⟨s, rfl, .inr (.inl (Option.some.inj he))⟩
  | calloc s => exact ⟨s, rfl, .inr (.inr (.inl he))⟩
  | realloc s => exact ⟨s, rfl, .inr (.inr (.inr he))⟩
  | _ => cases he

/-- The operations of the system are in no arena of their own. -/
lemma Service.not_has_system {a : ArenaId} (ha : a ≠ .system) : ¬ Service.system.Has a := by
  rintro (rfl | rfl | calloc | realloc)
  · exact ha rfl
  · exact ha rfl
  · exact ha (Option.some.inj calloc).symm
  · exact ha (Option.some.inj realloc).symm

/-- An allocator is only asked if it is that of the system or if a manager has it that serves. -/
lemma Event.Within.arena_ne {asks : Option Manager → Prop} {e : Event} (within : e.Within asks)
    {a : ArenaId} (ha : a ≠ .system)
    (spared : ∀ m s, asks (some m) → m.service? = some s → ¬ s.Has a) : e.arena? ≠ some a := by
  intro he
  obtain ⟨s, hs, has⟩ := Event.has_of_arena he
  obtain ⟨m, asked, rfl⟩ := within s hs
  cases m with
  | none => exact Service.not_has_system ha has
  | some m =>
    cases hm : m.service? with
    | none =>
      rw [Service.of, Option.bind_some, hm] at has
      exact Service.not_has_system ha has
    | some s =>
      rw [Service.of, Option.bind_some, hm] at has
      exact spared m s asked hm has

/-- Whether a program names a manager that lacks malloc or free or that of the system in its place
makes no difference to it: it gets the same replies, but for the manager itself, and comes to the
same blocks, buffers and values. And allocators that no complete manager in use has, such as those
of the operations that the incomplete one may well have, are never asked for anything. -/
theorem Deed.incomplete_unseen {m₀ : Manager} (lacks : m₀.malloc = none ∨ m₀.free = none)
    (used : Manager → Prop) {u u' : Universe} (types : u.Mirrors (.ofIncomplete m₀ lacks used) u')
    (arenas : Array Arena) {deeds : List Deed}
    (known : ∀ d ∈ deeds, d.KnownTo (.ofIncomplete m₀ lacks used)) :
    let σ := Substitution.ofIncomplete m₀ lacks used
    let first := (run u deeds {}).run { arenas }
    let second := (run u' (deeds.map σ.deed) {}).run { arenas }
    second.1.1 = first.1.1.map σ.reply ∧ second.1.2 = σ.hands first.1.2 ∧
      first.2.Mirrors σ second.2 ∧
      ∀ a, a ≠ .system → (∀ m s, used m → m.service? = some s → ¬ s.Has a) →
        ∀ e ∈ first.2.trace, e.arena? ≠ some a := by
  intro σ first second
  obtain ⟨answers, -, mirrors⟩ :=
    mirrors_run types known (w := {}) nofun _ _ (Heap.Mirrors.start σ arenas)
  obtain ⟨replies, hands⟩ := Prod.mk.inj answers
  refine ⟨replies, hands, mirrors, fun a ha spared e he => ?_⟩
  refine (mirrors.requests e he).arena_ne ha fun m s asked serves => ?_
  obtain rfl | inUse := asked m rfl
  · cases serves
    exact Service.not_has_system ha
  · exact spared m s inUse serves

/-! ### A manager without malloc and free -/

/-- A manager with a calloc and a realloc, and with nothing else. -/
def headless : Manager :=
  { calloc := some (.custom 0), realloc := some (.custom 0) }

/-- The headless manager has no malloc. -/
lemma lacks_headless : headless.malloc = none ∨ headless.free = none :=
  .inl rfl

namespace Universe

/-- Types with one more struct, of a buffer with a tracker. Its manager is headless, and it makes
raw copies of initials. -/
def withPouch : Universe :=
  let pouch : Declaration :=
    { name := "Pouch", shape := .struct [⟨"data", .typed 14, true, none⟩] none true
      manager := some headless
      behavior := some { construct := some (ConstructHook.answer .initialsOnly) } }
  match builtin.declare {} pouch with
  | some (_, u) => u
  | none => builtin

/-- The other types are those that are always there. -/
lemma desc_withPouch (t : TypeId) : t = 19 ∨ withPouch.desc t = builtin.desc t := by
  have made : withPouch.descriptors = builtin.descriptors.push _ := rfl
  rw [desc, made, Descriptor.among_push]
  split
  · rename_i pouch
    exact .inl pouch
  · exact .inr rfl

/-- No type that is always there has a manager. -/
lemma manager_builtin (t : TypeId) : (builtin.desc t).manager = none := by
  have all : builtin.descriptors.toList.all (·.manager.isNone) = true := rfl
  unfold desc Descriptor.among
  cases ht : builtin.descriptors[t]? with
  | none => rfl
  | some d =>
    have mem := (Array.mem_of_getElem? ht).val
    exact Option.isNone_iff_eq_none.1 (List.all_eq_true.1 all d mem)

variable {σ : Substitution}

/-- The hook copies the initials, if there are any. -/
lemma answer_initialsOnly (name : String) (c : Template) :
    ConstructHook.initialsOnly.answer name c =
      c.initials?.elim .decline fun v => .built v.rawCopy :=
  rfl

/-- A hook that makes raw copies does not tell managers apart. -/
lemma mirrors_initialsOnly (name : String) :
    Behavior.Mirrors σ name { construct := some (ConstructHook.answer .initialsOnly) }
      { construct := some (ConstructHook.answer .initialsOnly) } where
  subtype := rfl
  comparer _ _ _ _ _ _ _ := rfl
  construct c _ := by
    refine congrArg some ?_
    show ConstructHook.answer .initialsOnly name _ =
      σ.constructed (ConstructHook.answer .initialsOnly name c)
    rw [answer_initialsOnly, answer_initialsOnly, Substitution.initials?_template]
    cases c.initials? with
    | none => rfl
    | some v => exact congrArg ConstructAnswer.built (Substitution.rawCopy_value v)
  free _ _ := rfl
  duplicate _ _ _ := rfl
  constructs hook c v hb known built := by
    cases hb
    rw [answer_initialsOnly] at built
    cases hv : c.initials? with
    | none =>
      rw [hv] at built
      cases built
    | some w =>
      rw [hv] at built
      cases built
      exact (known.initials? w hv).rawCopy
  duplicates := nofun

/-- A pouch mirrors the pouch with another manager. -/
lemma mirrors_withPouch (inUse : σ.known headless) : withPouch.Mirrors σ (σ.types withPouch) := by
  refine Substitution.mirrors_types (fun t b hb => ?_) (fun t l f p hl hf hp => ?_)
    (fun t v hv => ?_) fun t => ?_
  all_goals obtain rfl | builtin := desc_withPouch t
  case refine_1.inl =>
    cases hb
    exact mirrors_initialsOnly _
  case refine_1.inr =>
    rw [builtin, builtin_hookFree] at hb
    cases hb
  case refine_2.inl =>
    cases hl
    cases List.mem_singleton.1 hf
    cases hp
  case refine_2.inr =>
    have plain : (Universe.builtin.desc t).kind.layout? = none := layout?_builtin t
    rw [← builtin, hl] at plain
    cases plain
  case refine_3.inl => cases hv
  case refine_3.inr =>
    rw [builtin] at hv
    obtain ⟨k, _, rfl⟩ | ⟨k, _, rfl⟩ := zero_of_canonical_builtin hv
    · exact Value.trackers_of_plain rfl
    · exact Value.trackers_of_plain rfl
  case refine_4.inl => exact Substitution.knows_some inUse
  case refine_4.inr =>
    rw [builtin, manager_builtin]
    exact Substitution.knows_none

/-- What a program does with the manager and with pouches. -/
def errands : List Deed :=
  [.appoint headless, .consult, .allocate (some headless) 2, .allocateZeroed (some headless) 1 2,
    .reallocate (some headless) 0 3, .release (some headless) 0,
    .place (.object 19 [.buffer (.to 0)]
      (some { setup := some ⟨"late", [.bind (some headless)]⟩ })),
    .tend [0] (.allocate 1 id), .construct 2 19 { manager := some headless } none,
    .construct 2 19 {} (some [0]), .tend [0] (.bind (some headless)), .duplicate 19 [0] true,
    .free 19 [0]]

/-- The errands name no other manager. -/
lemma knownTo_errands (inUse : σ.known headless) : ∀ d ∈ errands, d.KnownTo σ := by
  have named : σ.Knows (some headless) := Substitution.knows_some inUse
  have placed : (Value.object 19 [.buffer (.to 0)]
      (some { setup := some ⟨"late", [.bind (some headless)]⟩ })).KnownTo σ := by
    refine Value.trackers_object.2 ⟨List.forall_mem_singleton.2 (Value.trackers_of_plain rfl), ?_⟩
    rintro _ ⟨⟩
    refine ⟨Substitution.knows_none, ?_⟩
    rintro _ ⟨⟩ m hm
    cases List.mem_singleton.1 hm
    exact named
  simp only [errands, List.forall_mem_cons]
  exact ⟨inUse, trivial, named, named, named, named, placed, trivial,
    Template.knownTo_of_manager named, Template.knownTo_of_manager Substitution.knows_none, named,
    trivial, trivial, List.forall_mem_nil _⟩

/-- The manager has a calloc and a realloc that refuse everything. They are not asked. -/
theorem incomplete_unseen_pouch :
    let σ := Substitution.ofIncomplete headless lacks_headless (· = headless)
    let arenas : Array Arena := #[{ allocator := .metered 7 (some 0) 0 }]
    withPouch.Mirrors σ (σ.types withPouch) ∧ (∀ d ∈ errands, d.KnownTo σ) ∧
      ((Deed.run withPouch (errands.take 5) {}).run { arenas }).1.1 =
        [.flag true, .manager headless, .block (some ⟨0, [0, 0]⟩), .block (some ⟨1, [0, 0]⟩),
          .block (some ⟨2, [0, 0, 0]⟩)] ∧
      ((Deed.run (σ.types withPouch) (errands.map σ.deed) {}).run { arenas }).1.1 =
        ((Deed.run withPouch errands {}).run { arenas }).1.1.map σ.reply ∧
      ∀ e ∈ ((Deed.run withPouch errands {}).run { arenas }).2.trace,
        e.arena? ≠ some (.custom 0) := by
  have inUse : (Substitution.ofIncomplete headless lacks_headless (· = headless)).known headless :=
    .inr rfl
  have types := mirrors_withPouch inUse
  have known := knownTo_errands inUse
  obtain ⟨replies, -, -, spared⟩ :=
    Deed.incomplete_unseen lacks_headless (· = headless) types
      #[{ allocator := .metered 7 (some 0) 0 }] known
  refine ⟨types, known, rfl, replies, spared _ nofun ?_⟩
  rintro _ s rfl ⟨⟩

end Universe

end Metaobject
