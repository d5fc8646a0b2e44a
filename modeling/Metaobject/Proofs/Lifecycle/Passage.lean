import Metaobject.Lifecycle.Access
import Metaobject.Lifecycle.Construction
import Metaobject.Lifecycle.Duplication
import Metaobject.Proofs.Lifecycle.Assembly
import Metaobject.Proofs.Storage.Passage

/-!
# Values in the passage of time

A value is within a regime if all the trackers in its tree are. Freeing, dropping and writing leave
a value within it, and so do construction and duplication with what they make, if nothing is brought
in from outside: the manager of the construction, the trackers of the source, and what the hooks
make or what is copied as it is. On the way only managers of the regime are asked.
-/

namespace Metaobject

open Metaobject.Action

variable {M : Regime}

namespace Value

/-- All trackers in the tree of the value are within the regime. -/
def Within (M : Regime) (h : Heap) (v : Value) : Prop :=
  ∀ path t, trackerAt? path v = some t → t.Within M h

/-- A value stays within the regime for as long as nothing is done with it. -/
lemma Within.lasts (v : Value) : Lasts M fun h => v.Within M h :=
  .forall fun _ => .forall fun t => .imp (Tracker.Within.lasts t)

/-- And so do several. -/
lemma lasts_all (vs : List Value) : Lasts M fun h => ∀ v ∈ vs, v.Within M h :=
  .forall fun v => .imp (Within.lasts v)

/-- The value brings nothing with it but trackers of the regime, whatever the heap. -/
def Bare (M : Regime) (v : Value) : Prop :=
  ∀ h, v.Within M h

/-- An object is within the regime if its fields and its tracker are. -/
lemma within_object {h : Heap} {type : TypeId} {vs : List Value} {a : Option Tracker} :
    (object type vs a).Within M h ↔
      (∀ v ∈ vs, v.Within M h) ∧ ∀ t, a = some t → t.Within M h :=
  trackers_object

/-- The same for an object that has a tracker. -/
lemma within_tracked {h : Heap} {type : TypeId} {vs : List Value} {t : Tracker} :
    (object type vs (some t)).Within M h ↔ t.Within M h ∧ ∀ v ∈ vs, v.Within M h := by
  rw [within_object, and_comm]
  simp

/-- What is no object has no tracker. -/
lemma bare_of_plain {v : Value} (plain : v.isObject = false) : v.Bare M :=
  fun _ => trackers_of_plain plain

/-- Whatever owns nothing is within a regime of all managers. -/
lemma bare_of_owned (all : ∀ m, M.asks m) {v : Value} (own : v.owned = []) : v.Bare M := by
  intro h path t ht
  have none : t.buffers = [] := by
    refine List.eq_nil_iff_forall_not_mem.2 fun b hb => ?_
    have mem := (mem_owned_iff v).2 ⟨path, t, ht, hb⟩
    rw [own] at mem
    cases mem
  exact ⟨all _, fun _ _ m _ => all m, none ▸ M.nil, none ▸ nofun⟩

/-- The trackers in the tree of the value are bound to managers of the regime. -/
def Managed (M : Regime) (v : Value) : Prop :=
  ∀ path t, trackerAt? path v = some t → M.asks t.manager

/-- An object is managed by the regime if its fields and its tracker are. -/
lemma managed_object {type : TypeId} {vs : List Value} {a : Option Tracker} :
    (object type vs a).Managed M ↔
      (∀ v ∈ vs, v.Managed M) ∧ ∀ t, a = some t → M.asks t.manager :=
  trackers_object

/-- At the end of a path there is the raw copy of what was there. -/
lemma at?_rawCopy (path : List Nat) (v : Value) :
    v.rawCopy.at? path = (v.at? path).map rawCopy := by
  induction path generalizing v with
  | nil => rfl
  | cons i is ih =>
    cases v with
    | object type vs a =>
      rw [rawCopy, rawCopies_eq_map]
      show ((vs.map rawCopy)[i]?).bind _ = ((vs[i]?).bind _).map _
      rw [List.getElem?_map]
      cases vs[i]? with
      | none => rfl
      | some v => exact ih v
    | _ => rfl

/-- A raw copy has new trackers where the value has its own, bound to the same managers. -/
lemma trackerAt?_rawCopy (path : List Nat) (v : Value) :
    trackerAt? path v.rawCopy =
      (trackerAt? path v).map fun t => { manager := t.manager } := by
  rw [trackerAt?_eq_bind, trackerAt?_eq_bind path v, at?_rawCopy]
  cases v.at? path with
  | none => rfl
  | some w => cases w <;> rfl

/-- The trackers of a raw copy are new ones for managers of the regime. -/
lemma Managed.bare_rawCopy {v : Value} (managed : v.Managed M) : v.rawCopy.Bare M := by
  intro h path t ht
  rw [trackerAt?_rawCopy] at ht
  obtain ⟨t', ht', rfl⟩ := Option.map_eq_some_iff.1 ht
  exact Tracker.within_new (managed path t' ht')

mutual

/-- Dropping a value concerns the trackers in it. -/
lemma passes_drop : (v : Value) → v.drop.Passes M (v.Within M ·) fun _ _ => True
  | .object type vs none => by
    refine .bind ((passes_dropAll vs).strengthen fun h within => ?_) fun _ => .pure fun _ => id
    exact (within_object.1 within).1
  | .object type vs (some t) => by
    refine .bind (((passes_dropAll vs).frame (Tracker.Within.lasts t)).strengthen
      fun h within => ?_) fun _ => t.passes_drop.strengthen fun _ after => after.2
    exact (within_tracked.1 within).symm
  | .null | .scalar _ | .buffer _ | .reference _ _ | .descriptor _ => .pure fun _ _ => trivial

/-- The same for values one after the other. -/
lemma passes_dropAll : (vs : List Value) →
    (dropAll vs).Passes M (fun h => ∀ v ∈ vs, v.Within M h) fun _ _ => True
  | [] => .pure fun _ _ => trivial
  | v :: vs => by
    refine .bind (((passes_drop v).frame (lasts_all vs)).strengthen fun _ =>
      List.forall_mem_cons.1) fun _ => ?_
    exact (passes_dropAll vs).strengthen fun _ after => after.2

end

end Value

open Value (within_object within_tracked managed_object)

namespace Universe

variable {u : Universe}

/-! ### Freeing -/

/-- To ask a hook about a value is to ask no manager. -/
lemma asks_consultFree (u : Universe) (t : TypeId) (v : Value) : (u.consultFree t v).Asks M := by
  rw [consultFree]
  split
  · exact asks_pure _
  · exact .andThen (asks_note rfl) fun _ => asks_pure _

/-- At the end of a release the tracker of the object gives up its list. -/
lemma passes_finishFree (type : TypeId) (vs : List Value) (a : Option Tracker) :
    (finishFree type vs a).Passes M ((Value.object type vs a).Within M ·)
      fun v h => v.Within M h := by
  cases a with
  | none => exact .pure fun _ => id
  | some t =>
    rw [finishFree]
    refine .bind ((t.passes_release.frame (Value.lasts_all vs)).strengthen fun _ =>
      within_tracked.1) ?_
    rintro ⟨onHeap, t'⟩
    have left : ∀ h, (t'.Within M h ∧ t'.setup = t.setup ∧ t'.buffers = []) ∧
        (∀ v ∈ vs, v.Within M h) → (Value.object type vs (some t')).Within M h :=
      fun h after => within_tracked.2 ⟨after.1.1, after.2⟩
    dsimp only
    split
    · refine .bind ((Value.passes_drop _).strengthen left) fun _ => .pure fun h _ => ?_
      exact Value.bare_of_plain rfl h
    · exact .pure left

/-- What is no object is left alone or becomes null. -/
lemma passes_freePlain (u : Universe) (t : TypeId) (v : Value) :
    (u.freePlain t v).Passes M (v.Within M ·) fun r h => r.1.Within M h := by
  rw [freePlain]
  split
  · refine .bind ((u.asks_consultFree t v).past (Value.Within.lasts v)) fun answer => ?_
    cases answer with
    | clear => exact .pure fun h _ => Value.bare_of_plain rfl h
    | _ => exact .pure fun _ => id
  · exact .pure fun _ => id

/-- An object is freed field by field, and then its tracker is released. -/
lemma passes_freeByLayout {type : TypeId} {declared : List Field} {vs : List Value}
    (a : Option Tracker)
    (each : (u.freeFields declared vs).Passes M (fun h => ∀ v ∈ vs, v.Within M h)
      fun r h => ∀ v ∈ r.1, v.Within M h) :
    (do
      match ← u.freeFields declared vs with
      | (vs, none) => return (← finishFree type vs a, none)
      | (vs, some e) => return (.object type vs a, some e) :
        Action (Value × Option Violation)).Passes M
      ((Value.object type vs a).Within M ·) fun r h => r.1.Within M h := by
  have own : Lasts M fun h => ∀ t, a = some t → t.Within M h :=
    .forall fun t => .imp (Tracker.Within.lasts t)
  refine .bind ((each.frame own).strengthen fun _ => within_object.1) ?_
  rintro ⟨ws, _ | violation⟩
  · exact .bind ((passes_finishFree type ws a).strengthen fun _ => within_object.2)
      fun w => .pure fun _ => id
  · exact .pure fun _ => within_object.2

mutual

/-- What is left of a value within the regime is within it. -/
lemma passes_free (u : Universe) (t : TypeId) : (v : Value) →
    (u.free t v).Passes M (v.Within M ·) fun r h => r.1.Within M h
  | .object type vs a => by
    rw [free]
    split
    · refine .bind ((u.asks_consultFree type _).past (Value.Within.lasts _)) fun answer => ?_
      cases answer with
      | keep => exact .pure fun _ => id
      | clear =>
        exact .bind (Value.passes_drop _) fun _ => .pure fun h _ => Value.bare_of_plain rfl h
      | decline => exact passes_freeByLayout a (passes_freeFields u _ vs)
      | byLayout => exact passes_freeByLayout a (passes_freeFields u _ vs)
    · exact .pure fun _ => id
  | .null => by
    rw [free]
    exact .pure fun _ => id
  | .scalar _ | .buffer _ | .reference _ _ | .descriptor _ => by
    simp only [free]
    exact u.passes_freePlain t _

/-- The same for the fields of an object, freed or not. -/
lemma passes_freeFields (u : Universe) (declared : List Field) : (vs : List Value) →
    (u.freeFields declared vs).Passes M (fun h => ∀ v ∈ vs, v.Within M h)
      fun r h => ∀ v ∈ r.1, v.Within M h
  | [] => by
    rw [freeFields]
    exact .pure fun _ => id
  | v :: vs => by
    rw [freeFields]
    -- the fields behind, whatever is left of the first one
    have rest : ∀ v : Value, (do
        let (vs, e) ← freeFields u declared.tail vs
        return (v :: vs, e) : Action (List Value × Option Violation)).Passes M
        (fun h => v.Within M h ∧ ∀ v ∈ vs, v.Within M h) fun r h => ∀ v ∈ r.1, v.Within M h := by
      intro v
      refine .bind (((passes_freeFields u declared.tail vs).frame
        (Value.Within.lasts v)).strengthen fun _ => And.symm) fun r => .pure fun h after => ?_
      exact List.forall_mem_cons.2 ⟨after.2, after.1⟩
    split
    · exact (rest v).strengthen fun _ => List.forall_mem_cons.1
    · rename_i t _
      refine .bind (((passes_free u t v).frame (Value.lasts_all vs)).strengthen fun _ =>
        List.forall_mem_cons.1) ?_
      rintro ⟨w, _ | violation⟩
      · exact rest w
      · exact .pure fun _ => List.forall_mem_cons.2

end

/-- The same for a release that does not ask the type of the object. -/
lemma passes_freeObject (u : Universe) (v : Value) :
    (u.freeObject v).Passes M (v.Within M ·) fun r h => r.1.Within M h := by
  cases v with
  | object type vs a => exact passes_freeByLayout a (passes_freeFields u _ vs)
  | _ => exact .pure fun _ => id

/-- An object that was not finished is freed and then dropped, within the regime. -/
lemma passes_abandon (u : Universe) (v : Value) :
    (u.abandon v).Passes M (v.Within M ·) fun _ _ => True :=
  .bind (u.passes_freeObject v) fun r => .bind r.1.passes_drop fun _ => .pure fun _ => id

/-! ### Writing -/

/-- The value that is written has to be within the regime, and the one that was there is dropped. -/
lemma passes_replaceField (type : TypeId) (vs : List Value) (a : Option Tracker) (i : Nat)
    (v : Value) :
    (replaceField type vs a i v).Passes M
      (fun h => (Value.object type vs a).Within M h ∧ v.Within M h) fun w h => w.Within M h := by
  have lasts : Lasts M fun h => (Value.object type vs a).Within M h ∧ v.Within M h :=
    .and (Value.Within.lasts _) (Value.Within.lasts v)
  refine .bind (((Value.passes_dropAll _).frame lasts).strengthen fun h both => ⟨?_, both⟩)
    fun _ => .pure fun h after => ?_
  · intro w hw
    exact (within_object.1 both.1).1 w (List.mem_of_getElem? (Option.mem_toList.1 hw))
  · obtain ⟨inside, own⟩ := within_object.1 after.2.1
    refine within_object.2 ⟨fun w hw => ?_, own⟩
    obtain hw | rfl := List.mem_or_eq_of_mem_set hw
    · exact inside w hw
    · exact after.2.2

/-- A value that is not taken is dropped. -/
lemma passes_dropped {α : Type} {v w : Value} {f : Unit → Action α} {Q : α → Heap → Prop}
    (rest : (f ()).Passes M (w.Within M ·) Q) :
    (v.drop >>= f).Passes M (fun h => w.Within M h ∧ v.Within M h) Q := by
  refine .bind ((v.passes_drop.frame (Value.Within.lasts w)).strengthen fun _ => And.symm)
    fun _ => ?_
  exact rest.strengthen fun _ after => after.2

/-- The same for a write that may be out of bounds. -/
lemma passes_writeAt (i : Nat) (v w : Value) :
    (writeAt i v w).Passes M (fun h => w.Within M h ∧ v.Within M h) fun r h => r.Within M h := by
  cases w with
  | object type vs a =>
    rw [writeAt]
    split
    · exact passes_replaceField type vs a i v
    · exact passes_dropped (.pure fun _ => id)
  | _ => exact passes_dropped (.pure fun _ => id)

/-- The same for a write by name. -/
lemma passes_writeField (u : Universe) (name : String) (v w : Value) :
    (u.writeField name v w).Passes M (fun h => w.Within M h ∧ v.Within M h)
      fun r h => r.1.Within M h := by
  cases w with
  | object type vs a =>
    rw [writeField]
    split
    · exact passes_dropped (.pure fun _ => id)
    · split
      · exact passes_dropped (.pure fun _ => id)
      · exact .bind (passes_replaceField type vs a _ v) fun _ => .pure fun _ => id
  | _ => exact passes_dropped (.pure fun _ => id)

/-- New bytes are asked of the manager of the tracker. -/
lemma passes_writeBytes (u : Universe) (name : String) (bytes : Bytes) (w : Value) :
    (u.writeBytes name bytes w).Passes M (w.Within M ·) fun r h => r.1.Within M h := by
  cases w with
  | object type vs a =>
    rw [writeBytes]
    split
    · exact .pure fun _ => id
    · split
      · exact .pure fun _ => id
      · exact .pure fun _ => id
      · rename_i t _
        refine .bind (((t.passes_allocateWith bytes.length _).frame
          (Value.lasts_all vs)).strengthen fun _ => within_tracked.1) ?_
        rintro ⟨_ | ref, t'⟩
        · exact .pure fun _ => within_tracked.2
        · refine .bind ((passes_replaceField type vs (some t') _ (.buffer ref)).strengthen
            fun h both => ⟨within_tracked.2 both, Value.bare_of_plain rfl h⟩) fun _ =>
              .pure fun _ => id
  | _ => exact .pure fun _ => id

/-! ### Building -/

/-- What was built is within the regime, if anything was. -/
def Arrives (M : Regime) (r : Except Fault Value) (h : Heap) : Prop :=
  ∀ v, r = .ok v → v.Within M h

/-- The tracker is within the regime, if there is one. -/
def Bound (M : Regime) (a : Option Tracker) (h : Heap) : Prop :=
  ∀ t, a = some t → t.Within M h

/-- What was built for a field is within the regime, and so is the tracker of the object. -/
def Placed (M : Regime) (r : Except Fault (Value × Option Tracker)) (h : Heap) : Prop :=
  ∀ v a, r = .ok (v, a) → v.Within M h ∧ Bound M a h

/-- The tracker of an object that is being built stays within the regime. -/
lemma Bound.lasts (a : Option Tracker) : Lasts M (Bound M a) :=
  .forall fun t => .imp (Tracker.Within.lasts t)

/-- A failure has built nothing. -/
lemma arrives_error (fault : Fault) (h : Heap) : Arrives M (.error fault) h := by
  intro v eq
  cases eq

/-- Nor has one placed anything. -/
lemma placed_error (fault : Fault) (h : Heap) : Placed M (.error fault) h := by
  intro v a eq
  cases eq

/-- A value that was built has to be within the regime. -/
lemma arrives_ok {v : Value} {h : Heap} (within : v.Within M h) : Arrives M (.ok v) h := by
  rintro _ ⟨⟩
  exact within

/-- So has a value that was placed, and the tracker that adopted for it. -/
lemma placed_ok {v : Value} {a : Option Tracker} {h : Heap} (within : v.Within M h)
    (bound : Bound M a h) : Placed M (.ok (v, a)) h := by
  rintro _ _ ⟨⟩
  exact ⟨within, bound⟩

/-- A copy of a buffer is listed by the tracker that adopts it. -/
lemma passes_adopt (t : Tracker) (ref : Handle) :
    Attempt.Passes M (Bound M (some t))
      (do
        let (v, t) ← t.adopt ref
        return (v, some t))
      (Placed M) := by
  have adopts : Attempt.Passes M (t.Within M ·) (t.adopt ref) fun r h =>
      ∀ p, r = .ok p → p.1.Within M h ∧ p.2.Within M h := by
    rw [Tracker.adopt]
    refine .get fun before => ?_
    split
    · exact .refuse fun h _ p eq => by cases eq
    · rename_i bytes _
      refine .lift ((t.passes_allocateWith bytes.length _).strengthen fun h now => now.2) ?_
      rintro ⟨_ | copy, t'⟩
      · exact .refuse fun h _ p eq => by cases eq
      · refine .pure fun h within p eq => ?_
        cases eq
        exact ⟨Value.bare_of_plain rfl h, within⟩
  refine .bind (adopts.strengthen fun h bound => bound t rfl) (fun p => .pure fun h after => ?_)
    fun fault h _ => placed_error fault h
  obtain ⟨within, own⟩ := after p rfl
  refine placed_ok within ?_
  rintro _ ⟨⟩
  exact own

/-- What was built elsewhere comes into a field, the tracker being as it was. -/
lemma passes_placed {P : Heap → Prop} {a : Attempt Value} (built : a.Passes M P (Arrives M))
    (tracker : Option Tracker) :
    Attempt.Passes M (fun h => P h ∧ Bound M tracker h) (do return (← a, tracker)) (Placed M) := by
  refine .bind (built.frame (Bound.lasts tracker)) (fun v => .pure fun h after => ?_)
    fun fault h _ => placed_error fault h
  exact placed_ok (after.1 v rfl) after.2

/-- The step from one field to the next keeps to the regime if the rest does. -/
lemma passes_settle (u : Universe) (type : TypeId) (f : Field) (built : List Value)
    (a : Option Tracker) {note : Action Unit}
    {next : List Value → Option Tracker → Attempt Value} {r : Except Fault (Value × Option Tracker)}
    (quiet : note.Asks M)
    (rest : ∀ v b, (next (built ++ [v]) b).Passes M
      ((Value.object type (built ++ [v]) b).Within M ·) (Arrives M)) :
    (u.settle type f built a note next r).Passes M
      (fun h => Placed M r h ∧ (Value.object type built a).Within M h) (Arrives M) := by
  rcases r with fault | ⟨v, b⟩
  · -- the object goes with all that was built for it, in the one way or in the other
    have dropped : Action.Passes M
        (fun h => Placed M (.error fault) h ∧ (Value.object type built a).Within M h)
        (Value.drop (.object type built a)) fun _ _ => True :=
      (Value.passes_drop _).strengthen fun _ both => both.2
    cases fault with
    | refused e =>
      have noted := (quiet.past (Value.Within.lasts (.object type built a))).strengthen
        fun h (both : Placed M (.error (.refused e)) h ∧ _) => both.2
      refine .lift noted fun _ => .lift (u.passes_abandon _) fun violation => ?_
      cases violation with
      | none => exact .refuse fun h _ => arrives_error _ h
      | some violation => exact .throw fun h _ => arrives_error _ h
    | violated violation => exact .lift dropped fun _ => .throw fun h _ => arrives_error _ h
    | tooDeep => exact .lift dropped fun _ => .throw fun h _ => arrives_error _ h
  · refine (rest v b).strengthen fun h both => ?_
    obtain ⟨within, bound⟩ := both.1 v b rfl
    have inside := (within_object.1 both.2).1
    exact within_object.2
      ⟨List.forall_mem_append.2 ⟨inside, List.forall_mem_singleton.2 within⟩, bound⟩

/-- To mark a tracker as on the heap makes no difference. -/
lemma within_finish {type : TypeId} {vs : List Value} {a : Option Tracker} {h : Heap}
    (within : (Value.object type vs a).Within M h) : (finish type vs a).Within M h := by
  obtain ⟨inside, own⟩ := within_object.1 within
  refine within_object.2 ⟨inside, fun t ht => ?_⟩
  obtain ⟨t', ht', rfl⟩ := Option.map_eq_some_iff.1 ht
  exact { own t' ht' with }

/-- Nor does it to mark it as off the heap. -/
lemma within_offHeap {v : Value} {h : Heap} (within : v.Within M h) : v.offHeap.Within M h := by
  cases v with
  | object type vs a =>
    cases a with
    | none => exact within
    | some t =>
      obtain ⟨own, inside⟩ := within_tracked.1 within
      exact within_tracked.2 ⟨{ own with }, inside⟩
  | _ => exact within

/-! ### Construction -/

/-- The manager that serves a construction if it starts now. -/
def resolved (u : Universe) (h : Heap) (t : TypeId) (c : Template) : Manager :=
  ((c.manager.or (u.desc t).manager).or h.processManager).getD .system

/-- What constructions start from: values with `S`, the default instances among them, so that what
is copied from them as it is brings only trackers of the regime. -/
structure Sources (u : Universe) (M : Regime) (S : Value → Prop) : Prop where
  builds : u.Builds (·.Bare M)
  inside : ∀ v vs, S v → v.fields? = some vs → ∀ w ∈ vs, S w
  canonical : ∀ t v, (u.desc t).canonical = some v → S v
  initial : ∀ t v, u.layout? t = none → u.isExact t v = true → S v → v.rawCopy.Bare M
  default : ∀ t v, u.layout? t = none → (u.desc t).canonical = some v → v.rawCopy.Bare M

/-- Constructions from values with `S` keep to the regime, as long as their managers do. -/
def Supplied (u : Universe) (M : Regime) (S : Value → Prop)
    (nested : TypeId → Template → Attempt Value) : Prop :=
  ∀ t c, (∀ v, c.initials? = some v → S v) →
    (nested t c).Passes M (fun h => M.asks (some (u.resolved h t c))) (Arrives M)

variable {S : Value → Prop} {nested : TypeId → Template → Attempt Value}

/-- The manager that serves is the one that it would be now. -/
lemma passes_managerFor (t : TypeId) (c : Template) :
    (u.managerFor t c).Passes M (fun h => M.asks (some (u.resolved h t c)))
      fun m _ => M.asks (some m) := by
  rw [managerFor]
  split
  · rename_i m hm
    refine .pure fun h served => ?_
    rw [resolved, hm] at served
    exact served
  · rename_i none
    intro h since served
    -- the manager of the process is looked up now, and it is the one that `resolved` names
    rw [resolved, none] at served
    have asks : Action.processManager.Asks M := asks_of_same (fun _ => rfl) fun _ => rfl
    exact ⟨(asks h since trivial).1, served⟩

/-- The zero of a type without a layout brings no tracker. -/
lemma bare_zeroOf {t : TypeId} (plain : u.layout? t = none) : (u.zeroOf t).Bare M := by
  apply Value.bare_of_plain
  rw [zeroOf_plain plain]
  exact TypeKind.isObject_zero _

/-- A manager that is named serves. -/
lemma Supplied.passes (below : u.Supplied M S nested) {m : Manager} (hm : M.asks (some m))
    (t : TypeId) (initials : Option Value) (starts : ∀ v, initials = some v → S v)
    {P : Heap → Prop} :
    (nested t { manager := some m, initials }).Passes M P (Arrives M) := by
  refine (below t _ fun v hv => ?_).strengthen fun h _ => hm
  exact starts v (Option.filter_eq_some_iff.1 hv).1

/-- A value is copied into an object by constructing anew from it, or as it is. -/
lemma passes_copyInto (below : u.Supplied M S nested) {m : Manager} (hm : M.asks (some m))
    (a : Option Tracker) {v : Value} (hv : S v) :
    (copyInto nested m a v).Passes M (Bound M a) (Placed M) := by
  have taken : ∀ v : Value, v.isObject = false →
      Attempt.Passes M (Bound M a) (pure (v, a)) (Placed M) := fun v plain =>
    .pure fun h bound => placed_ok (Value.bare_of_plain plain h) bound
  cases v with
  | object s vs t =>
    have starts : ∀ w, some (.object s vs t) = some w → S w := fun w hw => Option.some.inj hw ▸ hv
    have copied := below.passes hm s (some (.object s vs t)) starts (P := fun _ => True)
    exact (passes_placed copied a).strengthen fun h bound => ⟨trivial, bound⟩
  | buffer ref =>
    cases a with
    | none => exact taken _ rfl
    | some t => exact passes_adopt t ref
  | _ => exact taken _ rfl

/-- A default comes from a construction of its own, or is a zero. -/
lemma passes_defaultFor (sources : u.Sources M S) (below : u.Supplied M S nested) {m : Manager}
    (hm : M.asks (some m)) (f : Field) :
    (u.defaultFor nested m f).Passes M (fun _ => True) (Arrives M) := by
  rw [defaultFor]
  split
  · exact .pure fun h _ => arrives_ok (Value.bare_of_plain rfl h)
  · rename_i t _
    split
    · exact below.passes hm t none nofun
    · rename_i plain
      have plain := Option.not_isSome_iff_eq_none.1 plain
      refine .pure fun h _ => arrives_ok ?_
      cases hc : (u.desc t).canonical with
      | none => exact bare_zeroOf plain h
      | some v => exact sources.default t v plain hc h

/-- The value of a field comes from the template, from what the construction starts from, or from a
default. -/
lemma passes_made (sources : u.Sources M S) (below : u.Supplied M S nested) {c : Template}
    {m : Manager} (hm : M.asks (some m)) {initials canonical : Option (List Value)}
    (starts : ∀ vs, initials = some vs → ∀ v ∈ vs, S v)
    (presets : ∀ vs, canonical = some vs → ∀ v ∈ vs, S v) (h : Heap) (f : Field)
    (a : Option Tracker) :
    (u.made nested c m initials canonical h f a).Passes M (Bound M a) (Placed M) := by
  rw [made]
  cases source : u.sourceOf h c initials canonical f with
  | some v =>
    exact passes_copyInto below hm a (forall_sourceOf starts presets source)
  | none =>
    exact (passes_placed (passes_defaultFor sources below hm f) a).strengthen
      fun h bound => ⟨trivial, bound⟩

/-- The fields are built one after the other. -/
lemma passes_constructFields (sources : u.Sources M S) (below : u.Supplied M S nested) (t : TypeId)
    (c : Template) {m : Manager} (hm : M.asks (some m)) {initials canonical : Option (List Value)}
    (starts : ∀ vs, initials = some vs → ∀ v ∈ vs, S v)
    (presets : ∀ vs, canonical = some vs → ∀ v ∈ vs, S v) (fs : List Field) :
    ∀ (built : List Value) (a : Option Tracker),
      (u.constructFields nested t c m initials canonical fs built a).Passes M
        ((Value.object t built a).Within M ·) (Arrives M) := by
  induction fs with
  | nil =>
    intro built a
    rw [constructFields]
    exact .pure fun h within => arrives_ok (within_finish within)
  | cons f fs ih =>
    intro built a
    rw [constructFields_cons]
    refine .get fun before => ?_
    -- the fields that are there already are carried past the one that is built
    have field := (passes_made (c := c) sources below hm starts presets before f a).frame
      (Value.Within.lasts (.object t built a))
    refine .outcome (field.strengthen fun h now => ⟨(within_object.1 now.2).2, now.2⟩) fun r => ?_
    exact u.passes_settle t f built a (asks_log _) fun v b => ih (built ++ [v]) b

/-- The tracker of a structure is bound to the manager that serves, and the fields are made one by
one. -/
lemma passes_constructStruct (sources : u.Sources M S) (below : u.Supplied M S nested) (t : TypeId)
    {c : Template} (starts : ∀ v, c.initials? = some v → S v) :
    (u.constructStruct nested t c).Passes M (fun h => M.asks (some (u.resolved h t c)))
      (Arrives M) := by
  rw [constructStruct]
  split
  · exact .refuse fun h _ => arrives_error _ h
  · rename_i l _
    refine .lift (passes_managerFor t c) fun m => .of_imp (fun h => id) fun hm => ?_
    dsimp only
    split
    · exact .refuse fun h _ => arrives_error _ h
    · have initials := Value.forall_fields? fun v vs hv => sources.inside v vs (starts v hv)
      have presets := Value.forall_fields? fun v vs hv =>
        sources.inside v vs (sources.canonical t v hv)
      refine (passes_constructFields sources below t c hm initials presets l.fields [] _).strengthen
        fun h _ => within_object.2 ⟨List.forall_mem_nil _, ?_⟩
      · intro tr htr
        split at htr
        · cases htr
          exact Tracker.within_new hm
        · cases htr

/-- Whoever is asked, the manager that serves stays the same. -/
lemma passes_consultConstruct (u : Universe) (t : TypeId) (c : Template) :
    (u.consultConstruct t c).Passes M (fun h => M.asks (some (u.resolved h t c)))
      fun _ h => M.asks (some (u.resolved h t c)) := by
  rw [consultConstruct]
  split
  · exact .pure fun h => id
  · intro h since served
    have asks : (emit (.hook t .construct)).Asks M := asks_note rfl
    exact ⟨(asks h since trivial).1, served⟩

/-- If the constructions below keep to the regime, those of the next level do. -/
lemma supplied_constructWith (sources : u.Sources M S) (below : u.Supplied M S nested) :
    u.Supplied M S (u.constructWith nested) := by
  intro t c starts
  have byLayout := passes_constructStruct sources below t starts
  rw [constructWith]
  split
  · exact .refuse fun h _ => arrives_error _ h
  · rename_i checked
    refine .lift ((u.passes_consultConstruct t c).known (sources.builds.consultConstruct t c))
      fun answer => ?_
    cases answer with
    | built v => exact .pure fun h after => arrives_ok (after.1 v rfl h)
    | failed e => exact .refuse fun h _ => arrives_error _ h
    | byLayout => exact byLayout.strengthen fun h after => after.2
    | decline =>
      dsimp only
      split
      · exact byLayout.strengthen fun h after => after.2
      · exact .refuse fun h _ => arrives_error _ h
      · rename_i other _
        have plain := layout?_eq_none other
        -- a value of such a type is copied as it is, with the trackers in it
        refine .pure fun h _ => arrives_ok ?_
        cases hs : c.initials?.or (u.desc t).canonical with
        | none => exact bare_zeroOf plain h
        | some v =>
          obtain hv | ⟨_, hv⟩ := Option.or_eq_some_iff.1 hs
          · have exact := filter_initials?_eq_none.1 checked v hv
            exact sources.initial t v plain exact (starts v hv) h
          · exact sources.default t v plain hv h

/-- A construction keeps to the regime, however deep it goes and however it ends. -/
lemma supplied_construct (sources : u.Sources M S) (depth : Nat) :
    u.Supplied M S (u.construct depth) := by
  induction depth with
  | zero => exact fun t c _ => .throw fun h _ => arrives_error _ h
  | succ depth ih =>
    intro t c starts
    rw [construct]
    refine .outcome (supplied_constructWith sources ih t c starts) ?_
    rintro (fault | v)
    · have thrown : ∀ fault : Fault, Attempt.Passes M (fun _ => True) (throw fault) (Arrives M) :=
        fun fault => .throw fun h _ => arrives_error fault h
      cases fault with
      | refused e =>
        exact .lift ((asks_log _).strengthen fun _ _ => trivial) fun _ => thrown _
      | violated violation => exact (thrown _).strengthen fun _ _ => trivial
      | tooDeep => exact (thrown _).strengthen fun _ _ => trivial
    · exact .pure fun h => id

/-- What is reported about a construction makes no difference. -/
lemma passes_constructReporting (sources : u.Sources M S) (depth : Nat) (t : TypeId) {c : Template}
    (starts : ∀ v, c.initials? = some v → S v) :
    (u.constructReporting depth t c).Passes M (fun h => M.asks (some (u.resolved h t c)))
      fun r h => Arrives M r.1 h := by
  rw [constructReporting]
  refine .bind (supplied_construct sources depth t c starts) fun r => ?_
  split
  · exact .pure fun h _ => arrives_error _ h
  · exact .pure fun h => id

/-- What a construction in place frees is within the regime, and so is what it leaves there. -/
lemma passes_constructAt (sources : u.Sources M S) (depth : Nat) (t : TypeId) (v : Value)
    {c : Template} (starts : ∀ v, c.initials? = some v → S v) :
    (u.constructAt depth t v c).Passes M
      (fun h => M.asks (some (u.resolved h t c)) ∧ v.Within M h) fun r h => r.1.Within M h := by
  rw [constructAt]
  split
  · refine .bind ((passes_constructReporting sources depth t starts).frame
      (Value.Within.lasts v)) ?_
    rintro ⟨_ | w, message⟩
    · exact .pure fun h after => after.2
    · exact .pure fun h after => within_offHeap (after.1 w rfl)
  · exact .pure fun h now => now.2

/-! ### Duplication -/

/-- To ask a hook about a value is to ask no manager. -/
lemma asks_consultDuplicate (u : Universe) (t : TypeId) (v : Value) (recursive : Bool) :
    (u.consultDuplicate t v recursive).Asks M := by
  rw [consultDuplicate]
  split
  · exact asks_pure _
  · exact .andThen (asks_note rfl) fun _ => asks_pure _

/-- What is no object is copied as it is or answered by a hook, and brings no tracker either way. -/
lemma passes_duplicatePlain (builds : u.Builds (·.Bare M)) (t : TypeId) (recursive : Bool)
    {v : Value} (managed : v.Managed M) :
    (u.duplicatePlain t recursive v).Passes M (fun _ => True) (Arrives M) := by
  rw [duplicatePlain]
  split
  · refine .lift ((u.asks_consultDuplicate t v recursive).known
      (builds.consultDuplicate t v recursive)) fun answer => ?_
    cases answer with
    | built w => exact .pure fun h after => arrives_ok (after.1 w rfl h)
    | failed e => exact .refuse fun h _ => arrives_error _ h
    | _ => exact .pure fun h _ => arrives_ok (managed.bare_rawCopy h)
  · exact .refuse fun h _ => arrives_error _ h

/-- A value is duplicated for an object, whose tracker may adopt it. -/
lemma passes_duplicateInto {duplicate : TypeId → Attempt Value}
    (copies : ∀ t, (duplicate t).Passes M (fun _ => True) (Arrives M)) (deep : Bool)
    (declared : Option TypeId) (a : Option Tracker) {v : Value} (managed : v.Managed M) :
    (duplicateInto duplicate deep declared a v).Passes M (Bound M a) (Placed M) := by
  have copied : Attempt.Passes M (Bound M a) (pure (v.rawCopy, a)) (Placed M) :=
    .pure fun h bound => placed_ok (managed.bare_rawCopy h) bound
  have made : ∀ t, Attempt.Passes M (Bound M a) (do return (← duplicate t, a)) (Placed M) :=
    fun t => (passes_placed (copies t) a).strengthen fun h bound => ⟨trivial, bound⟩
  unfold duplicateInto
  split
  · split
    · exact made _
    · exact passes_adopt _ _
    · exact .pure fun h bound => placed_ok (Value.bare_of_plain rfl h) bound
    · exact made _
    · exact copied
  · exact copied

/-- The copy of an object starts with a new tracker for the manager of the source. -/
lemma within_fresh {type : TypeId} {vs : List Value} {a : Option Tracker}
    (managed : (Value.object type vs a).Managed M) (h : Heap) :
    (Value.object type [] (a.map fun t => { manager := t.manager })).Within M h := by
  refine within_object.2 ⟨List.forall_mem_nil _, fun t ht => ?_⟩
  obtain ⟨t', ht', rfl⟩ := Option.map_eq_some_iff.1 ht
  exact Tracker.within_new ((managed_object.1 managed).2 t' ht')

mutual

/-- A duplication asks only the managers of the trackers in its source, however it ends. -/
lemma passes_duplicate (builds : u.Builds (·.Bare M)) : (v : Value) → v.Managed M →
    ∀ (t : TypeId) (recursive : Bool),
      (u.duplicate t recursive v).Passes M (fun _ => True) (Arrives M)
  | .object s vs a, managed, t, recursive => by
    have general : ∀ r, Attempt.Passes M (fun _ => True)
        (match u.fieldsFor s vs with
          | .error e => Attempt.refuse e
          | .ok fs => u.duplicateFields s r fs [] (a.map fun t => { manager := t.manager }) vs)
        (Arrives M) := by
      intro r
      split
      · exact .refuse fun h _ => arrives_error _ h
      · exact (passes_duplicateFields builds vs (managed_object.1 managed).1 s r _ [] _).strengthen
          fun h _ => within_fresh managed h
    rw [duplicate]
    split
    · refine .lift ((u.asks_consultDuplicate s _ recursive).known
        (builds.consultDuplicate s _ recursive)) fun answer => ?_
      cases answer with
      | built w => exact .pure fun h after => arrives_ok (after.1 w rfl h)
      | failed e => exact .refuse fun h _ => arrives_error _ h
      | byLayout r => exact (general r).strengthen fun h _ => trivial
      | decline => exact (general recursive).strengthen fun h _ => trivial
    · exact .refuse fun h _ => arrives_error _ h
  | .null, managed, t, recursive | .scalar _, managed, t, recursive
  | .buffer _, managed, t, recursive | .reference _ _, managed, t, recursive
  | .descriptor _, managed, t, recursive => by
    simp only [duplicate]
    exact passes_duplicatePlain builds t recursive managed

/-- The same for the fields of an object, those that were made before being within the regime. -/
lemma passes_duplicateFields (builds : u.Builds (·.Bare M)) : (vs : List Value) →
    (∀ v ∈ vs, v.Managed M) → ∀ (type : TypeId) (recursive : Bool) (declared : List Field)
      (built : List Value) (a : Option Tracker),
      (u.duplicateFields type recursive declared built a vs).Passes M
        ((Value.object type built a).Within M ·) (Arrives M)
  | [], _, type, recursive, declared, built, a => by
    rw [duplicateFields]
    exact .pure fun h within => arrives_ok (within_finish within)
  | v :: vs, managed, type, recursive, declared, built, a => by
    obtain ⟨first, others⟩ := List.forall_mem_cons.1 managed
    cases declared with
    | nil =>
      rw [duplicateFields]
      exact .pure fun h within => arrives_ok (within_finish within)
    | cons f fs =>
      rw [duplicateFields]
      have field := (passes_duplicateInto (fun t => passes_duplicate builds v first t true)
        (recursive && f.recurse) f.type a first).frame
        (Value.Within.lasts (.object type built a))
      refine .outcome (field.strengthen fun h now => ⟨(within_object.1 now).2, now⟩) fun r => ?_
      exact u.passes_settle type f built a (asks_pure _) fun w b =>
        passes_duplicateFields builds vs others type recursive fs (built ++ [w]) b

end

/-- The same for a duplication that does not ask the type of the object. -/
lemma passes_duplicateObject (builds : u.Builds (·.Bare M)) (type : TypeId) {vs : List Value}
    {a : Option Tracker} (managed : (Value.object type vs a).Managed M) (recursive : Bool) :
    (u.duplicateObject type vs a recursive).Passes M (fun _ => True) (Arrives M) := by
  rw [duplicateObject]
  split
  · exact .refuse fun h _ => arrives_error _ h
  · exact (passes_duplicateFields builds vs (managed_object.1 managed).1 type recursive _ [] _
      ).strengthen fun h _ => within_fresh managed h

/-- A duplication over a target frees what was there, if it comes to that. -/
lemma passes_duplicateOver (builds : u.Builds (·.Bare M)) (t : TypeId) {source : Value}
    (managed : source.Managed M) (target : Value) (recursive : Bool) :
    (u.duplicateOver t target source recursive).Passes M (target.Within M ·)
      fun r h => r.1.Within M h := by
  rw [duplicateOver]
  refine .bind (((passes_duplicate builds source managed t recursive).frame
    (Value.Within.lasts target)).strengthen fun h within => ⟨trivial, within⟩) ?_
  rintro (fault | v)
  · exact .pure fun h after => after.2
  · -- the target is freed while the copy waits to take its place
    have copied : Lasts M fun h => v.offHeap.Within M h := Value.Within.lasts v.offHeap
    refine .bind (((u.passes_free t target).frame copied).strengthen fun h after =>
      ⟨after.2, within_offHeap (after.1 v rfl)⟩) ?_
    rintro ⟨rest, _ | violation⟩
    · exact .bind (((Value.passes_drop rest).frame copied).strengthen fun h => id) fun _ =>
        .pure fun h after => after.2
    · exact passes_dropped (.pure fun h => id)

end Universe

end Metaobject
