import Metaobject.Lifecycle.Duplication
import Metaobject.Proofs.Storage.Records

/-!
# What runs leave alone

To drop or to free a value comes to recording events and disowning buffers. So a relation between
heaps holds of these operations if it holds of the single steps, whatever the values and the hooks
of the types are: `Heap.Frame` lists the steps. A duplication adopts buffers as well.
-/

namespace Metaobject

open Metaobject.Action

variable {R : Heap → Heap → Prop}

/-- What holds of the single steps of giving up a value, and of runs of them. -/
structure Heap.Frame (R : Heap → Heap → Prop) : Prop extends Heap.Lasting R where
  emit : ∀ e, (Action.emit e).Keeps R
  disown : ∀ b, (Action.disown b).Keeps R

namespace Tracker

variable (frame : Heap.Frame R)

include frame

/-- Giving up buffers, one after the other. -/
lemma framed_disownAll : (bs : List BufferId) → (disownAll bs).Keeps R
  | [] => frame.pure ()
  | b :: bs => frame.bind (frame.disown b) fun _ => framed_disownAll bs

/-- Giving up a list, which is also logged. -/
lemma framed_giveUp (t : Tracker) : t.giveUp.Keeps R :=
  frame.bind (framed_disownAll frame t.buffers) fun _ => frame.emit _

/-- A release gives up a list, or there is none to give up. -/
lemma framed_release (t : Tracker) : t.release.Keeps R := by
  rw [release]
  split
  · exact frame.pure _
  · exact frame.bind (t.framed_giveUp frame) fun _ => frame.pure _

/-- Dropping a tracker gives up what it lists, or there is nothing. -/
lemma framed_drop (t : Tracker) : t.drop.Keeps R := by
  rw [drop]
  split
  · exact frame.bind (frame.emit _) fun _ => t.framed_giveUp frame
  · exact frame.pure _

end Tracker

namespace Value

mutual

/-- Dropping a value drops the trackers in it. -/
lemma framed_drop (frame : Heap.Frame R) : (v : Value) → v.drop.Keeps R
  | .object _ fields none => frame.bind (framed_dropAll frame fields) fun _ => frame.pure _
  | .object _ fields (some t) =>
    frame.bind (framed_dropAll frame fields) fun _ => t.framed_drop frame
  | .null | .scalar _ | .buffer _ | .reference _ _ | .descriptor _ => frame.pure _

/-- The same for the values of an object. -/
lemma framed_dropAll (frame : Heap.Frame R) : (vs : List Value) → (dropAll vs).Keeps R
  | [] => frame.pure _
  | v :: vs => frame.bind (framed_drop frame v) fun _ => framed_dropAll frame vs

end

end Value

namespace Universe

variable (u : Universe)

/-! ### Destruction -/

/-- The hook for releases is asked, and that is recorded. -/
lemma framed_consultFree (frame : Heap.Frame R) (t : TypeId) (v : Value) :
    (u.consultFree t v).Keeps R := by
  rw [consultFree]
  split
  · exact frame.pure _
  · exact frame.bind (frame.emit _) fun _ => frame.pure _

/-- At the end of a release the tracker of the object is released. -/
lemma framed_finishFree (frame : Heap.Frame R) (type : TypeId) (fields : List Value)
    (tracker : Option Tracker) : (finishFree type fields tracker).Keeps R := by
  cases tracker with
  | none => exact frame.pure _
  | some t =>
    refine frame.bind (t.framed_release frame) ?_
    rintro ⟨onHeap, t'⟩
    dsimp only
    split
    · exact frame.bind (Value.framed_drop frame _) fun _ => frame.pure _
    · exact frame.pure _

/-- A value that is no object only has the hook of its type to do with. -/
lemma framed_freePlain (frame : Heap.Frame R) (t : TypeId) (v : Value) :
    (u.freePlain t v).Keeps R := by
  rw [freePlain]
  split
  · refine frame.bind (u.framed_consultFree frame t v) fun answer => ?_
    cases answer <;> exact frame.pure _
  · exact frame.pure _

variable {u}

/-- An object is freed field by field, and then its tracker is released. -/
lemma framed_freeByLayout (frame : Heap.Frame R) {type : TypeId} {declared : List Field}
    {fields : List Value} (tracker : Option Tracker)
    (each : (u.freeFields declared fields).Keeps R) :
    (do
      match ← u.freeFields declared fields with
      | (fields, none) => return (← finishFree type fields tracker, none)
      | (fields, some e) => return (.object type fields tracker, some e) :
        Action (Value × Option Violation)).Keeps R := by
  refine frame.bind each ?_
  rintro ⟨rest, _ | violation⟩
  · exact frame.bind (framed_finishFree frame type rest tracker) fun _ => frame.pure _
  · exact frame.pure _

variable (u)

mutual

/-- A release asks hooks, releases trackers and drops values, and does nothing else. -/
lemma framed_free (frame : Heap.Frame R) (t : TypeId) : (v : Value) → (u.free t v).Keeps R
  | .object type fields tracker => by
    rw [free]
    split
    · refine frame.bind (u.framed_consultFree frame type _) fun answer => ?_
      cases answer with
      | keep => exact frame.pure _
      | clear => exact frame.bind (Value.framed_drop frame _) fun _ => frame.pure _
      | decline => exact framed_freeByLayout frame tracker (framed_freeFields frame _ fields)
      | byLayout => exact framed_freeByLayout frame tracker (framed_freeFields frame _ fields)
    · exact frame.pure _
  | .null => by
    rw [free]
    exact frame.pure _
  | .scalar _ | .buffer _ | .reference _ _ | .descriptor _ => by
    simp only [free]
    exact u.framed_freePlain frame t _

/-- The same for the fields of an object that are to be freed. -/
lemma framed_freeFields (frame : Heap.Frame R) (declared : List Field) :
    (vs : List Value) → (u.freeFields declared vs).Keeps R
  | [] => by
    rw [freeFields]
    exact frame.pure _
  | v :: vs => by
    rw [freeFields]
    have rest : ∀ v : Value, (do
        let (vs, e) ← freeFields u declared.tail vs
        return (v :: vs, e) : Action (List Value × Option Violation)).Keeps R :=
      fun v => frame.bind (framed_freeFields frame declared.tail vs) fun _ => frame.pure _
    split
    · exact rest v
    · rename_i t _
      refine frame.bind (framed_free frame t v) ?_
      rintro ⟨w, _ | violation⟩
      · exact rest w
      · exact frame.pure _

end

/-- The same for a release that does not ask the type of the object. -/
lemma framed_freeObject (frame : Heap.Frame R) (v : Value) : (u.freeObject v).Keeps R := by
  cases v with
  | object type fields tracker =>
    exact framed_freeByLayout frame tracker (u.framed_freeFields frame _ fields)
  | _ => exact frame.pure _

/-- An object that was not finished is freed and then dropped. -/
lemma framed_abandon (frame : Heap.Frame R) (v : Value) : (u.abandon v).Keeps R :=
  frame.bind (u.framed_freeObject frame v) fun r =>
    frame.bind (r.1.framed_drop frame) fun _ => frame.pure _

/-! ### Duplication -/

variable {u}

/-- Where an object is assembled, what holds of the step to the next field holds of the rest. -/
lemma framed_settle (frame : Heap.Frame R) (type : TypeId) (f : Field) (built : List Value)
    (tracker : Option Tracker) {note : Action Unit} (quiet : note.Keeps R)
    {next : List Value → Option Tracker → Attempt Value}
    (rest : ∀ built tracker, (next built tracker).Keeps R)
    (r : Except Fault (Value × Option Tracker)) :
    (u.settle type f built tracker note next r).Keeps R := by
  rcases r with (e | violation | _) | ⟨v, a⟩
  · refine frame.lift quiet fun _ => frame.lift (u.framed_abandon frame _) fun violation => ?_
    cases violation with
    | none => exact frame.refuse _
    | some violation => exact frame.throw _
  · exact frame.lift (Value.framed_drop frame _) fun _ => frame.throw _
  · exact frame.lift (Value.framed_drop frame _) fun _ => frame.throw _
  · exact rest _ _

variable (u)

/-- The hook for duplications is asked, and that is recorded. -/
lemma framed_consultDuplicate (frame : Heap.Frame R) (t : TypeId) (v : Value) (recursive : Bool) :
    (u.consultDuplicate t v recursive).Keeps R := by
  rw [consultDuplicate]
  split
  · exact frame.pure _
  · exact frame.bind (frame.emit _) fun _ => frame.pure _

/-- A value that is no object is duplicated without touching the heap. -/
lemma framed_duplicatePlain (frame : Heap.Frame R) (t : TypeId) (recursive : Bool) (v : Value) :
    (u.duplicatePlain t recursive v).Keeps R := by
  rw [duplicatePlain]
  split
  · refine frame.lift (u.framed_consultDuplicate frame t v recursive) fun answer => ?_
    cases answer with
    | failed e => exact frame.refuse _
    | _ => exact frame.ok _
  · exact frame.refuse _

/-- A value is duplicated for an object, whose tracker may adopt it. -/
lemma framed_duplicateInto (frame : Heap.Frame R)
    (adopts : ∀ (t : Tracker) ref, Attempt.Keeps R (t.adopt ref)) {v : Value}
    {duplicate : TypeId → Attempt Value} (copies : ∀ t, (duplicate t).Keeps R) (deep : Bool)
    (declared : Option TypeId) (tracker : Option Tracker) :
    (duplicateInto duplicate deep declared tracker v).Keeps R := by
  unfold duplicateInto
  split
  · split
    · exact frame.attempt (copies _) fun _ => frame.ok _
    · exact frame.attempt (adopts _ _) fun _ => frame.ok _
    · exact frame.ok _
    · exact frame.attempt (copies _) fun _ => frame.ok _
    · exact frame.ok _
  · exact frame.ok _

mutual

/-- A duplication adds adoptions to that, and freeing what was built before a failure. -/
lemma framed_duplicate (frame : Heap.Frame R)
    (adopts : ∀ (t : Tracker) ref, Attempt.Keeps R (t.adopt ref)) (t : TypeId)
    (recursive : Bool) : (v : Value) → (u.duplicate t recursive v).Keeps R
  | .object type values tracker => by
    have general : ∀ r, Attempt.Keeps R
        (match u.fieldsFor type values with
          | .error e => Attempt.refuse e
          | .ok fs =>
            u.duplicateFields type r fs [] (tracker.map fun tr => { manager := tr.manager })
              values) := by
      intro r
      split
      · exact frame.refuse _
      · exact framed_duplicateFields frame adopts type r values _ _ _
    rw [duplicate]
    split
    · refine frame.lift (u.framed_consultDuplicate frame type _ recursive) fun answer => ?_
      cases answer with
      | built w => exact frame.ok _
      | failed e => exact frame.refuse _
      | byLayout r => exact general r
      | decline => exact general recursive
    · exact frame.refuse _
  | .null | .scalar _ | .buffer _ | .reference _ _ | .descriptor _ => by
    simp only [duplicate]
    exact u.framed_duplicatePlain frame t recursive _

/-- The same for the fields of an object. -/
lemma framed_duplicateFields (frame : Heap.Frame R)
    (adopts : ∀ (t : Tracker) ref, Attempt.Keeps R (t.adopt ref)) (type : TypeId)
    (recursive : Bool) : (vs : List Value) → ∀ (declared : List Field) (built : List Value)
      (tracker : Option Tracker),
      (u.duplicateFields type recursive declared built tracker vs).Keeps R
  | [], declared, built, tracker => by
    rw [duplicateFields]
    exact frame.ok _
  | v :: vs, declared, built, tracker => by
    cases declared with
    | nil =>
      rw [duplicateFields]
      exact frame.ok _
    | cons f fs =>
      rw [duplicateFields]
      refine frame.outcome ?_ fun r => ?_
      · exact framed_duplicateInto frame adopts (fun t => framed_duplicate frame adopts t true v) _ _ _
      · exact framed_settle frame type f built tracker (frame.pure ())
          (fun built tracker => framed_duplicateFields frame adopts type recursive vs fs built tracker)
          r

end

/-- The same for a duplication that does not ask the type of the object. -/
lemma framed_duplicateObject (frame : Heap.Frame R)
    (adopts : ∀ (t : Tracker) ref, Attempt.Keeps R (t.adopt ref)) (type : TypeId)
    (values : List Value) (tracker : Option Tracker) (recursive : Bool) :
    (u.duplicateObject type values tracker recursive).Keeps R := by
  rw [duplicateObject]
  split
  · exact frame.refuse _
  · exact u.framed_duplicateFields frame adopts type recursive values _ _ _

end Universe

end Metaobject
