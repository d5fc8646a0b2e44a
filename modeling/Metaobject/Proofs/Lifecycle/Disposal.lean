import Metaobject.Proofs.Storage.Custody
import Metaobject.Lifecycle.Destruction

/-!
# Disposal

Freeing a value is a matter between the trackers inside it and the managers: whatever is freed, and
however far it comes, the buffers that it gives up are those that it owned. `Universe.custody_free`
says so for the general operation and `Universe.custody_abandon` for a partial object, whatever it
is that is kept; `Universe.ledger_free` is the case of the books.
-/

namespace Metaobject

open Metaobject.Action

variable {I : List BufferId → Heap → Prop} {held : List BufferId}

namespace Universe

/-- Asking the hook about a release changes nothing that is held. -/
lemma custody_consultFree (custody : Custody I) (u : Universe) (t : TypeId) (v : Value) :
    Triple (I held) (u.consultFree t v) (fun _ => I held) := by
  rw [consultFree]
  split
  · exact .pure fun _ => id
  · exact .bind (custody.hook t .free) fun _ => .pure fun _ => id

/-- At the end of a release the tracker lists nothing any more. -/
lemma custody_finishFree (custody : Custody I) (type : TypeId) (fields : List Value)
    (tracker : Option Tracker) :
    Triple (I ((Value.object type fields tracker).owned ++ held)) (finishFree type fields tracker)
      (fun v => I (v.owned ++ held)) := by
  cases tracker with
  | none => exact .pure fun _ => id
  | some t =>
    rw [finishFree]
    have released : Triple (I (t.buffers ++ (Value.ownedByAll fields ++ held))) t.release _ :=
      custody.release t
    refine .bind (released.strengthen ?_) ?_
    · intro h before
      refine custody.perm ?_ before
      show (Value.ownedByAll fields ++ t.buffers ++ held).Perm _
      rw [← List.append_assoc]
      exact List.perm_append_comm.append_right held
    · rintro ⟨onHeap, t'⟩
      refine .of_imp (p := t' = t.released) (fun h after => after.2) ?_
      rintro rfl
      have kept : (Value.object type fields (some t.released)).owned = Value.ownedByAll fields :=
        List.append_nil _
      dsimp only
      split
      · refine .bind (Q := fun _ => I held) ?_ fun _ => .pure fun _ => id
        refine (custody.drop _).strengthen fun h after => ?_
        rw [kept]
        exact after.1
      · refine .pure fun h after => ?_
        rw [kept]
        exact after.1

/-- What owns nothing goes on to own nothing. -/
lemma custody_freePlain (custody : Custody I) (u : Universe) (t : TypeId) {v : Value}
    (own : v.owned = []) :
    Triple (I (v.owned ++ held)) (u.freePlain t v) (fun r => I (r.1.owned ++ held)) := by
  rw [freePlain]
  split
  · refine .bind (u.custody_consultFree custody t v) fun answer => ?_
    rw [own]
    cases answer with
    | clear => exact .pure fun _ => id
    | _ => exact .pure fun h before => own.symm ▸ before
  · exact .pure fun _ => id

/-- An object is freed field by field, and then its tracker is released. -/
lemma custody_freeByLayout (custody : Custody I) (u : Universe) {type : TypeId}
    {declared : List Field} {fields : List Value} (tracker : Option Tracker)
    (each : ∀ {held}, Triple (I (Value.ownedByAll fields ++ held)) (u.freeFields declared fields)
      (fun r => I (Value.ownedByAll r.1 ++ held))) :
    Triple (I ((Value.object type fields tracker).owned ++ held))
      (do
        match ← u.freeFields declared fields with
        | (fields, none) => return (← finishFree type fields tracker, none)
        | (fields, some e) => return (.object type fields tracker, some e))
      (fun r => I (r.1.owned ++ held)) := by
  have turn : ∀ vs, ((Value.object type vs tracker).owned ++ held).Perm
      (Value.ownedByAll vs ++ (tracker.elim [] (·.buffers) ++ held)) := by
    intro vs
    exact .of_eq (List.append_assoc ..)
  refine .bind (each.strengthen fun h => custody.perm (turn fields)) ?_
  rintro ⟨rest, _ | violation⟩
  · refine .bind ((custody_finishFree custody type rest tracker).strengthen fun h =>
      custody.perm (turn rest).symm) fun v => .pure fun _ => id
  · exact .pure fun h => custody.perm (turn rest).symm

mutual

/-- Freeing a value gives up some of its buffers, and what is left owns the others. -/
lemma custody_free (custody : Custody I) (u : Universe) (t : TypeId) : (v : Value) →
    ∀ {held : List BufferId},
    Triple (I (v.owned ++ held)) (u.free t v) (fun r => I (r.1.owned ++ held))
  | .object type fields tracker, held => by
    rw [free]
    split
    · refine .bind (u.custody_consultFree custody type _) fun answer => ?_
      cases answer with
      | keep => exact .pure fun _ => id
      | clear => exact .bind (custody.drop _) fun _ => .pure fun _ => id
      | decline =>
        exact u.custody_freeByLayout custody tracker (custody_freeFields custody u _ fields)
      | byLayout =>
        exact u.custody_freeByLayout custody tracker (custody_freeFields custody u _ fields)
    · exact .pure fun _ => id
  | .null, held => by
    rw [free]
    exact .pure fun _ => id
  | .scalar s, held => by
    simp only [free]
    exact u.custody_freePlain custody t rfl
  | .buffer ref, held => by
    simp only [free]
    exact u.custody_freePlain custody t rfl
  | .reference kind address, held => by
    simp only [free]
    exact u.custody_freePlain custody t rfl
  | .descriptor type, held => by
    simp only [free]
    exact u.custody_freePlain custody t rfl

/-- The same for the fields of an object. -/
lemma custody_freeFields (custody : Custody I) (u : Universe) (declared : List Field) :
    (vs : List Value) → ∀ {held : List BufferId},
    Triple (I (Value.ownedByAll vs ++ held)) (u.freeFields declared vs)
      (fun r => I (Value.ownedByAll r.1 ++ held))
  | [], held => by
    rw [freeFields]
    exact .pure fun _ => id
  | v :: vs, held => by
    rw [freeFields]
    have turn : ∀ v : Value, ∀ vs, (Value.ownedByAll (v :: vs) ++ held).Perm
        (Value.ownedByAll vs ++ (v.owned ++ held)) := by
      intro v vs
      show (v.owned ++ Value.ownedByAll vs ++ held).Perm _
      rw [← List.append_assoc]
      exact List.perm_append_comm.append_right held
    have rest : ∀ v : Value, Triple (I (Value.ownedByAll (v :: vs) ++ held))
        (do
          let (vs, e) ← freeFields u declared.tail vs
          return (v :: vs, e))
        (fun r => I (Value.ownedByAll r.1 ++ held)) := by
      intro v
      refine .bind ((custody_freeFields custody u declared.tail vs).strengthen fun h =>
        custody.perm (turn v vs)) fun r => .pure fun h => ?_
      exact custody.perm (turn v r.1).symm
    split
    · exact rest v
    · rename_i t _
      refine .bind ((custody_free custody u t v).strengthen fun h =>
        custody.perm (.of_eq (List.append_assoc ..))) ?_
      rintro ⟨v', _ | violation⟩
      · exact (rest v').strengthen fun h => custody.perm (.of_eq (List.append_assoc ..).symm)
      · exact .pure fun h => custody.perm (.of_eq (List.append_assoc ..).symm)

end

/-- The same for a release that does not ask the type of the object. -/
lemma custody_freeObject (custody : Custody I) (u : Universe) (v : Value) :
    Triple (I (v.owned ++ held)) (u.freeObject v) (fun r => I (r.1.owned ++ held)) := by
  cases v with
  | object type fields tracker =>
    exact u.custody_freeByLayout custody tracker (custody_freeFields custody u _ fields)
  | _ => exact .pure fun _ => id

/-- Nothing remains of an object that is abandoned. -/
lemma custody_abandon (custody : Custody I) (u : Universe) (v : Value) :
    Triple (I (v.owned ++ held)) (u.abandon v) (fun _ => I held) :=
  .bind (u.custody_freeObject custody v) fun r =>
    .bind (custody.drop r.1) fun _ => .pure fun _ => id

/-! ### The books -/

variable {base : Heap} {o : Outside}

/-- A release keeps the books. -/
lemma ledger_free (u : Universe) (t : TypeId) (v : Value) {held : List BufferId} :
    Triple (Ledger base (v.owned ++ held) o) (u.free t v)
      (fun r => Ledger base (r.1.owned ++ held) o) :=
  custody_free (Ledger.custody base o) u t v

/-- So does one that does not ask the type of the object. -/
lemma ledger_freeObject (u : Universe) (v : Value) :
    Triple (Ledger base (v.owned ++ held) o) (u.freeObject v)
      (fun r => Ledger base (r.1.owned ++ held) o) :=
  custody_freeObject (Ledger.custody base o) u v

end Universe

end Metaobject
