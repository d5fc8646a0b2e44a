import Metaobject.Proofs.Lifecycle.Consultation
import Metaobject.Proofs.Lifecycle.Disposal
import Metaobject.Proofs.Storage.Embedded
import Metaobject.Proofs.Universe.Shape

/-!
# Building hands on what is held

Construction and duplication build objects field by field. Whatever they build owns exactly the
buffers that were tracked on the way, and an attempt that fails owns nothing in the end: the partial
object is freed or dropped, at every level. `HandsOn` is that contract, for whatever is kept;
`Universe.custody_construct` and `Universe.custody_duplicate` say that both operations meet it where
the hooks do, and `Universe.ledger_construct` and `Universe.ledger_duplicate` are the case of the
books, where the hooks build values that own nothing.
-/

namespace Metaobject

namespace Value

mutual

/-- A raw copy owns nothing: its trackers are new. -/
lemma owned_rawCopy : (v : Value) → v.rawCopy.owned = []
  | .object _ fields none => by
    rw [rawCopy, owned, ownedByAll_rawCopies fields]
    rfl
  | .object _ fields (some t) => by
    rw [rawCopy, owned, ownedByAll_rawCopies fields]
    rfl
  | .null | .scalar _ | .buffer _ | .reference _ _ | .descriptor _ => rfl

/-- The same for the values of an object. -/
lemma ownedByAll_rawCopies : (vs : List Value) → ownedByAll (rawCopies vs) = []
  | [] => rfl
  | v :: vs => by
    rw [rawCopies, ownedByAll, owned_rawCopy v, ownedByAll_rawCopies vs]
    rfl

end

/-- Values that own nothing own nothing together. -/
lemma ownedByAll_eq_nil {vs : List Value} (own : ∀ v ∈ vs, v.owned = []) : ownedByAll vs = [] := by
  rw [ownedByAll_eq_flatMap]
  exact List.flatMap_eq_nil_iff.2 own

end Value

/-- Zeros own nothing. -/
lemma Universe.owned_zeroOf (u : Universe) (t : TypeId) : (u.zeroOf t).owned = [] := by
  refine zeroOf_forall (P := (·.owned = [])) (fun k => ?_) (fun t l vs _ _ inside => ?_) t
  · cases k <;> rfl
  · rw [Value.owned, Value.ownedByAll_eq_nil inside]
    split <;> rfl

open Attempt

variable {I : List BufferId → Heap → Prop} {held : List BufferId}

/-- What an attempt at a value comes to: the value owns what was tracked, and a failure owns
nothing. -/
def HandsOn (I : List BufferId → Heap → Prop) (held : List BufferId) :
    Except Fault Value → Heap → Prop
  | .ok v => I (v.owned ++ held)
  | .error _ => I held

/-- A value that comes from elsewhere may be held. -/
def Bears (I : List BufferId → Heap → Prop) (v : Value) : Prop :=
  ∀ held h, I held h → I (v.owned ++ held) h

/-- A value that owns nothing may be held. -/
lemma bears_of_owned {v : Value} (own : v.owned = []) : Bears I v := by
  intro held h before
  rw [own]
  exact before

/-- The tracker of an object that is being built has no setup to do. -/
def Idle (tracker : Option Tracker) : Prop :=
  ∀ t, tracker = some t → t.setup = none

/-- The tracker of a new object has nothing deferred. -/
lemma idle_new (tracked : Bool) (m : Option Manager) :
    Idle (if tracked then some { manager := m } else none) := by
  split
  · rintro _ ⟨⟩
    rfl
  · rintro _ ⟨⟩

/-- The buffers of the tracker, if there is one. -/
def buffersOf (tracker : Option Tracker) : List BufferId :=
  tracker.elim [] (·.buffers)

/-- An object owns what its tracker lists and what its values own. -/
lemma owned_object_perm (type : TypeId) (values : List Value) (tracker : Option Tracker)
    (held : List BufferId) :
    ((Value.object type values tracker).owned ++ held).Perm
      (buffersOf tracker ++ (Value.ownedByAll values ++ held)) := by
  rw [← List.append_assoc]
  exact List.perm_append_comm.append_right held

/-- What an attempt at a field comes to, the object having a tracker: the value and the tracker own
what was tracked, and after a failure the tracker is as it was. -/
def HandsOnField (I : List BufferId → Heap → Prop) (held : List BufferId)
    (tracker : Option Tracker) : Except Fault (Value × Option Tracker) → Heap → Prop
  | .ok (v, tracker'), h =>
    I (v.owned ++ (buffersOf tracker' ++ held)) h ∧ Idle tracker'
  | .error _, h => I (buffersOf tracker ++ held) h

/-- Adopting a buffer tracks a copy, or it leaves the tracker as it was. -/
lemma Tracker.custody_adopt (custody : Custody I) {t : Tracker} (idle : t.setup = none)
    (ref : Handle) :
    Attempt.Triple (I (t.buffers ++ held))
      (do
        let (v, t) ← t.adopt ref
        return (v, some t))
      (HandsOnField I held (some t)) := by
  refine .bind (Q := fun r h => match r with
    | .ok (v, t') => I (v.owned ++ (t'.buffers ++ held)) h ∧ t'.setup = none
    | .error _ => I (t.buffers ++ held) h) ?_ ?_ ?_
  · rw [adopt]
    refine .get fun before => ?_
    split
    · exact .refuse fun h at_once => at_once.2
    · rename_i bytes _
      have now : t.allocateCopy bytes = t.allocateNow bytes.length fun _ => bytes := by
        rw [allocateCopy, allocateWith, ensureSetup_of_none idle, pure_bind]
      rw [now]
      refine .lift ((custody.allocateNow t bytes.length _ held).strengthen fun h at_once =>
        at_once.2) ?_
      rintro ⟨_ | copy, t'⟩
      · refine .refuse fun h => ?_
        rintro ⟨after, _, same⟩
        rwa [same rfl] at after
      · refine .pure fun h => ?_
        rintro ⟨after, setup, _⟩
        exact ⟨after, setup.trans idle⟩
  · rintro ⟨v, t'⟩
    refine .pure fun h after => ⟨after.1, ?_⟩
    rintro _ ⟨⟩
    exact after.2
  · exact fun fault h => id

namespace Universe

/-- The step from one field to the next meets the contract if the rest does. -/
lemma custody_settle (custody : Custody I) (u : Universe) (type : TypeId) (f : Field)
    (built : List Value) (tracker : Option Tracker) {note : Action Unit}
    {next : List Value → Option Tracker → Attempt Value} {r : Except Fault (Value × Option Tracker)}
    (quiet : ∀ held, Action.Triple (I held) note (fun _ => I held))
    (rest : ∀ v tracker', Idle tracker' →
      Attempt.Triple (I ((Value.object type (built ++ [v]) tracker').owned ++ held))
        (next (built ++ [v]) tracker') (HandsOn I held)) :
    Attempt.Triple (HandsOnField I (Value.ownedByAll built ++ held) tracker r)
      (u.settle type f built tracker note next r) (HandsOn I held) := by
  have gone : ∀ h, I (buffersOf tracker ++ (Value.ownedByAll built ++ held)) h →
      I ((Value.object type built tracker).owned ++ held) h := fun h =>
    custody.perm (owned_object_perm type built tracker held).symm
  rcases r with fault | ⟨v, tracker'⟩
  · have dropped : Action.Triple
        (HandsOnField I (Value.ownedByAll built ++ held) tracker (.error fault))
        (Value.drop (.object type built tracker)) (fun _ => I held) :=
      (custody.drop _).strengthen gone
    cases fault with
    | refused e =>
      -- the partial object is freed, and a violation on the way leaves nothing either
      refine .lift ((quiet _).strengthen gone) fun _ => ?_
      refine .lift (u.custody_abandon custody _) fun violation => ?_
      cases violation with
      | none => exact .refuse fun h => id
      | some violation => exact .throw fun h => id
    | violated violation => exact .lift dropped fun _ => .throw fun h => id
    | tooDeep => exact .lift dropped fun _ => .throw fun h => id
  · intro h after
    refine rest v tracker' after.2 h (custody.perm (List.perm_iff_count.2 fun b => ?_) after.1)
    rw [Value.owned, Value.ownedByAll_append, Value.ownedByAll, Value.ownedByAll, buffersOf]
    simp only [List.count_append, List.count_nil]
    omega

/-! ### Construction -/

/-- The constructions one level down meet the contract. -/
def NestedHandsOn (I : List BufferId → Heap → Prop) (nested : TypeId → Template → Attempt Value) :
    Prop :=
  ∀ t c held, Attempt.Triple (I held) (nested t c) (HandsOn I held)

variable {nested : TypeId → Template → Attempt Value}

/-- What was built elsewhere comes into a field, the tracker being as it was. -/
lemma handsOnField_of_handsOn {tracker : Option Tracker} (idle : Idle tracker) {a : Attempt Value}
    (built : ∀ held, Attempt.Triple (I held) a (HandsOn I held)) :
    Attempt.Triple (I (buffersOf tracker ++ held)) (do return (← a, tracker))
      (HandsOnField I held tracker) :=
  .bind (built _) (fun _ => .pure fun _ after => ⟨after, idle⟩) fun _ _ => id

/-- A value is copied into an object by a construction, by a tracker, or as it is. -/
lemma custody_copyInto (custody : Custody I) (below : NestedHandsOn I nested) (m : Manager)
    {tracker : Option Tracker} (idle : Idle tracker) (v : Value) :
    Attempt.Triple (I (buffersOf tracker ++ held)) (copyInto nested m tracker v)
      (HandsOnField I held tracker) := by
  cases v with
  | object type fields t => exact handsOnField_of_handsOn idle (below type _)
  | buffer ref =>
    cases tracker with
    | none => exact .pure fun h before => ⟨before, idle⟩
    | some t => exact t.custody_adopt custody (idle t rfl) ref
  | _ => exact .pure fun h before => ⟨before, idle⟩

/-- A default is constructed, or is a zero. -/
lemma custody_defaultFor (u : Universe) (below : NestedHandsOn I nested) (m : Manager)
    (f : Field) (held : List BufferId) :
    Attempt.Triple (I held) (u.defaultFor nested m f) (HandsOn I held) := by
  rw [defaultFor]
  split
  · exact .pure fun h => id
  · rename_i t _
    split
    · exact below t _ held
    · have own : ((u.desc t).canonical.elim (u.zeroOf t) (·.rawCopy)).owned = [] := by
        cases (u.desc t).canonical with
        | none => exact u.owned_zeroOf t
        | some v => exact v.owned_rawCopy
      exact .pure (bears_of_owned own held)

/-- The fields are built one after the other. -/
lemma custody_constructFields (custody : Custody I) (u : Universe) (below : NestedHandsOn I nested)
    (t : TypeId) (c : Template) (m : Manager) (initials canonical : Option (List Value))
    (fs : List Field) :
    ∀ (built : List Value) (tracker : Option Tracker), Idle tracker →
      Attempt.Triple (I ((Value.object t built tracker).owned ++ held))
        (u.constructFields nested t c m initials canonical fs built tracker)
        (HandsOn I held) := by
  induction fs with
  | nil =>
    intro built tracker idle
    refine .pure fun h before => ?_
    cases tracker <;> exact before
  | cons f fs ih =>
    intro built tracker idle
    rw [constructFields]
    refine .get fun before => ?_
    refine .outcome (Q := HandsOnField I (Value.ownedByAll built ++ held) tracker) ?_ fun r => ?_
    · have turn : ∀ h, before = h ∧ I ((Value.object t built tracker).owned ++ held) h →
          I (buffersOf tracker ++ (Value.ownedByAll built ++ held)) h := by
        exact fun h now => custody.perm (owned_object_perm t built tracker held) now.2
      split
      · exact (custody_copyInto custody below m idle _).strengthen turn
      · exact (handsOnField_of_handsOn idle (u.custody_defaultFor below m f)).strengthen turn
    · exact u.custody_settle custody t f built tracker (fun held => custody.log _)
        fun v tracker' idle' => ih _ _ idle'

/-- Looking for the manager of a construction owns nothing. -/
lemma custody_managerFor (custody : Custody I) (u : Universe) (t : TypeId) (c : Template) :
    Action.Triple (I held) (u.managerFor t c) (fun _ => I held) := by
  rw [managerFor]
  split
  · exact .pure fun _ => id
  · exact fun h => custody.quiet (Action.step_processManager h)

/-- A structure owns what its tracker adopted and what its fields own. -/
lemma custody_constructStruct (custody : Custody I) (u : Universe) (below : NestedHandsOn I nested)
    (t : TypeId) (c : Template) (held : List BufferId) :
    Attempt.Triple (I held) (u.constructStruct nested t c) (HandsOn I held) := by
  rw [constructStruct]
  split
  · exact .refuse fun h => id
  · rename_i l _
    refine .lift (u.custody_managerFor custody t c) fun m => ?_
    dsimp only
    split
    · exact .refuse fun h => id
    · split
      · refine (u.custody_constructFields custody below t c m _ _ l.fields []
          (some { manager := some m }) ?_).strengthen fun h => id
        rintro _ ⟨⟩
        rfl
      · refine (u.custody_constructFields custody below t c m _ _ l.fields [] none ?_).strengthen
          fun h => id
        rintro _ ⟨⟩

/-- Asking the hook about a construction owns nothing. -/
lemma custody_consultConstruct (custody : Custody I) (u : Universe) (t : TypeId) (c : Template) :
    Action.Triple (I held) (u.consultConstruct t c) (fun _ => I held) := by
  rw [consultConstruct]
  split
  · exact .pure fun _ => id
  · exact .bind (custody.hook t .construct) fun _ => .pure fun _ => id

/-- What a hook builds may be held, and everything else is a structure or a zero. -/
lemma custody_constructWith (custody : Custody I) {u : Universe} (builds : u.Builds (Bears I))
    (below : NestedHandsOn I nested) (t : TypeId) (c : Template) (held : List BufferId) :
    Attempt.Triple (I held) (u.constructWith nested t c) (HandsOn I held) := by
  rw [constructWith]
  split
  · exact .refuse fun h => id
  · have byLayout := (u.custody_constructStruct custody below t c held)
    refine .lift ((u.custody_consultConstruct custody t c).known
      (builds.consultConstruct t c)) fun a => ?_
    cases a with
    | built v =>
      exact .pure fun h after => after.1 v rfl held h after.2
    | failed e => exact .refuse fun h after => after.2
    | byLayout => exact byLayout.strengthen fun h after => after.2
    | decline =>
      dsimp only
      split
      · exact byLayout.strengthen fun h after => after.2
      · exact .refuse fun h after => after.2
      · have own : ((c.initials?.or (u.desc t).canonical).elim (u.zeroOf t) (·.rawCopy)).owned =
            [] := by
          cases c.initials?.or (u.desc t).canonical with
          | none => exact u.owned_zeroOf t
          | some v => exact v.owned_rawCopy
        exact .pure fun h after => bears_of_owned own held h after.2

/-- A construction meets the contract, however deep it goes. -/
theorem custody_construct (custody : Custody I) {u : Universe} (builds : u.Builds (Bears I))
    (depth : Nat) (t : TypeId) (c : Template) (held : List BufferId) :
    Attempt.Triple (I held) (u.construct depth t c) (HandsOn I held) := by
  induction depth generalizing t c held with
  | zero => exact .throw fun h => id
  | succ depth ih =>
    rw [construct]
    refine .outcome (custody_constructWith custody builds ih t c held) ?_
    rintro (fault | v)
    · cases fault with
      | refused e =>
        exact .lift (custody.log _) fun _ => .throw fun h => id
      | violated violation => exact .throw fun h => id
      | tooDeep => exact .throw fun h => id
    · exact .pure fun h => id

/-! ### Duplication -/

/-- Asking the hook about a duplication owns nothing. -/
lemma custody_consultDuplicate (custody : Custody I) (u : Universe) (t : TypeId) (v : Value)
    (recursive : Bool) :
    Action.Triple (I held) (u.consultDuplicate t v recursive)
      (fun _ => I held) := by
  rw [consultDuplicate]
  split
  · exact .pure fun _ => id
  · exact .bind (custody.hook t (.duplicate recursive)) fun _ => .pure fun _ => id

/-- What is no object is copied as it is, or a hook builds what may be held. -/
lemma custody_duplicatePlain (custody : Custody I) {u : Universe} (builds : u.Builds (Bears I))
    (t : TypeId) (recursive : Bool) (v : Value) (held : List BufferId) :
    Attempt.Triple (I held) (u.duplicatePlain t recursive v) (HandsOn I held) := by
  have copied : ∀ h, I held h → HandsOn I held (.ok v.rawCopy) h :=
    bears_of_owned v.owned_rawCopy held
  rw [duplicatePlain]
  split
  · refine .lift ((u.custody_consultDuplicate custody t v recursive).known
      (builds.consultDuplicate t v recursive)) fun a => ?_
    cases a with
    | built w =>
      exact .pure fun h after => after.1 w rfl held h after.2
    | failed e => exact .refuse fun h after => after.2
    | byLayout r => exact .pure fun h after => copied h after.2
    | decline => exact .pure fun h after => copied h after.2
  · exact .refuse fun h => id

/-- A value is duplicated for an object, whose tracker may adopt it. -/
lemma custody_duplicateInto (custody : Custody I) {tracker : Option Tracker} (idle : Idle tracker)
    (v : Value) (declared : Option TypeId) (deep : Bool) {duplicate : TypeId → Attempt Value}
    (built : ∀ t held, Attempt.Triple (I held) (duplicate t) (HandsOn I held)) :
    Attempt.Triple (I (buffersOf tracker ++ held))
      (duplicateInto duplicate deep declared tracker v)
      (HandsOnField I held tracker) := by
  have copied : ∀ h, I (buffersOf tracker ++ held) h →
      HandsOnField I held tracker (.ok (v.rawCopy, tracker)) h :=
    fun h before => ⟨bears_of_owned v.owned_rawCopy _ h before, idle⟩
  unfold duplicateInto
  split
  · split
    · exact handsOnField_of_handsOn idle (built _)
    · exact Tracker.custody_adopt custody (idle _ rfl) _
    · exact .pure fun h before => ⟨before, idle⟩
    · exact handsOnField_of_handsOn idle (built _)
    · exact .pure copied
  · exact .pure copied

/-- The tracker of a duplicate has nothing deferred. -/
lemma idle_fresh (tracker : Option Tracker) :
    Idle (tracker.map fun tr => { manager := tr.manager }) := by
  intro t ht
  cases tracker with
  | none => cases ht
  | some tr =>
    cases ht
    rfl

/-- A duplicate without any fields owns nothing yet. -/
lemma owned_fresh (type : TypeId) (tracker : Option Tracker) :
    (Value.object type [] (tracker.map fun tr => { manager := tr.manager })).owned = [] := by
  cases tracker <;> rfl

mutual

/-- A duplication meets the contract. -/
theorem custody_duplicate (custody : Custody I) {u : Universe} (builds : u.Builds (Bears I)) :
    (v : Value) → ∀ (t : TypeId) (recursive : Bool) (held : List BufferId),
      Attempt.Triple (I held) (u.duplicate t recursive v) (HandsOn I held)
  | .object type values tracker, t, recursive, held => by
    have general : ∀ r, Attempt.Triple (I held)
        (match u.fieldsFor type values with
          | .error e => Attempt.refuse e
          | .ok fs => u.duplicateFields type r fs []
            (tracker.map fun tr => { manager := tr.manager }) values)
        (HandsOn I held) := by
      intro r
      split
      · exact .refuse fun h => id
      · rename_i fs _
        refine Attempt.Triple.strengthen (custody_duplicateFields custody builds values type r fs []
          (tracker.map fun tr => { manager := tr.manager }) held (idle_fresh tracker)) ?_
        intro h before
        rwa [owned_fresh]
    rw [duplicate]
    split
    · refine .lift ((u.custody_consultDuplicate custody type _ recursive).known
        (builds.consultDuplicate type _ recursive)) fun a => ?_
      cases a with
      | built w =>
        exact .pure fun h after => after.1 w rfl held h after.2
      | failed e => exact .refuse fun h after => after.2
      | byLayout r => exact (general r).strengthen fun h after => after.2
      | decline => exact (general recursive).strengthen fun h after => after.2
    · exact .refuse fun h => id
  | .null, t, recursive, held => by
    simp only [duplicate]
    exact custody_duplicatePlain custody builds t recursive _ held
  | .scalar s, t, recursive, held => by
    simp only [duplicate]
    exact custody_duplicatePlain custody builds t recursive _ held
  | .buffer ref, t, recursive, held => by
    simp only [duplicate]
    exact custody_duplicatePlain custody builds t recursive _ held
  | .reference kind address, t, recursive, held => by
    simp only [duplicate]
    exact custody_duplicatePlain custody builds t recursive _ held
  | .descriptor type, t, recursive, held => by
    simp only [duplicate]
    exact custody_duplicatePlain custody builds t recursive _ held

/-- The same for the values of fields. -/
theorem custody_duplicateFields (custody : Custody I) {u : Universe} (builds : u.Builds (Bears I)) :
    (vs : List Value) →
    ∀ (type : TypeId) (recursive : Bool) (declared : List Field) (built : List Value)
      (tracker : Option Tracker) (held : List BufferId), Idle tracker →
      Attempt.Triple (I ((Value.object type built tracker).owned ++ held))
        (u.duplicateFields type recursive declared built tracker vs) (HandsOn I held)
  | [], type, recursive, declared, built, tracker, held, idle => by
    rw [duplicateFields]
    refine .pure fun h before => ?_
    cases tracker <;> exact before
  | v :: vs, type, recursive, declared, built, tracker, held, idle => by
    cases declared with
    | nil =>
      rw [duplicateFields]
      refine .pure fun h before => ?_
      cases tracker <;> exact before
    | cons f fs =>
      rw [duplicateFields]
      refine .outcome (Q := HandsOnField I (Value.ownedByAll built ++ held) tracker) ?_
        fun r => ?_
      · -- the value is shorter than the list it stands in, so its duplicates meet the contract
        refine Attempt.Triple.strengthen (custody_duplicateInto custody idle v f.type
          (recursive && f.recurse) fun t held => custody_duplicate custody builds v t true held) ?_
        exact fun h => custody.perm (owned_object_perm type built tracker held)
      · refine u.custody_settle custody type f built tracker (fun _ => .pure fun h => id)
          fun v tracker' idle' => ?_
        exact custody_duplicateFields custody builds vs type recursive fs (built ++ [v]) tracker'
          held idle'

end

/-- A duplication that does not ask the type of the object hands on what it makes. -/
lemma custody_duplicateObject (custody : Custody I) {u : Universe} (builds : u.Builds (Bears I))
    (type : TypeId) (values : List Value) (tracker : Option Tracker) (recursive : Bool)
    (held : List BufferId) :
    Attempt.Triple (I held) (u.duplicateObject type values tracker recursive)
      (HandsOn I held) := by
  rw [duplicateObject]
  split
  · exact .refuse fun h => id
  · rename_i fs _
    refine Attempt.Triple.strengthen (custody_duplicateFields custody builds values type recursive
      fs [] (tracker.map fun tr => { manager := tr.manager }) held (idle_fresh tracker)) ?_
    intro h before
    rwa [owned_fresh]

end Universe

/-! ### The books -/

variable {base : Heap} {o : Outside}

/-- What an attempt at a value owes to the books. -/
abbrev Owes (base : Heap) (held : List BufferId) (o : Outside) : Except Fault Value → Heap → Prop :=
  HandsOn (fun held => Ledger base held o) held

namespace Universe

/-- A construction keeps the books. -/
lemma ledger_construct {u : Universe} (builds : u.Builds (·.owned = [])) (depth : Nat)
    (t : TypeId) (c : Template) (held : List BufferId) :
    Attempt.Triple (Ledger base held o) (u.construct depth t c) (Owes base held o) :=
  custody_construct (Ledger.custody base o) (builds.imp fun _ => bears_of_owned) depth t c held

/-- So does that of a structure, if the constructions below do. -/
lemma ledger_constructStruct (u : Universe) {nested : TypeId → Template → Attempt Value}
    (below : NestedHandsOn (fun held => Ledger base held o) nested) (t : TypeId) (c : Template)
    (held : List BufferId) :
    Attempt.Triple (Ledger base held o) (u.constructStruct nested t c) (Owes base held o) :=
  u.custody_constructStruct (Ledger.custody base o) below t c held

/-- A duplication keeps the books. -/
lemma ledger_duplicate {u : Universe} (builds : u.Builds (·.owned = [])) (v : Value) (t : TypeId)
    (recursive : Bool) (held : List BufferId) :
    Attempt.Triple (Ledger base held o) (u.duplicate t recursive v) (Owes base held o) :=
  custody_duplicate (Ledger.custody base o) (builds.imp fun _ => bears_of_owned) v t recursive held

/-- So does one that does not ask the type of the object. -/
lemma ledger_duplicateObject {u : Universe} (builds : u.Builds (·.owned = [])) (type : TypeId)
    (values : List Value) (tracker : Option Tracker) (recursive : Bool) (held : List BufferId) :
    Attempt.Triple (Ledger base held o) (u.duplicateObject type values tracker recursive)
      (Owes base held o) :=
  custody_duplicateObject (Ledger.custody base o) (builds.imp fun _ => bears_of_owned) type values
    tracker recursive held

end Universe

end Metaobject
