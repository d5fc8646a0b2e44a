import Metaobject.Proofs.Universe.Substitution

/-!
# Lives of values with other managers

Dropping and freeing, duplication and construction do the same with other managers: they ask the
same operations for the same, they refuse for the same reasons, and what they leave or make is the
same but for the managers in its trackers.
-/

namespace Metaobject

open Metaobject.Action

variable {α : Type} {σ : Substitution} {u u' : Universe}

/-- What is left of a value, and what is said about it. -/
abbrev Action.Leaves (σ : Substitution) (a a' : Action (Value × α)) : Prop :=
  Mirrors σ (fun r => (σ.value r.1, r.2)) (·.1.KnownTo σ) a a'

namespace Attempt

/-- A value is built. -/
abbrev Builds (σ : Substitution) (a a' : Attempt Value) : Prop :=
  Mirrors σ σ.value (·.KnownTo σ) a a'

/-- A value is built for a field of an object with a tracker. -/
abbrev Fills (σ : Substitution) (a a' : Attempt (Value × Option Tracker)) : Prop :=
  Mirrors σ (fun r => (σ.value r.1, r.2.map σ.tracker))
    (fun r => r.1.KnownTo σ ∧ ∀ t, r.2 = some t → t.KnownTo σ) a a'

end Attempt

open Value (trackers_object trackers_of_plain)

namespace Value

mutual

/-- Dropping a value drops the images of its trackers. -/
lemma mirrors_drop : (v : Value) → Same σ v.drop (σ.value v).drop
  | .object _ vs none => .bind (mirrors_dropAll vs) fun _ _ => .pure rfl trivial
  | .object _ vs (some t) => .bind (mirrors_dropAll vs) fun _ _ => t.mirrors_drop
  | .null | .scalar _ | .buffer _ | .reference _ _ | .descriptor _ => .pure rfl trivial

/-- The same for values one after the other. -/
lemma mirrors_dropAll : (vs : List Value) → Same σ (dropAll vs) (dropAll (σ.values vs))
  | [] => .pure rfl trivial
  | v :: vs => .bind (mirrors_drop v) fun _ _ => mirrors_dropAll vs

end

/-- An object with a tracker knows the managers in its fields and its tracker. -/
lemma knownTo_tracked {type : TypeId} {vs : List Value} {t : Tracker}
    (inside : ∀ v ∈ vs, v.KnownTo σ) (own : t.KnownTo σ) :
    (object type vs (some t)).KnownTo σ := by
  refine trackers_object.2 ⟨inside, ?_⟩
  rintro _ ⟨⟩
  exact own

end Value

namespace Universe

/-! ### Freeing -/

/-- At the end of a release the tracker is released, and an object on the heap is gone in both. -/
lemma mirrors_finishFree (type : TypeId) {vs : List Value} {a : Option Tracker}
    (known : (Value.object type vs a).KnownTo σ) :
    Action.Mirrors σ σ.value (·.KnownTo σ) (finishFree type vs a)
      (finishFree type (σ.values vs) (a.map σ.tracker)) := by
  obtain ⟨inside, own⟩ := trackers_object.1 known
  cases a with
  | none => exact .pure rfl known
  | some t =>
    refine .bind (Tracker.mirrors_release (own t rfl)) ?_
    rintro ⟨onHeap, t'⟩ left
    dsimp only
    split
    · exact .bind (Value.mirrors_drop (.object type vs (some t'))) fun _ _ =>
        .pure rfl (trackers_of_plain rfl)
    · exact .pure rfl (Value.knownTo_tracked inside left)

/-- A field is freed through the same type. -/
lemma freedThrough_substitution (f : Option Field) (v : Value) :
    freedThrough (f.map σ.field) (σ.value v) = freedThrough f v := by
  have declared : ((f.map σ.field).filter (·.recurse)).bind (·.type) =
      (f.filter (·.recurse)).bind (·.type) := by
    rw [Option.filter_map, Option.bind_map]
    rfl
  cases v with
  | null => rfl
  | object => rfl
  | _ => exact declared

namespace Mirrors

/-- What is no object is left alone or becomes null in both. -/
lemma freePlain (mirrors : u.Mirrors σ u') (t : TypeId) {v : Value} (known : v.KnownTo σ) :
    Leaves σ (u.freePlain t v) (u'.freePlain t (σ.value v)) := by
  rw [Universe.freePlain, Universe.freePlain, mirrors.accepts, mirrors.name, mirrors.typeName]
  split
  · refine .bind (mirrors.consultFree t known) fun answer _ => ?_
    cases answer with
    | clear => exact .pure rfl (trackers_of_plain rfl)
    | _ => exact .pure rfl known
  · exact .pure rfl known

/-- An object is freed field by field, and then its tracker is released. -/
lemma freeByLayout (type : TypeId) {declared : List Field} {vs : List Value} {a : Option Tracker}
    (own : ∀ t, a = some t → t.KnownTo σ)
    (each : Action.Mirrors σ (fun r => (σ.values r.1, r.2)) (fun r => ∀ v ∈ r.1, v.KnownTo σ)
      (u.freeFields declared vs) (u'.freeFields (declared.map σ.field) (σ.values vs))) :
    Leaves σ
      (do
        match ← u.freeFields declared vs with
        | (vs, none) => return (← finishFree type vs a, none)
        | (vs, some e) => return (.object type vs a, some e) : Action (Value × Option Violation))
      (do
        match ← u'.freeFields (declared.map σ.field) (σ.values vs) with
        | (vs, none) => return (← finishFree type vs (a.map σ.tracker), none)
        | (vs, some e) => return (.object type vs (a.map σ.tracker), some e)) := by
  refine .bind each ?_
  rintro ⟨ws, _ | violation⟩ inside
  · exact .bind (mirrors_finishFree type (trackers_object.2 ⟨inside, own⟩)) fun w left =>
      .pure rfl left
  · exact .pure rfl (trackers_object.2 ⟨inside, own⟩)

/-- An object has the images of the declared fields. -/
lemma fields (mirrors : u.Mirrors σ u') (t : TypeId) :
    (u'.layout? t).elim [] (·.fields) = ((u.layout? t).elim [] (·.fields)).map σ.field := by
  rw [mirrors.layout?]
  cases u.layout? t <;> rfl

mutual

/-- Both release the same, and what is left mirrors. -/
lemma free (mirrors : u.Mirrors σ u') : (v : Value) → v.KnownTo σ → ∀ t : TypeId,
    Leaves σ (u.free t v) (u'.free t (σ.value v))
  | .object type vs a, known, t => by
    obtain ⟨inside, own⟩ := trackers_object.1 known
    have shape : Value.object type (σ.values vs) (a.map σ.tracker) =
      σ.value (.object type vs a) := rfl
    have general := freeByLayout type own
      (mirrors.freeFields vs inside ((u.layout? type).elim [] (·.fields)))
    rw [← shape, Universe.free, Universe.free, shape, mirrors.accepts, mirrors.name,
      mirrors.typeName, mirrors.fields]
    split
    · refine .bind (mirrors.consultFree type known) fun answer _ => ?_
      cases answer with
      | keep => exact .pure rfl known
      | clear =>
        exact .bind (Value.mirrors_drop _) fun _ _ => .pure rfl (trackers_of_plain rfl)
      | decline => exact general
      | byLayout => exact general
    · exact .pure rfl known
  | .null, known, t => by
    show Leaves σ (u.free t .null) (u'.free t .null)
    rw [Universe.free, Universe.free]
    exact .pure rfl known
  | .scalar _, known, t => by
    simp only [Substitution.value, Universe.free]
    exact mirrors.freePlain t known
  | .buffer _, known, t => by
    simp only [Substitution.value, Universe.free]
    exact mirrors.freePlain t known
  | .reference _ _, known, t => by
    simp only [Substitution.value, Universe.free]
    exact mirrors.freePlain t known
  | .descriptor _, known, t => by
    simp only [Substitution.value, Universe.free]
    exact mirrors.freePlain t known

/-- The same for the fields of an object. -/
lemma freeFields (mirrors : u.Mirrors σ u') : (vs : List Value) → (∀ v ∈ vs, v.KnownTo σ) →
    ∀ declared : List Field,
      Action.Mirrors σ (fun r => (σ.values r.1, r.2)) (fun r => ∀ v ∈ r.1, v.KnownTo σ)
        (u.freeFields declared vs) (u'.freeFields (declared.map σ.field) (σ.values vs))
  | [], known, declared => by
    rw [Substitution.values, Universe.freeFields, Universe.freeFields]
    exact .pure rfl known
  | v :: vs, known, declared => by
    obtain ⟨first, others⟩ := List.forall_mem_cons.1 known
    -- the fields behind, whatever is left of the first one
    have rest : ∀ v : Value, v.KnownTo σ → Action.Mirrors σ (fun r => (σ.values r.1, r.2))
        (fun r : List Value × Option Violation => ∀ v ∈ r.1, v.KnownTo σ)
        (do
          let (vs, e) ← u.freeFields declared.tail vs
          return (v :: vs, e))
        (do
          let (vs, e) ← u'.freeFields (declared.tail.map σ.field) (σ.values vs)
          return (σ.value v :: vs, e)) := fun v hv =>
      .bind (mirrors.freeFields vs others declared.tail) fun r left =>
        .pure rfl (List.forall_mem_cons.2 ⟨hv, left⟩)
    rw [Substitution.values, Universe.freeFields, Universe.freeFields, List.head?_map,
      ← List.map_tail, freedThrough_substitution]
    split
    · exact rest v first
    · rename_i t _
      refine .bind (mirrors.free v first t) ?_
      rintro ⟨w, _ | violation⟩ left
      · exact rest w left
      · exact .pure rfl (List.forall_mem_cons.2 ⟨left, others⟩)

end

/-- The same for a release that does not ask the type of the object. -/
lemma freeObject (mirrors : u.Mirrors σ u') {v : Value} (known : v.KnownTo σ) :
    Leaves σ (u.freeObject v) (u'.freeObject (σ.value v)) := by
  cases v with
  | object type vs a =>
    obtain ⟨inside, own⟩ := trackers_object.1 known
    rw [Substitution.value, Universe.freeObject, Universe.freeObject, mirrors.fields]
    exact freeByLayout type own (mirrors.freeFields vs inside _)
  | _ => exact .pure rfl known

/-- An object that was not finished is freed and then dropped. -/
lemma abandon (mirrors : u.Mirrors σ u') {v : Value} (known : v.KnownTo σ) :
    Same σ (u.abandon v) (u'.abandon (σ.value v)) :=
  .bind (mirrors.freeObject known) fun r _ => .bind r.1.mirrors_drop fun _ _ => .pure rfl trivial

end Mirrors

end Universe

/-! ### Building objects -/

/-- A tracker adopts a buffer by copying it, or is refused. -/
lemma Tracker.mirrors_adopt {t : Tracker} (known : t.KnownTo σ) (ref : Handle) :
    Attempt.Fills σ
      (do
        let (v, t) ← t.adopt ref
        return (v, some t))
      (do
        let (v, t) ← (σ.tracker t).adopt ref
        return (v, some t)) := by
  have adopts : Attempt.Mirrors σ (fun r => (σ.value r.1, σ.tracker r.2))
      (fun r => r.1.KnownTo σ ∧ r.2.KnownTo σ) (t.adopt ref) ((σ.tracker t).adopt ref) := by
    rw [adopt, adopt]
    refine .get fun x x' like => ?_
    rw [like.read]
    split
    · exact .refuse _
    · rename_i bytes _
      refine .lift (mirrors_allocateWith known bytes.length fun _ => bytes) ?_
      rintro ⟨_ | copy, t'⟩ left
      · exact .refuse _
      · exact .pure rfl ⟨trackers_of_plain rfl, left⟩
  refine .bind adopts fun r left => .pure rfl ⟨left.1, ?_⟩
  rintro _ ⟨⟩
  exact left.2

/-- An object is finished by marking its tracker. -/
lemma Substitution.value_finish (type : TypeId) (vs : List Value) (a : Option Tracker) :
    finish type (vs.map σ.value) (a.map σ.tracker) = σ.value (finish type vs a) := by
  rw [finish, finish, value_object, Option.map_map, Option.map_map]
  rfl

/-- That names no other manager. -/
lemma Value.KnownTo.finish {type : TypeId} {vs : List Value} {a : Option Tracker}
    (known : (Value.object type vs a).KnownTo σ) : (finish type vs a).KnownTo σ := by
  obtain ⟨inside, own⟩ := trackers_object.1 known
  refine trackers_object.2 ⟨inside, fun t ht => ?_⟩
  obtain ⟨t', ht', rfl⟩ := Option.map_eq_some_iff.1 ht
  exact ⟨(own t' ht').manager, (own t' ht').setup⟩

namespace Universe.Mirrors

/-- What was built elsewhere comes into a field, the tracker being as it was. -/
lemma fills_of_builds {a a' : Attempt Value} (builds : Attempt.Builds σ a a')
    {tracker : Option Tracker} (own : ∀ t, tracker = some t → t.KnownTo σ) :
    Attempt.Fills σ (do return (← a, tracker)) (do return (← a', tracker.map σ.tracker)) :=
  .bind builds fun _ known => .pure rfl ⟨known, own⟩

/-- The step from one field to the next is the same if the rest is. -/
lemma settle (mirrors : u.Mirrors σ u') (type : TypeId) (f : Field) {built : List Value}
    {a : Option Tracker} {note : Action Unit}
    {next next' : List Value → Option Tracker → Attempt Value}
    {r : Except Fault (Value × Option Tracker)} (known : (Value.object type built a).KnownTo σ)
    (noted : Same σ note note)
    (made : ∀ x, r = .ok x → x.1.KnownTo σ ∧ ∀ t, x.2 = some t → t.KnownTo σ)
    (rest : ∀ v b, (Value.object type (built ++ [v]) b).KnownTo σ →
      Attempt.Builds σ (next (built ++ [v]) b)
        (next' ((built ++ [v]).map σ.value) (b.map σ.tracker))) :
    Attempt.Builds σ (u.settle type f built a note next r)
      (u'.settle type (σ.field f) (built.map σ.value) (a.map σ.tracker) note next'
        (r.map fun x => (σ.value x.1, x.2.map σ.tracker))) := by
  have dropped := (Value.object type built a).mirrors_drop (σ := σ)
  have abandoned := mirrors.abandon known
  rw [Substitution.value_object] at dropped abandoned
  rcases r with fault | ⟨v, b⟩
  · cases fault with
    | refused e =>
      refine .lift noted fun _ _ => .lift abandoned fun violation _ => ?_
      cases violation with
      | none => exact .refuse _
      | some violation => exact .throw _
    | violated violation => exact .lift dropped fun _ _ => .throw _
    | tooDeep => exact .lift dropped fun _ _ => .throw _
  · obtain ⟨hv, hb⟩ := made (v, b) rfl
    have all := List.forall_mem_append.2
      ⟨(trackers_object.1 known).1, List.forall_mem_singleton.2 hv⟩
    have next := rest v b (trackers_object.2 ⟨all, hb⟩)
    rwa [List.map_append] at next

/-! ### Duplication -/

/-- What is no object is copied as it is or answered by a hook. -/
lemma duplicatePlain (mirrors : u.Mirrors σ u') (t : TypeId) (recursive : Bool) {v : Value}
    (known : v.KnownTo σ) :
    Attempt.Builds σ (u.duplicatePlain t recursive v)
      (u'.duplicatePlain t recursive (σ.value v)) := by
  rw [Universe.duplicatePlain, Universe.duplicatePlain, mirrors.accepts, mirrors.name,
    mirrors.typeName, Substitution.rawCopy_value]
  split
  · refine .lift (mirrors.consultDuplicate t known recursive) fun answer built => ?_
    cases answer with
    | built w => exact .pure rfl (built w rfl)
    | failed e => exact .refuse e
    | _ => exact .pure rfl known.rawCopy
  · exact .refuse _

/-- A value is duplicated for an object, whose tracker may adopt it. -/
lemma duplicateInto {duplicate duplicate' : TypeId → Attempt Value} {v : Value}
    (known : v.KnownTo σ) (copies : ∀ t, Attempt.Builds σ (duplicate t) (duplicate' t))
    (deep : Bool) (declared : Option TypeId) {a : Option Tracker}
    (own : ∀ t, a = some t → t.KnownTo σ) :
    Attempt.Fills σ (Universe.duplicateInto duplicate deep declared a v)
      (Universe.duplicateInto duplicate' deep declared (a.map σ.tracker) (σ.value v)) := by
  have copied : Attempt.Fills σ (pure (v.rawCopy, a))
      (pure ((σ.value v).rawCopy, a.map σ.tracker)) := by
    rw [Substitution.rawCopy_value]
    exact .pure rfl ⟨known.rawCopy, own⟩
  have made := fun t => fills_of_builds (copies t) own
  cases deep with
  | false => exact copied
  | true =>
    cases v with
    | object type vs tr => exact made type
    | buffer ref =>
      cases a with
      | some t => exact Tracker.mirrors_adopt (own t rfl) ref
      | none =>
        cases declared with
        | none => exact copied
        | some t => exact made t
    | null => exact .pure rfl ⟨known, own⟩
    | _ =>
      cases declared with
      | none => exact copied
      | some t => exact made t

/-- An object with the right number of values has the images of the fields. -/
lemma fieldsFor (mirrors : u.Mirrors σ u') (t : TypeId) (vs : List Value) :
    u'.fieldsFor t (σ.values vs) = (u.fieldsFor t vs).map (·.map σ.field) := by
  unfold Universe.fieldsFor
  rw [mirrors.layout?, mirrors.name, Substitution.values_eq_map, List.length_map]
  cases u.layout? t with
  | none => rfl
  | some l =>
    have fields : (σ.layout l).fields = l.fields.map σ.field := rfl
    dsimp only [Option.map_some]
    rw [fields, List.length_map]
    split <;> rfl

/-- The copy of an object starts with a new tracker for the manager of the source. -/
lemma knownTo_fresh {type : TypeId} {vs : List Value} {a : Option Tracker}
    (known : (Value.object type vs a).KnownTo σ) :
    (Value.object type [] (a.map fun t => { manager := t.manager })).KnownTo σ := by
  refine trackers_object.2 ⟨List.forall_mem_nil _, fun t ht => ?_⟩
  obtain ⟨t', ht', rfl⟩ := Option.map_eq_some_iff.1 ht
  exact Tracker.knownTo_new ((trackers_object.1 known).2 t' ht').manager

mutual

/-- Both make the same duplicate, or fail for the same reason. -/
lemma duplicate (mirrors : u.Mirrors σ u') : (v : Value) → v.KnownTo σ →
    ∀ (t : TypeId) (recursive : Bool),
      Attempt.Builds σ (u.duplicate t recursive v) (u'.duplicate t recursive (σ.value v))
  | .object type vs a, known, t, recursive => by
    have general : ∀ r, Attempt.Builds σ
        (match u.fieldsFor type vs with
          | .error e => Attempt.refuse e
          | .ok fs => u.duplicateFields type r fs [] (a.map fun t => { manager := t.manager }) vs)
        (match u'.fieldsFor type (σ.values vs) with
          | .error e => Attempt.refuse e
          | .ok fs => u'.duplicateFields type r fs []
              ((a.map σ.tracker).map fun t => { manager := t.manager }) (σ.values vs)) := by
      intro r
      rw [mirrors.fieldsFor]
      cases u.fieldsFor type vs with
      | error e => exact .refuse e
      | ok fs =>
        have fields := mirrors.duplicateFields vs (trackers_object.1 known).1 type r fs []
          (a.map fun t => { manager := t.manager }) (knownTo_fresh known)
        rw [Option.map_map] at fields ⊢
        exact fields
    have shape : Value.object type (σ.values vs) (a.map σ.tracker) =
      σ.value (.object type vs a) := rfl
    rw [← shape, Universe.duplicate, Universe.duplicate, shape, mirrors.accepts, mirrors.name,
      mirrors.typeName]
    split
    · refine .lift (mirrors.consultDuplicate type known recursive) fun answer built => ?_
      cases answer with
      | built w => exact .pure rfl (built w rfl)
      | failed e => exact .refuse e
      | byLayout r => exact general r
      | decline => exact general recursive
    · exact .refuse _
  | .null, known, t, recursive | .scalar _, known, t, recursive | .buffer _, known, t, recursive
  | .reference _ _, known, t, recursive | .descriptor _, known, t, recursive => by
    simp only [Substitution.value, Universe.duplicate]
    exact mirrors.duplicatePlain t recursive known

/-- The same for the fields of an object, those that were made before mirroring each other. -/
lemma duplicateFields (mirrors : u.Mirrors σ u') : (vs : List Value) → (∀ v ∈ vs, v.KnownTo σ) →
    ∀ (type : TypeId) (recursive : Bool) (declared : List Field) (built : List Value)
      (a : Option Tracker), (Value.object type built a).KnownTo σ →
      Attempt.Builds σ (u.duplicateFields type recursive declared built a vs)
        (u'.duplicateFields type recursive (declared.map σ.field) (built.map σ.value)
          (a.map σ.tracker) (σ.values vs))
  | [], _, type, recursive, declared, built, a, done => by
    rw [Substitution.values, Universe.duplicateFields, Universe.duplicateFields]
    exact .pure (Substitution.value_finish type built a) done.finish
  | v :: vs, known, type, recursive, declared, built, a, done => by
    obtain ⟨first, others⟩ := List.forall_mem_cons.1 known
    cases declared with
    | nil =>
      rw [List.map_nil, Substitution.values, Universe.duplicateFields, Universe.duplicateFields]
      exact .pure (Substitution.value_finish type built a) done.finish
    | cons f fs =>
      rw [List.map_cons, Substitution.values, Universe.duplicateFields, Universe.duplicateFields]
      refine .outcome (duplicateInto first (fun t => mirrors.duplicate v first t true)
        (recursive && f.recurse) f.type (trackers_object.1 done).2) fun r made => ?_
      exact mirrors.settle type f done (.pure rfl trivial) made fun w b known =>
        mirrors.duplicateFields vs others type recursive fs _ b known

end

/-- A duplication over a target frees what was there, if it comes to that. -/
lemma duplicateOver (mirrors : u.Mirrors σ u') (t : TypeId) {target source : Value}
    (there : target.KnownTo σ) (known : source.KnownTo σ) (recursive : Bool) :
    Leaves σ (u.duplicateOver t target source recursive)
      (u'.duplicateOver t (σ.value target) (σ.value source) recursive) := by
  rw [Universe.duplicateOver, Universe.duplicateOver]
  refine .bind (mirrors.duplicate source known t recursive) ?_
  rintro (fault | v) made
  · exact .pure rfl there
  · dsimp only [Except.map]
    rw [Substitution.offHeap_value]
    refine .bind (mirrors.free target there t) ?_
    rintro ⟨rest, _ | violation⟩ left
    · exact .bind rest.mirrors_drop fun _ _ => .pure rfl (made v rfl).offHeap
    · exact .bind (Value.mirrors_drop _) fun _ _ => .pure rfl left

/-! ### Construction -/

/-- Constructions build the same from templates that mirror each other. -/
def Nests (σ : Substitution) (nested nested' : TypeId → Template → Attempt Value) : Prop :=
  ∀ t c, c.KnownTo σ → Attempt.Builds σ (nested t c) (nested' t (σ.template c))

section Construct

variable {nested nested' : TypeId → Template → Attempt Value}

/-- A value is copied into an object by constructing anew from it, or as it is. -/
lemma copyInto (below : Nests σ nested nested') {m : Manager} (hm : σ.known m)
    {a : Option Tracker} (own : ∀ t, a = some t → t.KnownTo σ) {v : Value} (known : v.KnownTo σ) :
    Attempt.Fills σ (Universe.copyInto nested m a v)
      (Universe.copyInto nested' (σ.manager m) (a.map σ.tracker) (σ.value v)) := by
  cases v with
  | object type vs tr =>
    refine fills_of_builds (below type { manager := some m, initials := some _ } ⟨?_, ?_⟩) own
    · exact Substitution.knows_some hm
    · rintro _ ⟨⟩
      exact known
  | buffer ref =>
    cases a with
    | some t => exact Tracker.mirrors_adopt (own t rfl) ref
    | none => exact .pure rfl ⟨known, own⟩
  | _ => exact .pure rfl ⟨known, own⟩

/-- Zeros name no manager. -/
lemma knownTo_zeroOf (u : Universe) (t : TypeId) : (u.zeroOf t).KnownTo σ := by
  refine zeroOf_forall (P := (·.KnownTo σ)) (fun k => trackers_of_plain k.isObject_zero)
    (fun t l vs _ _ inside => trackers_object.2 ⟨inside, fun tr htr => ?_⟩) t
  split at htr
  · cases htr
    exact Tracker.knownTo_new Substitution.knows_none
  · cases htr

/-- A default comes from a construction of its own, or is a zero. -/
lemma defaultFor (mirrors : u.Mirrors σ u') (below : Nests σ nested nested') {m : Manager}
    (hm : σ.known m) (f : Field) :
    Attempt.Builds σ (u.defaultFor nested m f)
      (u'.defaultFor nested' (σ.manager m) (σ.field f)) := by
  have type : (σ.field f).type = f.type := rfl
  rw [Universe.defaultFor, Universe.defaultFor, type]
  cases f.type with
  | none => exact .pure rfl (trackers_of_plain rfl)
  | some t =>
    dsimp only
    rw [mirrors.layout?, Option.isSome_map, (mirrors t).canonical, mirrors.zeroOf]
    split
    · exact below t { manager := some m } (Template.knownTo_of_manager (Substitution.knows_some hm))
    · cases hc : (u.desc t).canonical with
      | none => exact .pure rfl (knownTo_zeroOf u t)
      | some v => exact .pure (Substitution.rawCopy_value v) ((mirrors t).preset v hc).rawCopy

/-- The value of a field comes from the same source in both. -/
lemma made (mirrors : u.Mirrors σ u') (below : Nests σ nested nested') (c : Template)
    {m : Manager} (hm : σ.known m) {initials canonical : Option (List Value)}
    (starts : ∀ vs, initials = some vs → ∀ v ∈ vs, v.KnownTo σ)
    (presets : ∀ vs, canonical = some vs → ∀ v ∈ vs, v.KnownTo σ) {h h' : Heap}
    (heaps : h.Mirrors σ h') {f : Field} (blind : Blind σ f) {a : Option Tracker}
    (own : ∀ t, a = some t → t.KnownTo σ) :
    Attempt.Fills σ (u.made nested c m initials canonical h f a)
      (u'.made nested' (σ.template c) (σ.manager m) (initials.map (·.map σ.value))
        (canonical.map (·.map σ.value)) h' (σ.field f) (a.map σ.tracker)) := by
  rw [Universe.made, Universe.made, mirrors.sourceOf heaps c initials canonical blind]
  cases source : u.sourceOf h c initials canonical f with
  | some v =>
    exact copyInto below hm own (forall_sourceOf starts presets source)
  | none => exact fills_of_builds (mirrors.defaultFor below hm f) own

/-- The fields are made one by one, until one fails in both. -/
lemma constructFields (mirrors : u.Mirrors σ u') (below : Nests σ nested nested') (t : TypeId)
    (c : Template) {m : Manager} (hm : σ.known m) {initials canonical : Option (List Value)}
    (starts : ∀ vs, initials = some vs → ∀ v ∈ vs, v.KnownTo σ)
    (presets : ∀ vs, canonical = some vs → ∀ v ∈ vs, v.KnownTo σ) (fs : List Field)
    (blind : ∀ f ∈ fs, Blind σ f) :
    ∀ (built : List Value) (a : Option Tracker), (Value.object t built a).KnownTo σ →
      Attempt.Builds σ (u.constructFields nested t c m initials canonical fs built a)
        (u'.constructFields nested' t (σ.template c) (σ.manager m) (initials.map (·.map σ.value))
          (canonical.map (·.map σ.value)) (fs.map σ.field) (built.map σ.value)
          (a.map σ.tracker)) := by
  induction fs with
  | nil =>
    intro built a done
    exact .pure (Substitution.value_finish t built a) done.finish
  | cons f fs ih =>
    intro built a done
    obtain ⟨first, others⟩ := List.forall_mem_cons.1 blind
    have count : (a.map σ.tracker).elim 0 (·.buffers.length) = a.elim 0 (·.buffers.length) := by
      cases a <;> rfl
    rw [List.map_cons, constructFields_cons, constructFields_cons, mirrors.name, count]
    refine .get fun x x' like => ?_
    refine .outcome (mirrors.made below c hm starts presets like first (trackers_object.1 done).2)
      fun r made => ?_
    exact mirrors.settle t f done (mirrors_log _) made fun v b known => ih others _ b known

/-- A construction is served by the manager in place of the one that serves the other. -/
lemma managerFor (mirrors : u.Mirrors σ u') (t : TypeId) {c : Template} (known : c.KnownTo σ) :
    Action.Mirrors σ σ.manager σ.known (u.managerFor t c) (u'.managerFor t (σ.template c)) := by
  have manager : (σ.template c).manager = c.manager.map σ.manager := rfl
  rw [Universe.managerFor, Universe.managerFor, manager, (mirrors t).manager, ← Option.map_or]
  cases hm : c.manager.or (u.desc t).manager with
  | none => exact mirrors_processManager
  | some m =>
    refine .pure rfl ?_
    obtain own | ⟨_, default⟩ := Option.or_eq_some_iff.1 hm
    · exact known.manager m own
    · exact (mirrors t).served m default

/-- Both construct the same structure, or fail for the same reason. -/
lemma constructStruct (mirrors : u.Mirrors σ u') (below : Nests σ nested nested') (t : TypeId)
    {c : Template} (known : c.KnownTo σ) :
    Attempt.Builds σ (u.constructStruct nested t c)
      (u'.constructStruct nested' t (σ.template c)) := by
  have lists : ∀ v : Option Value, (v.map σ.value).bind (·.fields?) =
      (v.bind (·.fields?)).map (·.map σ.value) := by
    rintro (_ | v)
    · rfl
    · exact Substitution.fields?_value v
  have toList : ∀ o : Option (List Value),
      (o.map (·.map σ.value)).toList = o.toList.map (·.map σ.value) := by
    rintro (_ | vs) <;> rfl
  rw [Universe.constructStruct, Universe.constructStruct, mirrors.layout?, mirrors.name]
  cases hl : u.layout? t with
  | none => exact .refuse _
  | some l =>
    have fields : (σ.layout l).fields = l.fields.map σ.field := rfl
    have tracked : (σ.layout l).tracked = l.tracked := rfl
    refine .lift (mirrors.managerFor t known) fun m hm => ?_
    dsimp only
    rw [Substitution.initials?_template, (mirrors t).canonical, lists, lists, toList, toList,
      ← List.map_append, List.find?_map, fields, tracked, List.length_map]
    have lengths : (fun vs : List Value => decide (vs.length ≠ l.fields.length)) ∘
        List.map σ.value = fun vs => decide (vs.length ≠ l.fields.length) := by
      funext vs
      rw [Function.comp, List.length_map]
    rw [lengths]
    split <;> rename_i found
    · rw [found]
      dsimp only [Option.map_some]
      rw [List.length_map]
      exact .refuse _
    · rw [found]
      have own : (if l.tracked then some ({ manager := some (σ.manager m) } : Tracker) else none) =
          (if l.tracked then some { manager := some m } else none).map σ.tracker := by
        split <;> rfl
      dsimp only [Option.map_none]
      rw [own]
      refine mirrors.constructFields below t c hm
        (Value.forall_fields? fun v _ hv => (known.initials? v hv).fields)
        (Value.forall_fields? fun v _ hv => ((mirrors t).preset v hv).fields)
        l.fields (mirrors.blind hl) [] _ ?_
      refine trackers_object.2 ⟨List.forall_mem_nil _, fun tr htr => ?_⟩
      split at htr
      · cases htr
        exact Tracker.knownTo_new (Substitution.knows_some hm)
      · cases htr

/-- If the constructions below mirror each other, those of the next level do. -/
lemma constructWith (mirrors : u.Mirrors σ u') (below : Nests σ nested nested') :
    Nests σ (u.constructWith nested) (u'.constructWith nested') := by
  intro t c known
  have byLayout := mirrors.constructStruct below t known
  have wrong : (fun v => !u'.isExact t v) ∘ σ.value = fun v => !u.isExact t v := by
    funext v
    rw [Function.comp, mirrors.isExact]
  rw [Universe.constructWith, Universe.constructWith, Substitution.initials?_template,
    Option.filter_map, wrong, mirrors.name, (mirrors t).kind, (mirrors t).canonical,
    mirrors.zeroOf, ← Option.map_or]
  cases c.initials?.filter fun v => !u.isExact t v with
  | some v =>
    dsimp only [Option.map_some]
    rw [mirrors.typeName]
    exact .refuse _
  | none =>
    refine .lift (mirrors.consultConstruct t known) fun answer built => ?_
    cases answer with
    | built v => exact .pure rfl (built v rfl)
    | failed e => exact .refuse e
    | byLayout => exact byLayout
    | decline =>
      have copied : Attempt.Builds σ
          (pure ((c.initials?.or (u.desc t).canonical).elim (u.zeroOf t) (·.rawCopy)))
          (pure (((c.initials?.or (u.desc t).canonical).map σ.value).elim (σ.value (u.zeroOf t))
            (·.rawCopy))) := by
        cases hs : c.initials?.or (u.desc t).canonical with
        | none => exact .pure rfl (knownTo_zeroOf u t)
        | some v =>
          refine .pure (Substitution.rawCopy_value v) (Value.KnownTo.rawCopy ?_)
          obtain hv | ⟨_, hv⟩ := Option.or_eq_some_iff.1 hs
          · exact known.initials? v hv
          · exact (mirrors t).preset v hv
      cases (u.desc t).kind with
      | struct l => exact byLayout
      | blackBox n => exact .refuse _
      | _ => exact copied

end Construct

/-- A construction is the same, however deep it goes and however it ends. -/
lemma construct (mirrors : u.Mirrors σ u') (depth : Nat) :
    Nests σ (u.construct depth) (u'.construct depth) := by
  induction depth with
  | zero => exact fun t c _ => .throw _
  | succ depth ih =>
    intro t c known
    rw [Universe.construct, Universe.construct, mirrors.name]
    refine .outcome (mirrors.constructWith ih t c known) ?_
    rintro (fault | v) made
    · cases fault with
      | refused e => exact .lift (mirrors_log _) fun _ _ => .throw _
      | violated violation => exact .throw _
      | tooDeep => exact .throw _
    · exact .pure rfl (made v rfl)

/-- What a construction is reported as: a value or a fault, and what the message says. -/
lemma constructReporting (mirrors : u.Mirrors σ u') (depth : Nat) (t : TypeId) {c : Template}
    (known : c.KnownTo σ) :
    Action.Mirrors σ (fun r => (r.1.map σ.value, r.2)) (fun r => ∀ v, r.1 = .ok v → v.KnownTo σ)
      (u.constructReporting depth t c) (u'.constructReporting depth t (σ.template c)) := by
  rw [Universe.constructReporting, Universe.constructReporting]
  refine .bind (mirrors.construct depth t c known) ?_
  rintro (fault | v) made
  · have failed : ∀ v : Value, Except.error fault = .ok v → v.KnownTo σ := by rintro _ ⟨⟩
    cases fault <;> exact .pure rfl failed
  · exact .pure rfl made

/-- A construction in place frees what was there, if it comes to that. -/
lemma constructAt (mirrors : u.Mirrors σ u') (depth : Nat) (t : TypeId) {target : Value}
    {c : Template} (there : target.KnownTo σ) (known : c.KnownTo σ) :
    Leaves σ (u.constructAt depth t target c)
      (u'.constructAt depth t (σ.value target) (σ.template c)) := by
  rw [Universe.constructAt, Universe.constructAt, Substitution.isNull_value, mirrors.typeName]
  split
  · refine .bind (mirrors.constructReporting depth t known) ?_
    rintro ⟨_ | v, message⟩ made
    · exact .pure rfl there
    · exact .pure (congrArg (·, none, message) (Substitution.offHeap_value v)) (made v rfl).offHeap
  · exact .pure rfl there

end Universe.Mirrors

end Metaobject
