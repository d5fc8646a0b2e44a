import Metaobject.Proofs.Lifecycle.Assembly
import Metaobject.Proofs.Lifecycle.Soundness
import Metaobject.Proofs.Universe.Formed

/-!
# Objects stay formed

Objects come into being as zeros, as copies, from their field values, and field by field. None of
these ways leads to an object that is not formed, and writing and freeing leave it what it is. An
object that is built field by field and has to be given up is not formed: it is freed and dropped
where it is, and neither a hook nor the caller gets hold of it.

Hooks may do what they like, as long as they make formed values of formed values.
-/

namespace Metaobject

/-- What the hooks make of formed values is formed. Nothing is said of other values, because hooks
are never given any. -/
structure Behavior.Forms (b : Behavior) (u : Universe) : Prop where
  construct : ∀ hook, b.construct = some hook → ∀ name c v,
    (∀ w, c.initials? = some w → u.isFormed w = true) → hook name c = .built v →
      u.isFormed v = true
  duplicate : ∀ hook, b.duplicate = some hook → ∀ name v recursive w,
    u.isFormed v = true → hook name v recursive = .built w → u.isFormed w = true

namespace Universe

/-- All hooks make formed values of formed values. -/
def HooksForm (u : Universe) : Prop :=
  ∀ t b, (u.desc t).behavior = some b → b.Forms u

/-- The canonical instances are formed. -/
def DefaultsFormed (u : Universe) : Prop :=
  ∀ t v, (u.desc t).canonical = some v → u.isFormed v = true

/-- A template only brings formed initials. -/
def StartsFormed (u : Universe) (c : Template) : Prop :=
  ∀ v, c.initials? = some v → u.isFormed v = true

variable {u : Universe}

/-! ### Writing -/

/-- An object stays formed with another value in one of its fields. -/
lemma formed_replaceField {t : TypeId} {vs : List Value} {a b : Option Tracker} (i : Nat)
    {v : Value} (formed : u.isFormed (.object t vs a) = true) (tracker : b.isSome = a.isSome)
    (hv : u.isFormed v = true) :
    (replaceField t vs b i v).Yields fun w => u.isFormed w = true :=
  .andThen fun _ => .pure (isFormed_set i (isFormed_retrack formed tracker) hv)

/-- So it does after a write that may be out of bounds. -/
lemma formed_writeAt (i : Nat) {v w : Value} (hv : u.isFormed v = true)
    (formed : u.isFormed w = true) : (writeAt i v w).Yields fun r => u.isFormed r = true := by
  cases w with
  | object t vs a =>
    rw [writeAt]
    split
    · exact formed_replaceField i formed rfl hv
    · exact .andThen fun _ => .pure formed
  | _ => exact .andThen fun _ => .pure formed

/-- And after a write by name. -/
lemma formed_writeField (name : String) {v w : Value} (hv : u.isFormed v = true)
    (formed : u.isFormed w = true) :
    (u.writeField name v w).Yields fun r => u.isFormed r.1 = true := by
  cases w with
  | object t vs a =>
    rw [writeField]
    split
    · exact .andThen fun _ => .pure formed
    · split
      · exact .andThen fun _ => .pure formed
      · exact .bind (formed_replaceField _ formed rfl hv) fun x hx => .pure hx
  | _ => exact .andThen fun _ => .pure formed

/-- And after new bytes for a field, which are a buffer. -/
lemma formed_writeBytes (name : String) (bytes : Bytes) {w : Value}
    (formed : u.isFormed w = true) :
    (u.writeBytes name bytes w).Yields fun r => u.isFormed r.1 = true := by
  cases w with
  | object t vs a =>
    rw [writeBytes]
    split
    · exact .pure formed
    · split
      · exact .pure formed
      · exact .pure formed
      · refine .andThen ?_
        rintro ⟨_ | ref, tr⟩
        · exact .pure (isFormed_retrack formed rfl)
        · exact .bind (formed_replaceField _ formed rfl rfl) fun x hx => .pure hx
  | _ => exact .pure formed

/-! ### Freeing -/

/-- At the end of a release there is null, or the object with an empty tracker. -/
lemma formed_finishFree {t : TypeId} {vs : List Value} {a : Option Tracker}
    (formed : u.isFormed (.object t vs a) = true) :
    (finishFree t vs a).Yields fun w => u.isFormed w = true := by
  cases a with
  | none => exact .pure formed
  | some tr =>
    refine .andThen ?_
    rintro ⟨onHeap, tr'⟩
    dsimp only
    split
    · exact .andThen fun _ => .pure rfl
    · exact .pure (isFormed_retrack formed rfl)

/-- What is no object is left alone or becomes null. -/
lemma formed_freePlain (t : TypeId) {v : Value} (formed : u.isFormed v = true) :
    (u.freePlain t v).Yields fun r => u.isFormed r.1 = true := by
  rw [freePlain]
  split
  · refine .andThen fun answer => ?_
    cases answer with
    | clear => exact .pure rfl
    | _ => exact .pure formed
  · exact .pure formed

mutual

/-- What is left of a formed value is formed, also where a violation stops its being freed. -/
lemma formed_free : (v : Value) → u.isFormed v = true → ∀ t : TypeId,
    (u.free t v).Yields fun r => u.isFormed r.1 = true
  | .object s vs a, formed, t => by
    rw [free]
    split
    · refine .andThen fun answer => ?_
      cases answer with
      | keep => exact .pure formed
      | clear => exact .andThen fun _ => .pure rfl
      | _ =>
        refine .bind (formed_freeFields vs (isFormed_object.1 formed).2 _) ?_
        rintro ⟨ws, _ | violation⟩ ⟨len, all⟩
        · have left := isFormed_object_of formed len rfl all
          exact .bind (formed_finishFree left) fun w hw => .pure hw
        · exact .pure (isFormed_object_of formed len rfl all)
    · exact .pure formed
  | .null, formed, t => by
    rw [free]
    exact .pure formed
  | .scalar s, formed, t => by
    simp only [free]
    exact formed_freePlain t formed
  | .buffer ref, formed, t => by
    simp only [free]
    exact formed_freePlain t formed
  | .reference kind address, formed, t => by
    simp only [free]
    exact formed_freePlain t formed
  | .descriptor type, formed, t => by
    simp only [free]
    exact formed_freePlain t formed

/-- The fields of an object are as many as before, and each is formed. -/
lemma formed_freeFields : (vs : List Value) → (∀ v ∈ vs, u.isFormed v = true) →
    ∀ declared : List Field, (u.freeFields declared vs).Yields fun r =>
      r.1.length = vs.length ∧ ∀ v ∈ r.1, u.isFormed v = true
  | [], all, declared => by
    rw [freeFields]
    exact .pure ⟨rfl, all⟩
  | v :: vs, all, declared => by
    obtain ⟨first, others⟩ := List.forall_mem_cons.1 all
    rw [freeFields]
    have rest : ∀ w : Value, u.isFormed w = true →
        (do
          let (ws, e) ← freeFields u declared.tail vs
          return (w :: ws, e) : Action (List Value × Option Violation)).Yields
        fun r => r.1.length = (v :: vs).length ∧ ∀ x ∈ r.1, u.isFormed x = true := by
      intro w hw
      refine .bind (formed_freeFields vs others declared.tail) fun r left => .pure ⟨?_, ?_⟩
      · rw [List.length_cons, List.length_cons, left.1]
      · exact List.forall_mem_cons.2 ⟨hw, left.2⟩
    split
    · exact rest v first
    · rename_i t _
      refine .bind (formed_free v first t) ?_
      rintro ⟨w, _ | violation⟩ hw
      · exact rest w hw
      · -- what comes after the violation was not touched
        exact .pure ⟨rfl, List.forall_mem_cons.2 ⟨hw, others⟩⟩

end

/-- The same for a release that does not ask the type of the object. -/
lemma formed_freeObject {v : Value} (formed : u.isFormed v = true) :
    (u.freeObject v).Yields fun r => u.isFormed r.1 = true := by
  cases v with
  | object t vs a =>
    rw [freeObject]
    refine .bind (formed_freeFields vs (isFormed_object.1 formed).2 _) ?_
    rintro ⟨ws, _ | violation⟩ ⟨len, all⟩
    · have left := isFormed_object_of formed len rfl all
      exact .bind (formed_finishFree left) fun w hw => .pure hw
    · exact .pure (isFormed_object_of formed len rfl all)
  | _ => exact .pure formed

/-! ### Duplicating -/

/-- Where a type answers with a value of its own, that value is formed. -/
lemma formed_consultDuplicate (hooks : u.HooksForm) (t : TypeId) {v : Value}
    (formed : u.isFormed v = true) (recursive : Bool) :
    (u.consultDuplicate t v recursive).Yields fun answer =>
      ∀ w, answer = .built w → u.isFormed w = true := by
  rw [consultDuplicate]
  split
  · exact .pure fun w answered => by cases answered
  · rename_i hook asked
    obtain ⟨b, hb, hhook⟩ := Option.bind_eq_some_iff.1 asked
    refine .andThen fun _ => .pure fun w answered => ?_
    exact (hooks t b hb).duplicate hook hhook _ v recursive w formed answered

/-- What is no object is copied as it is, or a hook makes a formed value of it. -/
lemma formed_duplicatePlain (hooks : u.HooksForm) (t : TypeId) (recursive : Bool) {v : Value}
    (formed : u.isFormed v = true) :
    (u.duplicatePlain t recursive v).Yields fun w => u.isFormed w = true := by
  rw [duplicatePlain]
  split
  · refine .consult (formed_consultDuplicate hooks t formed recursive) fun answer made => ?_
    cases answer with
    | built w => exact .pure (made w rfl)
    | failed e => exact .refuse
    | _ => exact .pure (isFormed_rawCopy v formed)
  · exact .refuse

/-- A buffer keeps its place, and the tracker is still there. -/
lemma formed_adopt (tr : Tracker) (ref : Handle) :
    Attempt.Yields (do
      let (v, tr) ← tr.adopt ref
      return (v, some tr)) fun r => u.isFormed r.1 = true ∧ r.2.isSome = true := by
  refine .bind (P := fun r => u.isFormed r.1 = true) ?_ fun r hr => .pure ⟨hr, rfl⟩
  rw [Tracker.adopt]
  refine .get fun h => ?_
  split
  · exact .refuse
  · refine .lift ?_
    rintro ⟨_ | copy, tr'⟩
    · exact .refuse
    · exact .pure rfl

/-- A value is duplicated for an object, which has a tracker afterwards if it had one before. -/
lemma formed_duplicateInto {v : Value} (formed : u.isFormed v = true)
    {duplicate : TypeId → Attempt Value}
    (copies : ∀ t, (duplicate t).Yields fun w => u.isFormed w = true) (deep : Bool)
    (declared : Option TypeId) (tracker : Option Tracker) :
    (duplicateInto duplicate deep declared tracker v).Yields fun r =>
      u.isFormed r.1 = true ∧ r.2.isSome = tracker.isSome := by
  unfold duplicateInto
  split
  · split
    · exact .bind (copies _) fun w hw => .pure ⟨hw, rfl⟩
    · exact formed_adopt _ _
    · exact .pure ⟨rfl, rfl⟩
    · exact .bind (copies _) fun w hw => .pure ⟨hw, rfl⟩
    · exact .pure ⟨isFormed_rawCopy v formed, rfl⟩
  · exact .pure ⟨isFormed_rawCopy v formed, rfl⟩

/-- With formed values for all its fields an object is formed. -/
lemma formed_finish {t : TypeId} {vs : List Value} {a : Option Tracker}
    (form : u.HasForm t vs.length a.isSome) (all : ∀ v ∈ vs, u.isFormed v = true) :
    u.isFormed (finish t vs a) = true := by
  refine isFormed_object.2 ⟨?_, all⟩
  rw [Option.isSome_map]
  exact form

/-- A formed object has as many values as there are fields. -/
lemma fieldsFor_of_isFormed {t : TypeId} {vs : List Value} {a : Option Tracker}
    (formed : u.isFormed (.object t vs a) = true) :
    ∃ fs, u.fieldsFor t vs = .ok fs ∧ vs.length = fs.length := by
  obtain ⟨⟨l, hl, len, _⟩, _⟩ := isFormed_object.1 formed
  refine ⟨l.fields, ?_, len.symm⟩
  unfold fieldsFor
  rw [hl]
  exact if_pos len.symm

mutual

/-- The duplicate of a formed value is formed. -/
lemma formed_duplicate (hooks : u.HooksForm) : (v : Value) → u.isFormed v = true →
    ∀ (t : TypeId) (recursive : Bool),
      (u.duplicate t recursive v).Yields fun w => u.isFormed w = true
  | .object s vs a, formed, t, recursive => by
    obtain ⟨form, all⟩ := isFormed_object.1 formed
    obtain ⟨fs, hf, len⟩ := fieldsFor_of_isFormed formed
    have general : ∀ r, (u.duplicateFields s r fs []
        (a.map fun tr => { manager := tr.manager }) vs).Yields fun w => u.isFormed w = true :=
      fun r => formed_duplicateFields hooks vs all s r fs [] _ len nofun
        (by rw [Option.isSome_map]; exact form)
    rw [duplicate]
    split
    · refine .consult (formed_consultDuplicate hooks s formed recursive) fun answer made => ?_
      rw [hf]
      cases answer with
      | built w => exact .pure (made w rfl)
      | failed e => exact .refuse
      | byLayout r => exact general r
      | decline => exact general recursive
    · exact .refuse
  | .null, formed, t, recursive => by
    simp only [duplicate]
    exact formed_duplicatePlain hooks t recursive formed
  | .scalar s, formed, t, recursive => by
    simp only [duplicate]
    exact formed_duplicatePlain hooks t recursive formed
  | .buffer ref, formed, t, recursive => by
    simp only [duplicate]
    exact formed_duplicatePlain hooks t recursive formed
  | .reference kind address, formed, t, recursive => by
    simp only [duplicate]
    exact formed_duplicatePlain hooks t recursive formed
  | .descriptor type, formed, t, recursive => by
    simp only [duplicate]
    exact formed_duplicatePlain hooks t recursive formed

/-- An object that is duplicated field by field is formed when all its fields are there. -/
lemma formed_duplicateFields (hooks : u.HooksForm) : (vs : List Value) →
    (∀ v ∈ vs, u.isFormed v = true) →
    ∀ (type : TypeId) (recursive : Bool) (declared : List Field) (built : List Value)
      (tracker : Option Tracker), vs.length = declared.length →
      (∀ v ∈ built, u.isFormed v = true) →
      u.HasForm type (vs.length + built.length) tracker.isSome →
      (u.duplicateFields type recursive declared built tracker vs).Yields fun w =>
        u.isFormed w = true
  | [], _, type, recursive, declared, built, tracker, _, done, form => by
    rw [duplicateFields]
    rw [List.length_nil, Nat.zero_add] at form
    exact .pure (formed_finish form done)
  | v :: vs, all, type, recursive, declared, built, tracker, len, done, form => by
    obtain ⟨first, rest⟩ := List.forall_mem_cons.1 all
    cases declared with
    | nil => cases len
    | cons f fs =>
      rw [duplicateFields]
      refine .outcome (formed_duplicateInto first (fun t => formed_duplicate hooks v first t true)
        _ f.type tracker) fun r copied => u.yields_settle type f built tracker _ ?_
      intro w tracker' made
      obtain ⟨hw, kept⟩ := copied _ made
      refine formed_duplicateFields hooks vs rest type recursive fs (built ++ [w]) tracker'
        (Nat.succ.inj len) (List.forall_mem_append.2 ⟨done, List.forall_mem_singleton.2 hw⟩) ?_
      rw [List.length_append, List.length_singleton, Nat.add_comm built.length, ← Nat.add_assoc,
        kept]
      exact form

end

/-- An object that is formed is never refused for the number of its values. -/
lemma duplicateObject_of_isFormed {t : TypeId} {vs : List Value} {a : Option Tracker}
    (formed : u.isFormed (.object t vs a) = true) (recursive : Bool) :
    ∃ fs, vs.length = fs.length ∧ u.duplicateObject t vs a recursive =
      u.duplicateFields t recursive fs [] (a.map fun tr => { manager := tr.manager }) vs := by
  obtain ⟨fs, hf, len⟩ := fieldsFor_of_isFormed formed
  refine ⟨fs, len, ?_⟩
  rw [duplicateObject, hf]

/-- The same for a duplication that does not ask the type of the object. -/
lemma formed_duplicateObject (hooks : u.HooksForm) {t : TypeId} {vs : List Value}
    {a : Option Tracker} (formed : u.isFormed (.object t vs a) = true) (recursive : Bool) :
    (u.duplicateObject t vs a recursive).Yields fun w => u.isFormed w = true := by
  obtain ⟨form, all⟩ := isFormed_object.1 formed
  obtain ⟨fs, len, eq⟩ := duplicateObject_of_isFormed formed recursive
  rw [eq]
  refine formed_duplicateFields hooks vs all t recursive fs [] _ len nofun ?_
  rw [Option.isSome_map]
  exact form

/-- Duplicating over a formed value leaves one, or what the release made of it. -/
lemma formed_duplicateOver (hooks : u.HooksForm) (t : TypeId) {target source : Value}
    (there : u.isFormed target = true) (formed : u.isFormed source = true) (recursive : Bool) :
    (u.duplicateOver t target source recursive).Yields fun r => u.isFormed r.1 = true := by
  rw [duplicateOver]
  refine .bind (formed_duplicate hooks source formed t recursive) ?_
  rintro (fault | v) made
  · exact .pure there
  · refine .bind (formed_free target there t) ?_
    rintro ⟨rest, _ | violation⟩ left
    · exact .andThen fun _ => .pure (isFormed_offHeap (made v rfl))
    · exact .andThen fun _ => .pure left

/-! ### Constructing -/

/-- Where a type answers with a value of its own, that value is formed. -/
lemma formed_consultConstruct (hooks : u.HooksForm) (t : TypeId) {c : Template}
    (starts : u.StartsFormed c) :
    (u.consultConstruct t c).Yields fun answer =>
      ∀ v, answer = .built v → u.isFormed v = true := by
  rw [consultConstruct]
  split
  · exact .pure fun v answered => by cases answered
  · rename_i hook asked
    obtain ⟨b, hb, hhook⟩ := Option.bind_eq_some_iff.1 asked
    refine .andThen fun _ => .pure fun v answered => ?_
    exact (hooks t b hb).construct hook hhook _ c v starts answered

/-- The constructions one level down make formed values of formed initials. -/
def FormsBelow (u : Universe) (nested : TypeId → Template → Attempt Value) : Prop :=
  ∀ t c, u.StartsFormed c → (nested t c).Yields fun v => u.isFormed v = true

variable {nested : TypeId → Template → Attempt Value}

/-- A value is copied into an object from a formed one. -/
lemma formed_copyInto (below : u.FormsBelow nested) (m : Manager) (tracker : Option Tracker)
    {v : Value} (formed : u.isFormed v = true) :
    (copyInto nested m tracker v).Yields fun r =>
      u.isFormed r.1 = true ∧ r.2.isSome = tracker.isSome := by
  cases v with
  | object s vs a =>
    refine .bind (below s _ fun w hw => ?_) fun w made => .pure ⟨made, rfl⟩
    cases hw
    exact formed
  | buffer ref =>
    cases tracker with
    | none => exact .pure ⟨rfl, rfl⟩
    | some tr => exact formed_adopt tr ref
  | _ => exact .pure ⟨rfl, rfl⟩

/-- A default comes from a construction of its own, or is a zero. -/
lemma formed_defaultFor (below : u.FormsBelow nested) (defaults : u.DefaultsFormed) (m : Manager)
    (f : Field) : (u.defaultFor nested m f).Yields fun v => u.isFormed v = true := by
  rw [defaultFor]
  split
  · exact .pure rfl
  · rename_i t _
    split
    · exact below t _ nofun
    · refine .pure ?_
      cases hc : (u.desc t).canonical with
      | none => exact u.isFormed_zeroOf t
      | some v => exact isFormed_rawCopy v (defaults t v hc)

/-- The value of a field comes from the template, from what the construction starts from, or from a
default, and each is formed. -/
lemma formed_made (below : u.FormsBelow nested) (defaults : u.DefaultsFormed) (c : Template)
    (m : Manager) {initials canonical : Option (List Value)}
    (starts : ∀ vs, initials = some vs → ∀ v ∈ vs, u.isFormed v = true)
    (presets : ∀ vs, canonical = some vs → ∀ v ∈ vs, u.isFormed v = true) (h : Heap) (f : Field)
    (tracker : Option Tracker) :
    (u.made nested c m initials canonical h f tracker).Yields fun r =>
      u.isFormed r.1 = true ∧ r.2.isSome = tracker.isSome := by
  rw [made]
  cases hs : u.sourceOf h c initials canonical f with
  | some v => exact formed_copyInto below m tracker (forall_sourceOf starts presets hs)
  | none => exact .bind (formed_defaultFor below defaults m f) fun v hv => .pure ⟨hv, rfl⟩

/-- An object grows by one formed value at a time, until it has one for each field. -/
lemma formed_constructFields (below : u.FormsBelow nested) (defaults : u.DefaultsFormed)
    (t : TypeId) (c : Template) (m : Manager) {initials canonical : Option (List Value)}
    (starts : ∀ vs, initials = some vs → ∀ v ∈ vs, u.isFormed v = true)
    (presets : ∀ vs, canonical = some vs → ∀ v ∈ vs, u.isFormed v = true) (fs : List Field) :
    ∀ (built : List Value) (tracker : Option Tracker), (∀ v ∈ built, u.isFormed v = true) →
      u.HasForm t (fs.length + built.length) tracker.isSome →
      (u.constructFields nested t c m initials canonical fs built tracker).Yields fun v =>
        u.isFormed v = true := by
  induction fs with
  | nil =>
    intro built tracker done form
    rw [List.length_nil, Nat.zero_add] at form
    rw [constructFields]
    exact .pure (formed_finish form done)
  | cons f fs ih =>
    intro built tracker done form
    rw [constructFields_cons]
    refine .get fun h => .outcome (formed_made below defaults c m starts presets h f tracker)
      fun r made => u.yields_settle t f built tracker _ fun v tracker' hr => ?_
    obtain ⟨hv, kept⟩ := made _ hr
    refine ih (built ++ [v]) tracker'
      (List.forall_mem_append.2 ⟨done, List.forall_mem_singleton.2 hv⟩) ?_
    rw [List.length_append, List.length_singleton, Nat.add_comm built.length, ← Nat.add_assoc,
      kept]
    exact form

/-- The values of a formed object are formed. -/
lemma formed_fields? {v : Value} (formed : u.isFormed v = true) {vs : List Value}
    (fields : v.fields? = some vs) : ∀ w ∈ vs, u.isFormed w = true := by
  cases v with
  | object t ws a =>
    cases fields
    exact (isFormed_object.1 formed).2
  | _ => cases fields

/-- The same for a value that may be missing. -/
lemma formed_allFields? {o : Option Value} (formed : ∀ v, o = some v → u.isFormed v = true) :
    ∀ vs, o.bind (·.fields?) = some vs → ∀ w ∈ vs, u.isFormed w = true :=
  Value.forall_fields? fun v _ hv => formed_fields? (formed v hv)

/-- A structure is formed, if the constructions below make formed values. -/
lemma formed_constructStruct (below : u.FormsBelow nested) (defaults : u.DefaultsFormed)
    (t : TypeId) {c : Template} (starts : u.StartsFormed c) :
    (u.constructStruct nested t c).Yields fun v => u.isFormed v = true := by
  rw [constructStruct]
  cases hl : u.layout? t with
  | none => exact .refuse
  | some l =>
    refine .lift fun m => ?_
    dsimp only
    split
    · exact .refuse
    · refine formed_constructFields below defaults t c m (formed_allFields? starts)
        (formed_allFields? (defaults t)) l.fields [] _ nofun ⟨l, hl, rfl, ?_⟩
      cases l.tracked <;> rfl

/-- If the constructions below make formed values, those of the next level do. -/
lemma formed_constructWith (hooks : u.HooksForm) (below : u.FormsBelow nested)
    (defaults : u.DefaultsFormed) : u.FormsBelow (u.constructWith nested) := by
  intro t c starts
  rw [constructWith]
  split
  · exact .refuse
  · refine .consult (formed_consultConstruct hooks t starts) fun answer made => ?_
    cases answer with
    | built v => exact .pure (made v rfl)
    | failed e => exact .refuse
    | byLayout => exact formed_constructStruct below defaults t starts
    | decline =>
      dsimp only
      split
      · exact formed_constructStruct below defaults t starts
      · exact .refuse
      · refine .pure ?_
        cases hs : c.initials?.or (u.desc t).canonical with
        | none => exact u.isFormed_zeroOf t
        | some v =>
          apply isFormed_rawCopy
          rcases Option.or_eq_some_iff.1 hs with hv | ⟨_, hv⟩
          · exact starts v hv
          · exact defaults t v hv

/-- A construction makes a formed value, however deep it goes. -/
lemma formed_construct (hooks : u.HooksForm) (defaults : u.DefaultsFormed) (depth : Nat) :
    u.FormsBelow (u.construct depth) := by
  induction depth with
  | zero => exact fun t c _ => .throw
  | succ depth ih =>
    intro t c starts
    exact yields_construct_succ (formed_constructWith hooks ih defaults t c starts)

/-- What is reported about a construction makes no difference. -/
lemma formed_constructReporting (hooks : u.HooksForm) (defaults : u.DefaultsFormed) (depth : Nat)
    (t : TypeId) {c : Template} (starts : u.StartsFormed c) :
    (u.constructReporting depth t c).Yields fun r => ∀ v, r.1 = .ok v → u.isFormed v = true := by
  rw [constructReporting]
  refine .bind (formed_construct hooks defaults depth t c starts) fun r made => ?_
  split
  · exact .pure nofun
  · exact .pure made

/-- A construction in place leaves a formed value, or what the release made of the one before. -/
lemma formed_constructAt (hooks : u.HooksForm) (defaults : u.DefaultsFormed) (depth : Nat)
    (t : TypeId) {target : Value} (there : u.isFormed target = true) {c : Template}
    (starts : u.StartsFormed c) :
    (u.constructAt depth t target c).Yields fun r => u.isFormed r.1 = true := by
  rw [constructAt]
  split
  · refine .bind (formed_constructReporting hooks defaults depth t starts) ?_
    rintro ⟨fault | v, message⟩ made
    · exact .pure there
    · exact .pure (isFormed_offHeap (made v rfl))
  · exact .pure there

/-! ### What an object is refused for -/

/-- Where an object is assembled, a failure of the field names it, and any other is one of the rest.
-/
lemma refuses_settle {P : BuildError → Prop} (u : Universe) (type : TypeId) (f : Field)
    (built : List Value) (tracker : Option Tracker) (note : Action Unit)
    {next : List Value → Option Tracker → Attempt Value} (field : ∀ e, P (.field f.index f.name e))
    (rest : ∀ v tracker', (next (built ++ [v]) tracker').Refuses P)
    (r : Except Fault (Value × Option Tracker)) :
    (u.settle type f built tracker note next r).Refuses P := by
  rcases r with fault | ⟨v, tracker'⟩
  · cases fault with
    | refused e =>
      refine .lift fun _ => .lift fun violation => ?_
      cases violation with
      | none => exact .refuse (field e)
      | some violation => exact .throw fun e eq => by cases eq
    | violated violation => exact .lift fun _ => .throw fun e eq => by cases eq
    | tooDeep => exact .lift fun _ => .throw fun e eq => by cases eq
  · exact rest v tracker'

/-- The error is about a field. -/
def IsField (e : BuildError) : Prop :=
  ∃ i name e', e = .field i name e'

/-- A duplication field by field is refused for one of the fields. -/
lemma duplicateFields_refuses (type : TypeId) (recursive : Bool) (vs : List Value) :
    ∀ (declared : List Field) (built : List Value) (tracker : Option Tracker),
      (u.duplicateFields type recursive declared built tracker vs).Refuses IsField := by
  induction vs with
  | nil =>
    intro declared built tracker
    rw [duplicateFields]
    exact .pure
  | cons v vs ih =>
    intro declared built tracker
    cases declared with
    | nil =>
      rw [duplicateFields]
      exact .pure
    | cons f fs =>
      rw [duplicateFields]
      refine .outcome .any fun r _ => ?_
      exact u.refuses_settle type f built tracker _ (fun e => ⟨_, _, e, rfl⟩)
        (fun w tracker' => ih fs (built ++ [w]) tracker') r

/-- So is a construction field by field. -/
lemma constructFields_refuses (t : TypeId) (c : Template) (m : Manager)
    (initials canonical : Option (List Value)) (fs : List Field) :
    ∀ (built : List Value) (tracker : Option Tracker),
      (u.constructFields nested t c m initials canonical fs built tracker).Refuses IsField := by
  induction fs with
  | nil =>
    intro built tracker
    rw [constructFields]
    exact .pure
  | cons f fs ih =>
    intro built tracker
    rw [constructFields]
    refine .get fun h => .outcome .any fun r _ => ?_
    exact u.refuses_settle t f built tracker _ (fun e => ⟨_, _, e, rfl⟩)
      (fun v tracker' => ih (built ++ [v]) tracker') r

/-- A formed object is refused for one of its fields only, as it has the right number. -/
lemma duplicateObject_refuses {t : TypeId} {vs : List Value} {a : Option Tracker}
    (formed : u.isFormed (.object t vs a) = true) (recursive : Bool) :
    (u.duplicateObject t vs a recursive).Refuses IsField := by
  obtain ⟨fs, _, eq⟩ := duplicateObject_of_isFormed formed recursive
  rw [eq]
  exact duplicateFields_refuses t recursive vs fs [] _

/-- The canonical instance of a type is an object of another type, with so many values. -/
def Misfit (u : Universe) (t : TypeId) (k : Nat) : Prop :=
  ∃ s vs a, (u.desc t).canonical = some (.object s vs a) ∧ s ≠ t ∧ vs.length = k

/-- The number of values is only wrong where they are from an object of another type. -/
lemma ne_of_length_ne {t s : TypeId} {l : Layout} (hl : u.layout? t = some l) {vs : List Value}
    {a : Option Tracker} (formed : u.isFormed (.object s vs a) = true)
    (wrong : vs.length ≠ l.fields.length) : s ≠ t := by
  rintro rfl
  obtain ⟨⟨l', hl', len, _⟩, _⟩ := isFormed_object.1 formed
  cases hl.symm.trans hl'
  exact wrong len.symm

/-- Initials of exactly the type have as many values as there are fields, so that it can only be the
canonical instance that has not. -/
lemma constructStruct_refuses (defaults : u.DefaultsFormed) (t : TypeId) {c : Template}
    (starts : u.StartsFormed c) (exact : ∀ v, c.initials? = some v → u.isExact t v = true) :
    (u.constructStruct nested t c).Refuses fun e => ∀ n k, e = .fieldCount n k → u.Misfit t k := by
  rw [constructStruct]
  cases hl : u.layout? t with
  | none => exact .refuse fun n k eq => by cases eq
  | some l =>
    refine .lift fun m => ?_
    dsimp only
    split
    · rename_i vs found
      refine .refuse fun n k eq => ?_
      cases eq
      have wrong : vs.length ≠ l.fields.length := of_decide_eq_true
        (List.find?_some (p := fun x : List Value => decide (x.length ≠ l.fields.length)) found)
      rcases List.mem_append.1 (List.mem_of_find?_eq_some found) with first | second
      · obtain ⟨v, hv, fields⟩ := Option.bind_eq_some_iff.1 (Option.mem_toList.1 first)
        cases v with
        | object s ws a =>
          cases fields
          have same := of_decide_eq_true (exact _ hv)
          exact absurd same (ne_of_length_ne hl (starts _ hv) wrong)
        | _ => cases fields
      · obtain ⟨v, hv, fields⟩ := Option.bind_eq_some_iff.1 (Option.mem_toList.1 second)
        cases v with
        | object s ws a =>
          cases fields
          exact ⟨s, vs, a, hv, ne_of_length_ne hl (defaults t _ hv) wrong, rfl⟩
        | _ => cases fields
    · refine fun h e he n k eq => ?_
      obtain ⟨i, name, e', rfl⟩ := constructFields_refuses t c m _ _ l.fields [] _ h e he
      cases eq

/-- The hook of the type says itself that it could not construct a value. -/
def HookRefuses (u : Universe) (t : TypeId) (c : Template) (e : BuildError) : Prop :=
  ∃ b hook, (u.desc t).behavior = some b ∧ b.construct = some hook ∧ hook (u.name t) c = .failed e

/-- A hook that fails a construction says why. -/
lemma refuses_consultConstruct (t : TypeId) (c : Template) :
    (u.consultConstruct t c).Yields fun answer =>
      ∀ e, answer = .failed e → u.HookRefuses t c e := by
  rw [consultConstruct]
  split
  · exact .pure fun e answered => by cases answered
  · rename_i hook asked
    obtain ⟨b, hb, hhook⟩ := Option.bind_eq_some_iff.1 asked
    exact .andThen fun _ => .pure fun e answered => ⟨b, hook, hb, hhook, answered⟩

/-- Initials of another type are refused before any field is looked at. Where the number of values
is wrong all the same, a hook said so or it is the canonical instance that is of another type. -/
lemma constructWith_refuses (defaults : u.DefaultsFormed) (t : TypeId) {c : Template}
    (starts : u.StartsFormed c) :
    (u.constructWith nested t c).Refuses fun e =>
      ∀ n k, e = .fieldCount n k → u.HookRefuses t c e ∨ u.Misfit t k := by
  rw [constructWith]
  split
  · exact .refuse fun n k eq => by cases eq
  · rename_i checked
    have exact := filter_initials?_eq_none.1 checked
    have byLayout : (u.constructStruct nested t c).Refuses fun e =>
        ∀ n k, e = .fieldCount n k → u.HookRefuses t c e ∨ u.Misfit t k :=
      fun h e he n k eq => .inr (constructStruct_refuses defaults t starts exact h e he n k eq)
    refine .consult (refuses_consultConstruct t c) fun answer asked => ?_
    cases answer with
    | built v => exact .pure
    | failed e => exact .refuse fun n k _ => .inl (asked e rfl)
    | byLayout => exact byLayout
    | decline =>
      dsimp only
      split
      · exact byLayout
      · exact .refuse fun n k eq => by cases eq
      · exact .pure

/-- A wrong number of fields is what a hook says, or the template starts from such an object. -/
lemma construct_refuses (defaults : u.DefaultsFormed) (depth : Nat) (t : TypeId) {c : Template}
    (starts : u.StartsFormed c) :
    (u.construct depth t c).Refuses fun e =>
      ∀ n k, e = .fieldCount n k → u.HookRefuses t c e ∨ u.Misfit t k := by
  cases depth with
  | zero => exact .throw fun e eq => by cases eq
  | succ depth =>
    rw [construct]
    refine .outcome (constructWith_refuses defaults t starts) fun r known => ?_
    rcases r with fault | v
    · cases fault with
      | refused e => exact .lift fun _ => .refuse (known e rfl)
      | violated violation => exact .throw fun e eq => by cases eq
      | tooDeep => exact .throw fun e eq => by cases eq
    · exact .pure

/-! ### Comparing -/

/-- The verdicts on the values in the same places of two objects. -/
def pairVerdicts (u : Universe) (h : Heap) : List Field → List Value → List Value → List Verdict
  | declared, x :: xs, y :: ys =>
    u.fieldVerdict h (declared.head?.bind (·.type)) x y (fun _ => u.compare h x y)
      (fun _ => u.compareFirst h x y) :: pairVerdicts u h declared.tail xs ys
  | _, _, _ => []

/-- The first pair that is not equal decides, and only when all pairs are equal the numbers of
values are compared. -/
lemma compareFields_eq (h : Heap) (xs : List Value) : ∀ (ys : List Value) (declared : List Field),
    u.compareFields h declared xs ys =
      ((u.pairVerdicts h declared xs ys).find? (· ≠ .equal)).getD
        (.ofOrdering (Ord.compare xs.length ys.length)) := by
  induction xs with
  | nil =>
    rintro (_ | ⟨y, ys⟩) declared
    · rw [compareFields]
      rfl
    · rw [compareFields]
      rfl
  | cons x xs ih =>
    rintro (_ | ⟨y, ys⟩) declared
    · rw [compareFields]
      rfl
    · have shift : Ord.compare (xs.length + 1) (ys.length + 1) =
          Ord.compare xs.length ys.length := by
        show compareOfLessAndEq _ _ = compareOfLessAndEq _ _
        simp only [compareOfLessAndEq, Nat.add_lt_add_iff_right, Nat.add_right_cancel_iff]
      rw [compareFields, pairVerdicts, List.find?_cons, List.length_cons, List.length_cons, shift]
      generalize u.fieldVerdict h _ x y _ _ = verdict
      cases verdict with
      | equal => exact ih ys declared.tail
      | _ => rfl

/-- Two formed objects of one type are compared pair by pair, and nothing is left over. -/
lemma compare_of_isFormed (h : Heap) {t : TypeId} {xs ys : List Value} {a b : Option Tracker}
    (first : u.isFormed (.object t xs a) = true) (second : u.isFormed (.object t ys b) = true) :
    ∃ l, u.layout? t = some l ∧ u.compare h (.object t xs a) (.object t ys b) =
      ((u.pairVerdicts h l.fields xs ys).find? (· ≠ .equal)).getD .equal := by
  obtain ⟨⟨l, hl, _⟩, _⟩ := isFormed_object.1 first
  refine ⟨l, hl, ?_⟩
  rw [compare, if_pos rfl, hl]
  dsimp only
  rw [compareFields_eq, length_eq_of_isFormed first second, Nat.compare_eq_eq.2 rfl]
  rfl

end Universe

end Metaobject
