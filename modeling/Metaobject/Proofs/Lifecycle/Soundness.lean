import Metaobject.Lifecycle.Access
import Metaobject.Proofs.Lifecycle.Consultation
import Metaobject.Proofs.Contract
import Metaobject.Proofs.Universe.WellTyped

/-!
# Soundness of types

Values get into fields from initials, from defaults, as zeros, by copying, by writing, and by being
freed. None of it brings a value into a field that may not hold it: `Universe.wellTyped_preserved`
says so of every operation, given that no type has hooks and that the defaults are well typed
themselves.
-/

namespace Metaobject

namespace Universe

variable {u : Universe}

/-- An instance of a type is well typed, and if the type is a struct it is an object of that very
type. -/
structure Instance (u : Universe) (t : TypeId) (v : Value) : Prop where
  typed : u.isWellTyped t v = true
  exact : ∀ l, u.layout? t = some l → ∃ vs a, v = .object t vs a

/-- The default of every type is an instance of it. -/
def DefaultsTyped (u : Universe) : Prop :=
  ∀ t v, (u.desc t).canonical = some v → u.Instance t v

/-- Every field that may hold `v` may hold `w`. -/
def Keeps (u : Universe) (v w : Value) : Prop :=
  ∀ f, u.Fits f v → u.Fits f w

lemma Keeps.refl (v : Value) : u.Keeps v v :=
  fun _ => id

/-- What keeps a value keeps it well typed. -/
lemma Keeps.isWellTyped {v w : Value} (keeps : u.Keeps v w) {t : TypeId}
    (typed : u.isWellTyped t v = true) : u.isWellTyped t w = true := by
  obtain ⟨accepted, sound⟩ := isWellTyped_iff.1 typed
  -- a type stands for the fields that are declared with it
  have fits : u.Fits { name := "", index := 0, size := 0, type := some t } v := by
    refine ⟨fun s hs => ?_, sound⟩
    cases hs
    exact accepted
  exact isWellTyped_iff.2 ⟨(keeps _ fits).accepted t rfl, (keeps _ fits).sound⟩

/-- Fields that hold some values may hold those that keep them. -/
lemma forall₂_keeps {fs : List Field} {vs ws : List Value} (held : List.Forall₂ u.Fits fs vs)
    (keep : List.Forall₂ u.Keeps vs ws) : List.Forall₂ u.Fits fs ws := by
  induction held generalizing ws with
  | nil =>
    cases keep
    exact .nil
  | cons fits _ ih =>
    cases keep with
    | cons keeps rest => exact .cons (keeps _ fits) (ih rest)

/-- An object keeps another one of its type if the fields still fit. -/
lemma keeps_object {t : TypeId} {vs ws : List Value} (a b : Option Tracker)
    (keep : ∀ l, u.layout? t = some l → List.Forall₂ u.Fits l.fields vs →
      List.Forall₂ u.Fits l.fields ws) :
    u.Keeps (.object t vs a) (.object t ws b) := by
  intro f fits
  obtain ⟨l, hl, held⟩ := isSound_object.1 fits.sound
  exact fits.alike (.object t vs ws a b) (isSound_object.2 ⟨l, hl, keep l hl held⟩)

/-! ### Writing -/

/-- A value put into a field keeps the object if the field may hold it. -/
lemma keeps_replaceField {t : TypeId} {vs : List Value} (a b : Option Tracker) {i : Nat}
    {v : Value} (sound : u.isSound v = true)
    (accepted : ∀ s, u.declaredAt? t i = some s → u.accepts s v = true) :
    (replaceField t vs b i v).Yields fun w => u.Keeps (.object t vs a) w := by
  refine .andThen fun _ => .pure ?_
  refine keeps_object a b fun l hl held => forall₂_set held fun f hf => ⟨fun s hs => ?_, sound⟩
  apply accepted s
  rw [declaredAt?, hl, Option.bind_some, hf]
  exact hs

/-- Whatever buffer it is, a type that holds bytes accepts it. -/
lemma accepts_buffer {t : TypeId} (holds : u.holdsBytes t = true) (ref : Handle) :
    u.accepts t (.buffer ref) = true := by
  unfold holdsBytes at holds
  unfold accepts
  cases hk : (u.desc t).kind with
  | bytes => rfl
  | blackBox => rfl
  | _ =>
    rw [hk] at holds
    cases holds

/-- A write by name keeps the object, whether it is refused or not. -/
lemma keeps_writeField (u : Universe) (name : String) {x : Value} (sound : u.isSound x = true)
    (v : Value) : (u.writeField name x v).Yields fun r => u.Keeps v r.1 := by
  cases v with
  | object t vs a =>
    rw [writeField]
    split
    · exact .andThen fun _ => .pure (Keeps.refl _)
    · rename_i i _
      split
      · exact .andThen fun _ => .pure (Keeps.refl _)
      · rename_i taken
        refine .bind (keeps_replaceField a a sound fun s hs => ?_) fun w keeps => .pure keeps
        have := Option.filter_eq_none_iff.1 taken s hs
        rwa [Bool.not_eq_true, Bool.not_eq_false'] at this
  | _ => exact .andThen fun _ => .pure (Keeps.refl _)

/-- So do new bytes for a field. -/
lemma keeps_writeBytes (u : Universe) (name : String) (bytes : Bytes) (v : Value) :
    (u.writeBytes name bytes v).Yields fun r => u.Keeps v r.1 := by
  cases v with
  | object t vs a =>
    rw [writeBytes]
    split
    · exact .pure (Keeps.refl _)
    · rename_i i _
      split
      · exact .pure (Keeps.refl _)
      · exact .pure (Keeps.refl _)
      · rename_i tr taken
        refine .andThen ?_
        rintro ⟨_ | ref, tr'⟩
        · exact .pure (keeps_object _ _ fun l hl held => held)
        · refine .bind (keeps_replaceField (some tr) (some tr') rfl fun s hs => ?_)
            fun w keeps => .pure keeps
          have := Option.filter_eq_none_iff.1 taken s hs
          rw [Bool.not_eq_true, Bool.not_eq_false'] at this
          exact accepts_buffer this ref
  | _ => exact .pure (Keeps.refl _)

/-! ### Freeing -/

/-- An object that is freed becomes null or stays an object with the same values. -/
lemma keeps_finishFree {t : TypeId} {vs ws : List Value} (a : Option Tracker) (b : Option Tracker)
    (keep : List.Forall₂ u.Keeps vs ws) :
    (finishFree t ws b).Yields fun w => u.Keeps (.object t vs a) w := by
  have kept : ∀ c, u.Keeps (.object t vs a) (.object t ws c) := fun c =>
    keeps_object a c fun _ _ held => forall₂_keeps held keep
  cases b with
  | none => exact .pure (kept none)
  | some tr =>
    refine .andThen ?_
    rintro ⟨onHeap, tr'⟩
    dsimp only
    split
    · exact .andThen fun _ => .pure fun f fits => fits.null
    · exact .pure (kept (some tr'))

/-- What is no object is left alone, as no hook has a say. -/
lemma keeps_freePlain (hooks : u.HookFree) (t : TypeId) (v : Value) :
    (u.freePlain t v).Yields fun r => u.Keeps v r.1 := by
  rw [freePlain]
  split
  · rw [hooks.consultFree]
    exact .pure (Keeps.refl v)
  · exact .pure (Keeps.refl v)

mutual

/-- Freeing a value keeps it, also where a violation stops it. -/
lemma keeps_free (hooks : u.HookFree) : (v : Value) → ∀ t : TypeId,
    (u.free t v).Yields fun r => u.Keeps v r.1
  | .object s vs a, t => by
    rw [free]
    split
    · rw [hooks.consultFree, pure_bind]
      refine .bind (keeps_freeFields hooks vs _) ?_
      rintro ⟨ws, _ | violation⟩ keep
      · exact .bind (keeps_finishFree a a keep) fun w keeps => .pure keeps
      · exact .pure (keeps_object a a fun _ _ held => forall₂_keeps held keep)
    · exact .pure (Keeps.refl _)
  | .null, t => by
    rw [free]
    exact .pure (Keeps.refl _)
  | .scalar s, t => by
    simp only [free]
    exact keeps_freePlain hooks t _
  | .buffer ref, t => by
    simp only [free]
    exact keeps_freePlain hooks t _
  | .reference kind address, t => by
    simp only [free]
    exact keeps_freePlain hooks t _
  | .descriptor type, t => by
    simp only [free]
    exact keeps_freePlain hooks t _

/-- The same for the fields of an object. -/
lemma keeps_freeFields (hooks : u.HookFree) : (vs : List Value) → ∀ declared : List Field,
    (u.freeFields declared vs).Yields fun r => List.Forall₂ u.Keeps vs r.1
  | [], declared => by
    rw [freeFields]
    exact .pure .nil
  | v :: vs, declared => by
    rw [freeFields]
    have rest : ∀ w : Value, u.Keeps v w →
        (do
          let (ws, e) ← freeFields u declared.tail vs
          return (w :: ws, e) : Action (List Value × Option Violation)).Yields
        fun r => List.Forall₂ u.Keeps (v :: vs) r.1 := by
      intro w keeps
      exact .bind (keeps_freeFields hooks vs declared.tail) fun r keep => .pure (.cons keeps keep)
    split
    · exact rest v (.refl v)
    · rename_i t _
      refine .bind (keeps_free hooks v t) ?_
      rintro ⟨w, _ | violation⟩ keeps
      · exact rest w keeps
      · -- what comes after the violation was not touched
        exact .pure (.cons keeps (List.forall₂_same.2 fun w _ => .refl w))

end

/-! ### Duplicating -/

/-- A copy is alike, and it is as sound as the source. -/
structure Copies (u : Universe) (v w : Value) : Prop where
  alike : v.Alike w
  sound : u.isSound v = true → u.isSound w = true

/-- A raw copy is a copy. -/
lemma copies_rawCopy (v : Value) : u.Copies v v.rawCopy :=
  ⟨v.alike_rawCopy, isSound_rawCopy v⟩

/-- Wherever the source fits a copy does. -/
lemma Copies.keeps {v w : Value} (copies : u.Copies v w) : u.Keeps v w :=
  fun _ fits => fits.alike copies.alike (copies.sound fits.sound)

/-- A tracker adopts a buffer by making another one. -/
lemma copies_adopt (tr : Tracker) (ref : Handle) :
    Attempt.Yields (do
      let (v, tr) ← tr.adopt ref
      return (v, some tr)) fun r => u.Copies (.buffer ref) r.1 := by
  refine .bind (P := fun r => u.Copies (.buffer ref) r.1) ?_ fun r copies => .pure copies
  rw [Tracker.adopt]
  refine .get fun h => ?_
  split
  · exact .refuse
  · refine .lift ?_
    rintro ⟨_ | copy, tr'⟩
    · exact .refuse
    · exact .pure ⟨.buffer ref copy, id⟩

/-- After a field was built, an object is what the rest makes of it. -/
lemma yields_settle {P : Value → Prop} (u : Universe) (type : TypeId) (f : Field)
    (built : List Value) (tracker : Option Tracker) (note : Action Unit)
    {next : List Value → Option Tracker → Attempt Value} {r : Except Fault (Value × Option Tracker)}
    (rest : ∀ v tracker', r = .ok (v, tracker') → (next (built ++ [v]) tracker').Yields P) :
    (u.settle type f built tracker note next r).Yields P := by
  rcases r with fault | ⟨v, tracker'⟩
  · cases fault with
    | refused e =>
      refine .lift fun _ => .lift fun violation => ?_
      cases violation with
      | none => exact .refuse
      | some violation => exact .throw
    | violated violation => exact .lift fun _ => .throw
    | tooDeep => exact .lift fun _ => .throw
  · exact rest v tracker' rfl

/-- What is no object is copied as it is, as no hook has a say. -/
lemma copies_duplicatePlain (hooks : u.HookFree) (t : TypeId) (recursive : Bool) (v : Value) :
    (u.duplicatePlain t recursive v).Yields (u.Copies v) := by
  rw [duplicatePlain]
  split
  · rw [hooks.consultDuplicate]
    exact .pure (copies_rawCopy v)
  · exact .refuse

/-- What comes into a field is a copy if its duplicates are. -/
lemma copies_duplicateInto {v : Value} {duplicate : TypeId → Attempt Value}
    (copies : ∀ t, (duplicate t).Yields (u.Copies v)) (deep : Bool) (declared : Option TypeId)
    (tracker : Option Tracker) :
    (duplicateInto duplicate deep declared tracker v).Yields fun r => u.Copies v r.1 := by
  unfold duplicateInto
  split
  · split
    · exact .bind (copies _) fun w copy => .pure copy
    · exact copies_adopt _ _
    · exact .pure (copies_rawCopy .null)
    · exact .bind (copies _) fun w copy => .pure copy
    · exact .pure (copies_rawCopy v)
  · exact .pure (copies_rawCopy v)

/-- Objects of one type are copies of each other if their fields are. -/
lemma copies_object {t : TypeId} {vs ws : List Value} (a b : Option Tracker)
    (copies : List.Forall₂ u.Copies vs ws) : u.Copies (.object t vs a) (.object t ws b) := by
  refine ⟨.object t vs ws a b, fun sound => ?_⟩
  obtain ⟨l, hl, held⟩ := isSound_object.1 sound
  exact isSound_object.2 ⟨l, hl, forall₂_keeps held (copies.imp fun _ _ copy => copy.keeps)⟩

/-- The fields that are copied are those of the type, one for each value. -/
lemma fieldsFor_ok {t : TypeId} {vs : List Value} {fs : List Field}
    (hf : u.fieldsFor t vs = .ok fs) :
    ∃ l, u.layout? t = some l ∧ fs = l.fields ∧ vs.length = fs.length := by
  unfold fieldsFor at hf
  split at hf
  · cases hf
  · rename_i l hl
    split at hf
    · rename_i len
      cases hf
      exact ⟨l, hl, rfl, len⟩
    · cases hf

/-- An object that has fields has as many as its type. -/
lemma length_of_fieldsFor {t : TypeId} {vs : List Value} {fs : List Field}
    (hf : u.fieldsFor t vs = .ok fs) : vs.length = fs.length := by
  obtain ⟨_, _, _, len⟩ := fieldsFor_ok hf
  exact len

mutual

/-- A duplicate is a copy, for each type and recursive or not. -/
lemma copies_duplicate (hooks : u.HookFree) : (v : Value) → ∀ (t : TypeId) (recursive : Bool),
    (u.duplicate t recursive v).Yields (u.Copies v)
  | .object s vs a, t, recursive => by
    rw [duplicate]
    split
    · rw [hooks.consultDuplicate, liftM_pure, pure_bind]
      dsimp only
      cases hf : u.fieldsFor s vs with
      | error e => exact .refuse
      | ok fs =>
        have len := length_of_fieldsFor hf
        refine (copies_duplicateFields hooks vs s recursive fs [] [] _ len .nil).weaken ?_
        rintro _ ⟨ws, b, rfl, copies⟩
        exact copies_object a b copies
    · exact .refuse
  | .null, t, recursive => by
    simp only [duplicate]
    exact copies_duplicatePlain hooks t recursive _
  | .scalar s, t, recursive => by
    simp only [duplicate]
    exact copies_duplicatePlain hooks t recursive _
  | .buffer ref, t, recursive => by
    simp only [duplicate]
    exact copies_duplicatePlain hooks t recursive _
  | .reference kind address, t, recursive => by
    simp only [duplicate]
    exact copies_duplicatePlain hooks t recursive _
  | .descriptor type, t, recursive => by
    simp only [duplicate]
    exact copies_duplicatePlain hooks t recursive _

/-- The duplicate of an object holds copies of its values, those of `done` being made already. -/
lemma copies_duplicateFields (hooks : u.HookFree) : (vs : List Value) →
    ∀ (type : TypeId) (recursive : Bool) (declared : List Field) (done built : List Value)
      (tracker : Option Tracker), vs.length = declared.length →
      List.Forall₂ u.Copies done built →
      (u.duplicateFields type recursive declared built tracker vs).Yields fun w =>
        ∃ ws b, w = .object type ws b ∧ List.Forall₂ u.Copies (done ++ vs) ws
  | [], type, recursive, declared, done, built, tracker, _, copies => by
    rw [duplicateFields, List.append_nil]
    exact .pure ⟨_, _, rfl, copies⟩
  | v :: vs, type, recursive, declared, done, built, tracker, len, copies => by
    cases declared with
    | nil => cases len
    | cons f fs =>
      rw [duplicateFields]
      refine .outcome (copies_duplicateInto (fun t => copies_duplicate hooks v t true) _ f.type
        tracker) fun r copied => u.yields_settle type f built tracker _ fun w tracker' made => ?_
      rw [List.append_cons done v vs]
      refine copies_duplicateFields hooks vs type recursive fs (done ++ [v]) (built ++ [w]) tracker'
        (Nat.succ.inj len) ?_
      exact List.rel_append copies (.cons (copied _ made) .nil)

end

/-! ### Constructing -/

/-- An instance of a struct is an object of that type, whose fields hold its values. -/
lemma instance_of_forall₂ {t : TypeId} {l : Layout} (hl : u.layout? t = some l) {vs : List Value}
    (held : List.Forall₂ u.Fits l.fields vs) (a : Option Tracker) :
    u.Instance t (.object t vs a) :=
  ⟨isWellTyped_self (isSound_object.2 ⟨l, hl, held⟩), fun _ _ => ⟨vs, a, rfl⟩⟩

/-- A field that declares a type may hold what is well typed for it. -/
lemma fits_of_isWellTyped {f : Field} {t : TypeId} {v : Value} (ht : f.type = some t)
    (typed : u.isWellTyped t v = true) : u.Fits f v := by
  obtain ⟨accepted, sound⟩ := isWellTyped_iff.1 typed
  refine ⟨fun s hs => ?_, sound⟩
  cases ht.symm.trans hs
  exact accepted

/-- The constructions one level down make instances, from initials that are well typed. -/
def Constructs (u : Universe) (nested : TypeId → Template → Attempt Value) : Prop :=
  ∀ t c, (∀ v, c.initials? = some v → u.isWellTyped t v = true) →
    (nested t c).Yields (u.Instance t)

variable {nested : TypeId → Template → Attempt Value}

/-- The source of a field is a value that the field may hold. -/
lemma fits_sourceOf {h : Heap} {c : Template} {l : Layout}
    {initials canonical : Option (List Value)}
    (starts : ∀ vs, initials = some vs → List.Forall₂ u.Fits l.fields vs)
    (defaults : ∀ vs, canonical = some vs → List.Forall₂ u.Fits l.fields vs) {f : Field}
    (hf : l.fields[f.index]? = some f) {v : Value}
    (source : u.sourceOf h c initials canonical f = some v) : u.Fits f v := by
  rcases getElem?_of_sourceOf source with ⟨vs, hvs, hv⟩ | ⟨vs, hvs, hv⟩
  · exact fits_of_getElem? (starts vs hvs) hf hv
  · exact fits_of_getElem? (defaults vs hvs) hf hv

/-- A value that is copied into an object fits where it fitted. -/
lemma fits_copyInto (below : u.Constructs nested) (m : Manager) (tracker : Option Tracker)
    {f : Field} {v : Value} (fits : u.Fits f v) :
    (copyInto nested m tracker v).Yields fun r => u.Fits f r.1 := by
  cases v with
  | object s vs a =>
    have built : (nested s { manager := some m, initials := some (.object s vs a) }).Yields
        (u.Instance s) := by
      refine below s _ fun w hw => ?_
      cases hw
      exact isWellTyped_self fits.sound
    -- the copy is of the type of the source itself, whatever the field declares
    refine .bind built fun w made => .pure ?_
    obtain ⟨l, hl, _⟩ := isSound_object.1 fits.sound
    obtain ⟨ws, b, rfl⟩ := made.exact l hl
    exact fits.alike (.object s vs ws a b) (isWellTyped_iff.1 made.typed).2
  | buffer ref =>
    cases tracker with
    | none => exact .pure fits
    | some tr =>
      exact (copies_adopt tr ref).weaken fun r copies =>
        fits.alike copies.alike (copies.sound fits.sound)
  | _ => exact .pure fits

/-- A default fits the field that it is made for. -/
lemma fits_defaultFor (below : u.Constructs nested) (defaults : u.DefaultsTyped) (m : Manager)
    (f : Field) : (u.defaultFor nested m f).Yields (u.Fits f) := by
  rw [defaultFor]
  split
  · rename_i ht
    refine .pure ⟨fun s hs => ?_, rfl⟩
    cases ht.symm.trans hs
  · rename_i t ht
    split
    · refine (below t _ fun v hv => ?_).weaken fun v made => fits_of_isWellTyped ht made.typed
      cases hv
    · refine .pure (fits_of_isWellTyped ht ?_)
      cases hc : (u.desc t).canonical with
      | none => exact u.isWellTyped_zeroOf t
      | some v => exact isWellTyped_rawCopy (defaults t v hc).typed

/-- The fields of a struct are built one after the other, those of `done` being built already. -/
lemma instance_constructFields (below : u.Constructs nested) (defaults : u.DefaultsTyped)
    {t : TypeId} {l : Layout} (hl : u.layout? t = some l) (c : Template) (m : Manager)
    {initials canonical : Option (List Value)}
    (starts : ∀ vs, initials = some vs → List.Forall₂ u.Fits l.fields vs)
    (canonicals : ∀ vs, canonical = some vs → List.Forall₂ u.Fits l.fields vs) (fs : List Field) :
    ∀ (done : List Field) (built : List Value) (tracker : Option Tracker), l.fields = done ++ fs →
      List.Forall₂ u.Fits done built →
      (u.constructFields nested t c m initials canonical fs built tracker).Yields
        (u.Instance t) := by
  induction fs with
  | nil =>
    intro done built tracker split held
    rw [List.append_nil] at split
    rw [constructFields]
    exact .pure (instance_of_forall₂ hl (split ▸ held) _)
  | cons f fs ih =>
    intro done built tracker split held
    rw [constructFields]
    -- the sources are read at the index of the field, which is its position
    have mem : f ∈ l.fields := by
      rw [split]
      exact List.mem_append_right done List.mem_cons_self
    refine .get fun h => .outcome (P := fun r => u.Fits f r.1) ?_ fun r made => ?_
    · cases hs : u.sourceOf h c initials canonical f with
      | some v =>
        have fits := fits_sourceOf starts canonicals (getElem?_index hl mem) hs
        exact fits_copyInto below m tracker fits
      | none => exact .bind (fits_defaultFor below defaults m f) fun v fits => .pure fits
    · refine u.yields_settle t f built tracker _ fun v tracker' hv => ?_
      refine ih (done ++ [f]) (built ++ [v]) tracker' ?_ ?_
      · rw [split, List.append_cons done f fs]
      · exact List.rel_append held (.cons (made _ hv) .nil)

/-- The values of an instance of a struct may be held by its fields. -/
lemma Instance.held {t : TypeId} {l : Layout} (hl : u.layout? t = some l) {v : Value}
    (made : u.Instance t v) {vs : List Value} (fields : v.fields? = some vs) :
    List.Forall₂ u.Fits l.fields vs := by
  obtain ⟨ws, b, rfl⟩ := made.exact l hl
  cases fields
  obtain ⟨l', hl', held⟩ := isSound_object.1 (isWellTyped_iff.1 made.typed).2
  cases hl.symm.trans hl'
  exact held

/-- The same for an instance that may be missing. -/
lemma held_of_instance {t : TypeId} {l : Layout} (hl : u.layout? t = some l) {o : Option Value}
    (made : ∀ v, o = some v → u.Instance t v) :
    ∀ vs, o.bind (·.fields?) = some vs → List.Forall₂ u.Fits l.fields vs :=
  Value.forall_fields? fun v _ hv => (made v hv).held hl

/-- Initials of exactly the type are an instance of it. -/
lemma instance_of_isExact {t : TypeId} {c : Template} {v : Value}
    (hv : c.initials? = some v) (typed : u.isWellTyped t v = true)
    (exact : u.isExact t v = true) : u.Instance t v := by
  refine ⟨typed, fun l hl => ?_⟩
  obtain ⟨_, present⟩ := Option.filter_eq_some_iff.1 hv
  have accepted := (isWellTyped_iff.1 typed).1
  rw [accepts_struct hl] at accepted
  cases v with
  | null => cases present
  | object s vs a =>
    cases of_decide_eq_true exact
    exact ⟨vs, a, rfl⟩
  | _ => cases accepted

/-- A structure is an instance of its type, if the constructions below make such instances. -/
lemma instance_constructStruct (below : u.Constructs nested) (defaults : u.DefaultsTyped)
    (t : TypeId) {c : Template} (starts : ∀ v, c.initials? = some v → u.Instance t v) :
    (u.constructStruct nested t c).Yields (u.Instance t) := by
  rw [constructStruct]
  cases hl : u.layout? t with
  | none => exact .refuse
  | some l =>
    refine .lift fun m => ?_
    dsimp only
    split
    · exact .refuse
    · exact instance_constructFields below defaults hl c m (held_of_instance hl starts)
        (held_of_instance hl (defaults t)) l.fields [] [] _ rfl .nil

/-- If the constructions below make such instances, those of the next level do. -/
lemma instance_constructWith (hooks : u.HookFree) (below : u.Constructs nested)
    (defaults : u.DefaultsTyped) : u.Constructs (u.constructWith nested) := by
  intro t c typed
  rw [constructWith]
  split
  · exact .refuse
  · rename_i checked
    have starts : ∀ v, c.initials? = some v → u.Instance t v := fun v hv =>
      instance_of_isExact hv (typed v hv) (filter_initials?_eq_none.1 checked v hv)
    -- nobody is asked, so the kind of the type decides
    rw [hooks.consultConstruct, liftM_pure, pure_bind]
    dsimp only
    split
    · exact instance_constructStruct below defaults t starts
    · exact .refuse
    · rename_i plain _
      refine .pure ⟨?_, fun l hl => absurd (kind_of_layout? hl) (plain l)⟩
      cases hs : c.initials?.or (u.desc t).canonical with
      | none => exact u.isWellTyped_zeroOf t
      | some v =>
        apply isWellTyped_rawCopy
        rcases Option.or_eq_some_iff.1 hs with hv | ⟨_, hv⟩
        · exact typed v hv
        · exact (defaults t v hv).typed

/-- A construction makes an instance, however deep it goes. -/
lemma instance_construct (hooks : u.HookFree) (defaults : u.DefaultsTyped) (depth : Nat) :
    u.Constructs (u.construct depth) := by
  induction depth with
  | zero => exact fun t c _ => .throw
  | succ depth ih =>
    intro t c typed
    exact yields_construct_succ (instance_constructWith hooks ih defaults t c typed)

/-- Every operation keeps values well typed: zeros and what is constructed are, so are duplicates,
which are of the type of their source, and objects that are written to or freed. -/
theorem wellTyped_preserved (hooks : u.HookFree) (defaults : u.DefaultsTyped) (h : Heap) :
    (∀ t, u.isWellTyped t (u.zeroOf t)) ∧
    (∀ depth t c v, (∀ w, c.initials? = some w → u.isWellTyped t w) →
      ((u.construct depth t c).run.run h).1 = .ok v → u.Instance t v) ∧
    (∀ t recursive v w, u.isWellTyped t v → ((u.duplicate t recursive v).run.run h).1 = .ok w →
      u.isWellTyped t w ∧ v.Alike w) ∧
    (∀ t name x v, u.isSound x → u.isWellTyped t v →
      u.isWellTyped t ((u.writeField name x v).run h).1.1) ∧
    (∀ t name bytes v, u.isWellTyped t v →
      u.isWellTyped t ((u.writeBytes name bytes v).run h).1.1) ∧
    ∀ t s v, u.isWellTyped t v → u.isWellTyped t ((u.free s v).run h).1.1 := by
  refine ⟨u.isWellTyped_zeroOf, ?_, ?_, ?_, ?_, ?_⟩
  · intro depth t c v starts
    exact instance_construct hooks defaults depth t c starts h v
  · intro t recursive v w typed made
    have copies := copies_duplicate hooks v t recursive h w made
    exact ⟨copies.keeps.isWellTyped typed, copies.alike⟩
  · intro t name x v sound typed
    exact (u.keeps_writeField name sound v h).isWellTyped typed
  · intro t name bytes v typed
    exact (u.keeps_writeBytes name bytes v h).isWellTyped typed
  · intro t s v typed
    exact (keeps_free hooks v s h).isWellTyped typed

/-- Types with two more structs: a part with a flag that is set by default, and a whole that has a
part and anything else. -/
def withWhole : Universe :=
  let part : Declaration :=
    { name := "Part", shape := .struct [⟨"flag", .typed 0, false, none⟩] none false
      canonical := some (.object 19 [.scalar (.bool true)] none) }
  let whole : Declaration :=
    { name := "Whole"
      shape :=
        .struct [⟨"part", .typed 19, true, none⟩, ⟨"any", .untyped 8, false, none⟩] none false
      canonical := some (.object 20 [.object 19 [.scalar (.bool true)] none, .null] none) }
  match (builtin.declare {} part).bind fun (_, u) => u.declare {} whole with
  | some (_, u) => u
  | none => builtin

/-- The other types are those that are always there. -/
lemma desc_withWhole (t : TypeId) :
    t = 19 ∨ t = 20 ∨ withWhole.desc t = builtin.desc t := by
  have made : withWhole.descriptors = (builtin.descriptors.push _).push _ := rfl
  rw [desc]
  rw [made, Descriptor.among_push, Descriptor.among_push]
  split
  · rename_i whole
    exact .inr (.inl whole)
  · split
    · rename_i part
      exact .inl part
    · exact .inr (.inr rfl)

/-- The default of a type that is always there is its zero. -/
lemma zero_of_canonical_builtin {t : TypeId} {v : Value}
    (hv : (builtin.desc t).canonical = some v) :
    (∃ k, (builtin.desc t).kind = .scalar k ∧ v = .scalar k.zero) ∨
      ∃ k, (builtin.desc t).kind = .reference k ∧ v = .reference k 0 := by
  unfold desc Descriptor.among at hv ⊢
  cases ht : builtin.descriptors[t]? with
  | none =>
    rw [ht] at hv
    cases hv
  | some d =>
    rw [ht] at hv
    have mem : d ∈ builtinDescriptors := (Array.mem_of_getElem? ht).val
    rcases List.mem_append.1 mem with scalar | other
    · obtain ⟨k, _, rfl⟩ := List.mem_map.1 scalar
      cases hv
      exact .inl ⟨k, rfl, rfl⟩
    · simp only [List.mem_cons, List.not_mem_nil, or_false] at other
      rcases other with rfl | rfl | rfl | rfl | rfl <;> cases hv
      · exact .inr ⟨.object, rfl, rfl⟩
      · exact .inr ⟨.function, rfl, rfl⟩

/-- The defaults of the types that are always there are instances of them. -/
lemma instance_of_builtin {t : TypeId} (known : u.desc t = builtin.desc t) {v : Value}
    (hv : (u.desc t).canonical = some v) : u.Instance t v := by
  have plain : u.layout? t = none := by
    rw [layout?, known]
    exact layout?_builtin t
  rw [known] at hv
  refine ⟨?_, fun l hl => by cases plain.symm.trans hl⟩
  rcases zero_of_canonical_builtin hv with ⟨k, hk, rfl⟩ | ⟨k, hk, rfl⟩
  · rw [← known] at hk
    exact isWellTyped_zero hk
  · rw [← known] at hk
    exact isWellTyped_nowhere hk

/-- The default of a whole is an instance of it. -/
lemma defaultsTyped_withWhole : withWhole.DefaultsTyped := by
  have part : withWhole.Instance 19 (.object 19 [.scalar (.bool true)] none) := by
    refine instance_of_forall₂ rfl (.cons ⟨fun s hs => ?_, rfl⟩ .nil) none
    cases hs
    rfl
  have whole :
      withWhole.Instance 20 (.object 20 [.object 19 [.scalar (.bool true)] none, .null] none) := by
    have first := fits_of_isWellTyped (f := ⟨"part", 0, 1, some 19, true, none⟩) rfl part.typed
    refine instance_of_forall₂ rfl (.cons first (.cons ⟨fun s hs => ?_, rfl⟩ .nil)) none
    cases hs
  intro t v hv
  rcases desc_withWhole t with rfl | rfl | known
  · cases hv
    exact part
  · cases hv
    exact whole
  · exact instance_of_builtin known hv

/-- A whole is constructed from its default, one level of construction being for the part. -/
theorem wellTyped_preserved_whole :
    withWhole.HookFree ∧ withWhole.DefaultsTyped ∧
      ∃ v, ((withWhole.construct 2 20 {}).run.run {}).1 = .ok v ∧ withWhole.Instance 20 v := by
  have hooks : withWhole.HookFree := hookFree_of_all rfl
  have made : ((withWhole.construct 2 20 {}).run.run {}).1 =
      .ok (.object 20 [.object 19 [.scalar (.bool true)] none, .null] none) := rfl
  have typed := (wellTyped_preserved hooks defaultsTyped_withWhole {}).2.1 2 20 {} _ nofun made
  exact ⟨hooks, defaultsTyped_withWhole, _, made, typed⟩

end Universe

end Metaobject
