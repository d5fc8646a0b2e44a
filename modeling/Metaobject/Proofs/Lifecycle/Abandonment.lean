import Metaobject.Proofs.Lifecycle.Assembly
import Metaobject.Proofs.Lifecycle.Clearance
import Metaobject.Proofs.Universe.Formed

/-!
# Giving up a partial object

A construction or a duplication that fails frees what it has built so far, and freeing checks what
is in the fields: a value that its field would not be freed with stops it. So a failure becomes a
violation when such a value has been copied before. `Universe.failures_returned` says that this is
the only way: what is copied from values that may be freed, and from default instances that may be,
never comes to a violation, and of an object with plain values it says which ones do.
-/

namespace Metaobject

open Metaobject.Action Attempt

/-- A dead buffer is not adopted. -/
lemma Tracker.run_adopt_dead (t : Tracker) {ref : Handle} {h : Heap} (dead : h.read ref = none) :
    (do
      let (v, t) ← t.adopt ref
      return (v, some t) : Attempt (Value × Option Tracker)).run.run h =
      (.error (.refused .releasedBuffer), h) := by
  rw [ExceptT.run_bind, StateT.run_bind, adopt, run_get, dead]
  rfl

namespace Universe

variable {u : Universe}

/-- The field may hold the value as far as freeing it is concerned. -/
structure Clears (u : Universe) (f : Field) (v : Value) : Prop where
  accepted : ∀ t, freedThrough (some f) v = some t → u.accepts t v = true
  able : u.isFreeable v = true

/-- The default of every type may be freed: through that type if it is no object, and in the fields
of that type if it is one. -/
structure DefaultsClear (u : Universe) : Prop where
  able : ∀ t v, (u.desc t).canonical = some v → u.isFreeable v = true
  accepted : ∀ t v, (u.desc t).canonical = some v → v.isObject = false → u.accepts t v = true
  fields : ∀ t v vs l, (u.desc t).canonical = some v → v.fields? = some vs →
    u.layout? t = some l → u.areFreeable l.fields vs = true

/-- The values of the fields may be freed, one by one. -/
lemma areFreeable_iff_forall₂ {fs : List Field} {vs : List Value} (len : vs.length = fs.length) :
    u.areFreeable fs vs = true ↔ List.Forall₂ u.Clears fs vs := by
  induction fs generalizing vs with
  | nil =>
    rw [List.length_eq_zero_iff.1 len]
    exact ⟨fun _ => .nil, fun _ => rfl⟩
  | cons f fs ih =>
    cases vs with
    | nil => cases len
    | cons v vs =>
      rw [areFreeable_cons, List.forall₂_cons, List.tail_cons, ih (Nat.succ.inj len),
        ← and_assoc]
      exact and_congr_left fun _ => ⟨fun ⟨accepted, able⟩ => ⟨accepted, able⟩,
        fun clears => ⟨clears.accepted, clears.able⟩⟩

/-- The fields that come after the values are of no concern. -/
lemma areFreeable_append {done : List Field} {vs : List Value}
    (clear : List.Forall₂ u.Clears done vs) (rest : List Field) :
    u.areFreeable (done ++ rest) vs = true := by
  induction clear with
  | nil => rfl
  | cons clears _ ih => exact areFreeable_cons.2 ⟨clears.accepted, clears.able, ih⟩

/-- What is alike may be held where the other one may. -/
lemma Clears.alike {f : Field} {v w : Value} (clears : u.Clears f v) (alike : v.Alike w)
    (able : u.isFreeable w = true) : u.Clears f w := by
  refine ⟨fun t ht => ?_, able⟩
  rw [freedThrough_alike alike] at ht
  rw [← accepts_alike alike]
  exact clears.accepted t ht

/-- An object that may be freed may be held by any field: it is freed through its own type. -/
lemma clears_object {f : Field} {t : TypeId} {vs : List Value} {a : Option Tracker}
    (able : u.isFreeable (.object t vs a) = true) : u.Clears f (.object t vs a) := by
  obtain ⟨l, hl, _⟩ := isFreeable_object.1 able
  refine ⟨fun s hs => ?_, able⟩
  cases hs
  exact accepts_self hl vs a

/-- An object is freed through its own type, and another value through the declared one, if the
field says so. -/
lemma freedThrough_cases {f : Field} {v : Value} {t : TypeId}
    (ht : freedThrough (some f) v = some t) :
    (∃ vs a, v = .object t vs a) ∨
      v.isNull = false ∧ v.isObject = false ∧ f.recurse = true ∧ f.type = some t := by
  have declared : ((Option.some f).filter (·.recurse)).bind (·.type) = some t →
      f.recurse = true ∧ f.type = some t := by
    intro named
    obtain ⟨g, hg, ht⟩ := Option.bind_eq_some_iff.1 named
    obtain ⟨same, recurse⟩ := Option.filter_eq_some_iff.1 hg
    cases same
    exact ⟨recurse, ht⟩
  cases v with
  | null => cases ht
  | object s vs a =>
    cases ht
    exact .inl ⟨vs, a, rfl⟩
  | _ => exact .inr ⟨rfl, rfl, declared ht⟩

/-- Every field may hold null. -/
lemma clears_null (f : Field) : u.Clears f .null :=
  ⟨nofun, rfl⟩

/-- The value at a position is one that the field there may hold. -/
lemma clears_of_getElem? {fs : List Field} {vs : List Value} (clear : List.Forall₂ u.Clears fs vs)
    {i : Nat} {f : Field} {v : Value} (hf : fs[i]? = some f) (hv : vs[i]? = some v) :
    u.Clears f v := by
  induction clear generalizing i with
  | nil => cases hf
  | cons clears _ ih =>
    cases i with
    | zero =>
      cases hf
      cases hv
      exact clears
    | succ i => exact ih hf hv

/-- A value of the declared type may be held. -/
lemma clears_accepted {f : Field} {t : TypeId} {v : Value} (ht : f.type = some t)
    (accepted : v.isObject = false → u.accepts t v = true) (able : u.isFreeable v = true) :
    u.Clears f v := by
  refine ⟨fun s hs => ?_, able⟩
  rcases freedThrough_cases hs with ⟨vs, a, rfl⟩ | ⟨_, plain, _, hs⟩
  · exact (clears_object able).accepted s hs
  · cases ht.symm.trans hs
    exact accepted plain

/-! ### What stops a partial object from being freed -/

/-- What keeps an object from being given up is what keeps its values from being freed. -/
lemma run_abandon {type : TypeId} {l : Layout} (hl : u.layout? type = some l) (built : List Value)
    (tracker : Option Tracker) (h : Heap) :
    ((u.abandon (.object type built tracker)).run h).1 =
      ((u.freeFields l.fields built).run h).1.2 := by
  show ((u.freeObject (.object type built tracker)).run h).1.2 = _
  rw [freeObject, hl, Option.elim_some, StateT.run_bind]
  rcases (u.freeFields l.fields built).run h with ⟨⟨ws, _ | violation⟩, h'⟩
  · rfl
  · rfl

/-- Nothing stops a partial object from being given up if its values may be freed. -/
lemma abandon_none {type : TypeId} {l : Layout} (hl : u.layout? type = some l) {built : List Value}
    (able : u.areFreeable l.fields built = true) (tracker : Option Tracker) :
    (u.abandon (.object type built tracker)).Yields (· = none) := by
  intro h
  rw [run_abandon hl, (disposes_freeFields built l.fields able).answer]

/-- A field that could not be built is reported if the fields before it may be freed. -/
lemma returns_settle {P : Value → Prop} {type : TypeId} {l : Layout}
    (hl : u.layout? type = some l) {f : Field} {built : List Value} {tracker : Option Tracker}
    (able : u.areFreeable l.fields built = true) {note : Action Unit}
    {next : List Value → Option Tracker → Attempt Value} {r : Except Fault (Value × Option Tracker)}
    (spared : ∀ violation, r ≠ .error (.violated violation))
    (rest : ∀ v tracker', r = .ok (v, tracker') → (next (built ++ [v]) tracker').Returns P) :
    (u.settle type f built tracker note next r).Returns P := by
  rcases r with fault | ⟨v, tracker'⟩
  · cases fault with
    | refused e =>
      refine .lift fun _ => .consult (abandon_none hl able tracker) ?_
      rintro _ rfl
      exact .refuse
    | violated violation => exact absurd rfl (spared violation)
    | tooDeep => exact .lift fun _ => .throw nofun
  · exact rest v tracker' rfl

/-! ### Duplicating -/

/-- A copy is alike, and it may be freed. -/
structure FreeableCopy (u : Universe) (v w : Value) : Prop where
  alike : v.Alike w
  able : u.isFreeable w = true

/-- A raw copy of what may be freed may be freed. -/
lemma freeableCopy_rawCopy {v : Value} (able : u.isFreeable v = true) :
    u.FreeableCopy v v.rawCopy :=
  ⟨v.alike_rawCopy, (isFreeable_rawCopy v).trans able⟩

/-- A tracker that adopts a buffer leaves one. -/
lemma returns_adopt (tr : Tracker) (ref : Handle) :
    Attempt.Returns (do
      let (v, tr) ← tr.adopt ref
      return (v, some tr)) fun r => u.FreeableCopy (.buffer ref) r.1 := by
  refine .bind (P := fun r => u.FreeableCopy (.buffer ref) r.1) ?_ fun r copy => .pure copy
  rw [Tracker.adopt]
  refine .get fun h => ?_
  split
  · exact .refuse
  · refine .lift ?_
    rintro ⟨_ | copy, tr'⟩
    · exact .refuse
    · exact .pure ⟨.buffer ref copy, rfl⟩

/-- What is no object is copied as it is, as no hook has a say. -/
lemma returns_duplicatePlain (hooks : u.HookFree) (t : TypeId) (recursive : Bool) {v : Value}
    (able : u.isFreeable v = true) :
    (u.duplicatePlain t recursive v).Returns (u.FreeableCopy v) := by
  rw [duplicatePlain]
  split
  · rw [hooks.consultDuplicate]
    exact .pure (freeableCopy_rawCopy able)
  · exact .refuse

/-- A value is duplicated for an object, whose tracker may adopt it. -/
lemma returns_duplicateInto {v : Value} (able : u.isFreeable v = true)
    {duplicate : TypeId → Attempt Value} (copies : ∀ t, (duplicate t).Returns (u.FreeableCopy v))
    (deep : Bool) (declared : Option TypeId) (tracker : Option Tracker) :
    (duplicateInto duplicate deep declared tracker v).Returns fun r => u.FreeableCopy v r.1 := by
  unfold duplicateInto
  split
  · split
    · exact .bind (copies _) fun w copy => .pure copy
    · exact returns_adopt _ _
    · exact .pure (freeableCopy_rawCopy able)
    · exact .bind (copies _) fun w copy => .pure copy
    · exact .pure (freeableCopy_rawCopy able)
  · exact .pure (freeableCopy_rawCopy able)

mutual

/-- Nothing stops the duplication of what may be freed, and the copy may be freed as well. -/
lemma returns_duplicate (hooks : u.HookFree) : (v : Value) → u.isFreeable v = true →
    ∀ (t : TypeId) (recursive : Bool), (u.duplicate t recursive v).Returns (u.FreeableCopy v)
  | .object s vs a, able, t, recursive => by
    rw [duplicate]
    split
    · rw [hooks.consultDuplicate, liftM_pure, pure_bind]
      dsimp only
      obtain ⟨l, hl, _, inside⟩ := isFreeable_object.1 able
      rw [fieldsFor, hl]
      dsimp only
      split
      · exact .refuse
      · rename_i fs counted
        split at counted
        · rename_i len
          cases counted
          have clear := (areFreeable_iff_forall₂ len).1 inside
          refine (returns_duplicateFields hooks vs hl recursive [] l.fields [] _ rfl clear
            .nil).weaken ?_
          rintro _ ⟨ws, b, rfl, copied⟩
          refine ⟨.object s vs ws a b, (hooks.isFreeable_object hl).2 ?_⟩
          have := areFreeable_append copied []
          rwa [List.append_nil] at this
        · cases counted
    · exact .refuse
  | .null, able, t, recursive | .scalar _, able, t, recursive | .buffer _, able, t, recursive
  | .reference _ _, able, t, recursive | .descriptor _, able, t, recursive => by
    simp only [duplicate]
    exact returns_duplicatePlain hooks t recursive able

/-- What is built of an object may be freed at any time, and so may the object in the end. -/
lemma returns_duplicateFields (hooks : u.HookFree) : (vs : List Value) →
    ∀ {type : TypeId} {l : Layout}, u.layout? type = some l → ∀ (recursive : Bool)
      (done fs : List Field) (built : List Value) (tracker : Option Tracker),
      l.fields = done ++ fs → List.Forall₂ u.Clears fs vs → List.Forall₂ u.Clears done built →
      (u.duplicateFields type recursive fs built tracker vs).Returns fun w =>
        ∃ ws b, w = .object type ws b ∧ List.Forall₂ u.Clears l.fields ws
  | [], type, l, hl, recursive, done, fs, built, tracker, split, clear, copied => by
    rw [duplicateFields]
    cases clear
    rw [List.append_nil] at split
    exact .pure ⟨_, _, rfl, split ▸ copied⟩
  | v :: vs, type, l, hl, recursive, done, fs, built, tracker, split, clear, copied => by
    cases clear with
    | @cons f _ fs _ clears rest =>
      rw [duplicateFields]
      have able : u.areFreeable l.fields built = true := by
        rw [split]
        exact areFreeable_append copied (f :: fs)
      refine .outcome (returns_duplicateInto clears.able
        (fun t => returns_duplicate hooks v clears.able t true) _ f.type tracker)
        fun r made spared => returns_settle hl able spared fun w tracker' hw => ?_
      have copy := made _ hw
      refine returns_duplicateFields hooks vs hl recursive (done ++ [f]) fs (built ++ [w]) tracker'
        ?_ rest (List.rel_append copied (.cons (clears.alike copy.alike copy.able) .nil))
      rw [split, List.append_cons done f fs]

end

/-! ### Constructing -/

/-- What a construction makes: a value that may be freed, and that counts for its type. -/
structure FreeableMade (u : Universe) (t : TypeId) (v : Value) : Prop where
  able : u.isFreeable v = true
  exact : ∀ l, u.layout? t = some l → ∃ vs a, v = .object t vs a

/-- The constructions one level down come to no violation, from initials that may be freed. -/
def ConstructsFreeable (u : Universe) (nested : TypeId → Template → Attempt Value) : Prop :=
  ∀ t c, (∀ v, c.initials? = some v → u.isFreeable v = true) →
    (nested t c).Returns (u.FreeableMade t)

variable {nested : TypeId → Template → Attempt Value}

/-- What is copied into an object may be held by the field if the source may. -/
lemma returns_copyInto (below : u.ConstructsFreeable nested) (m : Manager)
    (tracker : Option Tracker) {f : Field} {v : Value} (clears : u.Clears f v) :
    (copyInto nested m tracker v).Returns fun r => u.Clears f r.1 := by
  cases v with
  | object s vs a =>
    have built : (nested s { manager := some m, initials := some (.object s vs a) }).Returns
        (u.FreeableMade s) := by
      refine below s _ fun w hw => ?_
      cases hw
      exact clears.able
    refine .bind built fun w made => .pure ?_
    obtain ⟨l, hl, _⟩ := isFreeable_object.1 clears.able
    obtain ⟨ws, b, rfl⟩ := made.exact l hl
    exact clears_object made.able
  | buffer ref =>
    cases tracker with
    | none => exact .pure clears
    | some tr => exact (returns_adopt tr ref).weaken fun r copy => clears.alike copy.alike copy.able
  | _ => exact .pure clears

/-- A default may be held by the field that it is made for. -/
lemma returns_defaultFor (hooks : u.HookFree) (below : u.ConstructsFreeable nested)
    (defaults : u.DefaultsClear) (m : Manager) (f : Field) :
    (u.defaultFor nested m f).Returns (u.Clears f) := by
  rw [defaultFor]
  split
  · exact .pure (clears_null f)
  · rename_i t ht
    split
    · rename_i isStruct
      obtain ⟨l, hl⟩ := Option.isSome_iff_exists.1 isStruct
      refine (below t _ fun v hv => ?_).weaken fun v made => ?_
      · cases hv
      · obtain ⟨ws, b, rfl⟩ := made.exact l hl
        exact clears_object made.able
    · refine .pure ?_
      cases hc : (u.desc t).canonical with
      | none =>
        obtain ⟨accepted, sound⟩ := isWellTyped_iff.1 (u.isWellTyped_zeroOf t)
        exact clears_accepted ht (fun _ => accepted)
          (isFreeable_of_isSound _ sound (leavesFreeing_of_isHookless _ (hooks.isHookless _)))
      | some v =>
        have able := (isFreeable_rawCopy v).trans (defaults.able t v hc)
        refine clears_accepted ht (fun plain => ?_) able
        rw [Option.elim_some, ← accepts_alike v.alike_rawCopy]
        refine defaults.accepted t v hc ?_
        cases v with
        | object => cases plain
        | _ => rfl

/-- The fields of a struct are built one after the other, those of `done` being built already. -/
lemma returns_constructFields (hooks : u.HookFree) (below : u.ConstructsFreeable nested)
    (defaults : u.DefaultsClear) {t : TypeId} {l : Layout} (hl : u.layout? t = some l)
    (c : Template) (m : Manager) {initials canonical : Option (List Value)}
    (starts : ∀ vs, initials = some vs → List.Forall₂ u.Clears l.fields vs)
    (canonicals : ∀ vs, canonical = some vs → List.Forall₂ u.Clears l.fields vs)
    (fs : List Field) :
    ∀ (done : List Field) (built : List Value) (tracker : Option Tracker), l.fields = done ++ fs →
      List.Forall₂ u.Clears done built →
      (u.constructFields nested t c m initials canonical fs built tracker).Returns
        (u.FreeableMade t) := by
  induction fs with
  | nil =>
    intro done built tracker split copied
    rw [constructFields]
    refine .pure ⟨(hooks.isFreeable_object hl).2 ?_, fun _ _ => ⟨_, _, rfl⟩⟩
    rw [split]
    exact areFreeable_append copied []
  | cons f fs ih =>
    intro done built tracker split copied
    rw [constructFields]
    have mem : f ∈ l.fields := by
      rw [split]
      exact List.mem_append_right done List.mem_cons_self
    have able : u.areFreeable l.fields built = true := by
      rw [split]
      exact areFreeable_append copied (f :: fs)
    refine .get fun h => .outcome (P := fun r => u.Clears f r.1) ?_ fun r made spared =>
      returns_settle hl able spared fun w tracker' hw => ?_
    · cases hs : u.sourceOf h c initials canonical f with
      | some v =>
        refine returns_copyInto below m tracker ?_
        rcases getElem?_of_sourceOf hs with ⟨vs, hvs, hv⟩ | ⟨vs, hvs, hv⟩
        · exact clears_of_getElem? (starts vs hvs) (getElem?_index hl mem) hv
        · exact clears_of_getElem? (canonicals vs hvs) (getElem?_index hl mem) hv
      | none =>
        exact .bind (returns_defaultFor hooks below defaults m f) fun v clears => .pure clears
    · refine ih (done ++ [f]) (built ++ [w]) tracker' ?_
        (List.rel_append copied (.cons (made _ hw) .nil))
      rw [split, List.append_cons done f fs]

/-- Nothing stops the construction of a structure from values that may be freed. -/
lemma returns_constructStruct (hooks : u.HookFree) (below : u.ConstructsFreeable nested)
    (defaults : u.DefaultsClear) (t : TypeId) {c : Template}
    (starts : ∀ v vs l, c.initials? = some v → v.fields? = some vs → u.layout? t = some l →
      u.areFreeable l.fields vs = true) :
    (u.constructStruct nested t c).Returns (u.FreeableMade t) := by
  rw [constructStruct]
  cases hl : u.layout? t with
  | none => exact .refuse
  | some l =>
    refine .lift fun m => ?_
    dsimp only
    split
    · exact .refuse
    · rename_i complete
      -- there is one value per field, both in the initials and in the default instance
      have clear : ∀ vs, vs ∈ (c.initials?.bind (·.fields?)).toList ++
          ((u.desc t).canonical.bind (·.fields?)).toList → u.areFreeable l.fields vs = true →
          List.Forall₂ u.Clears l.fields vs := by
        intro vs mem able
        have len := List.find?_eq_none.1 complete vs mem
        exact (areFreeable_iff_forall₂ (by simpa using len)).1 able
      refine returns_constructFields hooks below defaults hl c m ?_ ?_ l.fields [] [] _ rfl .nil
      · intro vs hvs
        obtain ⟨v, hv, fields⟩ := Option.bind_eq_some_iff.1 hvs
        exact clear vs (by simp [hvs]) (starts v vs l hv fields hl)
      · intro vs hvs
        obtain ⟨v, hv, fields⟩ := Option.bind_eq_some_iff.1 hvs
        exact clear vs (by simp [hvs]) (defaults.fields t v vs l hv fields hl)

/-- If nothing stops the constructions below, nothing stops those of the next level. -/
lemma returns_constructWith (hooks : u.HookFree) (below : u.ConstructsFreeable nested)
    (defaults : u.DefaultsClear) : u.ConstructsFreeable (u.constructWith nested) := by
  intro t c able
  rw [constructWith]
  split
  · exact .refuse
  · rename_i checked
    -- initials of exactly the type have the fields of that type
    have starts : ∀ v vs l, c.initials? = some v → v.fields? = some vs → u.layout? t = some l →
        u.areFreeable l.fields vs = true := by
      intro v vs l hv fields hl
      have exact := filter_initials?_eq_none.1 checked v hv
      cases v with
      | object s ws a =>
        cases fields
        cases of_decide_eq_true exact
        obtain ⟨l', hl', _, inside⟩ := isFreeable_object.1 (able _ hv)
        cases hl.symm.trans hl'
        exact inside
      | _ => cases fields
    rw [hooks.consultConstruct, liftM_pure, pure_bind]
    dsimp only
    split
    · exact returns_constructStruct hooks below defaults t starts
    · exact .refuse
    · rename_i plain _
      refine .pure ⟨?_, fun l hl => absurd (kind_of_layout? hl) (plain l)⟩
      cases hs : c.initials?.or (u.desc t).canonical with
      | none =>
        exact isFreeable_of_isSound _ (isWellTyped_iff.1 (u.isWellTyped_zeroOf t)).2
          (leavesFreeing_of_isHookless _ (hooks.isHookless _))
      | some v =>
        refine (isFreeable_rawCopy v).trans ?_
        rcases Option.or_eq_some_iff.1 hs with hv | ⟨_, hv⟩
        · exact able v hv
        · exact defaults.able t v hv

/-- Nothing stops a construction of any depth. -/
lemma returns_construct (hooks : u.HookFree) (defaults : u.DefaultsClear) (depth : Nat) :
    u.ConstructsFreeable (u.construct depth) := by
  induction depth with
  | zero => exact fun t c _ => .tooDeep
  | succ depth ih =>
    intro t c able
    rw [construct]
    refine .outcome (returns_constructWith hooks ih defaults t c able) fun r made spared => ?_
    rcases r with fault | v
    · cases fault with
      | refused e => exact .lift fun _ => .refuse
      | violated violation => exact absurd rfl (spared violation)
      | tooDeep => exact .tooDeep
    · exact .pure (made v rfl)

/-! ### Objects with plain values -/

/-- What is no object is freed if its type accepts it. -/
lemma freePlain_none_iff (hooks : u.HookFree) (t : TypeId) (v : Value) (h : Heap) :
    ((u.freePlain t v).run h).1.2 = none ↔ u.accepts t v = true := by
  rw [freePlain]
  split
  · rename_i accepted
    rw [hooks.consultFree]
    exact ⟨fun _ => accepted, fun _ => rfl⟩
  · rename_i refused
    exact ⟨fun none => absurd none (Option.some_ne_none _), fun accepted => absurd accepted refused⟩

mutual

/-- Where no type has hooks, a value that is there is freed without a violation if and only if the
type accepts it and everything in it may be freed. -/
lemma free_none_iff (hooks : u.HookFree) : (v : Value) → u.isFormed v = true → v.isNull = false →
    ∀ t h, ((u.free t v).run h).1.2 = none ↔ u.accepts t v = true ∧ u.isFreeable v = true
  | .object s vs a, formed, _, t, h => by
    obtain ⟨⟨l, hl, _⟩, inside⟩ := isFormed_object.1 formed
    rw [free]
    split
    · rename_i accepted
      rw [hooks.consultFree, pure_bind, hl, Option.elim_some, hooks.isFreeable_object hl,
        ← freeFields_none_iff hooks vs (allFormed_iff.2 inside) l.fields h, StateT.run_bind]
      rcases (freeFields u l.fields vs).run h with ⟨⟨ws, _ | violation⟩, h'⟩
      · exact ⟨fun _ => ⟨accepted, rfl⟩, fun _ => rfl⟩
      · exact ⟨nofun, nofun⟩
    · rename_i refused
      exact ⟨nofun, fun able => absurd able.1 refused⟩
  | .scalar _, _, _, t, h | .buffer _, _, _, t, h | .reference _ _, _, _, t, h
  | .descriptor _, _, _, t, h => by
    simp only [free]
    rw [freePlain_none_iff hooks]
    exact ⟨fun accepted => ⟨accepted, rfl⟩, fun able => able.1⟩

/-- The fields are freed if each may be freed through its type. -/
lemma freeFields_none_iff (hooks : u.HookFree) : (vs : List Value) → u.allFormed vs = true →
    ∀ declared h, ((u.freeFields declared vs).run h).1.2 = none ↔
      u.areFreeable declared vs = true
  | [], _, declared, h => by
    rw [freeFields]
    exact ⟨fun _ => rfl, fun _ => rfl⟩
  | v :: vs, formed, declared, h => by
    rw [allFormed, Bool.and_eq_true_iff] at formed
    rw [freeFields, areFreeable_cons]
    cases through : freedThrough declared.head? v with
    | none =>
      have able : u.isFreeable v = true := by
        cases v with
        | object => cases through
        | _ => rfl
      rw [← freeFields_none_iff hooks vs formed.2 declared.tail h]
      exact ⟨fun rest => ⟨nofun, able, rest⟩, fun all => all.2.2⟩
    | some t =>
      have present : v.isNull = false := by
        cases v with
        | null => cases through
        | _ => rfl
      have first := free_none_iff hooks v formed.1 present t h
      dsimp only
      rw [StateT.run_bind]
      rcases ran : (u.free t v).run h with ⟨⟨w, _ | violation⟩, h'⟩
      · rw [ran] at first
        obtain ⟨accepted, able⟩ := first.1 rfl
        show ((u.freeFields declared.tail vs).run h').1.2 = none ↔ _
        rw [freeFields_none_iff hooks vs formed.2 declared.tail h']
        refine ⟨fun rest => ⟨fun s hs => ?_, able, rest⟩, fun all => all.2.2⟩
        cases hs
        exact accepted
      · rw [ran] at first
        refine ⟨nofun, fun all => ?_⟩
        exact absurd (first.2 ⟨all.1 t rfl, all.2.1⟩) nofun

end

/-- A field that could not be built is reported if the values of the fields before it may be freed,
and else it comes to a violation. -/
lemma run_settle_refused (hooks : u.HookFree) {type : TypeId} {l : Layout}
    (hl : u.layout? type = some l) {built : List Value} (formed : u.allFormed built = true)
    (f : Field) (tracker : Option Tracker) (note : Action Unit)
    (next : List Value → Option Tracker → Attempt Value) (e : BuildError) (h : Heap) :
    (u.areFreeable l.fields built = true →
      ((u.settle type f built tracker note next (.error (.refused e))).run.run h).1 =
        .error (.refused (.field f.index f.name e))) ∧
    (u.areFreeable l.fields built = false → ∃ violation,
      ((u.settle type f built tracker note next (.error (.refused e))).run.run h).1 =
        .error (.violated violation)) := by
  have verdict := freeFields_none_iff hooks built formed l.fields (note.run h).2
  rw [← run_abandon hl built tracker] at verdict
  rw [settle, run_lift, run_lift]
  generalize (u.abandon (.object type built tracker)).run (note.run h).2 = r at verdict ⊢
  obtain ⟨_ | violation, h'⟩ := r
  · exact ⟨fun _ => rfl, fun stopped => absurd (verdict.1 rfl) (Bool.not_eq_true _ ▸ stopped)⟩
  · exact ⟨fun able => absurd (verdict.2 able) (Option.some_ne_none _),
      fun _ => ⟨violation, rfl⟩⟩

/-- How a construction ends is how the general construction ends. -/
lemma run_construct_fst (depth : Nat) (t : TypeId) (c : Template) (h : Heap) :
    ((u.construct (depth + 1) t c).run.run h).1 =
      ((u.constructWith (u.construct depth) t c).run.run h).1 := by
  rw [construct, run_outcome]
  generalize (u.constructWith (u.construct depth) t c).run.run h = r
  obtain ⟨(e | violation | _) | v, h₁⟩ := r
  · rfl
  · rfl
  · rfl
  · rfl

/-- Where no type has hooks, an object is made field by field, from initials of exactly its type. -/
lemma constructWith_struct (hooks : u.HookFree) {t : TypeId} {l : Layout}
    (hl : u.layout? t = some l) {c : Template}
    (exact : ∀ v, c.initials? = some v → u.isExact t v = true) :
    u.constructWith nested t c = u.constructStruct nested t c :=
  constructWith_of_leaves hl (hooks.leavesConstruction t) exact

/-- With one value per field in the initials and in the default instance, the fields are built in
order. -/
lemma run_constructStruct {t : TypeId} {l : Layout} (hl : u.layout? t = some l) {c : Template}
    (counted : ∀ vs, c.initials?.bind (·.fields?) = some vs ∨
      (u.desc t).canonical.bind (·.fields?) = some vs → vs.length = l.fields.length) (h : Heap) :
    (u.constructStruct nested t c).run.run h =
      (u.constructFields nested t c ((u.managerFor t c).run h).1 (c.initials?.bind (·.fields?))
        ((u.desc t).canonical.bind (·.fields?)) l.fields []
        (if l.tracked then some { manager := some ((u.managerFor t c).run h).1 } else none)).run.run
        ((u.managerFor t c).run h).2 := by
  have all : ((c.initials?.bind (·.fields?)).toList ++
      ((u.desc t).canonical.bind (·.fields?)).toList).find? (·.length ≠ l.fields.length) = none := by
    refine List.find?_eq_none.2 fun vs mem => ?_
    rw [List.mem_append, Option.mem_toList, Option.mem_toList] at mem
    simpa using counted vs mem
  rw [constructStruct, hl]
  dsimp only
  rw [run_lift, all]

/-- The initials have a value for every field at its position. -/
lemma initialAt_of_getElem? {t : TypeId} {l : Layout} (hl : u.layout? t = some l)
    {vs : List Value} {i : Nat} {f : Field} {v : Value} (hf : l.fields[i]? = some f)
    (hv : vs[i]? = some v) : initialAt (some vs) f = some v := by
  rw [initialAt, Option.bind_some, index_of_getElem? hl hf]
  exact hv

/-- An initial that the template insists on is what its field is copied from. -/
lemma sourceOf_of_overrides {c : Template} (h : Heap) {initials canonical : Option (List Value)}
    {f : Field} {v : Value} (insists : c.overrides f.index = true)
    (hv : initialAt initials f = some v) : u.sourceOf h c initials canonical f = some v := by
  rw [sourceOf_eq, hv, Option.filter_some, prefersInitial, insists, Bool.true_or, if_pos rfl]
  rfl

/-- Plain values are copied as they are. -/
lemma run_constructFields_plain {t : TypeId} {c : Template} {m : Manager}
    {initials canonical : Option (List Value)} {fields : List (Field × Value)}
    (plain : ∀ g ∈ fields, g.2.isObject = false ∧ g.2.handle? = none)
    (insists : ∀ i, c.overrides i = true)
    (placed : ∀ g ∈ fields, initialAt initials g.1 = some g.2) (fs : List Field) (h : Heap) :
    ∀ (built : List Value) (tracker : Option Tracker),
      (u.constructFields nested t c m initials canonical (fields.map (·.1) ++ fs) built
        tracker).run.run h =
      (u.constructFields nested t c m initials canonical fs (built ++ fields.map (·.2))
        tracker).run.run h := by
  induction fields with
  | nil =>
    intro built tracker
    rw [List.map_nil, List.map_nil, List.append_nil, List.nil_append]
  | cons g fields ih =>
    intro built tracker
    obtain ⟨f, v⟩ := g
    have source : u.sourceOf h c initials canonical f = some v :=
      sourceOf_of_overrides h (insists _) (placed _ List.mem_cons_self)
    have made : (u.made nested c m initials canonical h f tracker).run.run h =
        (.ok (v, tracker), h) := by
      rw [Universe.made, source]
      obtain ⟨noObject, noBuffer⟩ := plain _ List.mem_cons_self
      cases v with
      | object => cases noObject
      | buffer => cases noBuffer
      | _ => rfl
    rw [List.map_cons, List.map_cons, List.cons_append, constructFields_cons, run_get, run_outcome,
      made, List.append_cons built v]
    exact ih (fun g hg => plain g (List.mem_cons_of_mem _ hg))
      (fun g hg => placed g (List.mem_cons_of_mem _ hg)) (built ++ [v]) tracker

/-- A plain value stops an object from being freed: its field is freed through a declared type that
does not accept it. -/
def Stops (u : Universe) (f : Field) (v : Value) : Prop :=
  v.isNull = false ∧ f.recurse = true ∧ ∃ t, f.type = some t ∧ u.accepts t v = false

/-- What is no object is freed through the declared type of a marked field. -/
lemma freedThrough_of_recurse {f : Field} {v : Value} (present : v.isNull = false)
    (plain : v.isObject = false) (recurse : f.recurse = true) :
    freedThrough (some f) v = f.type := by
  have declared : ((Option.some f).filter (·.recurse)).bind (·.type) = f.type := by
    rw [Option.filter_some, if_pos recurse, Option.bind_some]
  cases v with
  | null => cases present
  | object => cases plain
  | _ => exact declared

/-- Plain values may be freed unless one of them stops it. -/
lemma areFreeable_plain_iff {fields : List (Field × Value)}
    (plain : ∀ g ∈ fields, g.2.isObject = false) (rest : List Field) :
    u.areFreeable (fields.map (·.1) ++ rest) (fields.map (·.2)) = true ↔
      ∀ g ∈ fields, ¬ u.Stops g.1 g.2 := by
  induction fields with
  | nil => exact ⟨fun _ => nofun, fun _ => rfl⟩
  | cons g fields ih =>
    obtain ⟨f, v⟩ := g
    have noObject := plain _ List.mem_cons_self
    have able : u.isFreeable v = true := by
      cases v with
      | object => cases noObject
      | _ => rfl
    have first : (∀ t, freedThrough (some f) v = some t → u.accepts t v = true) ↔
        ¬ u.Stops f v := by
      constructor
      · rintro accepted ⟨present, recurse, t, ht, refused⟩
        rw [freedThrough_of_recurse present noObject recurse] at accepted
        exact Bool.false_ne_true (refused.symm.trans (accepted t ht))
      · intro clears t through
        rcases freedThrough_cases through with ⟨vs, a, rfl⟩ | ⟨present, _, recurse, ht⟩
        · cases noObject
        · by_contra refused
          exact clears ⟨present, recurse, t, ht, Bool.not_eq_true _ ▸ refused⟩
    rw [List.map_cons, List.map_cons, List.cons_append, areFreeable_cons, List.head?_cons, first,
      List.tail_cons, ih fun g hg => plain g (List.mem_cons_of_mem _ hg), List.forall_mem_cons]
    exact ⟨fun all => ⟨all.1, all.2.2⟩, fun all => ⟨all.1, able, all.2⟩⟩

/-- A construction insists on the values of an object with a tracker: those of `before` are plain,
and the buffer for the field `f` after them is dead. -/
structure BreaksOff (u : Universe) (h : Heap) (t : TypeId) (c : Template)
    (before : List (Field × Value)) (f : Field) : Prop where
  plain : ∀ g ∈ before, g.2.isObject = false ∧ g.2.handle? = none
  insists : ∀ i, c.overrides i = true
  layout : ∃ l fs ref vs a, u.layout? t = some l ∧ l.tracked = true ∧
    l.fields = before.map (·.1) ++ f :: fs ∧ vs.length = fs.length ∧
    c.initials = some (.object t (before.map (·.2) ++ .buffer ref :: vs) a) ∧
    h.read ref = none ∧
    ∀ v ws, (u.desc t).canonical = some v → v.fields? = some ws → ws.length = l.fields.length

/-- Every field finds its value at its own position. -/
lemma initialAt_of_split {t : TypeId} {l : Layout} (hl : u.layout? t = some l)
    {before : List (Field × Value)} {f : Field} {fs : List Field}
    (split : l.fields = before.map (·.1) ++ f :: fs) (v : Value) (vs : List Value) :
    (∀ g ∈ before, initialAt (some (before.map (·.2) ++ v :: vs)) g.1 = some g.2) ∧
      initialAt (some (before.map (·.2) ++ v :: vs)) f = some v := by
  constructor
  · intro g hg
    obtain ⟨i, lt, rfl⟩ := List.getElem_of_mem hg
    refine initialAt_of_getElem? (i := i) hl ?_ ?_
    · rw [split, List.getElem?_append_left (by simpa using lt), List.getElem?_map,
        List.getElem?_eq_getElem lt, Option.map_some]
    · rw [List.getElem?_append_left (by simpa using lt), List.getElem?_map,
        List.getElem?_eq_getElem lt, Option.map_some]
  · refine initialAt_of_getElem? (i := before.length) hl ?_ ?_
    · rw [split, List.getElem?_append_right (by simp)]
      simp
    · rw [List.getElem?_append_right (by simp)]
      simp

/-- What is no object is formed. -/
lemma allFormed_of_plain {vs : List Value} (plain : ∀ v ∈ vs, v.isObject = false) :
    u.allFormed vs = true := by
  refine allFormed_iff.2 fun v hv => ?_
  have noObject := plain v hv
  cases v with
  | object => cases noObject
  | _ => rfl

/-- Such a construction comes to the dead buffer, and how it ends depends on whether the plain
values before it stop the partial object from being freed. -/
lemma construct_of_breaksOff (hooks : u.HookFree) {h : Heap} {t : TypeId} {c : Template}
    {before : List (Field × Value)} {f : Field} (breaks : u.BreaksOff h t c before f)
    (depth : Nat) :
    (¬ (∃ g ∈ before, u.Stops g.1 g.2) → ((u.construct (depth + 1) t c).run.run h).1 =
      .error (.refused (.field f.index f.name .releasedBuffer))) ∧
    ((∃ g ∈ before, u.Stops g.1 g.2) → ∃ violation,
      ((u.construct (depth + 1) t c).run.run h).1 = .error (.violated violation)) := by
  obtain ⟨plain, insists, l, fs, ref, vs, a, hl, tracked, split, len, given, dead, arity⟩ := breaks
  have initials : c.initials? = some (.object t (before.map (·.2) ++ .buffer ref :: vs) a) := by
    rw [Template.initials?, given]
    rfl
  have exact : ∀ v, c.initials? = some v → u.isExact t v = true := by
    intro v hv
    cases initials.symm.trans hv
    exact decide_eq_true rfl
  have counted : ∀ ws, c.initials?.bind (·.fields?) = some ws ∨
      (u.desc t).canonical.bind (·.fields?) = some ws → ws.length = l.fields.length := by
    rintro ws (picked | picked)
    · rw [initials] at picked
      cases picked
      simp [split, len]
    · obtain ⟨v, hv, fields⟩ := Option.bind_eq_some_iff.1 picked
      exact arity v ws hv fields
  have values : c.initials?.bind (·.fields?) = some (before.map (·.2) ++ .buffer ref :: vs) := by
    rw [initials]
    rfl
  obtain ⟨early, last⟩ := initialAt_of_split hl split (.buffer ref) vs
  rw [← values] at early last
  have still : ((u.managerFor t c).run h).2.read ref = none :=
    (Heap.read_of_cells (cells_managerFor t c h) ref).trans dead
  have formed : u.allFormed (before.map (·.2)) = true := by
    refine allFormed_of_plain fun v hv => ?_
    obtain ⟨g, hg, rfl⟩ := List.mem_map.1 hv
    exact (plain g hg).1
  rw [run_construct_fst, constructWith_struct hooks hl exact, run_constructStruct hl counted,
    split, run_constructFields_plain plain insists early, constructFields_cons, run_get,
    run_outcome, Universe.made, sourceOf_of_overrides _ (insists _) last, if_pos tracked,
    List.nil_append]
  generalize (u.managerFor t c).run h = r at still ⊢
  obtain ⟨m, h₁⟩ := r
  have refused : (copyInto (u.construct depth) m (some { manager := some m })
      (.buffer ref)).run.run h₁ = (.error (.refused .releasedBuffer), h₁) :=
    Tracker.run_adopt_dead _ still
  have able : u.areFreeable l.fields (before.map (·.2)) = true ↔
      ∀ g ∈ before, ¬ u.Stops g.1 g.2 := by
    rw [split]
    exact areFreeable_plain_iff (fun g hg => (plain g hg).1) (f :: fs)
  obtain ⟨reported, stopped⟩ := run_settle_refused hooks hl formed f (some { manager := some m })
    (Action.log (.fieldFailed (u.name t) f.name 0)) _ .releasedBuffer h₁
  rw [refused]
  refine ⟨fun clear => reported (able.2 ?_), fun stops => stopped ?_⟩
  · exact fun g hg stop => clear ⟨g, hg, stop⟩
  · obtain ⟨g, hg, stop⟩ := stops
    exact Bool.eq_false_iff.2 fun all => able.1 all g hg stop

/-- A duplication goes through an object with a tracker: the fields of `before` are copied raw, and
the buffer for the field `f` after them is dead. -/
structure CopyBreaksOff (u : Universe) (h : Heap) (t : TypeId) (v : Value)
    (before : List (Field × Value)) (f : Field) : Prop where
  raw : ∀ g ∈ before, g.1.recurse = false ∧ u.isFormed g.2 = true
  deep : f.recurse = true
  accepted : u.accepts t v = true
  layout : ∃ s l fs ref vs tr, u.layout? s = some l ∧ l.fields = before.map (·.1) ++ f :: fs ∧
    vs.length = fs.length ∧ v = .object s (before.map (·.2) ++ .buffer ref :: vs) (some tr) ∧
    h.read ref = none

/-- Fields that are not marked are copied raw. -/
lemma run_duplicateFields_raw {type : TypeId} {fields : List (Field × Value)}
    (raw : ∀ g ∈ fields, g.1.recurse = false) (fs : List Field) (vs : List Value) (h : Heap) :
    ∀ (built : List Value) (tracker : Option Tracker),
      (u.duplicateFields type true (fields.map (·.1) ++ fs) built tracker
        (fields.map (·.2) ++ vs)).run.run h =
      (u.duplicateFields type true fs (built ++ fields.map (·.2.rawCopy)) tracker vs).run.run h := by
  induction fields with
  | nil =>
    intro built tracker
    rw [List.map_nil, List.map_nil, List.map_nil, List.append_nil]
    rfl
  | cons g fields ih =>
    intro built tracker
    obtain ⟨f, v⟩ := g
    have flat : f.recurse = false := raw _ List.mem_cons_self
    rw [List.map_cons, List.map_cons, List.map_cons, List.cons_append, List.cons_append,
      duplicateFields, flat, Bool.and_false, run_outcome, List.append_cons built v.rawCopy]
    exact ih (fun g hg => raw g (List.mem_cons_of_mem _ hg)) (built ++ [v.rawCopy]) tracker

/-- Copies of whole values may be freed if the values may. -/
lemma areFreeable_raw_iff {fields : List (Field × Value)}
    (raw : ∀ g ∈ fields, g.1.recurse = false ∧ u.isFormed g.2 = true) (rest : List Field) :
    u.areFreeable (fields.map (·.1) ++ rest) (fields.map (·.2.rawCopy)) = true ↔
      ∀ g ∈ fields, u.isFreeable g.2 = true := by
  induction fields with
  | nil => exact ⟨fun _ => nofun, fun _ => rfl⟩
  | cons g fields ih =>
    obtain ⟨f, v⟩ := g
    obtain ⟨flat, formed⟩ := raw _ List.mem_cons_self
    have first : ∀ t, freedThrough (some f) v.rawCopy = some t → u.accepts t v.rawCopy = true := by
      intro t through
      rw [freedThrough_alike v.alike_rawCopy] at through
      rw [← accepts_alike v.alike_rawCopy]
      rcases freedThrough_cases through with ⟨vs, a, rfl⟩ | ⟨_, _, recurse, _⟩
      · obtain ⟨⟨l, hl, _⟩, _⟩ := isFormed_object.1 formed
        cases through
        exact accepts_self hl vs a
      · rw [flat] at recurse
        cases recurse
    rw [List.map_cons, List.map_cons, List.cons_append, areFreeable_cons, List.head?_cons,
      List.tail_cons, ih fun g hg => raw g (List.mem_cons_of_mem _ hg), List.forall_mem_cons,
      isFreeable_rawCopy]
    exact ⟨fun all => all.2, fun all => ⟨first, all⟩⟩

/-- Such a duplication comes to the dead buffer, and how it ends depends on whether the values
before it may be freed. -/
lemma duplicate_of_copyBreaksOff (hooks : u.HookFree) {h : Heap} {t : TypeId} {v : Value}
    {before : List (Field × Value)} {f : Field} (breaks : u.CopyBreaksOff h t v before f) :
    ((∀ g ∈ before, u.isFreeable g.2 = true) → ((u.duplicate t true v).run.run h).1 =
      .error (.refused (.field f.index f.name .releasedBuffer))) ∧
    ((∃ g ∈ before, u.isFreeable g.2 = false) → ∃ violation,
      ((u.duplicate t true v).run.run h).1 = .error (.violated violation)) := by
  obtain ⟨raw, deep, accepted, s, l, fs, ref, vs, tr, hl, split, len, rfl, dead⟩ := breaks
  have fields : u.fieldsFor s (before.map (·.2) ++ .buffer ref :: vs) = .ok l.fields := by
    rw [fieldsFor, hl]
    exact if_pos (by simp [split, len])
  have formed : u.allFormed (before.map (·.2.rawCopy)) = true := by
    refine allFormed_iff.2 fun w hw => ?_
    obtain ⟨g, hg, rfl⟩ := List.mem_map.1 hw
    exact isFormed_rawCopy g.2 (raw g hg).2
  have able : u.areFreeable l.fields (before.map (·.2.rawCopy)) = true ↔
      ∀ g ∈ before, u.isFreeable g.2 = true := by
    rw [split]
    exact areFreeable_raw_iff raw (f :: fs)
  obtain ⟨reported, stopped⟩ := run_settle_refused hooks hl formed f
    (some { manager := tr.manager }) (return ())
    (fun built tracker => u.duplicateFields s true fs built tracker vs) .releasedBuffer h
  have refused : (duplicateInto (fun t => u.duplicate t true (.buffer ref)) (true && f.recurse)
      f.type (some { manager := tr.manager }) (.buffer ref)).run.run h =
        (.error (.refused .releasedBuffer), h) := by
    rw [deep]
    exact Tracker.run_adopt_dead _ dead
  rw [duplicate, if_pos accepted, hooks.consultDuplicate, liftM_pure, pure_bind]
  dsimp only
  rw [fields]
  dsimp only
  rw [split, run_duplicateFields_raw fun g hg => (raw g hg).1, duplicateFields, run_outcome,
    Option.map_some, refused]
  refine ⟨fun all => reported (able.2 all), fun some => stopped ?_⟩
  obtain ⟨g, hg, unable⟩ := some
  exact Bool.eq_false_iff.2 fun all => Bool.false_ne_true (unable.symm.trans (able.1 all g hg))

/-- Where no type has hooks, failures are always returned as long as what is copied, and every
default, may be freed. In general a failure becomes a violation where the values that were copied
before may not be: plain values that a field would be freed with, and whole values that may not be
freed. -/
theorem failures_returned (hooks : u.HookFree) (h : Heap) :
    (u.DefaultsClear → ∀ depth t c, (∀ v, c.initials? = some v → u.isFreeable v = true) →
      ∀ violation, ((u.construct depth t c).run.run h).1 ≠ .error (.violated violation)) ∧
    (∀ t recursive v, u.isFreeable v = true →
      ∀ violation, ((u.duplicate t recursive v).run.run h).1 ≠ .error (.violated violation)) ∧
    (∀ depth t c before f, u.BreaksOff h t c before f →
      (¬ (∃ g ∈ before, u.Stops g.1 g.2) → ((u.construct (depth + 1) t c).run.run h).1 =
        .error (.refused (.field f.index f.name .releasedBuffer))) ∧
      ((∃ g ∈ before, u.Stops g.1 g.2) → ∃ violation,
        ((u.construct (depth + 1) t c).run.run h).1 = .error (.violated violation))) ∧
    ∀ t v before f, u.CopyBreaksOff h t v before f →
      ((∀ g ∈ before, u.isFreeable g.2 = true) → ((u.duplicate t true v).run.run h).1 =
        .error (.refused (.field f.index f.name .releasedBuffer))) ∧
      ((∃ g ∈ before, u.isFreeable g.2 = false) → ∃ violation,
        ((u.duplicate t true v).run.run h).1 = .error (.violated violation)) := by
  refine ⟨?_, ?_, ?_, ?_⟩
  · intro defaults depth t c able violation
    exact (returns_construct hooks defaults depth t c able h).2 violation
  · intro t recursive v able violation
    exact (returns_duplicate hooks v able t recursive h).2 violation
  · intro depth t c before f breaks
    exact construct_of_breaksOff hooks breaks depth
  · intro t v before f breaks
    exact duplicate_of_copyBreaksOff hooks breaks

/-- Types with one more struct, which has a tracker: a character and a buffer, both of them
marked. -/
def withLabel : Universe :=
  let label : Declaration :=
    { name := "Label"
      shape := .struct [⟨"mark", .typed 1, true, none⟩, ⟨"data", .typed 14, true, none⟩] none true }
  match builtin.declare {} label with
  | some (_, u) => u
  | none => builtin

/-- The fields of a label. -/
def markField : Field := { name := "mark", index := 0, size := 4, type := some 1, recurse := true }

/-- The field of the bytes, which are the tracker's own. -/
def dataField : Field := { name := "data", index := 1, size := 0, type := some 14, recurse := true }

/-- A label whose buffer is dead. -/
def faded (mark : Value) : Value :=
  .object 19 [mark, .buffer .dangling] (some {})

/-- A mark that is no character stops a label from being given up. -/
theorem failures_returned_label :
    let c : Template :=
      { initials := some (faded (.scalar (.bool true))), overrideAt := some fun _ => true }
    withLabel.HookFree ∧
      withLabel.BreaksOff {} 19 c [(markField, .scalar (.bool true))] dataField ∧
      ∃ violation, ((withLabel.construct 1 19 c).run.run {}).1 = .error (.violated violation) := by
  intro c
  have hooks : withLabel.HookFree := hookFree_of_all rfl
  have breaks : withLabel.BreaksOff {} 19 c [(markField, .scalar (.bool true))] dataField := by
    refine ⟨?_, fun _ => rfl, _, [], .dangling, [], some {}, rfl, rfl, rfl, rfl, rfl, rfl, nofun⟩
    rintro _ (_ | ⟨_, ⟨⟩⟩)
    exact ⟨rfl, rfl⟩
  refine ⟨hooks, breaks, ((failures_returned hooks {}).2.2.1 0 19 c _ _ breaks).2 ?_⟩
  exact ⟨_, List.mem_cons_self, rfl, rfl, 1, rfl, rfl⟩

/-- A heap with a buffer that is alive. -/
def inked : Heap :=
  { cells := #[{ block := ⟨0, [97]⟩, manager := none }], nextAddress := 1 }

/-- A label with a wrong mark and a dead buffer stops its construction with a violation, and a label
with a buffer for a mark its duplication. -/
theorem failures_violate :
    withLabel.HookFree ∧
      ((withLabel.construct 1 19 { initials := some (faded (.scalar (.bool true))) }).run.run {}).1 =
        .error (.violated (.freedAs "bool" "char")) ∧
      ((withLabel.duplicate 19 true (faded (.buffer (.to 0)))).run.run inked).1 =
        .error (.violated (.freedAs "bytes" "char")) := by
  refine ⟨hookFree_of_all rfl, rfl, ?_⟩
  rw [faded, duplicate, if_pos (accepts_self rfl _ _)]
  rfl

end Universe

end Metaobject
