import Metaobject.Proofs.Lifecycle.Formation

/-!
# What hooks do not see

While an object is built field by field it has too few values, and when a field cannot be built it
has to be freed like that. No hook is asked about it. Hooks that agree on formed values, and may say
anything about others, cannot be told apart: every operation on formed values does the same with the
ones as with the others.
-/

namespace Metaobject

/-- What comes after an attempt only has to agree where the attempt can lead. -/
lemma Attempt.outcome_congr {α β : Type} {a : Attempt α} {P : α → Prop}
    {f g : Except Fault α → Attempt β} (ha : a.Yields P)
    (agree : ∀ r, (∀ x, r = .ok x → P x) → f r = g r) : (a.outcome >>= f) = a.outcome >>= g := by
  funext h
  show (f (a.run.run h).1).run.run _ = (g (a.run.run h).1).run.run _
  rw [agree _ (ha h)]

namespace Universe

/-- The same types, with hooks that agree on formed values. -/
structure AgreesOnFormed (u u' : Universe) : Prop where
  kind : ∀ t, (u'.desc t).kind = (u.desc t).kind
  name : u'.name = u.name
  canonical : ∀ t, (u'.desc t).canonical = (u.desc t).canonical
  manager : ∀ t, (u'.desc t).manager = (u.desc t).manager
  subtype : ∀ t, (u'.desc t).behavior.bind (·.subtype) = (u.desc t).behavior.bind (·.subtype)
  comparer : ∀ t h x y whole first, u.isFormed x = true → u.isFormed y = true →
    (u'.ownComparer? t).map (·.verdict h x y whole first) =
      (u.ownComparer? t).map (·.verdict h x y whole first)
  construct : ∀ t c, u.StartsFormed c → u'.consultConstruct t c = u.consultConstruct t c
  free : ∀ t v, u.isFormed v = true → u'.consultFree t v = u.consultFree t v
  duplicate : ∀ t v recursive, u.isFormed v = true →
    u'.consultDuplicate t v recursive = u.consultDuplicate t v recursive

/-- What the check of a field compares with is formed. -/
def CheckForms (u : Universe) (f : Field) : Prop :=
  ∀ c, f.check = some c → ∀ w ∈ c.held, u.isFormed w = true

/-- What the checks of fields compare with is formed. -/
def ChecksFormed (u : Universe) : Prop :=
  ∀ t l, u.layout? t = some l → ∀ f ∈ l.fields, u.CheckForms f

variable {u u' : Universe}

namespace AgreesOnFormed

/-! ### Types and their values -/

/-- Layouts do not depend on hooks. -/
lemma layout? (same : u.AgreesOnFormed u') : u'.layout? = u.layout? := by
  funext t
  rw [Universe.layout?, same.kind, Universe.layout?]

/-- Nor does the type that a type extends. -/
lemma base? (same : u.AgreesOnFormed u') (t : TypeId) : u'.base? t = u.base? t := by
  rw [Universe.base?, same.layout?, Universe.base?]

/-- Subtypes are told by hooks that agree everywhere. -/
lemma subtype?_eq (same : u.AgreesOnFormed u') (t other : TypeId) :
    u'.subtype? t other = u.subtype? t other := by
  induction t using Nat.strongRecOn with
  | ind t ih =>
    rw [Universe.subtype?, Universe.subtype?, same.subtype, same.name]
    cases ((u.desc t).behavior.bind (·.subtype)).bind (· t other (u.name other)) with
    | some w => rfl
    | none =>
      dsimp only
      split
      · rfl
      · split
        · rename_i b hb
          have hb' := (same.base? t).symm.trans hb
          split
          · rename_i b' hb''
            cases hb'.symm.trans hb''
            exact ih b (u.base_lt hb')
          · rename_i none
            cases hb'.symm.trans none
        · rename_i none
          have none' := (same.base? t).symm.trans none
          split
          · rename_i b hb
            cases none'.symm.trans hb
          · rfl

/-- The same values are accepted. -/
lemma accepts (same : u.AgreesOnFormed u') : u'.accepts = u.accepts := by
  have subtype : u'.subtype? = u.subtype? := funext fun t => funext (same.subtype?_eq t)
  funext t v
  unfold Universe.accepts
  rw [same.kind, subtype]

/-- The same values are instances of exactly a type. -/
lemma isExact (same : u.AgreesOnFormed u') : u'.isExact = u.isExact := by
  funext t v
  unfold Universe.isExact
  rw [same.accepts]

/-- Types have the same names. -/
lemma typeName (same : u.AgreesOnFormed u') : u'.typeName = u.typeName := by
  funext v
  unfold Universe.typeName
  rw [same.name]

/-- They have the same zeros. -/
lemma zeroOf (same : u.AgreesOnFormed u') (t : TypeId) : u'.zeroOf t = u.zeroOf t := by
  refine zeroOf_induction (P := fun t v => u'.zeroOf t = v) (fun t plain => ?_)
    (fun t l hl inside => ?_) t
  · rw [zeroOf_plain ((congrFun same.layout? t).trans plain), same.kind]
  · rw [zeroOf_struct ((same.kind t).trans (kind_of_layout? hl))]
    congr 1
    refine List.map_congr_left fun f hf => ?_
    cases hs : f.type with
    | none => rfl
    | some s => exact inside f hf s hs

/-! ### Comparisons -/

/-- Comparers that agree on formed values say the same of two of them. -/
lemma verdictAs (same : u.AgreesOnFormed u') (h : Heap) (t : TypeId) {x y : Value}
    (hx : u.isFormed x = true) (hy : u.isFormed y = true) (whole first : Unit → Verdict) :
    u'.verdictAs h t x y whole first = u.verdictAs h t x y whole first := by
  rw [verdictAs_eq, verdictAs_eq, same.accepts, same.comparer t h x y whole first hx hy]

/-- So does what is said of the values of one field. -/
lemma fieldVerdict (same : u.AgreesOnFormed u') (h : Heap) (declared : Option TypeId) {x y : Value}
    (hx : u.isFormed x = true) (hy : u.isFormed y = true) (whole first : Unit → Verdict) :
    u'.fieldVerdict h declared x y whole first = u.fieldVerdict h declared x y whole first := by
  have verdicts : (declared.bind u'.ownComparer?).map (·.verdict h x y whole first) =
      (declared.bind u.ownComparer?).map (·.verdict h x y whole first) := by
    cases declared with
    | none => rfl
    | some t => exact same.comparer t h x y whole first hx hy
  rw [fieldVerdict_eq, fieldVerdict_eq, verdicts]
  congr 1
  cases x with
  | object t xs a => exact same.verdictAs h t hx hy whole first
  | _ => rfl

mutual

/-- Comparing formed values comes to the same verdict. -/
lemma compare (same : u.AgreesOnFormed u') (h : Heap) : (x y : Value) → u.isFormed x = true →
    u.isFormed y = true → u'.compare h x y = u.compare h x y
  | .object t xs a, y, hx, hy => by
    cases y with
    | object t' ys b =>
      have firsts := (isFormed_object.1 hx).2
      have seconds := (isFormed_object.1 hy).2
      rw [Universe.compare, Universe.compare, same.layout?]
      split
      · split
        · exact same.compareFields h xs ys firsts seconds _
        · rfl
      · rfl
    | _ => rfl
  | .descriptor s, y, _, _ => by
    cases y with
    | descriptor t => rw [Universe.compare, Universe.compare, same.name]
    | _ => rfl
  | .null, y, _, _ => by cases y <;> rfl
  | .scalar a, y, _, _ => by cases y <;> rfl
  | .buffer ref, y, _, _ => by cases y <;> rfl
  | .reference k a, y, _, _ => by cases y <;> rfl

/-- The same for the fields of two objects, which are formed too. -/
lemma compareFields (same : u.AgreesOnFormed u') (h : Heap) : (xs ys : List Value) →
    (∀ x ∈ xs, u.isFormed x = true) → (∀ y ∈ ys, u.isFormed y = true) → ∀ declared : List Field,
      u'.compareFields h declared xs ys = u.compareFields h declared xs ys
  | [], [], _, _, declared => by rw [Universe.compareFields, Universe.compareFields]
  | [], y :: ys, _, _, declared => by rw [Universe.compareFields, Universe.compareFields]
  | x :: xs, [], _, _, declared => by rw [Universe.compareFields, Universe.compareFields]
  | x :: xs, y :: ys, firsts, seconds, declared => by
    obtain ⟨hx, hxs⟩ := List.forall_mem_cons.1 firsts
    obtain ⟨hy, hys⟩ := List.forall_mem_cons.1 seconds
    rw [Universe.compareFields, Universe.compareFields, same.fieldVerdict h _ hx hy,
      same.compare h x y hx hy, same.compareFirst h x y hx hy, same.compareFields h xs ys hxs hys]

/-- The same for the first fields of two objects. -/
lemma compareFirst (same : u.AgreesOnFormed u') (h : Heap) : (x y : Value) →
    u.isFormed x = true → u.isFormed y = true → u'.compareFirst h x y = u.compareFirst h x y
  | .object t (x :: xs) a, y, hx, hy => by
    cases y with
    | object t' ys b =>
      cases ys with
      | nil => rfl
      | cons y ys =>
        exact same.compare h x y ((isFormed_object.1 hx).2 x (.head _))
          ((isFormed_object.1 hy).2 y (.head _))
    | _ => rfl
  | .object t [] a, y, _, _ => by cases y <;> rfl
  | .null, y, _, _ => by cases y <;> rfl
  | .scalar a, y, _, _ => by cases y <;> rfl
  | .buffer ref, y, _, _ => by cases y <;> rfl
  | .reference k a, y, _, _ => by cases y <;> rfl
  | .descriptor s, y, _, _ => by cases y <;> rfl

end

/-- A formed value is the default of a field in both, if the check is with formed values only. -/
lemma isDefault (same : u.AgreesOnFormed u') (h : Heap) {f : Field} (check : u.CheckForms f)
    {v : Value} (formed : u.isFormed v = true) : u'.isDefault h f v = u.isDefault h f v := by
  unfold Universe.isDefault
  cases hc : f.check with
  | none => rfl
  | some c =>
    cases c with
    | equals w =>
      dsimp only
      rw [same.compare h v w formed (check _ hc w (.head _))]
    | below w =>
      dsimp only
      rw [same.compare h v w formed (check _ hc w (.head _))]
    | custom p => rfl

/-- Each field is filled from the same source, if the starting values are formed. -/
lemma sourceOf (same : u.AgreesOnFormed u') (h : Heap) (c : Template)
    {initials : Option (List Value)} (canonical : Option (List Value))
    (starts : ∀ vs, initials = some vs → ∀ v ∈ vs, u.isFormed v = true) {f : Field}
    (check : u.CheckForms f) :
    u'.sourceOf h c initials canonical f = u.sourceOf h c initials canonical f := by
  rw [Universe.sourceOf, Universe.sourceOf]
  cases hv : initials.bind (·[f.index]?) with
  | none => rfl
  | some v =>
    obtain ⟨vs, hvs, given⟩ := Option.bind_eq_some_iff.1 hv
    have formed := starts vs hvs v (List.mem_of_getElem? given)
    have prefers : u'.prefersInitial h c f v = u.prefersInitial h c f v := by
      rw [Universe.prefersInitial, Universe.prefersInitial, same.isDefault h check formed]
    rw [Option.filter_some, Option.filter_some, prefers]

/-! ### Freeing -/

/-- A formed value that is no object is freed alike. -/
lemma freePlain (same : u.AgreesOnFormed u') (t : TypeId) {v : Value}
    (formed : u.isFormed v = true) : u'.freePlain t v = u.freePlain t v := by
  unfold Universe.freePlain
  rw [same.accepts, same.free t v formed, same.name, same.typeName]

mutual

/-- And so is every formed value, at each type. -/
lemma free_eq (same : u.AgreesOnFormed u') : (v : Value) → u.isFormed v = true →
    ∀ t : TypeId, u'.free t v = u.free t v
  | .object s vs a, formed, t => by
    have all := (isFormed_object.1 formed).2
    rw [Universe.free, Universe.free, same.accepts, same.free s _ formed, same.layout?,
      same.freeFields vs all, same.name, same.typeName]
  | .null, _, t => by rw [Universe.free, Universe.free]
  | .scalar s, formed, t => by
    simp only [Universe.free]
    exact same.freePlain t formed
  | .buffer ref, formed, t => by
    simp only [Universe.free]
    exact same.freePlain t formed
  | .reference kind address, formed, t => by
    simp only [Universe.free]
    exact same.freePlain t formed
  | .descriptor type, formed, t => by
    simp only [Universe.free]
    exact same.freePlain t formed

/-- The fields of an object are freed alike, as they are formed. -/
lemma freeFields (same : u.AgreesOnFormed u') : (vs : List Value) →
    (∀ v ∈ vs, u.isFormed v = true) → ∀ declared : List Field,
      u'.freeFields declared vs = u.freeFields declared vs
  | [], _, declared => by rw [Universe.freeFields, Universe.freeFields]
  | v :: vs, all, declared => by
    obtain ⟨first, rest⟩ := List.forall_mem_cons.1 all
    rw [Universe.freeFields, Universe.freeFields, same.freeFields vs rest]
    cases freedThrough declared.head? v with
    | none => rfl
    | some t =>
      dsimp only
      rw [same.free_eq v first t]

end

/-- The object itself need not be formed: it is not asked about, only its values are. -/
lemma freeObject (same : u.AgreesOnFormed u') (t : TypeId) {vs : List Value}
    (a : Option Tracker) (all : ∀ v ∈ vs, u.isFormed v = true) :
    u'.freeObject (.object t vs a) = u.freeObject (.object t vs a) := by
  rw [Universe.freeObject, Universe.freeObject, same.layout?, same.freeFields vs all]

/-- What was built of an object until a failure is formed, and is given up alike. -/
lemma abandon (same : u.AgreesOnFormed u') (t : TypeId) {built : List Value}
    (tracker : Option Tracker) (all : ∀ v ∈ built, u.isFormed v = true) :
    u'.abandon (.object t built tracker) = u.abandon (.object t built tracker) := by
  rw [Universe.abandon, Universe.abandon, same.freeObject t tracker all]

/-! ### Building objects -/

/-- An object is given up in the same way, and where it is not, it goes on as it does. -/
lemma settle (same : u.AgreesOnFormed u') (t : TypeId) (f : Field) {built : List Value}
    (tracker : Option Tracker) (note : Action Unit)
    {next next' : List Value → Option Tracker → Attempt Value}
    {r : Except Fault (Value × Option Tracker)} (all : ∀ v ∈ built, u.isFormed v = true)
    (rest : ∀ v tracker', r = .ok (v, tracker') →
      next' (built ++ [v]) tracker' = next (built ++ [v]) tracker') :
    u'.settle t f built tracker note next' r = u.settle t f built tracker note next r := by
  rcases r with fault | ⟨v, tracker'⟩
  · cases fault with
    | refused e => rw [Universe.settle, Universe.settle, same.abandon t tracker all]
    | _ => rfl
  · exact rest v tracker' rfl

/-! ### Duplicating -/

/-- A formed value that is no object is duplicated alike. -/
lemma duplicatePlain (same : u.AgreesOnFormed u') (t : TypeId) (recursive : Bool) {v : Value}
    (formed : u.isFormed v = true) :
    u'.duplicatePlain t recursive v = u.duplicatePlain t recursive v := by
  unfold Universe.duplicatePlain
  rw [same.accepts, same.duplicate t v recursive formed, same.name, same.typeName]

/-- An object with the right number of values has the same fields. -/
lemma fieldsFor (same : u.AgreesOnFormed u') : u'.fieldsFor = u.fieldsFor := by
  funext t vs
  unfold Universe.fieldsFor
  rw [same.layout?, same.name]

mutual

/-- Every formed value is duplicated alike, if hooks answer with formed values. -/
lemma duplicate_eq (same : u.AgreesOnFormed u') (hooks : u.HooksForm) : (v : Value) →
    u.isFormed v = true → ∀ (t : TypeId) (recursive : Bool),
      u'.duplicate t recursive v = u.duplicate t recursive v
  | .object s vs a, formed, t, recursive => by
    have all := (isFormed_object.1 formed).2
    obtain ⟨fs, hf, _⟩ := fieldsFor_of_isFormed formed
    -- an answer other than these two is the end of it
    have general : ∀ r, u'.duplicateFields s r fs []
          (a.map fun tr => { manager := tr.manager }) vs =
        u.duplicateFields s r fs [] (a.map fun tr => { manager := tr.manager }) vs :=
      fun r => same.duplicateFields hooks vs all s r fs [] _ fun v hv => absurd hv List.not_mem_nil
    rw [Universe.duplicate, Universe.duplicate, same.accepts, same.fieldsFor, hf, same.name,
      same.typeName, same.duplicate s _ recursive formed]
    dsimp only
    split
    · refine congrArg (liftM (u.consultDuplicate s _ recursive) >>= ·) (funext fun answer => ?_)
      cases answer with
      | byLayout r => exact general r
      | decline => exact general recursive
      | _ => rfl
    · rfl
  | .null, formed, t, recursive => by
    simp only [Universe.duplicate]
    exact same.duplicatePlain t recursive formed
  | .scalar s, formed, t, recursive => by
    simp only [Universe.duplicate]
    exact same.duplicatePlain t recursive formed
  | .buffer ref, formed, t, recursive => by
    simp only [Universe.duplicate]
    exact same.duplicatePlain t recursive formed
  | .reference kind address, formed, t, recursive => by
    simp only [Universe.duplicate]
    exact same.duplicatePlain t recursive formed
  | .descriptor type, formed, t, recursive => by
    simp only [Universe.duplicate]
    exact same.duplicatePlain t recursive formed

/-- The same for the fields of an object, whatever formed values were made before. -/
lemma duplicateFields (same : u.AgreesOnFormed u') (hooks : u.HooksForm) : (vs : List Value) →
    (∀ v ∈ vs, u.isFormed v = true) →
    ∀ (type : TypeId) (recursive : Bool) (declared : List Field) (built : List Value)
      (tracker : Option Tracker), (∀ v ∈ built, u.isFormed v = true) →
      u'.duplicateFields type recursive declared built tracker vs =
        u.duplicateFields type recursive declared built tracker vs
  | [], _, type, recursive, declared, built, tracker, _ => by
    rw [Universe.duplicateFields, Universe.duplicateFields]
  | v :: vs, all, type, recursive, declared, built, tracker, done => by
    obtain ⟨first, rest⟩ := List.forall_mem_cons.1 all
    cases declared with
    | nil => rw [Universe.duplicateFields, Universe.duplicateFields]
    | cons f fs =>
      have copies : (fun t => u'.duplicate t true v) = fun t => u.duplicate t true v :=
        funext fun t => same.duplicate_eq hooks v first t true
      rw [Universe.duplicateFields, Universe.duplicateFields, copies]
      refine Attempt.outcome_congr (formed_duplicateInto first
        (fun t => formed_duplicate hooks v first t true) _ f.type tracker) fun r copied => ?_
      refine same.settle type f tracker _ done fun w tracker' made => ?_
      exact same.duplicateFields hooks vs rest type recursive fs _ tracker'
        (List.forall_mem_append.2 ⟨done, List.forall_mem_singleton.2 (copied _ made).1⟩)

end

/-- The same for a duplication that does not ask the type of the object. -/
lemma duplicateObject (same : u.AgreesOnFormed u') (hooks : u.HooksForm) {t : TypeId}
    {vs : List Value} {a : Option Tracker} (formed : u.isFormed (.object t vs a) = true)
    (recursive : Bool) :
    u'.duplicateObject t vs a recursive = u.duplicateObject t vs a recursive := by
  have all := (isFormed_object.1 formed).2
  obtain ⟨fs, hf, _⟩ := fieldsFor_of_isFormed formed
  rw [Universe.duplicateObject, Universe.duplicateObject, same.fieldsFor, hf]
  exact same.duplicateFields hooks vs all t recursive fs [] _ fun v hv => absurd hv List.not_mem_nil

/-- Duplicating over a formed value makes one and frees the other. -/
lemma duplicateOver (same : u.AgreesOnFormed u') (hooks : u.HooksForm) (t : TypeId)
    {target source : Value} (there : u.isFormed target = true) (formed : u.isFormed source = true)
    (recursive : Bool) :
    u'.duplicateOver t target source recursive = u.duplicateOver t target source recursive := by
  rw [Universe.duplicateOver, Universe.duplicateOver, same.duplicate_eq hooks source formed,
    same.free_eq target there]

/-! ### Constructing -/

section Construct

variable {nested nested' : TypeId → Template → Attempt Value}

/-- A value is copied into an object alike, if the constructions below it agree. -/
lemma copyInto (agree : ∀ t c, u.StartsFormed c → nested' t c = nested t c) (m : Manager)
    (tracker : Option Tracker) {v : Value} (formed : u.isFormed v = true) :
    Universe.copyInto nested' m tracker v = Universe.copyInto nested m tracker v := by
  cases v with
  | object s vs a =>
    rw [Universe.copyInto, Universe.copyInto, agree s _ fun w hw => ?_]
    cases hw
    exact formed
  | _ => rfl

/-- A default is made alike, if the constructions below it agree. -/
lemma defaultFor (same : u.AgreesOnFormed u')
    (agree : ∀ t c, u.StartsFormed c → nested' t c = nested t c) (m : Manager) (f : Field) :
    u'.defaultFor nested' m f = u.defaultFor nested m f := by
  rw [Universe.defaultFor, Universe.defaultFor]
  cases f.type with
  | none => rfl
  | some t =>
    have none : u.StartsFormed { manager := some m } := fun v hv => by cases hv
    dsimp only
    rw [same.layout?, same.canonical, same.zeroOf, agree t _ none]

/-- The value of one field is made alike, wherever it comes from. -/
lemma made (same : u.AgreesOnFormed u')
    (agree : ∀ t c, u.StartsFormed c → nested' t c = nested t c) (c : Template) (m : Manager)
    {initials canonical : Option (List Value)}
    (starts : ∀ vs, initials = some vs → ∀ v ∈ vs, u.isFormed v = true)
    (presets : ∀ vs, canonical = some vs → ∀ v ∈ vs, u.isFormed v = true) (h : Heap) {f : Field}
    (check : u.CheckForms f) (tracker : Option Tracker) :
    u'.made nested' c m initials canonical h f tracker =
      u.made nested c m initials canonical h f tracker := by
  rw [Universe.made, Universe.made, same.sourceOf h c canonical starts check]
  cases hs : u.sourceOf h c initials canonical f with
  | some v => exact copyInto agree m tracker (forall_sourceOf starts presets hs)
  | none =>
    dsimp only
    rw [same.defaultFor agree m f]

/-- And so are the values of all fields, those made before being formed. -/
lemma constructFields (same : u.AgreesOnFormed u') (below : u.FormsBelow nested)
    (defaults : u.DefaultsFormed) (agree : ∀ t c, u.StartsFormed c → nested' t c = nested t c)
    (t : TypeId) (c : Template) (m : Manager) {initials canonical : Option (List Value)}
    (starts : ∀ vs, initials = some vs → ∀ v ∈ vs, u.isFormed v = true)
    (presets : ∀ vs, canonical = some vs → ∀ v ∈ vs, u.isFormed v = true) (fs : List Field)
    (checks : ∀ f ∈ fs, u.CheckForms f) :
    ∀ (built : List Value) (tracker : Option Tracker), (∀ v ∈ built, u.isFormed v = true) →
      u'.constructFields nested' t c m initials canonical fs built tracker =
        u.constructFields nested t c m initials canonical fs built tracker := by
  induction fs with
  | nil =>
    intro built tracker _
    rw [Universe.constructFields, Universe.constructFields]
  | cons f fs ih =>
    intro built tracker done
    obtain ⟨check, checks⟩ := List.forall_mem_cons.1 checks
    rw [constructFields_cons, constructFields_cons, same.name]
    refine congrArg (get >>= ·) (funext fun h => ?_)
    rw [same.made agree c m starts presets h check tracker]
    refine Attempt.outcome_congr (formed_made below defaults c m starts presets h f tracker)
      fun r built => same.settle t f tracker _ done fun v tracker' made => ?_
    have all := List.forall_mem_append.2 ⟨done, List.forall_mem_singleton.2 (built _ made).1⟩
    exact ih checks _ tracker' all

/-- A structure is constructed alike from formed values, if the constructions below it agree. -/
lemma constructStruct (same : u.AgreesOnFormed u') (below : u.FormsBelow nested)
    (defaults : u.DefaultsFormed) (checks : u.ChecksFormed)
    (agree : ∀ t c, u.StartsFormed c → nested' t c = nested t c) (t : TypeId) {c : Template}
    (starts : u.StartsFormed c) :
    u'.constructStruct nested' t c = u.constructStruct nested t c := by
  have managerFor : u'.managerFor t c = u.managerFor t c := by
    rw [Universe.managerFor, Universe.managerFor, same.manager]
  rw [Universe.constructStruct, Universe.constructStruct, same.layout?, same.name, same.canonical,
    managerFor]
  cases hl : u.layout? t with
  | none => rfl
  | some l =>
    refine congrArg (liftM (u.managerFor t c) >>= ·) (funext fun m => ?_)
    dsimp only
    rw [same.constructFields below defaults agree t c m (formed_allFields? starts)
      (formed_allFields? (defaults t)) l.fields (checks t l hl) [] _
      fun v hv => absurd hv List.not_mem_nil]

/-- And so is a value of any type, its hook being asked about a formed template. -/
lemma constructWith (same : u.AgreesOnFormed u') (below : u.FormsBelow nested)
    (defaults : u.DefaultsFormed) (checks : u.ChecksFormed)
    (agree : ∀ t c, u.StartsFormed c → nested' t c = nested t c) (t : TypeId) {c : Template}
    (starts : u.StartsFormed c) :
    u'.constructWith nested' t c = u.constructWith nested t c := by
  rw [Universe.constructWith, Universe.constructWith, same.isExact, same.name, same.typeName,
    same.construct t c starts, same.constructStruct below defaults checks agree t starts, same.kind,
    same.canonical, same.zeroOf]

end Construct

/-- A construction asks the same, however deep it goes. -/
lemma construct_eq (same : u.AgreesOnFormed u') (hooks : u.HooksForm) (defaults : u.DefaultsFormed)
    (checks : u.ChecksFormed) (depth : Nat) : ∀ (t : TypeId) (c : Template), u.StartsFormed c →
      u'.construct depth t c = u.construct depth t c := by
  induction depth with
  | zero =>
    intro t c _
    rw [Universe.construct, Universe.construct]
  | succ depth ih =>
    intro t c starts
    rw [Universe.construct, Universe.construct, same.name,
      same.constructWith (formed_construct hooks defaults depth) defaults checks ih t starts]

/-- Constructing in place frees a value and makes one alike. -/
lemma constructAt (same : u.AgreesOnFormed u') (hooks : u.HooksForm) (defaults : u.DefaultsFormed)
    (checks : u.ChecksFormed) (depth : Nat) (t : TypeId) (target : Value) {c : Template}
    (starts : u.StartsFormed c) :
    u'.constructAt depth t target c = u.constructAt depth t target c := by
  have construct := same.construct_eq hooks defaults checks depth t c starts
  rw [Universe.constructAt, Universe.constructAt, Universe.constructReporting,
    Universe.constructReporting, construct, same.typeName]

/-! ### Reading and writing fields -/

/-- Names are looked up in layouts. -/
lemma indexIn? (same : u.AgreesOnFormed u') : u'.indexIn? = u.indexIn? := by
  funext t vs name
  rw [Universe.indexIn?, same.layout?, Universe.indexIn?]

/-- So are declared types. -/
lemma declaredAt? (same : u.AgreesOnFormed u') : u'.declaredAt? = u.declaredAt? := by
  funext t i
  rw [Universe.declaredAt?, same.layout?, Universe.declaredAt?]

/-- Values are put together to the same objects. -/
lemma instantiate (same : u.AgreesOnFormed u') : u'.instantiate = u.instantiate := by
  funext t vs
  unfold Universe.instantiate
  rw [same.layout?, same.name]

/-- A field is written alike. -/
lemma writeField (same : u.AgreesOnFormed u') (name : String) (v w : Value) :
    u'.writeField name v w = u.writeField name v w := by
  unfold Universe.writeField
  rw [same.indexIn?, same.declaredAt?, same.accepts, same.name, same.typeName]

/-- So are the bytes of a field. -/
lemma writeBytes (same : u.AgreesOnFormed u') (name : String) (bytes : Bytes) (v : Value) :
    u'.writeBytes name bytes v = u.writeBytes name bytes v := by
  have holdsBytes : u'.holdsBytes = u.holdsBytes := by
    funext t
    rw [Universe.holdsBytes, same.kind, Universe.holdsBytes]
  unfold Universe.writeBytes
  rw [same.indexIn?, same.declaredAt?, holdsBytes, same.name]

end AgreesOnFormed

end Universe

end Metaobject
