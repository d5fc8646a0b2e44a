import Metaobject.Proofs.Lifecycle.Passage
import Metaobject.Proofs.Lifecycle.Unseen
import Metaobject.Proofs.Storage.Substitution

/-!
# Values and types with other managers

A substitution of managers goes into values, into the templates of constructions, and into what a
type keeps: its default instance, the values of its checks, its manager. Types mirror each other if
the one comes from the other in this way and their hooks, which may be any code, cannot tell the
managers apart. Such types look at a value alike: what it is accepted as, what its zero is, how it
compares with another one, whether it is a default.
-/

namespace Metaobject

/-! ### Values -/

namespace Substitution

variable (σ : Substitution)

mutual

/-- The value with other managers for the trackers inside. -/
def value : Value → Value
  | .object type fields tracker => .object type (values fields) (tracker.map σ.tracker)
  | v => v

/-- Values one after the other. -/
def values : List Value → List Value
  | [] => []
  | v :: vs => value v :: values vs

end

/-- The template with the other managers, in its own place and in its starting object. -/
def template (c : Template) : Template :=
  { c with manager := c.manager.map σ.manager, initials := c.initials.map σ.value }

variable {σ}

/-- One after the other is the image of the list. -/
lemma values_eq_map (vs : List Value) : σ.values vs = vs.map σ.value := by
  induction vs with
  | nil => rfl
  | cons v vs ih => exact congrArg (σ.value v :: ·) ih

/-- An object keeps its type, and its fields and its tracker give way to their images. -/
lemma value_object (type : TypeId) (vs : List Value) (a : Option Tracker) :
    σ.value (.object type vs a) = .object type (vs.map σ.value) (a.map σ.tracker) := by
  rw [value, values_eq_map]

/-- Nothing becomes null, and null stays null. -/
lemma isNull_value (v : Value) : (σ.value v).isNull = v.isNull := by
  cases v <;> rfl

/-- The fields of the image are the images of the fields. -/
lemma fields?_value (v : Value) : (σ.value v).fields? = v.fields?.map (·.map σ.value) := by
  cases v with
  | object type vs a =>
    rw [value_object]
    rfl
  | _ => rfl

/-- A place off the heap carries no manager. -/
lemma offHeap_value (v : Value) : (σ.value v).offHeap = σ.value v.offHeap := by
  cases v with
  | object type vs a => cases a <;> rfl
  | _ => rfl

/-- The starting values of a template give way to their images. -/
lemma initials?_template (c : Template) : (σ.template c).initials? = c.initials?.map σ.value := by
  rw [Template.initials?, Template.initials?, template, Option.filter_map]
  congr 2
  funext v
  rw [Function.comp, isNull_value]

mutual

/-- To be zero has nothing to do with managers. -/
lemma isZero_value : (v : Value) → (σ.value v).isZero = v.isZero
  | .object _ vs _ => allZero_values vs
  | .null | .scalar _ | .buffer _ | .reference _ _ | .descriptor _ => rfl

/-- The same for the values of an object. -/
lemma allZero_values : (vs : List Value) → Value.allZero (σ.values vs) = Value.allZero vs
  | [] => rfl
  | v :: vs => by
    rw [values, Value.allZero, Value.allZero, isZero_value v, allZero_values vs]

end

mutual

/-- A raw copy drops the tracker, and with it the manager. -/
lemma rawCopy_value : (v : Value) → (σ.value v).rawCopy = σ.value v.rawCopy
  | .object type vs a => by
    rw [value, Value.rawCopy, Value.rawCopy, value, rawCopies_values vs, Option.map_map,
      Option.map_map]
    rfl
  | .null | .scalar _ | .buffer _ | .reference _ _ | .descriptor _ => rfl

/-- The same for the values of an object. -/
lemma rawCopies_values : (vs : List Value) →
    Value.rawCopies (σ.values vs) = σ.values (Value.rawCopies vs)
  | [] => rfl
  | v :: vs => by
    rw [values, Value.rawCopies, Value.rawCopies, values, rawCopy_value v, rawCopies_values vs]

end

mutual

/-- The image lists the buffers that the value lists. -/
lemma owned_value : (v : Value) → (σ.value v).owned = v.owned
  | .object type vs a => by
    rw [value, Value.owned, Value.owned, ownedByAll_values vs]
    cases a <;> rfl
  | .null | .scalar _ | .buffer _ | .reference _ _ | .descriptor _ => rfl

/-- The same for the values of an object. -/
lemma ownedByAll_values : (vs : List Value) →
    Value.ownedByAll (σ.values vs) = Value.ownedByAll vs
  | [] => rfl
  | v :: vs => by
    rw [values, Value.ownedByAll, Value.ownedByAll, owned_value v, ownedByAll_values vs]

end

/-- At the end of a path there is the image of what was there. -/
lemma at?_value (path : List Nat) (v : Value) :
    (σ.value v).at? path = (v.at? path).map σ.value := by
  induction path generalizing v with
  | nil => rfl
  | cons i is ih =>
    cases v with
    | object type vs a =>
      rw [value_object, Value.at?, Value.at?, List.getElem?_map]
      cases vs[i]? with
      | none => rfl
      | some v => exact ih v
    | _ => rfl

/-- Changing an element of the images is changing the element, if the changes mirror. -/
lemma modify_value (vs : List Value) (i : Nat) {f f' : Value → Value}
    (same : ∀ v, f' (σ.value v) = σ.value (f v)) :
    (vs.map σ.value).modify i f' = (vs.modify i f).map σ.value := by
  apply List.ext_getElem?
  intro j
  rw [List.getElem?_modify, List.getElem?_map, List.getElem?_map, List.getElem?_modify]
  cases vs[j]? with
  | none => rfl
  | some v =>
    dsimp only [Option.map_some, Option.map_eq_map]
    split
    · rw [same]
    · rfl

/-- A value is put at the end of a path in both. -/
lemma putAt_value (path : List Nat) (v w : Value) :
    (σ.value w).putAt path (σ.value v) = σ.value (w.putAt path v) := by
  induction path generalizing v with
  | nil => rfl
  | cons i is ih =>
    cases v with
    | object type vs a =>
      rw [value_object, Value.putAt, Value.putAt, value_object, modify_value vs i ih]
    | _ => rfl

end Substitution

/-- The trackers inside the value only have to do with managers that there are. -/
abbrev Value.KnownTo (σ : Substitution) (v : Value) : Prop :=
  v.Trackers (Tracker.KnownTo σ)

/-- The template names a manager that there is, and initials with such managers. -/
structure Template.KnownTo (σ : Substitution) (c : Template) : Prop where
  manager : σ.Knows c.manager
  initials : ∀ v, c.initials = some v → v.KnownTo σ

variable {σ : Substitution}

namespace Value

variable {v : Value}

/-- A raw copy has no tracker that could name a manager. -/
lemma KnownTo.rawCopy (known : v.KnownTo σ) : v.rawCopy.KnownTo σ := by
  intro path t ht
  rw [trackerAt?_rawCopy] at ht
  obtain ⟨t', ht', rfl⟩ := Option.map_eq_some_iff.1 ht
  exact Tracker.knownTo_new (known path t' ht').manager

/-- Off the heap or on it, a tracker names the same manager. -/
lemma KnownTo.offHeap (known : v.KnownTo σ) : v.offHeap.KnownTo σ := by
  cases v with
  | object type vs a =>
    cases a with
    | none => exact known
    | some t =>
      obtain ⟨inside, own⟩ := trackers_object.1 known
      refine trackers_object.2 ⟨inside, ?_⟩
      rintro _ ⟨⟩
      exact ⟨(own t rfl).manager, (own t rfl).setup⟩
  | _ => exact known

/-- The managers in the fields are among those of the object. -/
lemma KnownTo.fields (known : v.KnownTo σ) {vs : List Value} (hv : v.fields? = some vs) :
    ∀ w ∈ vs, w.KnownTo σ := by
  cases v with
  | object type ws a =>
    cases hv
    exact (trackers_object.1 known).1
  | _ => cases hv

end Value

/-- A template that only names a manager. -/
lemma Template.knownTo_of_manager {m : Option Manager} (hm : σ.Knows m) :
    ({ manager := m } : Template).KnownTo σ :=
  ⟨hm, by rintro _ ⟨⟩⟩

/-- A template that names managers that there are starts from such values. -/
lemma Template.KnownTo.initials? {c : Template} (known : c.KnownTo σ) :
    ∀ v, c.initials? = some v → v.KnownTo σ :=
  fun v hv => known.initials v (Option.filter_eq_some_iff.1 hv).1

/-! ### Types -/

namespace Substitution

variable (σ : Substitution)

/-- The check of a default, with the image of the value that it compares with. -/
def check : DefaultCheck → DefaultCheck
  | .equals v => .equals (σ.value v)
  | .below v => .below (σ.value v)
  | .custom f => .custom f

/-- The field, with the image of its default. -/
def field (f : Field) : Field :=
  { f with check := f.check.map σ.check }

/-- The layout, with the images of its fields. -/
def layout (l : Layout) : Layout :=
  { l with fields := l.fields.map σ.field }

/-- The kind, with the image of its layout or of its canonical instance. -/
def kind : TypeKind → TypeKind
  | .struct l => .struct (σ.layout l)
  | k => k

/-- The descriptor, with all values in it giving way to their images. -/
def descriptor (d : Descriptor) : Descriptor :=
  { d with
    kind := σ.kind d.kind
    canonical := d.canonical.map σ.value
    manager := d.manager.map σ.manager }

/-- What a hook says with other managers. -/
def constructed : ConstructAnswer → ConstructAnswer
  | .built v => .built (σ.value v)
  | a => a

/-- What a hook answers to a duplication, with the image of the value if it built one. -/
def duplicated : DuplicateAnswer → DuplicateAnswer
  | .built v => .built (σ.value v)
  | a => a

end Substitution

/-- The hooks of a type under some name cannot tell the managers apart. -/
structure Behavior.Mirrors (σ : Substitution) (name : String) (b b' : Behavior) : Prop where
  subtype : b'.subtype = b.subtype
  comparer : ∀ h h' x y whole first, h.Mirrors σ h' →
    b'.comparer.map (·.verdict h' (σ.value x) (σ.value y) whole first) =
      b.comparer.map (·.verdict h x y whole first)
  construct : ∀ c, c.KnownTo σ → b'.construct.map (· name (σ.template c)) =
    b.construct.map fun hook => σ.constructed (hook name c)
  free : ∀ v, v.KnownTo σ → b'.free.map (· (σ.value v)) = b.free.map (· v)
  duplicate : ∀ v recursive, v.KnownTo σ → b'.duplicate.map (· name (σ.value v) recursive) =
    b.duplicate.map fun hook => σ.duplicated (hook name v recursive)
  /-- What they build brings no managers that there are not. -/
  constructs : ∀ hook c v, b.construct = some hook → c.KnownTo σ → hook name c = .built v →
    v.KnownTo σ
  duplicates : ∀ hook v recursive w, b.duplicate = some hook → v.KnownTo σ →
    hook name v recursive = .built w → w.KnownTo σ

/-- The second descriptor is the first one with other managers. -/
structure Descriptor.Mirrors (σ : Substitution) (d d' : Descriptor) : Prop where
  name : d'.name = d.name
  kind : d'.kind = σ.kind d.kind
  canonical : d'.canonical = d.canonical.map σ.value
  manager : d'.manager = d.manager.map σ.manager
  plain : d.behavior = none → d'.behavior = none
  behavior : ∀ b, d.behavior = some b → ∃ b', d'.behavior = some b' ∧ b.Mirrors σ d.name b'
  checks : ∀ l f p, d.kind = .struct l → f ∈ l.fields → f.check = some (.custom p) →
    ∀ h h' v, h.Mirrors σ h' → p h' (σ.value v) = p h v
  preset : ∀ v, d.canonical = some v → v.KnownTo σ
  served : σ.Knows d.manager

/-- The types are the same, but for the managers. -/
def Universe.Mirrors (σ : Substitution) (u u' : Universe) : Prop :=
  ∀ t, (u.desc t).Mirrors σ (u'.desc t)

/-- Asks a hook of a type, if the type has it. -/
def Universe.ask {κ ρ : Type} (u : Universe) (t : TypeId) (use : HookUse)
    (slot : Behavior → Option κ) (question : κ → ρ) (decline : ρ) : Action ρ :=
  ((u.desc t).behavior.bind slot).elim (return decline) fun hook => do
    Action.emit (.hook t use)
    return question hook

namespace Universe.Mirrors

variable {u u' : Universe}

/-- Types have the same names. -/
lemma name (mirrors : u.Mirrors σ u') : u'.name = u.name :=
  funext fun t => (mirrors t).name

/-- They have the images of the layouts. -/
lemma layout? (mirrors : u.Mirrors σ u') (t : TypeId) :
    u'.layout? t = (u.layout? t).map σ.layout := by
  rw [Universe.layout?, Universe.layout?, (mirrors t).kind]
  cases (u.desc t).kind <;> rfl

/-- They extend the same types. -/
lemma base? (mirrors : u.Mirrors σ u') (t : TypeId) : u'.base? t = u.base? t := by
  rw [Universe.base?, Universe.base?, mirrors.layout?, Option.bind_map]
  rfl

/-- They have the same hooks for subtypes. -/
lemma subtype (mirrors : u.Mirrors σ u') (t : TypeId) :
    (u'.desc t).behavior.bind (·.subtype) = (u.desc t).behavior.bind (·.subtype) := by
  cases hb : (u.desc t).behavior with
  | none => rw [(mirrors t).plain hb]
  | some b =>
    obtain ⟨b', hb', same⟩ := (mirrors t).behavior b hb
    rw [hb', Option.bind_some, Option.bind_some, same.subtype]

/-- So the same types are subtypes of each other. -/
lemma subtype?_eq (mirrors : u.Mirrors σ u') (t other : TypeId) :
    u'.subtype? t other = u.subtype? t other := by
  induction t using Nat.strongRecOn with
  | ind t ih =>
    rw [Universe.subtype?, Universe.subtype?, mirrors.subtype, mirrors.name]
    cases ((u.desc t).behavior.bind (·.subtype)).bind (· t other (u.name other)) with
    | some w => rfl
    | none =>
      dsimp only
      split
      · rfl
      · split
        · rename_i b hb
          have hb' := (mirrors.base? t).symm.trans hb
          split
          · rename_i b' hb''
            cases hb'.symm.trans hb''
            exact ih b (u.base_lt hb')
          · rename_i none
            cases hb'.symm.trans none
        · rename_i none
          have none' := (mirrors.base? t).symm.trans none
          split
          · rename_i b hb
            cases none'.symm.trans hb
          · rfl

/-- The same values are accepted, whatever managers are in them. -/
lemma accepts (mirrors : u.Mirrors σ u') (t : TypeId) (v : Value) :
    u'.accepts t (σ.value v) = u.accepts t v := by
  have subtype : u'.subtype? = u.subtype? := funext fun t => funext (mirrors.subtype?_eq t)
  unfold Universe.accepts
  rw [(mirrors t).kind, subtype]
  cases (u.desc t).kind <;> cases v <;> rfl

/-- The same values are instances of exactly a type. -/
lemma isExact (mirrors : u.Mirrors σ u') (t : TypeId) (v : Value) :
    u'.isExact t (σ.value v) = u.isExact t v := by
  cases v with
  | object => rfl
  | _ => exact mirrors.accepts t _

/-- The image of a value has the name of its type. -/
lemma typeName (mirrors : u.Mirrors σ u') (v : Value) : u'.typeName (σ.value v) = u.typeName v := by
  cases v with
  | object type vs a =>
    rw [Substitution.value, Universe.typeName, Universe.typeName, mirrors.name]
  | _ => rfl

/-- The zero of a type mirrors, its canonical values included. -/
lemma zeroOf (mirrors : u.Mirrors σ u') (t : TypeId) : u'.zeroOf t = σ.value (u.zeroOf t) := by
  refine zeroOf_induction (P := fun t v => u'.zeroOf t = σ.value v) (fun t plain => ?_)
    (fun t l hl inside => ?_) t
  · rw [zeroOf_plain (by rw [mirrors.layout?, plain]; rfl), (mirrors t).kind]
    cases (u.desc t).kind <;> rfl
  · have kind : (u'.desc t).kind = .struct (σ.layout l) := by
      rw [(mirrors t).kind, kind_of_layout? hl]
      rfl
    rw [zeroOf_struct kind, Substitution.value_object]
    show Value.object t ((l.fields.map σ.field).map _) _ = _
    rw [List.map_map, List.map_map]
    congr 1
    · refine List.map_congr_left fun f hf => ?_
      show f.type.elim .null u'.zeroOf = σ.value (f.type.elim .null u.zeroOf)
      cases hs : f.type with
      | none => rfl
      | some s => exact inside f hf s hs
    · show (if l.tracked then _ else _) = _
      split <;> rfl

/-! ### Comparisons -/

variable {h h' : Heap}

/-- Either both types have a comparer or none of them, and then it comes to the same verdict. -/
lemma comparer (mirrors : u.Mirrors σ u') (heaps : h.Mirrors σ h') (t : TypeId) (x y : Value)
    (whole first : Unit → Verdict) :
    (u'.ownComparer? t).map (·.verdict h' (σ.value x) (σ.value y) whole first) =
      (u.ownComparer? t).map (·.verdict h x y whole first) := by
  rw [ownComparer?, ownComparer?]
  cases hb : (u.desc t).behavior with
  | none => rw [(mirrors t).plain hb]; rfl
  | some b =>
    obtain ⟨b', hb', same⟩ := (mirrors t).behavior b hb
    rw [hb']
    exact same.comparer h h' x y whole first heaps

/-- What a type's own comparer says of two values, or what else is to be said of them. -/
lemma verdictAs (mirrors : u.Mirrors σ u') (heaps : h.Mirrors σ h') (t : TypeId) (x y : Value)
    (whole first : Unit → Verdict) :
    u'.verdictAs h' t (σ.value x) (σ.value y) whole first = u.verdictAs h t x y whole first := by
  rw [verdictAs_eq, verdictAs_eq, mirrors.accepts, mirrors.accepts,
    mirrors.comparer heaps t x y whole first]

/-- What is said of the values of one field. -/
lemma fieldVerdict (mirrors : u.Mirrors σ u') (heaps : h.Mirrors σ h') (declared : Option TypeId)
    (x y : Value) (whole first : Unit → Verdict) :
    u'.fieldVerdict h' declared (σ.value x) (σ.value y) whole first =
      u.fieldVerdict h declared x y whole first := by
  have verdicts : (declared.bind u'.ownComparer?).map
        (·.verdict h' (σ.value x) (σ.value y) whole first) =
      (declared.bind u.ownComparer?).map (·.verdict h x y whole first) := by
    cases declared with
    | none => rfl
    | some t => exact mirrors.comparer heaps t x y whole first
  rw [fieldVerdict_eq, fieldVerdict_eq, verdicts]
  congr 1
  cases x with
  | object t xs a => exact mirrors.verdictAs heaps t _ y whole first
  | _ => rfl

mutual

/-- Comparing the images comes to the same verdict. -/
lemma compare (mirrors : u.Mirrors σ u') (heaps : h.Mirrors σ h') : (x y : Value) →
    u'.compare h' (σ.value x) (σ.value y) = u.compare h x y
  | .object t xs a, y => by
    cases y with
    | object t' ys b =>
      rw [Substitution.value, Substitution.value, Universe.compare, Universe.compare,
        mirrors.layout?]
      cases u.layout? t with
      | none => rfl
      | some l =>
        dsimp only [Option.map_some]
        rw [Substitution.layout, mirrors.compareFields heaps xs ys]
    | _ => rfl
  | .buffer ref, y => by
    cases y with
    | buffer ref' =>
      show u'.compare h' (.buffer ref) (.buffer ref') = _
      rw [Universe.compare, Universe.compare, heaps.read, heaps.read]
    | _ => rfl
  | .descriptor s, y => by
    cases y with
    | descriptor t =>
      show u'.compare h' (.descriptor s) (.descriptor t) = _
      rw [Universe.compare, Universe.compare, mirrors.name]
    | _ => rfl
  | .null, y => by cases y <;> rfl
  | .scalar a, y => by cases y <;> rfl
  | .reference k a, y => by cases y <;> rfl

/-- The same for the fields of two objects. -/
lemma compareFields (mirrors : u.Mirrors σ u') (heaps : h.Mirrors σ h') :
    (xs ys : List Value) → ∀ declared : List Field,
      u'.compareFields h' (declared.map σ.field) (σ.values xs) (σ.values ys) =
        u.compareFields h declared xs ys
  | [], [], declared => by
    rw [Substitution.values, Universe.compareFields, Universe.compareFields]
  | [], y :: ys, declared => by
    rw [Substitution.values, Substitution.values, Universe.compareFields, Universe.compareFields]
  | x :: xs, [], declared => by
    rw [Substitution.values, Substitution.values, Universe.compareFields, Universe.compareFields]
  | x :: xs, y :: ys, declared => by
    have type : (declared.map σ.field).head?.bind (·.type) = declared.head?.bind (·.type) := by
      cases declared <;> rfl
    have tail : (declared.map σ.field).tail = declared.tail.map σ.field := by
      cases declared <;> rfl
    rw [Substitution.values, Substitution.values, Universe.compareFields, Universe.compareFields,
      mirrors.compare heaps x y, mirrors.compareFirst heaps x y, mirrors.fieldVerdict heaps, type,
      tail, mirrors.compareFields heaps xs ys]

/-- The same for the first fields of two objects. -/
lemma compareFirst (mirrors : u.Mirrors σ u') (heaps : h.Mirrors σ h') : (x y : Value) →
    u'.compareFirst h' (σ.value x) (σ.value y) = u.compareFirst h x y
  | .object t (x :: xs) a, y => by
    cases y with
    | object t' ys b =>
      cases ys with
      | nil => rfl
      | cons y ys => exact mirrors.compare heaps x y
    | _ => rfl
  | .object t [] a, y => by cases y <;> rfl
  | .null, y => by cases y <;> rfl
  | .scalar a, y => by cases y <;> rfl
  | .buffer ref, y => by cases y <;> rfl
  | .reference k a, y => by cases y <;> rfl
  | .descriptor s, y => by cases y <;> rfl

end

/-- The test of a check, if it has one, cannot tell the managers apart. -/
def Blind (σ : Substitution) (f : Field) : Prop :=
  ∀ p, f.check = some (.custom p) → ∀ h h' v, Heap.Mirrors σ h h' → p h' (σ.value v) = p h v

/-- The checks of the defaults in a layout cannot tell managers apart. -/
lemma blind (mirrors : u.Mirrors σ u') {t : TypeId} {l : Layout} (hl : u.layout? t = some l) :
    ∀ f ∈ l.fields, Blind σ f := by
  exact fun f hf p => (mirrors t).checks l f p (kind_of_layout? hl) hf

/-- The image of a value is the default of a field if the value is. -/
lemma isDefault (mirrors : u.Mirrors σ u') (heaps : h.Mirrors σ h') {f : Field} (blind : Blind σ f)
    (v : Value) : u'.isDefault h' (σ.field f) (σ.value v) = u.isDefault h f v := by
  have check : (σ.field f).check = f.check.map σ.check := rfl
  unfold Universe.isDefault
  rw [check]
  cases hc : f.check with
  | none => exact Substitution.isZero_value v
  | some c =>
    cases c with
    | equals w => exact congrArg (fun x => decide (x = .equal)) (mirrors.compare heaps v w)
    | below w => exact congrArg (fun x => decide (x = .less)) (mirrors.compare heaps v w)
    | custom p => exact blind p hc h h' v heaps

/-- Each field is filled from the same source, with the image of the value that is there. -/
lemma sourceOf (mirrors : u.Mirrors σ u') (heaps : h.Mirrors σ h') (c : Template)
    (initials canonical : Option (List Value)) {f : Field} (blind : Blind σ f) :
    u'.sourceOf h' (σ.template c) (initials.map (·.map σ.value)) (canonical.map (·.map σ.value))
        (σ.field f) =
      (u.sourceOf h c initials canonical f).map σ.value := by
  have place : ∀ vs : Option (List Value), (vs.map (·.map σ.value)).bind (·[f.index]?) =
      (vs.bind (·[f.index]?)).map σ.value := by
    rintro (_ | vs)
    · rfl
    · exact List.getElem?_map
  have prefers : (u'.prefersInitial h' (σ.template c) (σ.field f) ∘ σ.value) =
      u.prefersInitial h c f := by
    funext v
    rw [Function.comp, Universe.prefersInitial, Universe.prefersInitial,
      mirrors.isDefault heaps blind]
    rfl
  have present : ((fun v : Value => !v.isNull) ∘ σ.value) = fun v => !v.isNull := by
    funext v
    rw [Function.comp, Substitution.isNull_value]
  have index : (σ.field f).index = f.index := rfl
  rw [Universe.sourceOf, Universe.sourceOf, index, place, place, Option.filter_map,
    Option.filter_map, prefers, present]
  cases (initials.bind (·[f.index]?)).filter (u.prefersInitial h c f) <;> rfl

/-! ### Consulting the types -/

/-- A hook is asked on both sides or on none, and its answers agree. -/
lemma ask (mirrors : u.Mirrors σ u') (t : TypeId) (use : HookUse) {κ ρ : Type}
    {slot : Behavior → Option κ} {question question' : κ → ρ} {decline : ρ} {f : ρ → ρ}
    {P : ρ → Prop} (declined : decline = f decline) (trivially : P decline)
    (agree : ∀ b b', b.Mirrors σ (u.name t) b' →
      (slot b').map question' = (slot b).map fun hook => f (question hook))
    (holds : ∀ b b' hook, b.Mirrors σ (u.name t) b' → slot b = some hook → P (question hook)) :
    Action.Mirrors σ f P (u.ask t use slot question decline)
      (u'.ask t use slot question' decline) := by
  rw [Universe.ask, Universe.ask]
  cases hb : (u.desc t).behavior with
  | none =>
    rw [(mirrors t).plain hb]
    exact .pure declined trivially
  | some b =>
    obtain ⟨b', hb', same⟩ := (mirrors t).behavior b hb
    have answers := agree b b' same
    rw [hb', Option.bind_some, Option.bind_some]
    cases hh : slot b with
    | none =>
      rw [hh, Option.map_none, Option.map_eq_none_iff] at answers
      rw [answers]
      exact .pure declined trivially
    | some hook =>
      rw [hh, Option.map_some, Option.map_eq_some_iff] at answers
      obtain ⟨hook', hh', answer⟩ := answers
      rw [hh']
      exact .bind (Action.mirrors_note (e := .hook t use) rfl) fun _ _ =>
        .pure answer (holds b b' hook same hh)

/-- The hook of a type for constructions answers both templates alike. -/
lemma consultConstruct (mirrors : u.Mirrors σ u') (t : TypeId) {c : Template}
    (known : c.KnownTo σ) :
    Action.Mirrors σ σ.constructed (fun a => ∀ v, a = .built v → v.KnownTo σ)
      (u.consultConstruct t c) (u'.consultConstruct t (σ.template c)) := by
  have asks : ∀ (u : Universe) c, u.consultConstruct t c =
      u.ask t .construct (·.construct) (· (u.name t) c) .decline := by
    intro u c
    rw [Universe.consultConstruct, Universe.ask]
    cases (u.desc t).behavior.bind (·.construct) <;> rfl
  have declined : ∀ v, ConstructAnswer.decline = .built v → v.KnownTo σ := by rintro _ ⟨⟩
  rw [asks, asks, mirrors.name]
  exact mirrors.ask t .construct rfl declined (fun b b' same => same.construct c known)
    fun b b' hook same hh v => same.constructs hook c v hh known

/-- The hook of a type for releases answers both values alike. -/
lemma consultFree (mirrors : u.Mirrors σ u') (t : TypeId) {v : Value} (known : v.KnownTo σ) :
    Action.Same σ (u.consultFree t v) (u'.consultFree t (σ.value v)) := by
  have asks : ∀ (u : Universe) v, u.consultFree t v =
      u.ask t .free (·.free) (· v) .decline := by
    intro u v
    rw [Universe.consultFree, Universe.ask]
    cases (u.desc t).behavior.bind (·.free) <;> rfl
  rw [asks, asks]
  exact mirrors.ask t .free rfl trivial (fun b b' same => same.free v known)
    fun _ _ _ _ _ => trivial

/-- The hook of a type for duplications answers both values alike. -/
lemma consultDuplicate (mirrors : u.Mirrors σ u') (t : TypeId) {v : Value} (known : v.KnownTo σ)
    (recursive : Bool) :
    Action.Mirrors σ σ.duplicated (fun a => ∀ w, a = .built w → w.KnownTo σ)
      (u.consultDuplicate t v recursive) (u'.consultDuplicate t (σ.value v) recursive) := by
  have asks : ∀ (u : Universe) v, u.consultDuplicate t v recursive =
      u.ask t (.duplicate recursive) (·.duplicate) (· (u.name t) v recursive) .decline := by
    intro u v
    rw [Universe.consultDuplicate, Universe.ask]
    cases (u.desc t).behavior.bind (·.duplicate) <;> rfl
  have declined : ∀ w, DuplicateAnswer.decline = .built w → w.KnownTo σ := by rintro _ ⟨⟩
  rw [asks, asks, mirrors.name]
  exact mirrors.ask t (.duplicate recursive) rfl declined
    (fun b b' same => same.duplicate v recursive known)
    fun b b' hook same hh w => same.duplicates hook v recursive w hh known

end Universe.Mirrors

/-! ### Putting other managers into all types -/

namespace Substitution

/-- Numbering the fields leaves their defaults to their images. -/
lemma numberedFrom_field (n : Nat) (fs : List Field) :
    Layout.numberedFrom n (fs.map σ.field) = (Layout.numberedFrom n fs).map σ.field := by
  induction fs generalizing n with
  | nil => rfl
  | cons f fs ih => exact congrArg (σ.field { f with index := n } :: ·) (ih (n + 1))

/-- The image of an extended layout extends the image of the inherited one. -/
lemma layout_extend (own : List Field) (base : Option TypeId) (inherited : Option Layout)
    (tracked : Bool) : σ.layout (.extend own base inherited tracked) =
      .extend (own.map σ.field) base (inherited.map σ.layout) tracked := by
  rw [layout, Layout.extend, Layout.extend, ← numberedFrom_field, List.map_append,
    List.length_map]
  cases inherited <;> rfl

/-- A kind has a layout if its image has one. -/
lemma layout?_kind (k : TypeKind) : (σ.kind k).layout? = k.layout?.map σ.layout := by
  cases k <;> rfl

/-- The image mentions the same types. -/
lemma mentions_descriptor (d : Descriptor) : (σ.descriptor d).mentions = d.mentions := by
  have kind : (σ.descriptor d).kind = σ.kind d.kind := rfl
  rw [Descriptor.mentions, Descriptor.mentions, kind, layout?_kind]
  cases d.kind.layout? with
  | none => rfl
  | some l =>
    show l.base.toList ++ (l.fields.map σ.field).filterMap (·.type) = l.mentions
    rw [List.filterMap_map]
    rfl

/-- Among the images a type is described by the image of what describes it. -/
lemma among_descriptor (ds : Array Descriptor) (t : TypeId) :
    Descriptor.among (ds.map σ.descriptor) t = σ.descriptor (Descriptor.among ds t) := by
  rw [Descriptor.among, Descriptor.among, Array.getElem?_map]
  cases ds[t]? <;> rfl

/-- The same types with other managers. -/
def types (σ : Substitution) (u : Universe) : Universe where
  descriptors := u.descriptors.map σ.descriptor
  earlier t r hr := by
    rw [among_descriptor, mentions_descriptor] at hr
    exact u.earlier t r hr
  layered t l hl := by
    rw [among_descriptor] at hl
    have kind : σ.kind (Descriptor.among u.descriptors t).kind = .struct l := hl
    cases hk : (Descriptor.among u.descriptors t).kind with
    | struct l' =>
      rw [hk] at kind
      cases kind
      obtain ⟨own, tracked, extends'⟩ := u.layered t l' hk
      have bases : ∀ b : Option TypeId,
          (b.bind fun b => (Descriptor.among (u.descriptors.map σ.descriptor) b).kind.layout?) =
            (b.bind fun b => (Descriptor.among u.descriptors b).kind.layout?).map σ.layout := by
        rintro (_ | b)
        · rfl
        · rw [Option.bind_some, Option.bind_some, among_descriptor]
          exact layout?_kind _
      refine ⟨own.map σ.field, tracked, ?_⟩
      rw [bases]
      exact (congrArg σ.layout extends').trans (layout_extend ..)
    | _ =>
      rw [hk] at kind
      cases kind

/-- Every type of the other universe is the image of that type. -/
lemma desc_types (u : Universe) (t : TypeId) :
    (σ.types u).desc t = σ.descriptor (u.desc t) :=
  among_descriptor u.descriptors t

/-- If no hook and no test of a check can tell the managers apart, then the types mirror each
other. -/
lemma mirrors_types {u : Universe}
    (hooks : ∀ t b, (u.desc t).behavior = some b → b.Mirrors σ (u.name t) b)
    (checks : ∀ t l f p, (u.desc t).kind = .struct l → f ∈ l.fields → f.check = some (.custom p) →
      ∀ h h' v, h.Mirrors σ h' → p h' (σ.value v) = p h v)
    (presets : ∀ t v, (u.desc t).canonical = some v → v.KnownTo σ)
    (served : ∀ t, σ.Knows (u.desc t).manager) : u.Mirrors σ (σ.types u) := by
  intro t
  rw [desc_types]
  exact
    { name := rfl
      kind := rfl
      canonical := rfl
      manager := rfl
      plain := id
      behavior := fun b hb => ⟨b, hb, hooks t b hb⟩
      checks := checks t
      preset := presets t
      served := served t }

end Substitution

end Metaobject
