import Metaobject.Universe.Descriptor

/-!
# The universe of types

The descriptors that were made so far, in the order in which they were made; a type is its position.
A descriptor refers only to types that were there before it, and the layout of a struct extends the
layout of its base: both are part of the universe, so every recursion along declared types ends. A
descriptor never changes, but for its canonical instance, which may be set once.

`declare` makes a new type. The universe begins with the types of `builtin`: the scalars in the
order of their indexes, and then bytes, the two kinds of references, the type of types, and the type
of templates.
-/

namespace Metaobject

/-- The descriptor of a type. Of what is no type, nothing is known. -/
def Descriptor.among (ds : Array Descriptor) (t : TypeId) : Descriptor :=
  ds[t]?.getD default

namespace Descriptor

/-- The types of before are described as they were. -/
theorem among_push_lt {ds : Array Descriptor} {d : Descriptor} {t : TypeId} (h : t < ds.size) :
    among (ds.push d) t = among ds t := by
  simp [among, Array.getElem?_push_lt h, h]

/-- The new type is described by the new descriptor. -/
theorem among_push_eq {ds : Array Descriptor} {d : Descriptor} {t : TypeId} (h : t = ds.size) :
    among (ds.push d) t = d := by
  simp [among, h]

/-- Of what is no type yet nothing is known. -/
theorem among_push_gt {ds : Array Descriptor} {d : Descriptor} {t : TypeId} (h : ds.size < t) :
    among (ds.push d) t = default := by
  rw [among, Array.getElem?_eq_none (by simp; omega), Option.getD_none]

/-- A canonical instance does not change the kind of any type. -/
theorem kind_among_setCanonical (ds : Array Descriptor) (t s : TypeId) (v : Value) :
    (among (ds.modify t fun d => { d with canonical := some v }) s).kind = (among ds s).kind := by
  rw [among, among, Array.getElem?_modify]
  split
  · cases ds[s]? <;> rfl
  · rfl

end Descriptor

/-- The types made so far. -/
structure Universe where
  descriptors : Array Descriptor
  /-- A type is built on earlier types only. -/
  earlier : ∀ t : TypeId, ∀ r ∈ (Descriptor.among descriptors t).mentions, r < t
  /-- The layout of a struct extends that of its base. -/
  layered : ∀ (t : TypeId) (l : Layout), (Descriptor.among descriptors t).kind = .struct l →
    ∃ own tracked, l = .extend own l.base
      (l.base.bind fun b => (Descriptor.among descriptors b).kind.layout?) tracked

namespace Universe

/-- What is known of a type. -/
def desc (u : Universe) (t : TypeId) : Descriptor :=
  Descriptor.among u.descriptors t

/-- The number of types made so far. -/
def size (u : Universe) : Nat :=
  u.descriptors.size

/-- The name that a type has for itself. -/
def name (u : Universe) (t : TypeId) : String :=
  (u.desc t).name

/-- The layout of a struct type. -/
def layout? (u : Universe) (t : TypeId) : Option Layout :=
  (u.desc t).kind.layout?

/-- The base of a struct type. -/
def base? (u : Universe) (t : TypeId) : Option TypeId :=
  (u.layout? t).bind (·.base)

/-- A type mentions earlier types only. -/
theorem mentions_lt (u : Universe) {t r : TypeId} (h : r ∈ (u.desc t).mentions) : r < t :=
  u.earlier t r h

/-- The base of a type is an earlier one. -/
theorem base_lt (u : Universe) {t b : TypeId} (h : u.base? t = some b) : b < t := by
  obtain ⟨l, hl, hb⟩ := Option.bind_eq_some_iff.1 h
  refine u.mentions_lt ?_
  have hl' : (u.desc t).kind.layout? = some l := hl
  simp [Descriptor.mentions, hl', Layout.mentions, hb]

/-- So is the type of a field. -/
theorem fieldType_lt (u : Universe) {t r : TypeId} {l : Layout} {f : Field}
    (h : (u.desc t).kind = .struct l) (hf : f ∈ l.fields) (hr : f.type = some r) : r < t := by
  refine u.mentions_lt ?_
  simp only [Descriptor.mentions, h, TypeKind.layout?, Option.elim_some, Layout.mentions]
  exact List.mem_append_right _ (List.mem_filterMap.2 ⟨f, hf, hr⟩)

/-- Bytes that a value takes; a type of no fixed width takes none without a value. -/
def sizeOf (u : Universe) (h : Heap) (t : TypeId) (v : Option Value) : Nat :=
  let d := u.desc t
  match d.behavior.bind (·.size) |>.bind (· h v) with
  | some n => n
  | none =>
    match d.kind with
    | .scalar k => k.size
    | .struct l => l.size
    | .bytes => ((v.bind (·.contents? h)).map (·.length)).getD 0
    | .reference _ | .descriptor => 8
    | .blackBox n => n

/-! ### Making types -/

/-- Adds a descriptor. -/
def add (u : Universe) (d : Descriptor) (earlier : ∀ r ∈ d.mentions, r < u.size)
    (layered : ∀ l, d.kind = .struct l → ∃ own tracked, l = .extend own l.base
      (l.base.bind u.layout?) tracked) : Universe where
  descriptors := u.descriptors.push d
  earlier t r h := by
    rcases Nat.lt_trichotomy t u.size with ht | rfl | ht
    · rw [Descriptor.among_push_lt ht] at h
      exact u.earlier t r h
    · rw [Descriptor.among_push_eq (t := u.size) rfl] at h
      exact earlier r h
    · rw [Descriptor.among_push_gt ht] at h
      simp [Descriptor.mentions, default, TypeKind.layout?] at h
  layered t l h := by
    rcases Nat.lt_trichotomy t u.size with ht | rfl | ht
    · rw [Descriptor.among_push_lt ht] at h
      obtain ⟨own, tracked, hl⟩ := u.layered t l h
      refine ⟨own, tracked, hl.trans ?_⟩
      cases hb : l.base with
      | none => rfl
      | some b =>
        have hlt : b < t := u.base_lt (by simp [base?, layout?, desc, h, TypeKind.layout?, hb])
        simp [Descriptor.among_push_lt (Nat.lt_trans hlt ht)]
    · rw [Descriptor.among_push_eq (t := u.size) rfl] at h
      obtain ⟨own, tracked, hl⟩ := layered l h
      refine ⟨own, tracked, hl.trans ?_⟩
      cases hb : l.base with
      | none => rfl
      | some b =>
        have hlt : b < u.size := earlier b (by
          simp [Descriptor.mentions, h, TypeKind.layout?, Layout.mentions, hb])
        simp [Descriptor.among_push_lt hlt, layout?, desc]
    · rw [Descriptor.among_push_gt ht] at h
      simp [default] at h

/-- Sets the canonical instance of a type, unless it has one. -/
def setCanonical (u : Universe) (t : TypeId) (v : Value) : Option Universe :=
  if (u.desc t).canonical.isSome then none
  else some
    { descriptors := u.descriptors.modify t fun d => { d with canonical := some v }
      earlier := fun s r h => u.earlier s r (by
        simpa [Descriptor.mentions, Descriptor.kind_among_setCanonical] using h)
      layered := fun s l h => by
        simp only [Descriptor.kind_among_setCanonical] at h ⊢
        exact u.layered s l h }

/-- What kind of values a new field holds. -/
inductive FieldShape where
  | typed (type : TypeId)
  | untyped (size : Nat)

/-- A field of a type to be made. -/
structure FieldDecl where
  name : String
  shape : FieldShape
  recurse : Bool := false
  check : Option DefaultCheck := none

/-- The shape of the values of a type to be made. -/
inductive Shape where
  | scalar (kind : ScalarKind)
  | struct (own : List FieldDecl) (base : Option TypeId) (tracked : Bool)
  | bytes
  | reference (kind : RefKind)
  | descriptor
  | blackBox (size : Nat)

/-- A type to be made. Without a tag of its own it goes by that of its kind. -/
structure Declaration where
  name : String
  shape : Shape
  info : Option String := none
  parity : Option String := none
  argumentType : Option TypeId := none
  canonical : Option Value := none
  manager : Option Manager := none
  behavior : Option Behavior := none
  user : Attachment := .absent

/-- The type that a field is declared with, if any. -/
def FieldDecl.mentions (f : FieldDecl) : Option TypeId :=
  match f.shape with
  | .typed t => some t
  | .untyped _ => none

/-- The types that a shape refers to. -/
def Shape.mentions : Shape → List TypeId
  | .struct own base _ => base.toList ++ own.filterMap (·.mentions)
  | _ => []

/-- The value that the check of a field holds. -/
def FieldDecl.held (f : FieldDecl) : List Value :=
  f.check.elim [] (·.held)

/-- The values that the checks of a type to be made hold. -/
def Shape.held : Shape → List Value
  | .struct own _ _ => own.flatMap (·.held)
  | _ => []

/-- A typed field takes as much room as any value of its type. -/
def field (u : Universe) (h : Heap) (f : FieldDecl) : Field where
  name := f.name
  index := 0
  size := match f.shape with
    | .typed t => u.sizeOf h t none
    | .untyped n => n
  type := f.mentions
  recurse := f.recurse
  check := f.check

/-- The kind of a type to be made. A struct extends the layout of its base, if that has one. -/
def kindOf (u : Universe) (h : Heap) : Shape → TypeKind
  | .scalar k => .scalar k
  | .struct own base tracked =>
    .struct (.extend (own.map (u.field h)) base (base.bind u.layout?) tracked)
  | .bytes => .bytes
  | .reference k => .reference k
  | .descriptor => .descriptor
  | .blackBox n => .blackBox n

/-- The descriptor of a type to be made. -/
def describe (u : Universe) (h : Heap) (d : Declaration) : Descriptor :=
  let kind := u.kindOf h d.shape
  { d with kind, parity := d.parity.getD kind.parity }

/-- A description of earlier types mentions no others. -/
theorem describe_earlier (u : Universe) (h : Heap) (d : Declaration)
    (hm : ∀ r ∈ d.shape.mentions, r < u.size) : ∀ r ∈ (u.describe h d).mentions, r < u.size := by
  intro r hr
  cases hs : d.shape with
  | struct own base tracked =>
    simp only [Descriptor.mentions, describe, hs, kindOf, TypeKind.layout?, Option.elim_some] at hr
    simp only [hs, Shape.mentions, List.mem_append, Option.mem_toList, List.mem_filterMap] at hm
    rcases Layout.mem_mentions_extend hr with hb | ⟨f, hf, ht⟩ | ⟨l, hl, hrl⟩
    · exact hm r (.inl hb)
    · obtain ⟨g, hg, rfl⟩ := List.mem_map.1 hf
      exact hm r (.inr ⟨g, hg, ht⟩)
    · obtain ⟨b, rfl, hl⟩ := Option.bind_eq_some_iff.1 hl
      have hl' : (u.desc b).kind.layout? = some l := hl
      have : r < b := u.mentions_lt (by simpa [Descriptor.mentions, hl'] using hrl)
      exact Nat.lt_trans this (hm b (.inl rfl))
  | _ => simp [Descriptor.mentions, describe, hs, kindOf, TypeKind.layout?] at hr

/-- The layout in a description extends that of the base. -/
theorem describe_layered (u : Universe) (h : Heap) (d : Declaration) (l : Layout)
    (hl : (u.describe h d).kind = .struct l) :
    ∃ own tracked, l = .extend own l.base (l.base.bind u.layout?) tracked := by
  cases hs : d.shape with
  | struct own base tracked =>
    simp only [describe, hs, kindOf, TypeKind.struct.injEq] at hl
    exact ⟨own.map (u.field h), tracked, by subst hl; rfl⟩
  | _ => simp [describe, hs, kindOf] at hl

/-- Makes a type. It can only be built on types that are there. -/
def declare (u : Universe) (h : Heap) (d : Declaration) : Option (TypeId × Universe) :=
  if hm : ∀ r ∈ d.shape.mentions, r < u.size then
    some (u.size, u.add (u.describe h d) (u.describe_earlier h d hm) (u.describe_layered h d))
  else none

/-- A scalar type under the name of its kind, with zero as its canonical instance. -/
def Declaration.scalar (k : ScalarKind) : Declaration where
  name := k.name
  shape := .scalar k
  info := some k.info
  canonical := some (.scalar k.zero)

/-! ### The types that are always there -/

/-- Bytes that a template takes. -/
def templateSize : Nat := 120

/-- The descriptors of the types that are always there. -/
def builtinDescriptors : List Descriptor :=
  ScalarKind.all.map (fun k =>
    { name := k.name, info := some k.info, parity := "scalar", kind := .scalar k
      canonical := some (.scalar k.zero) }) ++
  [{ name := "bytes", info := some "variable-width byte buffer", parity := "bytes",
      kind := .bytes },
    { name := "object_ref", info := some "object identity", parity := "object_ref"
      kind := .reference .object, canonical := some (.reference .object 0) },
    { name := "function_ref", info := some "function identity", parity := "function_ref"
      kind := .reference .function, canonical := some (.reference .function 0) },
    { name := "type", info := some "type of type descriptors", parity := "type"
      kind := .descriptor },
    { name := "template_cons", info := some "generic template constructor", parity := "opaque"
      kind := .blackBox templateSize }]

/-- No type that is always there has a layout. -/
theorem layout?_of_mem_builtinDescriptors {d : Descriptor} (h : d ∈ builtinDescriptors) :
    d.kind.layout? = none := by
  rcases List.mem_append.1 h with h | h
  · obtain ⟨k, _, rfl⟩ := List.mem_map.1 h
    rfl
  · simp only [List.mem_cons, List.not_mem_nil, or_false] at h
    rcases h with rfl | rfl | rfl | rfl | rfl <;> rfl

/-- So none of them is a struct, wherever it is. -/
theorem layout?_builtin (t : TypeId) :
    (Descriptor.among builtinDescriptors.toArray t).kind.layout? = none := by
  unfold Descriptor.among
  cases h : builtinDescriptors.toArray[t]? with
  | none => rfl
  | some d => exact layout?_of_mem_builtinDescriptors (by simpa using Array.mem_of_getElem? h)

/-- The types that are always there. -/
def builtin : Universe where
  descriptors := builtinDescriptors.toArray
  earlier t r h := by simp [Descriptor.mentions, layout?_builtin] at h
  layered t l h := by simpa [h, TypeKind.layout?] using layout?_builtin t

/-- The type of types. -/
def typeOfTypes : TypeId := 17

/-- The type of templates. -/
def typeOfTemplates : TypeId := 18

end Universe

end Metaobject
