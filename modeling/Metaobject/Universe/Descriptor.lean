import Metaobject.Hook

/-!
# Type descriptors

A descriptor says of a type what there is to know at run time. The layout of a struct lists its own
fields first and then every field of its base, so that nobody has to follow the chain of bases to
find a field; `extend` builds it from a base whose list is complete already.
-/

namespace Metaobject

/-- A field of a struct. -/
structure Field where
  name : String
  /-- Position in the layout. -/
  index : Nat
  /-- Size in bytes. -/
  size : Nat
  /-- Declared type. -/
  type : Option TypeId := none
  /-- A recursive duplication goes through the field's type. -/
  recurse : Bool := false
  /-- When a value counts as the field's default, if not when it is zero. -/
  check : Option DefaultCheck := none

/-- The fields of a struct type. -/
structure Layout where
  /-- The type's own fields, then those of its base. -/
  fields : List Field
  /-- How many of the fields are the type's own. -/
  own : Nat
  base : Option TypeId
  /-- Instances carry a tracker. -/
  tracked : Bool

namespace Layout

/-- Numbers fields by their position, the first one being `n`. -/
def numberedFrom (n : Nat) : List Field → List Field
  | [] => []
  | f :: fs => { f with index := n } :: numberedFrom (n + 1) fs

/-- The layout of a struct with fields of its own on top of a base. A base that is no struct
contributes nothing but itself. -/
def extend (own : List Field) (base : Option TypeId) (inherited : Option Layout) (tracked : Bool) :
    Layout where
  fields := numberedFrom 0 (own ++ inherited.elim [] (·.fields))
  own := own.length
  base
  tracked := tracked || inherited.any (·.tracked)

/-- Position of the first field with a name. -/
def indexOf? (l : Layout) (name : String) : Option Nat :=
  l.fields.findIdx? (·.name = name)

def fieldNamed? (l : Layout) (name : String) : Option Field :=
  l.fields.find? (·.name = name)

/-- Sum of the sizes of the fields. It is a byte count, and what does not fit is cut off. -/
def size (l : Layout) : Nat :=
  l.fields.foldl (fun n f => (n + f.size) % countLimit) 0

/-- The types that a layout refers to. -/
def mentions (l : Layout) : List TypeId :=
  l.base.toList ++ l.fields.filterMap (·.type)

theorem filterMap_type_numberedFrom (n : Nat) (fields : List Field) :
    (numberedFrom n fields).filterMap (·.type) = fields.filterMap (·.type) := by
  induction fields generalizing n with
  | nil => rfl
  | cons f fs ih => simp [numberedFrom, List.filterMap_cons, ih]

theorem mem_mentions_extend {own : List Field} {base : Option TypeId} {inherited : Option Layout}
    {tracked : Bool} {t : TypeId} (h : t ∈ (extend own base inherited tracked).mentions) :
    base = some t ∨ (∃ f ∈ own, f.type = some t) ∨ ∃ l, inherited = some l ∧ t ∈ l.mentions := by
  simp only [mentions, extend, filterMap_type_numberedFrom, List.filterMap_append, List.mem_append,
    Option.mem_toList, List.mem_filterMap] at h
  rcases h with h | h | h
  · exact .inl h
  · exact .inr (.inl h)
  · cases inherited with
    | none => simp at h
    | some l => exact .inr (.inr ⟨l, rfl, List.mem_append_right _ (List.mem_filterMap.2 h)⟩)

end Layout

/-- The shape of the values of a type. -/
inductive TypeKind where
  | scalar (kind : ScalarKind)
  | struct (layout : Layout)
  /-- Byte buffers of any length. -/
  | bytes
  | reference (kind : RefKind)
  /-- The type of types. -/
  | descriptor
  /-- Nothing is known of the inside, and there is no general construction. -/
  | blackBox (size : Nat)

namespace TypeKind

def layout? : TypeKind → Option Layout
  | struct l => some l
  | _ => none

/-- The tag that types of this kind go by. -/
def parity : TypeKind → String
  | scalar _ => "scalar"
  | struct _ => "struct"
  | bytes => "bytes"
  | reference k => k.name
  | descriptor => "type"
  | blackBox _ => "opaque"

end TypeKind

/-- What there is to know about a type. -/
structure Descriptor where
  name : String
  info : Option String := none
  /-- A tag for display. -/
  parity : String
  kind : TypeKind
  /-- Type of what a construction takes as its argument. -/
  argumentType : Option TypeId := none
  /-- The canonical default instance. -/
  canonical : Option Value := none
  /-- Default manager of values. -/
  manager : Option Manager := none
  behavior : Option Behavior := none
  user : Attachment := .absent

/-- A type about which nothing is known. -/
instance : Inhabited Descriptor where
  default := { name := "", parity := "opaque", kind := .blackBox 0 }

/-- The types that a descriptor is built on. -/
def Descriptor.mentions (d : Descriptor) : List TypeId :=
  d.kind.layout?.elim [] (·.mentions)

end Metaobject
