import Metaobject.Comparison.Operands
import Metaobject.Lifecycle.Construction

/-!
# Hooks off the shelf

Hooks that serve many types: sizes that depend on a value, subtype relations given by name,
constructions that always answer the same, and comparers.
-/

namespace Metaobject

/-- Ways to tell the size of a value. -/
inductive SizeHook where
  /-- Always the same. -/
  | fixed (n : Nat)
  /-- The length of a buffer that is alive, and some bytes more. -/
  | bufferPlus (n : Nat)
  /-- So many bytes for each field of an object. -/
  | perField (n : Nat)

def SizeHook.answer : SizeHook → Heap → Option Value → Option Nat
  | fixed n, _, _ => some n
  | bufferPlus n, h, v => (v.bind (·.contents? h)).map (·.length + n)
  | perField n, _, v => (v.bind (·.fields?)).map (·.length * n)

/-- Subtypes by name. The first list that has the name decides. -/
structure NamedSubtypes where
  /-- The other type itself is the witness. -/
  other : List String := []
  /-- A third type is the witness. -/
  third : List String := []
  witness : TypeId := 0
  /-- The type is a witness for itself. -/
  self : List String := []

def NamedSubtypes.answer (n : NamedSubtypes) (t other : TypeId) (name : String) : Option TypeId :=
  if name ∈ n.other then some other
  else if name ∈ n.third then some n.witness
  else if name ∈ n.self then some t
  else none

/-- A type is its own witness that it is a supertype of the named types, or of every type if none is
named. -/
def namedSupertypes (names : List String) (t _other : TypeId) (name : String) : Option TypeId :=
  if names.isEmpty || name ∈ names then some t else none

/-- Ways to construct a value. -/
inductive ConstructHook where
  /-- Twice a 64-bit initial, or twice one; what does not fit is cut off. -/
  | double
  | notConstructible
  | outOfMemory (requested : Nat)
  /-- A raw copy of some value. -/
  | const (v : Value)
  | null
  | byLayout
  /-- A raw copy of the initials; declines without them. -/
  | initialsOnly
  | pass

def ConstructHook.answer (hook : ConstructHook) (name : String) (c : Template) : ConstructAnswer :=
  match hook with
  | double =>
    match c.initials? with
    | some (.scalar (.int .i64 w)) => .built (.scalar (.int .i64 (w * 2)))
    | _ => .built (.scalar (.int .i64 2))
  | notConstructible => .failed (.notConstructible name)
  | outOfMemory requested => .failed (.outOfMemory requested)
  | const v => .built v.rawCopy
  | null => .built .null
  | byLayout => .byLayout
  | initialsOnly => c.initials?.elim .decline fun v => .built v.rawCopy
  | pass => .decline

/-- Ways to duplicate a value. -/
inductive DuplicateHook where
  | deep
  | flat
  | fail
  | released
  | null
  | pass

def DuplicateHook.answer (hook : DuplicateHook) (name : String) (_v : Value) (_recursive : Bool) :
    DuplicateAnswer :=
  match hook with
  | deep => .byLayout true
  | flat => .byLayout false
  | fail => .failed (.notConstructible name)
  | released => .failed .releasedBuffer
  | null => .built .null
  | pass => .decline

namespace OwnComparer

/-- The structural comparison, reflected. -/
def descending : OwnComparer where
  rule := .inverted

/-- Finds everything equal. -/
def allEqual : OwnComparer where
  rule := .custom fun _ _ _ _ => .equal

/-- Finds nothing comparable. -/
def noneComparable : OwnComparer where
  rule := .custom fun _ _ _ _ => .invalid

/-- Only tells what is less. -/
def lossy : OwnComparer where
  rule := .lessOnly

/-- Compares objects of a type by their first fields. -/
def byFirstField (t : TypeId) : OwnComparer where
  context := .ofType t
  rule := .firstField

/-- Compares the first `n` bytes of two buffers. -/
def byFirstBytes (n : Nat) : OwnComparer where
  context := .length n
  rule := .custom fun h c x y =>
    Bytes.Mode.range.compare c (x.bind (·.contents? h)) (y.bind (·.contents? h))

end OwnComparer

/-- A buffer that is alive and holds nothing. -/
def isEmptyBuffer (h : Heap) (v : Value) : Bool :=
  (v.contents? h).any (·.isEmpty)

end Metaobject
