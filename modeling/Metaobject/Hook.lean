import Metaobject.Template

/-!
# Hooks

A type may decide some matters by itself: the size of its values, its place among other types, how
its values come, go and are copied, and how they compare. Every hook is optional, and most may
decline a single request; the general algorithm then applies. A hook may also ask for the general
algorithm for structs where a type would not get it by itself.

A hook decides by its answer alone. What it is shown it leaves as it is, be it a template, a value
to be freed or a value to be duplicated; it has no buffers tracked or released; and it remembers
nothing from one request to the next. Whatever is said of types with hooks is said of such hooks.
-/

namespace Metaobject

/-- What a comparer is bound to. -/
inductive Context where
  | none
  /-- A number of bytes. -/
  | length (n : Nat)
  /-- The type of operands that do not carry one. -/
  | ofType (type : TypeId)
  deriving DecidableEq, Repr, Inhabited

namespace Context

def length? : Context → Option Nat
  | length n => some n
  | _ => .none

def type? : Context → Option TypeId
  | ofType t => some t
  | _ => .none

end Context

/-- How a type compares its values. An absent operand is `invalid` under every rule but a custom
one. -/
inductive Rule where
  /-- The structural comparison, reflected. -/
  | inverted
  /-- The structural comparison, reduced to a "less than" test. -/
  | lessOnly
  /-- The structural comparison of the first fields of two objects. -/
  | firstField
  /-- Some function of the operands and of the buffers they refer to. -/
  | custom (f : Heap → Context → Option Value → Option Value → Verdict)

/-- A type's own comparer. -/
structure OwnComparer where
  context : Context := .none
  rule : Rule

/-- What a type has to say about a construction. -/
inductive ConstructAnswer where
  | decline
  | built (v : Value)
  | failed (e : BuildError)
  /-- Constructs field by field. -/
  | byLayout

/-- What a type has to say when a value is freed. -/
inductive FreeAnswer where
  | decline
  /-- The value stays as it is. -/
  | keep
  /-- The value is dropped. -/
  | clear
  /-- Frees field by field. -/
  | byLayout

/-- What a type has to say about a duplication. -/
inductive DuplicateAnswer where
  | decline
  | built (v : Value)
  | failed (e : BuildError)
  /-- Duplicates an object field by field; declines for other values. -/
  | byLayout (recursive : Bool)

/-- The hooks of a type. -/
structure Behavior where
  /-- Bytes that a value takes, or any value of the type. -/
  size : Option (Heap → Option Value → Option Nat) := none
  /-- A witness that the type is a subtype of another one, which is given with its name. -/
  subtype : Option ((self other : TypeId) → (name : String) → Option TypeId) := none
  /-- A witness that the type is a supertype of another one, which is given with its name. -/
  supertype : Option ((self other : TypeId) → (name : String) → Option TypeId) := none
  /-- Told the name of the type. -/
  construct : Option ((name : String) → Template → ConstructAnswer) := none
  free : Option (Value → FreeAnswer) := none
  /-- Told the name of the type. -/
  duplicate : Option ((name : String) → Value → (recursive : Bool) → DuplicateAnswer) := none
  comparer : Option OwnComparer := none

/-- When a value counts as the default of a field. -/
inductive DefaultCheck where
  /-- When it is structurally equal to another one. -/
  | equals (v : Value)
  /-- When it is structurally less than another one. -/
  | below (v : Value)
  /-- When some test of the value and of the buffers it refers to holds. -/
  | custom (f : Heap → Value → Bool)

/-- The value that a check holds. -/
def DefaultCheck.held : DefaultCheck → List Value
  | equals v | below v => [v]
  | custom _ => []

end Metaobject
