import Metaobject.Hook.Stock
import Metaobject.Session.Basic

/-!
# Steps on types

Types are declared from expressions: their default checks, canonical instances and hooks may hold
values, which are made when the type is declared and live as long as it does. If the declaration
fails, they are dropped.
-/

namespace Metaobject

/-- When a value counts as the default of a field. -/
inductive CheckExpr where
  | always
  | never
  | equals (e : Expr)
  | below (e : Expr)
  | emptyBuffer

/-- A field of a type to be declared. -/
structure FieldExpr where
  name : String
  /-- The declared type; without one the field takes `size` bytes. -/
  type : Option String := none
  size : Nat := 0
  recurse : Bool := false
  check : Option CheckExpr := none

/-- How a type constructs its values. -/
inductive ConstructExpr where
  /-- By raw copies of its constant; not at all without one. -/
  | const
  | stock (hook : ConstructHook)

/-- How a type compares its values. -/
inductive CompareExpr where
  | stock (c : OwnComparer)
  | firstField
  /-- Not at all, after all. -/
  | absent

/-- The hooks of a type to be declared. -/
structure BehaviorExpr where
  size : Option SizeHook := none
  subtypes : Option NamedSubtypes := none
  /-- The witness for the third list of subtypes. -/
  witness : Option String := none
  supertypes : Option (List String) := none
  /-- A value for the hooks. It is made even if none of them uses it. -/
  constant : Option Expr := none
  construct : Option ConstructExpr := none
  free : Option FreeAnswer := none
  duplicate : Option DuplicateHook := none
  compare : Option CompareExpr := none

/-- The shape of the values of a type to be declared. -/
inductive ShapeExpr where
  | scalar (kind : ScalarKind)
  /-- A scalar type as it is made when nothing else is said. -/
  | stockScalar (kind : ScalarKind)
  | struct (fields : List FieldExpr)
  | bytes
  | reference (kind : RefKind)
  | descriptor
  | blackBox (size : Nat)

/-- The type that a stock scalar type is made from. -/
def ShapeExpr.stock? : ShapeExpr → Option Universe.Declaration
  | stockScalar k => some (.scalar k)
  | _ => none

/-- A type to be declared under the name `id`. -/
structure TypeExpr where
  id : String
  name : String
  base : Option String := none
  tracked : Bool := false
  info : Option String := none
  parity : Option String := none
  manager : Option ManagerRef := none
  argumentType : Option String := none
  behavior : Option BehaviorExpr := none
  user : Attachment := .absent

namespace Step

/-- The check that an expression stands for. -/
def check : CheckExpr → Step DefaultCheck
  | .always => return .custom fun _ _ => true
  | .never => return .custom fun _ _ => false
  | .equals e => return .equals (← eval e)
  | .below e => return .below (← eval e)
  | .emptyBuffer => return .custom isEmptyBuffer

/-- The type of a name, if there is a name. -/
def typeNamed? : Option String → Step (Option TypeId)
  | none => return none
  | some name => return some (← typeNamed name)

/-- The value of an expression, if there is an expression. -/
def eval? : Option Expr → Step (Option Value)
  | none => return none
  | some e => return some (← eval e)

/-- The field that an expression stands for. -/
def fieldDecl (f : FieldExpr) : Step Universe.FieldDecl := do
  let check ← match f.check with
    | none => pure none
    | some c => some <$> check c
  let type ← typeNamed? f.type
  return {
    name := f.name, recurse := f.recurse, check
    shape := type.elim (.untyped f.size) .typed }

/-- Makes some fields; a failure drops what the checks made before hold. -/
def fieldDeclsOnto (made : List Universe.FieldDecl) :
    List FieldExpr → Step (List Universe.FieldDecl)
  | [] => return made
  | f :: fs => do
    let d ← orDropping (made.flatMap (·.held)) (fieldDecl f)
    fieldDeclsOnto (made ++ [d]) fs

/-- The fields of a struct, of which later ones may be like earlier ones. -/
def fieldDecls (fields : List FieldExpr) : Step (List Universe.FieldDecl) :=
  fieldDeclsOnto [] fields

/-- The hook that an expression stands for, with the constant of the type. -/
def constructHook (constant : Option Value) : ConstructExpr → ConstructHook
  | .const => constant.elim .pass .const
  | .stock hook => hook

/-- The hooks of the type that is made next. -/
def behavior (b : BehaviorExpr) (constant : Option Value) : Step Behavior := do
  let own := (← schema).size
  let witness ← typeNamed? b.witness
  return {
    size := b.size.map SizeHook.answer
    subtype := b.subtypes.map fun n => { n with witness := witness.getD 0 }.answer
    supertype := b.supertypes.map namedSupertypes
    construct := b.construct.map fun c => (constructHook constant c).answer
    free := b.free.map fun answer _ => answer
    duplicate := b.duplicate.map DuplicateHook.answer
    comparer := b.compare.bind fun
      | .stock c => some c
      | .firstField => some (.byFirstField own)
      | .absent => none }

/-- Makes the constant of a type to be declared. -/
def constant (e : TypeExpr) : Step (Option Value) :=
  eval? (e.behavior.bind (·.constant))

def declaration (e : TypeExpr) (shape : Universe.Shape) (constant : Option Value) :
    Step Universe.Declaration := do
  let behavior ← match e.behavior with
    | none => pure none
    | some b => some <$> behavior b constant
  return {
    name := e.name, info := e.info, parity := e.parity, shape, user := e.user, behavior
    manager := ← managerAt? e.manager
    argumentType := ← typeNamed? e.argumentType }

/-- The shape of the values of a type to be declared. -/
def shape (e : TypeExpr) : ShapeExpr → Step Universe.Shape
  | .scalar k | .stockScalar k => return .scalar k
  | .struct fields => do return .struct (← fieldDecls fields) (← typeNamed? e.base) e.tracked
  | .bytes => return .bytes
  | .reference k => return .reference k
  | .descriptor => return .descriptor
  | .blackBox n => return .blackBox n

/-- Gives a name to a type that was made. -/
def nameType (id : String) (made : TypeId × Universe) : Step Unit :=
  modify fun s => { s with schema := made.2, types := s.types.add id made.1 }

/-- Declares a struct type, with its canonical instance if field values for one are given. The
checks of the fields are made first, then the constant of the type and the field values. -/
def defineStruct (e : TypeExpr) (fields : List FieldExpr) (canonical : Option (List Expr)) :
    Step Unit := do
  let shape ← shape e (.struct fields)
  let u ← schema
  if let some b := ← typeNamed? e.base then
    if (u.layout? b).isNone then act (Action.log (.baseNotStruct e.name (u.name b)))
  let constant ← orDropping shape.held (constant e)
  orDropping (shape.held ++ constant.toList) do
    let values ← match canonical with
      | none => pure none
      | some es => some <$> evalAll es
    let d ← declaration e shape constant
    match ← require "type" (u.declareStruct (← heap) d values) with
    | .ok made => nameType e.id made
    | .error v => orDropping (values.getD []) (throw (.violation v))

/-- Declares a type of any kind. The checks of its fields are made first, then its canonical
instance and its constant. A stock type has a canonical instance already, and drops the one that is
given. -/
def defineType (e : TypeExpr) (s : ShapeExpr) (canonical : Option Expr) : Step Unit := do
  let shape ← shape e s
  let given ← orDropping shape.held (eval? canonical)
  let own ← match s.stock? with
    | none => pure given
    | some _ => do
      act (Value.dropAll given.toList)
      pure none
  let d ← declaration e shape (← orDropping (shape.held ++ own.toList) (constant e))
  let d : Universe.Declaration := match s.stock? with
    | none => { d with canonical := own }
    | some stock =>
      { d with name := stock.name, info := d.info.or stock.info, canonical := stock.canonical }
  nameType e.id (← require "type" ((← schema).declare (← heap) d))

/-- Sets the canonical instance of a type. It is dropped if the type has one. -/
def setCanonical (type : String) (e : Expr) : Step Bool := do
  let v ← eval e
  match (← schema).setCanonical (← typeNamed type) v with
  | some u =>
    modify fun s => { s with schema := u }
    return true
  | none =>
    act v.drop
    return false

/-- The descriptor of a type. -/
def descriptorOf (type : String) : Step Descriptor := do
  return (← schema).desc (← typeNamed type)

/-- The size of a type, or of one of its values. -/
def sizeOf (type : String) (value : Option Operand) : Step Nat :=
  withOperand? value fun value => do
    return (← schema).sizeOf (← heap) (← typeNamed type) (← value)

/-- The value is the default of the field of that index. -/
def isDefault (type : String) (index : Nat) (value : Operand) : Step Bool :=
  withValue value fun v => do return (← schema).isDefault (← heap) (← fieldAt type index) v

/-- What a type says of itself as a subtype of another one. -/
def subtype (a b : String) : Step (Option String) := do
  let w := (← schema).subtype? (← typeNamed a) (← typeNamed b)
  return typeNames (← get) w

/-- What a type says of itself as a supertype of another one. -/
def supertype (a b : String) : Step (Option String) := do
  let w := (← schema).supertype? (← typeNamed a) (← typeNamed b)
  return typeNames (← get) w

/-- Two names stand for one type. -/
def sameType (a b : String) : Step Bool := do
  return (← typeNamed a) = (← typeNamed b)

/-- A type accepts a value. -/
def accepts (type : String) (value : Operand) : Step Bool :=
  withValue value fun v => do return (← schema).accepts (← typeNamed type) v

/-- The type that a value carries, if it carries any. -/
def runtimeType (value : Operand) : Step (Option String) :=
  withValue value fun v => do return typeNames (← get) (Universe.carriedType? v)

/-- The all-zero value of a type. -/
def zero (type : String) (slot : Option String) : Step View := do
  deliver slot ((← schema).zeroOf (← typeNamed type))

/-- The value is a scalar of a kind. -/
def isOfKind (k : ScalarKind) (value : Operand) : Step Bool :=
  withValue value fun v => return v.scalarKind? = some k

/-! ### Registries -/

/-- The named registry, or the one that every session has. -/
def registryAt : Option String → Step Registry
  | none => return (← get).registry
  | some name => do require ("registry " ++ name) ((← get).registries.lookup name)

/-- Puts a registry where the one was that is referred to. -/
def putRegistry (r : Registry) : Option String → Step Unit
  | none => modify fun s => { s with registry := r }
  | some name => modify fun s => { s with registries := s.registries.put name r }

/-- Makes a registry, with the types that are always there or without them. -/
def defineRegistry (name : String) (builtins : Bool) : Step Nat := do
  let r : Registry := if builtins then .builtin else {}
  putRegistry r (some name)
  return r.size

/-- Registers a type under its name, and tells which one had the name. -/
def register (registry : Option String) (type : String) : Step (Option String) := do
  let r ← registryAt registry
  let (old, r) ← act (r.register (← schema) (← typeNamed type))
  putRegistry r registry
  return typeNames (← get) old

/-- Removes a name from a registry, and tells which type had it. -/
def unregister (registry : Option String) (name : String) : Step (Option String) := do
  let (old, r) := (← registryAt registry).remove name
  putRegistry r registry
  return typeNames (← get) old

/-- The type that has a name in a registry. -/
def registered (registry : Option String) (name : String) : Step (Option String) := do
  return typeNames (← get) ((← registryAt registry).get? name)

end Step

end Metaobject
