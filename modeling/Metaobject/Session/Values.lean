import Metaobject.Session.Basic

/-!
# Steps on values

Values are put into slots, read, written, constructed, freed and duplicated. What an operation
leaves in a slot stays there even when it ends in a failure; the result of a step that no slot keeps
is dropped once it was shown.
-/

namespace Metaobject

/-- A template to be made. -/
structure TemplateExpr where
  manager : Option ManagerRef := none
  initials : Option Operand := none
  overrideAt : Option (Nat → Bool) := none
  message : Option Message := none

namespace Step

variable {α : Type}

/-- The levels of constructions that a step may use. -/
def depth : Nat := 10000

/-- Puts a new value into a slot. -/
def put (slot : String) (e : Expr) : Step View := do
  deliver (some slot) (← eval e)

/-- Drops what a slot holds, if it holds anything. -/
def dropSlot (slot : String) : Step Unit := do
  let old := (← get).slots.lookup slot
  modify fun s => { s with slots := s.slots.erase slot }
  act (Value.dropAll old.toList)

/-- Shows a stored value. -/
def dump (p : Path) : Step View := do
  view (← valueAt p)

/-- What a value is like. -/
structure ValueInfo where
  null : Bool
  zero : Bool
  kind : Option ScalarKind
  typeName : String
  object : Bool
  buffer : Bool

/-- What a value is like, whatever it is. -/
def info (value : Operand) : Step ValueInfo :=
  withValue value fun v => do
    return {
      null := v.isNull, zero := v.isZero, kind := v.scalarKind?
      typeName := (← schema).typeName v, object := v.isObject, buffer := v.handle?.isSome }

/-! ### Named access -/

/-- Reads a named field. -/
def read (p : Path) (as : Universe.Reading) (name : String) : Step Universe.Content := do
  match (← schema).readField (← heap) as name (← valueAt p) with
  | .ok c => return c
  | .error e => throw (.access e)

/-- The value of a named field, if there is such a field. -/
def fieldValue (p : Path) (name : String) : Step (Option View) := do
  let s ← get
  return ((← schema).fieldValue? name (← valueAt p)).map (viewOf s)

/-- The bytes of a named field, if it is a buffer that is alive. -/
def fieldContents (p : Path) (name : String) : Step (Option Bytes) := do
  return ((← schema).fieldValue? name (← valueAt p)).bind (·.contents? (← heap))

/-- Writes a named field. The value is made before anything else is looked at. -/
def write (p : Path) (name : String) (e : Expr) : Step View := do
  let v ← eval e
  let (target, failure) ← act ((← schema).writeField name v (← valueAt p))
  overwrite p target
  if let some e := failure then throw (.access e)
  view target

/-- Writes a field by its index, without asking its type. -/
def writeAt (p : Path) (index : Nat) (e : Expr) : Step View := do
  let v ← eval e
  let target ← act (Universe.writeAt index v (← valueAt p))
  overwrite p target
  view target

/-- Writes bytes into a named field. The handle of the new buffer may be kept under a name. -/
def writeBytes (p : Path) (name : String) (bytes : Bytes) (handle : Option String) :
    Step View := do
  let (target, r) ← act ((← schema).writeBytes name bytes (← valueAt p))
  overwrite p target
  match r with
  | .error e => throw (.access e)
  | .ok ref =>
    modify fun s => { s with handles := handle.elim s.handles (s.handles.put · ref) }
    view target

/-! ### Construction, destruction, duplication -/

/-- Makes the temporary of a template, works with the template, and drops the temporary. -/
def withTemplate (e : TemplateExpr) (f : Step Template → Step α) : Step α :=
  withOperand? e.initials fun initials => f do
    return {
      manager := ← managerAt? e.manager, initials := ← initials
      overrideAt := e.overrideAt, message := e.message }

/-- Ends a step that built a value. -/
def finish (slot : Option String) (r : Except Fault Value) : Step View := do
  deliver slot (← result r)

/-- Ends a step that worked on a stored value. -/
def settleAt (p : Path) : Option Fault → Step View
  | some f => throw (complaint f)
  | none => dump p

/-- Constructs a value. Besides the outcome, tells the message that the construction left. -/
def construct (type : String) (e : TemplateExpr) (slot : Option String) :
    Step (Except Complaint View × Option Message) := do
  let (r, message) ← withTemplate e fun template => do
    act ((← schema).constructReporting depth (← typeNamed type) (← template))
  return (← outcome (finish slot r), message)

/-- Constructs a struct value without asking its type. Writes no message. -/
def constructStruct (type : String) (e : TemplateExpr) (slot : Option String) :
    Step (Except Complaint View × Option Message) := do
  let r ← withTemplate e fun template => do
    let u ← schema
    act (u.constructStruct (u.construct depth) (← typeNamed type) (← template)).run
  return (← outcome (finish slot r), e.message)

/-- Constructs a value where there is none yet. -/
def constructAt (type : String) (p : Path) (e : TemplateExpr) :
    Step (Except Complaint View × Option Message) := do
  let (fault, message) ← withTemplate e fun template => do
    let (target, r) ← act
      ((← schema).constructAt depth (← typeNamed type) (← valueAt p) (← template))
    overwrite p target
    return r
  return (← outcome (settleAt p fault), message)

/-- Whether a field is taken from an initial, and what the template says about it. -/
structure TakenView where
  takes : Bool
  overrides : Bool
  manager : Option String
  initials : Option String

/-- Whether a template has the initial of a field preferred to its default, and what it brings with
it. -/
def prefersInitial (type : String) (index : Nat) (value : Operand) (e : TemplateExpr) :
    Step TakenView :=
  withOperand value fun value => withTemplate e fun template => do
    let u ← schema
    let s ← get
    let f ← fieldAt type index
    let v ← value
    let c ← template
    return {
      takes := u.prefersInitial s.heap c f v, overrides := c.overrides index
      manager := c.manager.map (managerName s), initials := c.initials?.map u.typeName }

/-- Frees a stored value through a type. -/
def free (type : String) (p : Path) : Step View := do
  let (target, violation) ← act ((← schema).free (← typeNamed type) (← valueAt p))
  overwrite p target
  settleAt p (violation.map .violated)

/-- Frees a stored object without asking its type. -/
def freeStruct (p : Path) : Step View := do
  let (target, violation) ← act ((← schema).freeObject (← valueAt p))
  overwrite p target
  settleAt p (violation.map .violated)

/-- Duplicates a value through a type. -/
def duplicate (type : String) (source : Operand) (recursive : Bool) (slot : Option String) :
    Step View := do
  let r ← withValue source fun v => do
    act ((← schema).duplicate (← typeNamed type) recursive v).run
  finish slot r

/-- Duplicates an object without asking its type. -/
def duplicateStruct (source : Operand) (recursive : Bool) (slot : Option String) : Step View := do
  let r ← withValue source fun
    | .object type values tracker => do
      act ((← schema).duplicateObject type values tracker recursive).run
    | _ => senseless "object"
  finish slot r

/-- Duplicates a value over a stored one. The outcome is shown before the temporary is dropped. -/
def duplicateInto (type : String) (p : Path) (source : Operand) (recursive : Bool) : Step View :=
  withValue source fun v => do
    let (target, fault) ← act
      ((← schema).duplicateOver (← typeNamed type) (← valueAt p) v recursive)
    overwrite p target
    settleAt p fault

end Step

end Metaobject
