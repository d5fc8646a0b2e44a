import Metaobject.Lifecycle.Access
import Metaobject.Lifecycle.Construction
import Metaobject.Lifecycle.Duplication
import Metaobject.Registry

/-!
# Sessions

A session gives names to managers, blocks, buffer handles, trackers, types, values and registries,
and runs one step after the other on them. A value stands in a slot; a path leads from a slot into
the fields of objects. A step takes its operands as expressions: a stored value is only referred to,
any other expression makes a temporary value. Temporaries are made before stored operands are looked
up, live as long as something is done with them, and are dropped in the reverse order of their
making, also when the step fails.

What a step shows of its results is a view: the value with the contents of its buffers, and with
names instead of identities. A value that a step built is shown when the temporaries are gone, and
stored or dropped after that.
-/

namespace Metaobject

/-- Things under their names, the first one first. -/
abbrev Names (α : Type) := List (String × α)

namespace Names

variable {α : Type}

/-- Gives a name to a thing; a name that is in use keeps its place. -/
def put (names : Names α) (name : String) (a : α) : Names α :=
  match names with
  | [] => [(name, a)]
  | (n, b) :: rest => if n = name then (n, a) :: rest else (n, b) :: put rest name a

/-- Takes all things that have the name away. -/
def erase (names : Names α) (name : String) : Names α :=
  names.filter (·.1 ≠ name)

/-- Gives a name to a thing; a thing that has it already keeps it, but is no longer found under
it. -/
def add (names : Names α) (name : String) (a : α) : Names α :=
  names ++ [(name, a)]

/-- The thing that was given a name last. -/
def latest? (names : Names α) (name : String) : Option α :=
  (names.reverse.find? (·.1 = name)).map (·.2)

/-- The first name of a thing that passes a test. -/
def nameOf? (names : Names α) (p : α → Bool) : Option String :=
  (names.find? (p ·.2)).map (·.1)

end Names

/-- A slot, and the indexes of the fields to descend into. -/
structure Path where
  slot : String
  indexes : List Nat := []

namespace Value

/-- The value at the end of a path of field indexes. -/
def at? : List Nat → Value → Option Value
  | [], v => some v
  | i :: is, .object _ fields _ => (fields[i]?).bind (at? is)
  | _ :: _, _ => none

/-- Puts a value at the end of a path of field indexes. What was there is overwritten. -/
def putAt (w : Value) : List Nat → Value → Value
  | [], _ => w
  | i :: is, .object type fields tracker => .object type (fields.modify i (putAt w is)) tracker
  | _ :: _, v => v

end Value

/-- How the value of a step is made. -/
inductive Expr where
  | null
  | scalar (s : Scalar)
  | reference (kind : RefKind) (address : UInt64)
  | descriptor (type : String)
  /-- An object with the given field values. -/
  | object (type : String) (fields : List Expr)
  /-- A new buffer that lives as long as the session. -/
  | bytes (contents : Bytes)
  /-- A handle that was given a name. -/
  | handle (name : String)
  | dangling
  /-- A raw copy of a stored value. -/
  | copy (path : Path)
  /-- A stored value, moved out. Null stays behind. -/
  | take (path : Path)
  /-- The all-zero value of a type. -/
  | zero (type : String)
  deriving Inhabited

/-- What a step works on. -/
inductive Operand where
  /-- A stored value, which stays where it is. -/
  | stored (path : Path)
  /-- A value of the step's own. -/
  | fresh (e : Expr)

/-- Which manager a step means. -/
inductive ManagerRef where
  | system
  | named (name : String)

/-- Which tracker a step means. -/
inductive TrackerRef where
  | named (name : String)
  /-- The tracker of a stored object. -/
  | embedded (path : Path)

/-- What a tracker looks like from outside. -/
structure TrackerView where
  manager : Option String
  onHeap : Bool
  count : Nat
  capacity : Nat
  pending : Bool

/-- What a value looks like from outside. -/
inductive View where
  | null
  | scalar (s : Scalar)
  /-- Without contents when the buffer is no longer alive. -/
  | buffer (ref : Handle) (contents : Option Bytes)
  | object (type : String) (fields : List View) (tracker : Option TrackerView)
  | reference (kind : RefKind) (address : UInt64)
  | descriptor (type : String)
  deriving Inhabited

/-- Why a step did not come to its result. -/
inductive Complaint where
  | build (e : BuildError)
  | access (e : AccessError)
  | violation (v : Violation)
  | tooDeep
  /-- The step does not make sense: it names what is not there. -/
  | senseless (what : String)

/-- Named things, and the state they live in. -/
structure Session where
  heap : Heap := {}
  schema : Universe := .builtin
  managers : Names Manager := []
  /-- Under which name each allocator was set up. -/
  arenaNames : Array String := #[]
  types : Names TypeId := Registry.builtin.entries
  blocks : Names Block := []
  handles : Names Handle := []
  trackers : Names Tracker := []
  slots : Names Value := []
  registries : Names Registry := []
  /-- The registry that every session has. -/
  registry : Registry := .builtin
  /-- Owner of the buffers that live as long as the session. -/
  pool : Tracker := {}

/-- A step of a session. What it did stays done when it ends in a complaint. -/
abbrev Step := ExceptT Complaint (StateM Session)

namespace Step

variable {α : Type}

/-- The step asks for something that is not there. -/
def senseless (what : String) : Step α :=
  throw (.senseless what)

/-- What has to be there. -/
def require (what : String) : Option α → Step α
  | some a => return a
  | none => senseless what

/-- Runs an action on the heap. -/
def act (a : Action α) : Step α :=
  modifyGet fun s =>
    let (r, heap) := a.run s.heap
    (r, { s with heap })

/-- What is said about a fault. -/
def complaint : Fault → Complaint
  | .refused e => .build e
  | .violated v => .violation v
  | .tooDeep => .tooDeep

/-- The result of an attempt, or its fault as a complaint. -/
def result : Except Fault α → Step α
  | .ok a => return a
  | .error fault => throw (complaint fault)

/-- Runs a step to its end, whatever that is. -/
def outcome (a : Step α) : Step (Except Complaint α) :=
  ExceptT.lift a.run

/-- The types made so far. -/
def schema : Step Universe :=
  return (← get).schema

/-- The heap as it is now. -/
def heap : Step Heap :=
  return (← get).heap

/-! ### Names -/

/-- The type that was given a name last. -/
def typeNamed (name : String) : Step TypeId := do
  require ("type " ++ name) ((← get).types.latest? name)

/-- The first name of a type. -/
def typeName (s : Session) (t : TypeId) : String :=
  (s.types.nameOf? (· = t)).getD ""

/-- The name of a type, if there is one. -/
def typeNames (s : Session) : Option TypeId → Option String :=
  Option.map (typeName s)

/-- The layout of a type, if it is a struct. -/
def layoutOf (type : String) : Step (Option Layout) := do
  return (← schema).layout? (← typeNamed type)

/-- The field of that index in a struct type. -/
def fieldAt (type : String) (index : Nat) : Step Field := do
  require ("field of " ++ type) ((← layoutOf type).bind (·.fields[index]?))

/-- The manager that is meant. -/
def managerAt : ManagerRef → Step Manager
  | .system => return .system
  | .named name => do require ("manager " ++ name) ((← get).managers.latest? name)

/-- The manager that is meant, if one is. -/
def managerAt? : Option ManagerRef → Step (Option Manager)
  | none => return none
  | some r => return some (← managerAt r)

/-- The word for a manager: that of the system, or the first name of a manager that is the same. -/
def managerName (s : Session) (m : Manager) : String :=
  if m.sameAs .system then "system" else (s.managers.nameOf? (·.sameAs m)).getD ""

/-! ### Views -/

/-- A tracker as it looks from outside. -/
def viewTracker (s : Session) (t : Tracker) : TrackerView where
  manager := t.manager.map (managerName s)
  onHeap := t.onHeap
  count := t.buffers.length
  capacity := t.capacity
  pending := t.setup.isSome

mutual

/-- A value as it looks from outside. -/
def viewOf (s : Session) : Value → View
  | .null => .null
  | .scalar v => .scalar v
  | .buffer ref => .buffer ref (s.heap.read ref)
  | .object type fields tracker =>
    .object (typeName s type) (viewsOf s fields) (tracker.map (viewTracker s))
  | .reference k a => .reference k a
  | .descriptor t => .descriptor (typeName s t)

/-- The same for the values of an object. -/
def viewsOf (s : Session) : List Value → List View
  | [] => []
  | v :: vs => viewOf s v :: viewsOf s vs

end

/-- A value as it looks from outside now. -/
def view (v : Value) : Step View :=
  return viewOf (← get) v

/-! ### Stored values -/

/-- The stored value at the end of a path. -/
def valueAt (p : Path) : Step Value := do
  require ("value " ++ p.slot) (((← get).slots.lookup p.slot).bind (·.at? p.indexes))

/-- Overwrites a stored value. -/
def overwrite (p : Path) (v : Value) : Step Unit :=
  modify fun s =>
    { s with slots := s.slots.map fun (n, w) => (n, if n = p.slot then v.putAt p.indexes w else w) }

/-- Stores a value in a slot and drops what the slot held. -/
def store (slot : String) (v : Value) : Step Unit := do
  let old := (← get).slots.lookup slot
  modify fun s => { s with slots := s.slots.put slot v }
  act (Value.dropAll old.toList)

/-- Shows the result of a step, and then stores it in a slot or drops it. -/
def deliver (slot : Option String) (v : Value) : Step View := do
  let shown ← view v
  match slot with
  | some slot => store slot v
  | none => act v.drop
  return shown

/-! ### Clearing up -/

/-- Drops some values after a step, whether or not it came to its result. -/
def dropping (values : List Value) (a : Step α) : Step α := do
  let r ← outcome a
  act (Value.dropAll values)
  match r with
  | .ok v => return v
  | .error c => throw c

/-- Drops some values after a step that did not come to its result. -/
def orDropping (values : List Value) (a : Step α) : Step α := do
  match ← outcome a with
  | .ok v => return v
  | .error c =>
    act (Value.dropAll values)
    throw c

/-! ### Expressions -/

mutual

/-- Makes the value of an expression. -/
def eval : Expr → Step Value
  | .null => return .null
  | .scalar v => return .scalar v
  | .reference k a => return .reference k a
  | .descriptor type => return .descriptor (← typeNamed type)
  | .object type fields => do
    let values ← evalOnto [] fields
    orDropping values do
      match (← schema).instantiate (← typeNamed type) values with
      | .ok v => return v
      | .error e => throw (.build e)
  | .bytes contents => do
    let s ← get
    let (ref, pool) ← act (s.pool.allocateCopy contents)
    modify fun s => { s with pool }
    return .buffer (← require "buffer" ref)
  | .handle name => return .buffer (← require ("buffer " ++ name) ((← get).handles.lookup name))
  | .dangling => return .buffer .dangling
  | .copy p => return (← valueAt p).rawCopy
  | .take p => do
    let v ← valueAt p
    overwrite p .null
    return v
  | .zero type => return (← schema).zeroOf (← typeNamed type)

/-- Makes the values of some expressions; a failure drops those that were made before. -/
def evalOnto (made : List Value) : List Expr → Step (List Value)
  | [] => return made
  | e :: es => do
    let v ← orDropping made (eval e)
    evalOnto (made ++ [v]) es

end

/-- The values of several expressions, the first one first. -/
def evalAll (es : List Expr) : Step (List Value) :=
  evalOnto [] es

/-- Makes the temporary of an operand, works on the operand, and drops the temporary. A stored value
is looked up when the work asks for it. -/
def withOperand (o : Operand) (f : Step Value → Step α) : Step α :=
  match o with
  | .stored p => f (valueAt p)
  | .fresh e => do
    let v ← eval e
    dropping [v] (f (return v))

/-- Works on an operand that may be absent. -/
def withOperand? (o : Option Operand) (f : Step (Option Value) → Step α) : Step α :=
  match o with
  | none => f (return none)
  | some o => withOperand o fun value => f (some <$> value)

/-- Works on the value of the only operand of a step. -/
def withValue (o : Operand) (f : Value → Step α) : Step α :=
  withOperand o fun value => do f (← value)

/-- A handle as the value of an expression. -/
def handleOf (e : Expr) : Step Handle := do
  require "buffer" (← eval e).handle?

end Step

end Metaobject
