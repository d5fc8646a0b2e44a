import Metaobject.Comparison.Structural
import Metaobject.Lifecycle.Assembly

/-!
# Construction

`construct` makes a value of a type from a template. The initials have to be of exactly that type. A
struct is built field by field: a field is copied from the initials if the template insists on it or
if the initial is not the default of the field; else from the canonical instance of the type, where
that is not null; and else it is built from its own type. Copied buffers belong to the new object if
it has a tracker and are shared with the source otherwise; a copied object is constructed anew,
through its own type, with the source as its initials.

One manager serves the whole construction: that of the template, else that of the type, else that of
the process.

Nested constructions go down one level each, and there is a limit to the number of levels: the
canonical instance of a type can hold a value of that same type, and then there is no end to it.
-/

namespace Metaobject

/-- The field values of an object. -/
def Value.fields? : Value → Option (List Value)
  | .object _ fields _ => some fields
  | _ => none

namespace Universe

/-- The field is taken from the initial. -/
def prefersInitial (u : Universe) (h : Heap) (c : Template) (f : Field) (initial : Value) : Bool :=
  c.overrides f.index || !u.isDefault h f initial

/-- The manager that serves a construction. -/
def managerFor (u : Universe) (t : TypeId) (c : Template) : Action Manager :=
  match c.manager.or (u.desc t).manager with
  | some m => return m
  | none => Action.processManager

/-- The value that a field is copied from, if there is one. -/
def sourceOf (u : Universe) (h : Heap) (c : Template) (initials canonical : Option (List Value))
    (f : Field) : Option Value :=
  ((initials.bind (·[f.index]?)).filter (u.prefersInitial h c f)).or
    ((canonical.bind (·[f.index]?)).filter (!·.isNull))

/-- A copy of a value for a field of an object with the given tracker. -/
def copyInto (nested : TypeId → Template → Attempt Value) (m : Manager) (tracker : Option Tracker) :
    Value → Attempt (Value × Option Tracker)
  | .object type fields t => do
    let v := .object type fields t
    return (← nested type { manager := some m, initials := some v }, tracker)
  | .buffer ref =>
    match tracker with
    | some t => do
      let (v, t) ← t.adopt ref
      return (v, some t)
    | none => return (.buffer ref, none)
  | v => return (v, tracker)

/-- The value of a field that nothing is copied into. -/
def defaultFor (u : Universe) (nested : TypeId → Template → Attempt Value) (m : Manager)
    (f : Field) : Attempt Value :=
  match f.type with
  | none => return .null
  | some t =>
    if (u.layout? t).isSome then nested t { manager := some m }
    else return ((u.desc t).canonical.elim (u.zeroOf t) (·.rawCopy))

/-- Builds the remaining fields of an object. -/
def constructFields (u : Universe) (nested : TypeId → Template → Attempt Value) (t : TypeId)
    (c : Template) (m : Manager) (initials canonical : Option (List Value)) :
    List Field → List Value → Option Tracker → Attempt Value
  | [], built, tracker => return finish t built tracker
  | f :: fs, built, tracker => do
    let made : Attempt (Value × Option Tracker) :=
      match u.sourceOf (← get) c initials canonical f with
      | some v => copyInto nested m tracker v
      | none => return (← u.defaultFor nested m f, tracker)
    u.settle t f built tracker
      (Action.log (.fieldFailed (u.name t) f.name (tracker.elim 0 (·.buffers.length))))
      (fun built tracker => u.constructFields nested t c m initials canonical fs built tracker)
      (← made.outcome)

/-- The general construction of a struct. -/
def constructStruct (u : Universe) (nested : TypeId → Template → Attempt Value) (t : TypeId)
    (c : Template) : Attempt Value :=
  match u.layout? t with
  | none => Attempt.refuse (.notConstructible (u.name t))
  | some l => do
    let m ← u.managerFor t c
    let initials := c.initials?.bind (·.fields?)
    let canonical := (u.desc t).canonical.bind (·.fields?)
    match (initials.toList ++ canonical.toList).find? (·.length ≠ l.fields.length) with
    | some source => Attempt.refuse (.fieldCount l.fields.length source.length)
    | none =>
      u.constructFields nested t c m initials canonical l.fields []
        (if l.tracked then some { manager := some m } else none)

/-- Asks a type how to construct a value. -/
def consultConstruct (u : Universe) (t : TypeId) (c : Template) : Action ConstructAnswer :=
  match (u.desc t).behavior.bind (·.construct) with
  | none => return .decline
  | some hook => do
    Action.emit (.hook t .construct)
    return hook (u.name t) c

/-- Constructs a value, nested constructions being done by `nested`. -/
def constructWith (u : Universe) (nested : TypeId → Template → Attempt Value) (t : TypeId)
    (c : Template) : Attempt Value := do
  match c.initials?.filter (!u.isExact t ·) with
  | some v => Attempt.refuse (.initialsMismatch (u.name t) (u.typeName v))
  | none =>
    match ← u.consultConstruct t c with
    | .built v => return v
    | .failed e => Attempt.refuse e
    | .byLayout => u.constructStruct nested t c
    | .decline =>
      match (u.desc t).kind with
      | .struct _ => u.constructStruct nested t c
      | .blackBox _ => Attempt.refuse (.notConstructible (u.name t))
      | _ => return ((c.initials?.or (u.desc t).canonical).elim (u.zeroOf t) (·.rawCopy))

/-- Constructs a value, with at most `depth` levels of constructions. -/
def construct (u : Universe) : (depth : Nat) → TypeId → Template → Attempt Value
  | 0, _, _ => throw .tooDeep
  | depth + 1, t, c => do
    match ← (u.constructWith (u.construct depth) t c).outcome with
    | .ok v => return v
    | .error fault =>
      if let .refused e := fault then Action.log (.constructionFailed (u.name t) e)
      throw fault

/-- Constructs a value, and leaves the wording of a failure in the message of the template. -/
def constructReporting (u : Universe) (depth : Nat) (t : TypeId) (c : Template) :
    Action (Except Fault Value × Option Message) := do
  match ← (u.construct depth t c).run with
  | .error (.refused e) => return (.error (.refused e), c.message.map (·.set e.message))
  | r => return (r, c.message)

/-- Constructs a value where there is none yet. Tells what is there afterwards. -/
def constructAt (u : Universe) (depth : Nat) (t : TypeId) (target : Value) (c : Template) :
    Action (Value × Option Fault × Option Message) := do
  if target.isNull then
    match ← u.constructReporting depth t c with
    | (.ok v, message) => return (v.offHeap, none, message)
    | (.error fault, message) => return (target, some fault, message)
  else return (target, some (.violated (.targetOccupied (u.typeName target))), c.message)

end Universe

end Metaobject
