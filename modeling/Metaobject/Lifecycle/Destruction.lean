import Metaobject.Universe.Typing

/-!
# Destruction

`free` gives back what a value acquired. An object is freed through its own type, whatever type the
caller names: field by field, in order, and then its tracker is released. Objects in fields are
always freed; another value in a field only if the field says so, through the declared type. A value
that lives on the heap is null afterwards, any other one keeps its place and can be freed again.

Freeing a value through a type that does not accept it is a violation. It stops everything, and what
was freed until then stays freed.
-/

namespace Metaobject

namespace Universe

/-- Asks a type what to do with a value to be freed. -/
def consultFree (u : Universe) (t : TypeId) (v : Value) : Action FreeAnswer :=
  match (u.desc t).behavior.bind (·.free) with
  | none => return .decline
  | some hook => do
    Action.emit (.hook t .free)
    return hook v

/-- Releases the tracker of an object whose fields are freed. -/
def finishFree (type : TypeId) (fields : List Value) : Option Tracker → Action Value
  | none => return .object type fields none
  | some t => do
    let (onHeap, t) ← t.release
    if onHeap then
      Value.drop (.object type fields (some t))
      return .null
    else return .object type fields (some t)

/-- Frees a value that is no object: only its type's hook may have something to do. -/
def freePlain (u : Universe) (t : TypeId) (v : Value) : Action (Value × Option Violation) := do
  if u.accepts t v then
    match ← u.consultFree t v with
    | .clear => return (.null, none)
    | _ => return (v, none)
  else return (v, some (.freedAs (u.typeName v) (u.name t)))

/-- The type through which a field value is freed, if it is freed at all. -/
def freedThrough (f : Option Field) : Value → Option TypeId
  | .null => none
  | .object type _ _ => some type
  | _ => (f.filter (·.recurse)).bind (·.type)

mutual

/-- Frees a value through a type. Tells what is left, and the violation that stopped it, if any. -/
def free (u : Universe) (t : TypeId) : Value → Action (Value × Option Violation)
  | .null => return (.null, none)
  | .object type fields tracker => do
    let v := .object type fields tracker
    if u.accepts t v then
      match ← u.consultFree type v with
      | .keep => return (v, none)
      | .clear =>
        v.drop
        return (.null, none)
      | .decline | .byLayout =>
        match ← freeFields u ((u.layout? type).elim [] (·.fields)) fields with
        | (fields, none) => return (← finishFree type fields tracker, none)
        | (fields, some e) => return (.object type fields tracker, some e)
    else return (v, some (.freedAs (u.typeName v) (u.name t)))
  | v => u.freePlain t v

/-- Frees field values in order, up to the first violation. -/
def freeFields (u : Universe) (declared : List Field) :
    List Value → Action (List Value × Option Violation)
  | [] => return ([], none)
  | v :: vs => do
    match freedThrough declared.head? v with
    | none =>
      let (vs, e) ← freeFields u declared.tail vs
      return (v :: vs, e)
    | some t =>
      match ← free u t v with
      | (v, some e) => return (v :: vs, some e)
      | (v, none) =>
        let (vs, e) ← freeFields u declared.tail vs
        return (v :: vs, e)

end

/-- Frees an object field by field, without asking its type. Other values are left alone. -/
def freeObject (u : Universe) : Value → Action (Value × Option Violation)
  | .object type fields tracker => do
    match ← u.freeFields ((u.layout? type).elim [] (·.fields)) fields with
    | (fields, none) => return (← finishFree type fields tracker, none)
    | (fields, some e) => return (.object type fields tracker, some e)
  | v => return (v, none)

/-- Frees an object that could not be completed, and drops what is left of it. -/
def abandon (u : Universe) (v : Value) : Action (Option Violation) := do
  let (v, e) ← u.freeObject v
  v.drop
  return e

end Universe

end Metaobject
