import Metaobject.Lifecycle.Assembly

/-!
# Duplication

`duplicate` copies a value. An object is copied through its own type, whatever type the caller
names, and the copy gets a tracker of its own, bound to the manager of the source's. A flat
duplication copies every field raw, so its buffers are those of the source. A recursive one goes
through the fields that are marked for it: objects are duplicated through their own types, buffers
are copied if the new object has a tracker, and other values are duplicated through the declared
type.
-/

namespace Metaobject

namespace Universe

/-- Asks a type how to duplicate a value. -/
def consultDuplicate (u : Universe) (t : TypeId) (v : Value) (recursive : Bool) :
    Action DuplicateAnswer :=
  match (u.desc t).behavior.bind (·.duplicate) with
  | none => return .decline
  | some hook => do
    Action.emit (.hook t (.duplicate recursive))
    return hook (u.name t) v recursive

/-- The fields of a struct type, for an object with that many values. -/
def fieldsFor (u : Universe) (t : TypeId) (values : List Value) : Except BuildError (List Field) :=
  match u.layout? t with
  | none => .error (.notConstructible (u.name t))
  | some l =>
    if values.length = l.fields.length then .ok l.fields
    else .error (.fieldCount l.fields.length values.length)

/-- Duplicates a value that is no object: it is copied as it is, unless its type's hook knows
better. -/
def duplicatePlain (u : Universe) (t : TypeId) (recursive : Bool) (v : Value) : Attempt Value := do
  if u.accepts t v then
    match ← u.consultDuplicate t v recursive with
    | .built w => return w
    | .failed e => Attempt.refuse e
    | .byLayout _ | .decline => return v.rawCopy
  else Attempt.refuse (.initialsMismatch (u.name t) (u.typeName v))

/-- A copy of a value for a field of an object with the given tracker: a raw copy, or a deep one,
which `duplicate` makes through a type. -/
def duplicateInto (duplicate : TypeId → Attempt Value) (deep : Bool) (declared : Option TypeId)
    (tracker : Option Tracker) (v : Value) : Attempt (Value × Option Tracker) :=
  if deep then
    match v, tracker, declared with
    | .object own _ _, tracker, _ => return (← duplicate own, tracker)
    | .buffer ref, some t, _ => do
      let (v, t) ← t.adopt ref
      return (v, some t)
    | .null, tracker, _ => return (.null, tracker)
    | _, tracker, some t => return (← duplicate t, tracker)
    | _, tracker, none => return (v.rawCopy, tracker)
  else return (v.rawCopy, tracker)

mutual

/-- Duplicates a value through a type. -/
def duplicate (u : Universe) (t : TypeId) (recursive : Bool) : Value → Attempt Value
  | .object type values tracker => do
    let v := .object type values tracker
    if u.accepts t v then
      let general (r : Bool) : Attempt Value :=
        match u.fieldsFor type values with
        | .error e => Attempt.refuse e
        | .ok fs =>
          duplicateFields u type r fs [] (tracker.map fun tr => { manager := tr.manager }) values
      match ← u.consultDuplicate type v recursive with
      | .built w => return w
      | .failed e => Attempt.refuse e
      | .byLayout r => general r
      | .decline => general recursive
    else Attempt.refuse (.initialsMismatch (u.name t) (u.typeName v))
  | v => u.duplicatePlain t recursive v

/-- Duplicates the remaining field values of an object. -/
def duplicateFields (u : Universe) (type : TypeId) (recursive : Bool) (declared : List Field)
    (built : List Value) (tracker : Option Tracker) : List Value → Attempt Value
  | [] => return finish type built tracker
  | v :: vs => do
    match declared with
    | [] => return finish type built tracker
    | f :: fs =>
      let made := duplicateInto (fun t => duplicate u t true v) (recursive && f.recurse) f.type
        tracker v
      u.settle type f built tracker (return ())
        (fun built tracker => duplicateFields u type recursive fs built tracker vs)
        (← made.outcome)

end

/-- Duplicates an object field by field, without asking its type. -/
def duplicateObject (u : Universe) (type : TypeId) (values : List Value) (tracker : Option Tracker)
    (recursive : Bool) : Attempt Value :=
  match u.fieldsFor type values with
  | .error e => Attempt.refuse e
  | .ok fs =>
    u.duplicateFields type recursive fs [] (tracker.map fun tr => { manager := tr.manager }) values

/-- Duplicates a value over another one, which is freed once the duplicate is complete. Tells what
is there afterwards. -/
def duplicateOver (u : Universe) (t : TypeId) (target source : Value) (recursive : Bool) :
    Action (Value × Option Fault) := do
  match ← (u.duplicate t recursive source).run with
  | .error fault => return (target, some fault)
  | .ok v =>
    let v := v.offHeap
    match ← u.free t target with
    | (rest, some e) =>
      v.drop
      return (rest, some (.violated e))
    | (rest, none) =>
      rest.drop
      return (v, none)

end Universe

end Metaobject
