import Metaobject.Universe.Typing

/-!
# Named access

Fields of an object are read and written by name; of two fields with one name the first counts, so a
type's own field hides that of its base. A typed field only takes values that its type accepts.
Bytes are written into a buffer that the object's tracker owns; the buffer that the field referred
to before stays with the tracker until that is released.
-/

namespace Metaobject

namespace Universe

/-- Position of a named field, if the object has a value there. -/
def indexIn? (u : Universe) (type : TypeId) (fields : List Value) (name : String) : Option Nat :=
  ((u.layout? type).bind (·.indexOf? name)).filter (· < fields.length)

/-- The declared type of a field. -/
def declaredAt? (u : Universe) (type : TypeId) (index : Nat) : Option TypeId :=
  (u.layout? type).bind (·.fields[index]?) |>.bind (·.type)

/-- The value of a named field of an object. -/
def fieldValue? (u : Universe) (name : String) : Value → Option Value
  | .object type fields _ => (u.indexIn? type fields name).bind (fields[·]?)
  | _ => none

/-- What a named field can be read as. -/
inductive Reading where
  | scalar (kind : ScalarKind)
  | bytes
  | descriptor

namespace Reading

def name : Reading → String
  | scalar k => k.name
  | bytes => "bytes"
  | descriptor => "type"

end Reading

/-- What was read from a field. -/
inductive Content where
  | scalar (s : Scalar)
  | bytes (contents : Bytes)
  | descriptor (type : TypeId)

/-- Reads a value; a buffer only while it is alive. -/
def Reading.read (h : Heap) : Reading → Value → Option Content
  | .scalar k, .scalar s => if s.kind = k then some (.scalar s) else none
  | .bytes, v => (v.contents? h).map .bytes
  | .descriptor, .descriptor t => some (.descriptor t)
  | _, _ => none

/-- Reads a named field. -/
def readField (u : Universe) (h : Heap) (as : Reading) (name : String) (v : Value) :
    Except AccessError Content :=
  match u.fieldValue? name v with
  | none => .error (.fieldNotFound name)
  | some w =>
    match as.read h w with
    | some c => .ok c
    | none => .error (.typeMismatch as.name (u.typeName w))

/-- Puts a value into a field of an object and drops what was there. -/
def replaceField (type : TypeId) (fields : List Value) (tracker : Option Tracker) (index : Nat)
    (v : Value) : Action Value := do
  Value.dropAll (fields[index]?).toList
  return .object type (fields.set index v) tracker

/-- Puts a value into a field without asking the field's type. Without such a field the value is
dropped. -/
def writeAt (index : Nat) (v : Value) : Value → Action Value
  | .object type fields tracker => do
    if index < fields.length then replaceField type fields tracker index v
    else
      v.drop
      return .object type fields tracker
  | w => do
    v.drop
    return w

/-- Writes a named field of an object. A value that is not taken is dropped. -/
def writeField (u : Universe) (name : String) (v : Value) :
    Value → Action (Value × Option AccessError)
  | .object type fields tracker => do
    match u.indexIn? type fields name with
    | none =>
      v.drop
      return (.object type fields tracker, some (.fieldNotFound name))
    | some index =>
      match (u.declaredAt? type index).filter (!u.accepts · v) with
      | some t =>
        v.drop
        return (.object type fields tracker, some (.typeMismatch (u.name t) (u.typeName v)))
      | none => return (← replaceField type fields tracker index v, none)
  | w => do
    v.drop
    return (w, some (.fieldNotFound name))

/-- The kind of a type admits buffers that are written by name. -/
def holdsBytes (u : Universe) (t : TypeId) : Bool :=
  match (u.desc t).kind with
  | .bytes | .blackBox _ => true
  | _ => false

/-- Writes bytes into a buffer of the object's tracker, and the buffer into a named field. -/
def writeBytes (u : Universe) (name : String) (bytes : Bytes) :
    Value → Action (Value × Except AccessError Handle)
  | .object type fields tracker => do
    let same := Value.object type fields tracker
    match u.indexIn? type fields name with
    | none => return (same, .error (.fieldNotFound name))
    | some index =>
      match (u.declaredAt? type index).filter (!u.holdsBytes ·), tracker with
      | some t, _ => return (same, .error (.typeMismatch (u.name t) "bytes"))
      | none, none => return (same, .error (.notTracked (u.name type)))
      | none, some t =>
        match ← t.allocateCopy bytes with
        | (none, t) =>
          return (.object type fields (some t), .error (.outOfMemory bytes.length))
        | (some ref, t) =>
          return (← replaceField type fields (some t) index (.buffer ref), .ok ref)
  | w => return (w, .error (.fieldNotFound name))

end Universe

end Metaobject
