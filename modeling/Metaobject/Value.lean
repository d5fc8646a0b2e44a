import Metaobject.Scalar
import Metaobject.Storage.Tracker

/-!
# Values

A value is null, a scalar, a buffer handle, an object, a reference known only by its address, or a
type. An object carries its type, one value per field and, if its type says so, the tracker that
owns its buffers: values own each other as they are nested, while buffers are only referred to.

`owned` lists the buffers that go away with a value, `drop` makes them go away.
-/

namespace Metaobject

/-- What a reference points at. -/
inductive RefKind where
  | object
  | function
  deriving DecidableEq, Repr

/-- A value that a type descriptor can describe. -/
inductive Value where
  /-- No value: a null reference, or a target that holds nothing yet. -/
  | null
  | scalar (s : Scalar)
  | buffer (ref : Handle)
  | object (type : TypeId) (fields : List Value) (tracker : Option Tracker)
  /-- A reference, compared by its address and never followed. -/
  | reference (kind : RefKind) (address : UInt64)
  /-- A type, taken as a value. -/
  | descriptor (type : TypeId)
  deriving Repr, Inhabited

namespace RefKind

/-- The word for a kind of references. -/
def name : RefKind → String
  | object => "object_ref"
  | function => "function_ref"

end RefKind

namespace Value

/-- The value is null. -/
def isNull : Value → Bool
  | null => true
  | _ => false

/-- The value is an object. -/
def isObject : Value → Bool
  | object .. => true
  | _ => false

mutual

/-- Null, the zero of a scalar kind, a null reference, or an object of such values. -/
def isZero : Value → Bool
  | null => true
  | scalar s => s.isZero
  | reference _ address => address = 0
  | object _ fields _ => allZero fields
  | buffer _ | descriptor _ => false

/-- The same for the values of an object. -/
def allZero : List Value → Bool
  | [] => true
  | v :: vs => v.isZero && allZero vs

end

mutual

/-- A raw copy: buffers are shared with the source, and the trackers of copied objects start empty,
bound to the same manager. -/
def rawCopy : Value → Value
  | object type fields tracker =>
    object type (rawCopies fields) (tracker.map fun t => { manager := t.manager })
  | v => v

/-- The same for the values of an object. -/
def rawCopies : List Value → List Value
  | [] => []
  | v :: vs => v.rawCopy :: rawCopies vs

end

mutual

/-- The buffers owned by the trackers inside a value: those of the fields, in order, then the
value's own, in the order in which they were tracked. -/
def owned : Value → List BufferId
  | object _ fields tracker => ownedByAll fields ++ (tracker.elim [] (·.buffers))
  | _ => []

/-- The same for the values of an object. -/
def ownedByAll : List Value → List BufferId
  | [] => []
  | v :: vs => v.owned ++ ownedByAll vs

end

mutual

/-- Drops a value: its fields, in order, and then its tracker. -/
def drop : Value → Action Unit
  | object _ fields tracker => do
    dropAll fields
    match tracker with
    | some t => t.drop
    | none => return ()
  | _ => return ()

/-- Drops one value after the other. -/
def dropAll : List Value → Action Unit
  | [] => return ()
  | v :: vs => do
    v.drop
    dropAll vs

end

/-- The kind of a scalar, if the value is one. -/
def scalarKind? : Value → Option ScalarKind
  | scalar s => some s.kind
  | _ => none

/-- The handle in a value, if it is a buffer. -/
def handle? : Value → Option Handle
  | buffer ref => some ref
  | _ => none

/-- The value as an object lives on the heap no longer. Values inside keep their flags. -/
def offHeap : Value → Value
  | object type fields (some t) => object type fields (some { t with onHeap := false })
  | v => v

/-- The contents of a buffer value that is alive. -/
def contents? (h : Heap) (v : Value) : Option Bytes :=
  v.handle?.bind h.read

/-- Values are zero if each of them is. -/
theorem allZero_eq_all (vs : List Value) : allZero vs = vs.all isZero := by
  induction vs with
  | nil => rfl
  | cons v vs ih => simp [allZero, ih]

/-- Values are copied raw one by one. -/
theorem rawCopies_eq_map (vs : List Value) : rawCopies vs = vs.map rawCopy := by
  induction vs with
  | nil => rfl
  | cons v vs ih => simp [rawCopies, ih]

/-- Values own what each of them owns. -/
theorem ownedByAll_eq_flatMap (vs : List Value) : ownedByAll vs = vs.flatMap owned := by
  induction vs with
  | nil => rfl
  | cons v vs ih => simp [ownedByAll, ih]

end Value

end Metaobject
