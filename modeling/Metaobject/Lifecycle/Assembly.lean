import Metaobject.Lifecycle.Destruction

/-!
# Assembling objects

Construction and duplication both build an object field by field. `settle` is the step they share:
it adds a field that was built, and it gives the partial object up when a field could not be built.
A partial object is freed before the failure is reported, under the index and the name of the field;
a violation, in the field or while the partial object is being freed, drops the partial object
instead and goes on to the caller.
-/

namespace Metaobject

/-- What keeps an operation from an answer. -/
inductive Fault where
  /-- A failure that is reported to the caller. -/
  | refused (e : BuildError)
  /-- A broken precondition. -/
  | violated (v : Violation)
  /-- Constructions were nested deeper than allowed. -/
  | tooDeep
  deriving DecidableEq, Repr

/-- A computation on the heap that may be kept from an answer. What it did to the heap stays. -/
abbrev Attempt := ExceptT Fault Action

namespace Attempt

/-- Runs an attempt to its end, whatever that is. -/
def outcome {α : Type} (a : Attempt α) : Attempt (Except Fault α) :=
  ExceptT.lift a.run

def refuse {α : Type} (e : BuildError) : Attempt α :=
  throw (.refused e)

end Attempt

/-- A copy of a buffer, owned by a tracker. -/
def Tracker.adopt (t : Tracker) (ref : Handle) : Attempt (Value × Tracker) := do
  match (← get).read ref with
  | none => Attempt.refuse .releasedBuffer
  | some bytes =>
    match ← t.allocateCopy bytes with
    | (some copy, t) => return (.buffer copy, t)
    | (none, _) => Attempt.refuse (.outOfMemory bytes.length)

/-- The tracker of a finished object says that the object lives on the heap. -/
def finish (type : TypeId) (fields : List Value) (tracker : Option Tracker) : Value :=
  .object type fields (tracker.map fun t => { t with onHeap := true })

namespace Universe

/-- Goes on after the attempt to build field `f` of an object whose earlier fields are `built`. -/
def settle (u : Universe) (type : TypeId) (f : Field) (built : List Value)
    (tracker : Option Tracker) (note : Action Unit)
    (next : List Value → Option Tracker → Attempt Value) :
    Except Fault (Value × Option Tracker) → Attempt Value
  | .ok (v, tracker) => next (built ++ [v]) tracker
  | .error (.refused e) => do
    note
    match ← u.abandon (.object type built tracker) with
    | none => Attempt.refuse (.field f.index f.name e)
    | some violation => throw (.violated violation)
  | .error fault => do
    Value.drop (.object type built tracker)
    throw fault

end Universe

end Metaobject
