import Metaobject.Storage.Heap

/-!
# Trackers

A tracker owns the buffers that were allocated on behalf of one value. Each of them goes back, once,
to the manager that the tracker was bound to when it was tracked: when the tracker releases them,
when the tracker is dropped, or when the last reader is done, if that is later. Releasing also
clears the heap flag, which says that the value itself lives on the heap.

The list of buffers grows by doubling: `capacity` is 0, 4, 8, 16, and so on.
-/

namespace Metaobject

/-- The buffers of one value. -/
structure Tracker where
  /-- The manager that new buffers come from; the system if there is none. -/
  manager : Option Manager := none
  /-- The value itself lives on the heap. -/
  onHeap : Bool := false
  /-- The tracked buffers, in the order in which they were tracked. -/
  buffers : List BufferId := []
  /-- Places in the list of buffers. -/
  capacity : Nat := 0
  /-- What is still to be done before the first use. -/
  setup : Option Setup := none
  deriving DecidableEq, Repr, Inhabited

namespace Tracker

/-- Places that the first buffer makes. -/
def initialCapacity : Nat := 4

/-- How many times larger a full list becomes. -/
def growthFactor : Nat := 2

/-- Room for one more buffer. -/
def reserve (t : Tracker) : Tracker :=
  if t.buffers.length = t.capacity then
    { t with capacity := t.capacity + max (t.capacity * (growthFactor - 1)) initialCapacity }
  else t

/-- Tracks a block, the setup being done. -/
def trackNow (t : Tracker) (b : Block) : Action (Handle × Tracker) := do
  let t := t.reserve
  let id ← Action.newCell b t.manager
  return (.to id, { t with buffers := t.buffers ++ [id] })

/-- Allocates `size` zero bytes, lets `fill` write them, and tracks them, the setup being done. A
block of the wrong length goes back at once. -/
def allocateNow (t : Tracker) (size : Nat) (fill : Bytes → Bytes) :
    Action (Option Handle × Tracker) := do
  match ← Action.allocateZeroed t.manager size 1 with
  | none => return (none, t)
  | some b =>
    if b.bytes.length = size then
      let (ref, t) ← t.trackNow { b with bytes := fill b.bytes }
      return (some ref, t)
    else
      Action.log (.wrongLength b.bytes.length size)
      Action.release t.manager b
      return (none, t)

/-- Gives up some buffers, in order. -/
def disownAll : List BufferId → Action Unit
  | [] => return ()
  | b :: bs => do
    Action.disown b
    disownAll bs

/-- Gives up every buffer and the storage of the list. -/
def giveUp (t : Tracker) : Action Unit := do
  disownAll t.buffers
  Action.log (.released t.buffers.length)

/-- Releases every buffer, and says whether the value itself lived on the heap. A second release
does nothing. -/
def release (t : Tracker) : Action (Bool × Tracker) := do
  if t.buffers.isEmpty && t.capacity = 0 then
    return (t.onHeap, { t with onHeap := false })
  t.giveUp
  return (t.onHeap, { t with onHeap := false, buffers := [], capacity := 0 })

/-- A step of the setup, which is no longer pending. -/
def perform (t : Tracker) : SetupStep → Action Tracker
  | .bind manager => return { t with manager }
  | .mark onHeap => return { t with onHeap }
  | .allocate size => return (← t.allocateNow size id).2
  | .copy bytes => return (← t.allocateNow bytes.length fun _ => bytes).2
  | .track bytes => return (← t.trackNow (← Action.mint bytes)).2
  | .release => return (← t.release).2

def performAll (t : Tracker) : List SetupStep → Action Tracker
  | [] => return t
  | s :: steps => do
    let t ← t.perform s
    t.performAll steps

/-- Does what was deferred, unless that is done already. -/
def ensureSetup (t : Tracker) : Action Tracker := do
  match t.setup with
  | none => return t
  | some s =>
    Action.emit (.setup s)
    { t with setup := none }.performAll s.steps

/-- Takes a block over. -/
def track (t : Tracker) (b : Block) : Action (Handle × Tracker) := do
  (← t.ensureSetup).trackNow b

/-- Allocates `size` bytes, lets `fill` write them, and tracks them. -/
def allocateWith (t : Tracker) (size : Nat) (fill : Bytes → Bytes) :
    Action (Option Handle × Tracker) := do
  (← t.ensureSetup).allocateNow size fill

/-- Allocates and tracks `size` zero bytes. -/
def allocate (t : Tracker) (size : Nat) : Action (Option Handle × Tracker) :=
  t.allocateWith size id

/-- Allocates and tracks a copy of some bytes. -/
def allocateCopy (t : Tracker) (bytes : Bytes) : Action (Option Handle × Tracker) :=
  t.allocateWith bytes.length fun _ => bytes

/-- What becomes of the buffers when the tracker itself goes. -/
def drop (t : Tracker) : Action Unit := do
  if !t.buffers.isEmpty then
    Action.log (.droppedLive t.buffers.length)
    t.giveUp

end Tracker

end Metaobject
