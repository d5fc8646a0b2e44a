import Metaobject.Session.Basic
import Metaobject.Text.Hex

/-!
# Steps on managers, blocks, trackers and buffers

A block that a step hands to a manager or to a tracker is no longer there under its name. A tracker
that is given a new name or a new value under its old one goes, and its buffers go with it.

The trace of a step is told in the names of the session.
-/

namespace Metaobject

/-- What a handle shows. -/
structure BufferView where
  ref : Handle
  /-- Absent when the buffer is no longer alive. -/
  contents : Option Bytes

/-- The operations that a manager can have. -/
inductive ManagerOp where
  | malloc
  | free
  | calloc
  | realloc

/-- A manager with one more operation. -/
def Manager.install (a : ArenaId) (m : Manager) : ManagerOp → Manager
  | .malloc => { m with malloc := some a }
  | .free => { m with free := some a }
  | .calloc => { m with calloc := some a }
  | .realloc => { m with realloc := some a }

namespace Step

/-! ### Managers and blocks -/

/-- Defines a manager: what it takes from another one, and operations of its own, which share an
allocator. -/
def defineManager (name : String) (ops : List ManagerOp) (base : Option ManagerRef)
    (allocator : Allocator) (state : Attachment) : Step Unit := do
  let m := (← managerAt? base).getD {}
  let m := if state = .absent then m else { m with state }
  let a ← act (Action.newArena allocator)
  modify fun s =>
    { s with
      managers := s.managers.add name (ops.foldl (·.install a) m)
      arenaNames := s.arenaNames.push name }

/-- Appoints the manager of the process, if there is none yet. -/
def setProcessManager (r : ManagerRef) : Step Bool := do
  act (Action.setProcessManager (← managerAt r))

/-- The name of the manager of the process, which is appointed now if need be. -/
def processManager : Step String := do
  let m ← act Action.processManager
  return managerName (← get) m

/-- Keeps a block under a name, if it has one. -/
def keepBlock (name : Option String) (b : Block) : Step Unit :=
  modify fun s => { s with blocks := name.elim s.blocks (s.blocks.put · b) }

/-- Keeps a block under a name, if there is a block, and tells its bytes. -/
def keepBlock? (name : Option String) (b : Option Block) : Step (Option Bytes) := do
  if let some b := b then keepBlock name b
  return b.map (·.bytes)

/-- The block of a name. -/
def blockNamed (name : String) : Step Block := do
  require ("block " ++ name) ((← get).blocks.lookup name)

/-- Takes a block from its name. -/
def takeBlock (name : String) : Step Block := do
  let b ← blockNamed name
  modify fun s => { s with blocks := s.blocks.erase name }
  return b

/-- Asks a manager for a block. -/
def allocate (m : Option ManagerRef) (size : Nat) (name : Option String) : Step (Option Bytes) := do
  keepBlock? name (← act (Action.allocate (← managerAt? m) size))

/-- Asks a manager for a block of zeros. -/
def allocateZeroed (m : Option ManagerRef) (count size : Nat) (name : Option String) :
    Step (Option Bytes) := do
  keepBlock? name (← act (Action.allocateZeroed (← managerAt? m) count size))

/-- Asks a manager for a block of another size in the place of one that has a name. -/
def reallocate (m : Option ManagerRef) (block : String) (size : Nat) (name : Option String) :
    Step (Option Bytes) := do
  let m ← managerAt? m
  keepBlock? name (← act (Action.reallocate m (← takeBlock block) size))

/-- Gives a block back to a manager. -/
def release (m : Option ManagerRef) (block : String) : Step Unit := do
  let m ← managerAt? m
  act (Action.release m (← takeBlock block))

/-- Makes a block that no manager was asked for. -/
def makeBlock (bytes : Bytes) (name : Option String) : Step Bytes := do
  let b ← act (Action.mint bytes)
  keepBlock name b
  return b.bytes

/-- Overwrites a part of a block. -/
def writeBlock (block : String) (offset : Nat) (bytes : Bytes) : Step Bytes := do
  let b ← blockNamed block
  let written := b.bytes.take offset ++ bytes ++ b.bytes.drop (offset + bytes.length)
  keepBlock (some block) { b with bytes := written }
  return written

/-- Makes a block of another size from one that has a name. -/
def resizeBlock (block : String) (size : Nat) (name : Option String) : Step Bytes := do
  makeBlock ((← takeBlock block).bytes.resize size) name

/-! ### Trackers and buffers -/

/-- The tracker of a name. -/
def trackerNamed (name : String) : Step Tracker := do
  require ("tracker " ++ name) ((← get).trackers.lookup name)

/-- Gives a name to a tracker. A tracker that had it goes. -/
def defineTracker (name : String) (t : Tracker) : Step TrackerView := do
  let old := (← get).trackers.lookup name
  modify fun s => { s with trackers := s.trackers.put name t }
  if let some old := old then act old.drop
  return viewTracker (← get) t

/-- Drops the tracker that has a name, if there is one. -/
def dropTracker (name : String) : Step Unit := do
  let old := (← get).trackers.lookup name
  modify fun s => { s with trackers := s.trackers.erase name }
  if let some old := old then act old.drop

/-- The tracker that is referred to, by its name or in an object. -/
def trackerAt : TrackerRef → Step Tracker
  | .named name => trackerNamed name
  | .embedded p => do
    match ← valueAt p with
    | .object _ _ (some t) => return t
    | _ => senseless ("tracker of " ++ p.slot)

/-- Puts a tracker where the one was that is referred to. -/
def putTracker (t : Tracker) : TrackerRef → Step Unit
  | .named name => modify fun s => { s with trackers := s.trackers.put name t }
  | .embedded p => do
    match ← valueAt p with
    | .object type fields _ => overwrite p (.object type fields (some t))
    | _ => senseless ("tracker of " ++ p.slot)

/-- Runs an operation of a tracker. -/
def onTracker {α : Type} (r : TrackerRef) (f : Tracker → Action (α × Tracker)) : Step α := do
  let (a, t) ← act (f (← trackerAt r))
  putTracker t r
  return a

/-- Shows a tracker. -/
def showTracker (r : TrackerRef) : Step TrackerView := do
  return viewTracker (← get) (← trackerAt r)

/-- Binds a tracker to a manager, or to none. -/
def bindTracker (r : TrackerRef) (m : Option ManagerRef) : Step Unit := do
  let manager ← managerAt? m
  onTracker r fun t => return ((), { t with manager })

/-- Marks the value of a tracker as on the heap, or not. -/
def markTracker (r : TrackerRef) (onHeap : Bool) : Step Unit :=
  onTracker r fun t => return ((), { t with onHeap })

/-- Runs what a tracker has deferred. -/
def ensureTracker (r : TrackerRef) : Step Unit :=
  onTracker r fun t => return ((), ← t.ensureSetup)

/-- Releases a tracker, and tells whether its value lived on the heap. -/
def releaseTracker (r : TrackerRef) : Step Bool :=
  onTracker r (·.release)

/-- Shows a buffer, if it is alive. -/
def viewBuffer (ref : Handle) : Step BufferView := do
  return ⟨ref, (← heap).read ref⟩

/-- Keeps a handle under a name, if it has one. -/
def keepHandle (name : Option String) (ref : Handle) : Step BufferView := do
  modify fun s => { s with handles := name.elim s.handles (s.handles.put · ref) }
  viewBuffer ref

/-- Keeps a handle under a name, if there is a handle, and shows its buffer. -/
def keepHandle? (name : Option String) : Option Handle → Step (Option BufferView)
  | none => return none
  | some ref => return some (← keepHandle name ref)

/-- Has a block tracked. -/
def track (r : TrackerRef) (block : String) (name : Option String) : Step BufferView := do
  let b ← takeBlock block
  keepHandle name (← onTracker r (·.track b))

/-- Allocates a tracked buffer; `fill` gives its bytes by their positions. -/
def allocateTracked (r : TrackerRef) (size : Nat) (fill : Nat → UInt8) (name : Option String) :
    Step (Option BufferView) := do
  let bytes := fun _ => (List.range size).map fill
  keepHandle? name (← onTracker r (·.allocateWith size bytes))

/-- Allocates a tracked copy of some bytes. -/
def copyTracked (r : TrackerRef) (bytes : Bytes) (name : Option String) :
    Step (Option BufferView) := do
  keepHandle? name (← onTracker r (·.allocateCopy bytes))

/-- What was seen of a buffer whose tracker was released while the buffer was being read. -/
structure BorrowView where
  onHeap : Bool
  live : Bool
  contents : Bytes
  /-- Length of the trace when the reading ended. -/
  traceEnd : Nat

/-- Releases a tracker while a buffer is being read. Nothing happens when the buffer is not
alive. -/
def releaseWhileReading (ref : Handle) (r : TrackerRef) : Step (Option BorrowView) := do
  match ref, (← heap).read ref with
  | .to b, some contents =>
    act (Action.borrow b)
    let onHeap ← releaseTracker r
    let h ← heap
    act (Action.endBorrow b)
    return some ⟨onHeap, h.isLive ref, contents, h.trace.size⟩
  | _, _ => return none

/-! ### The trace -/

/-- The name of an arena, if it has any. -/
def arenaName (s : Session) : ArenaId → Option String
  | .system => none
  | .custom i => some (s.arenaNames.getD i "")

/-- The line for an event. The system keeps quiet. -/
def eventLine (s : Session) : Event → Option String
  | .malloc ops size served _ => (arenaName s ops.malloc).map fun n =>
    n ++ ":malloc " ++ toString size ++ refused served
  | .calloc ops count size served _ => (ops.calloc.bind (arenaName s)).map fun n =>
    n ++ ":calloc " ++ toString count ++ " " ++ toString size ++ refused served
  | .realloc ops old size served _ => (ops.realloc.bind (arenaName s)).map fun n =>
    n ++ ":realloc " ++ Hex.encode old.bytes ++ " " ++ toString size ++ refused served
  | .free ops b => (arenaName s ops.free).map (· ++ ":free " ++ Hex.encode b.bytes)
  | .hook t .construct => some ("hook:" ++ typeName s t ++ ".init")
  | .hook t .free => some ("hook:" ++ typeName s t ++ ".free")
  | .hook t (.duplicate r) => some ("hook:" ++ typeName s t ++ ".dup " ++ toString r)
  | .setup k => some ("lazy:" ++ k.name)
  | .log r => some ("log:" ++ r.level.name ++ " " ++ r.message)
where
  refused (served : Bool) : String := if served then "" else " !"

/-- The event is a record of the log. -/
def isLog : Event → Bool
  | .log _ => true
  | _ => false

/-- The lines for a part of the trace, with or without the log. -/
def traceLines (s : Session) (withLog : Bool) (start stop : Nat) : List String :=
  ((s.heap.trace.extract start stop).toList.filter fun e => withLog || !isLog e).filterMap
    (eventLine s)

end Step

end Metaobject
