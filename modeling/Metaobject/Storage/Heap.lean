import Metaobject.Storage.Event

/-!
# The heap

The heap holds the state that outlives a single operation: how many requests each allocator has
answered, the cells of the tracked buffers, the manager that serves when nobody names one, and the
trace. An `Action` runs on it.

`allocate`, `release`, `allocateZeroed` and `reallocate` serve a request through a manager. A
manager that lacks either of malloc and free hands every request to the system, so that no block
travels between two allocators; a complete one derives what it lacks.

A tracked buffer is alive for as long as its tracker lists it or somebody is reading it. Its cell
keeps the manager that takes the block back, and stays as a record when the block went back.
-/

namespace Metaobject

/-- An allocator and the number of requests it has answered. -/
structure Arena where
  allocator : Allocator
  calls : Nat := 0

/-- A tracked block: who takes it back, and who still needs it. -/
structure Cell where
  block : Block
  /-- The manager its tracker was bound to when the block was tracked. -/
  manager : Option Manager
  /-- A tracker lists it. -/
  owned : Bool := true
  /-- Readers that have it open. -/
  borrows : Nat := 0

/-- Somebody still needs the block. -/
def Cell.isHeld (c : Cell) : Bool :=
  c.owned || 0 < c.borrows

/-- State that outlives a single operation. -/
structure Heap where
  arenas : Array Arena := #[]
  /-- Every block that was ever tracked. -/
  cells : Array Cell := #[]
  /-- The address of the next block. -/
  nextAddress : Nat := 0
  /-- The manager of the process, once somebody has set or asked for it. -/
  processManager : Option Manager := none
  trace : Array Event := #[]

/-- A computation on the heap. -/
abbrev Action := StateM Heap

namespace Heap

/-- An arena that was never set up answers as the system does. -/
def arena (h : Heap) : ArenaId → Arena
  | .system => { allocator := .system }
  | .custom i => (h.arenas[i]?).getD { allocator := .system }

/-- Counts a request. The system does not care how many there were. -/
def countCall (h : Heap) : ArenaId → Heap
  | .system => h
  | .custom i => { h with arenas := h.arenas.modify i fun a => { a with calls := a.calls + 1 } }

/-- The cell behind a handle, as long as the buffer is alive. -/
def cell? (h : Heap) : Handle → Option Cell
  | .dangling => none
  | .to b => (h.cells[b]?).filter (·.isHeld)

/-- The bytes of a buffer that is alive. -/
def read (h : Heap) (b : Handle) : Option Bytes :=
  (h.cell? b).map (·.block.bytes)

/-- The buffer behind a handle is alive. -/
def isLive (h : Heap) (b : Handle) : Bool :=
  (h.cell? b).isSome

end Heap

namespace Action

/-- Adds to the trace. -/
def emit (e : Event) : Action Unit :=
  modify fun h => { h with trace := h.trace.push e }

/-- Adds to the log. -/
def log (r : LogRecord) : Action Unit :=
  emit (.log r)

/-- Makes a block at an address of its own. -/
def mint (bytes : Bytes) : Action Block :=
  modifyGet fun h => (⟨h.nextAddress, bytes⟩, { h with nextAddress := h.nextAddress + 1 })

/-- Puts a request to an arena: `reply` answers it, `event` records it. -/
def request (a : ArenaId) (reply : Allocator → Nat → Option Bytes)
    (event : Bool → Option Block → Event) : Action (Option Block) := do
  let arena := (← get).arena a
  let served := arena.allocator.serves arena.calls
  modify (·.countCall a)
  let got ← (if served then reply arena.allocator arena.calls else none).mapM mint
  emit (event served got)
  return got

/-- Asks an operation for a block. -/
def malloc (s : Service) (size : Nat) : Action (Option Block) :=
  request s.malloc (fun al n => al.malloc n size) (.malloc s size)

/-- Asks an operation for a block of zeros. -/
def calloc (s : Service) (a : ArenaId) (count size : Nat) : Action (Option Block) :=
  request a (fun al n => al.calloc n count size) (.calloc s count size)

/-- The old block is gone, whatever the answer is. -/
def realloc (s : Service) (a : ArenaId) (old : Block) (size : Nat) : Action (Option Block) :=
  request a (fun al n => al.realloc n old.bytes size) (.realloc s old size)

/-- Puts a block into an operation that takes it back. -/
def giveBack (s : Service) (b : Block) : Action Unit :=
  emit (.free s b)

/-- Who serves a request that names `m`. A manager that cannot serve is worth a record. -/
def serve (m : Option Manager) : Action Service := do
  if m.any (·.service?.isNone) then log .incompleteManager
  return .of m

/-- Allocates `size` bytes. -/
def allocate (m : Option Manager) (size : Nat) : Action (Option Block) := do
  malloc (← serve m) size

/-- Gives a block back. -/
def release (m : Option Manager) (b : Block) : Action Unit := do
  giveBack (← serve m) b

/-- Allocates `count * size` zero bytes. A manager without a calloc of its own is asked for as many
bytes as the product says, if that is a count at all, and the block is then filled with zeros. -/
def allocateZeroed (m : Option Manager) (count size : Nat) : Action (Option Block) := do
  let s ← serve m
  match s.calloc with
  | some a => calloc s a count size
  | none =>
    match checkedProduct count size with
    | none => return none
    | some total =>
      let got ← malloc s total
      return got.map fun b => { b with bytes := List.replicate b.bytes.length 0 }

/-- Resizes a block. A manager without a realloc of its own first takes the old block back and is
then asked for a new one, into which the common beginning is carried over. -/
def reallocate (m : Option Manager) (old : Block) (size : Nat) : Action (Option Block) := do
  let s ← serve m
  match s.realloc with
  | some a => realloc s a old size
  | none =>
    giveBack s old
    let got ← malloc s size
    return got.map fun b =>
      let kept := (old.bytes.take size).take b.bytes.length
      { b with bytes := kept ++ b.bytes.drop kept.length }

/-- The manager of the process; asking for it settles it. -/
def processManager : Action Manager :=
  modifyGet fun h =>
    let m := h.processManager.getD .system
    (m, { h with processManager := some m })

/-- Sets the manager of the process, if it is not settled yet. -/
def setProcessManager (m : Manager) : Action Bool := do
  match (← get).processManager with
  | none =>
    modify fun h => { h with processManager := some m }
    return true
  | some _ =>
    log .defaultManagerKept
    return false

/-- Sets up a new arena. -/
def newArena (al : Allocator) : Action ArenaId :=
  modifyGet fun h =>
    (.custom h.arenas.size, { h with arenas := h.arenas.push { allocator := al } })

/-- Puts a block into a new cell. -/
def newCell (b : Block) (m : Option Manager) : Action BufferId :=
  modifyGet fun h =>
    (h.cells.size, { h with cells := h.cells.push { block := b, manager := m } })

/-- Changes the cell of a buffer that is alive. When nobody needs the block any more, it goes back. -/
def updateCell (b : BufferId) (f : Cell → Cell) : Action Unit := do
  match (← get).cell? (.to b) with
  | none => return ()
  | some c =>
    modify fun h => { h with cells := h.cells.setIfInBounds b (f c) }
    if !(f c).isHeld then release c.manager c.block

/-- Its tracker no longer lists a buffer. -/
def disown (b : BufferId) : Action Unit := do
  match (← get).cell? (.to b) with
  | none => return ()
  | some c =>
    if 0 < c.borrows then log .stillBorrowed
    updateCell b fun c => { c with owned := false }

/-- Opens a buffer for reading. -/
def borrow (b : BufferId) : Action Unit :=
  updateCell b fun c => { c with borrows := c.borrows + 1 }

/-- Ends a reading. -/
def endBorrow (b : BufferId) : Action Unit :=
  updateCell b fun c => { c with borrows := c.borrows - 1 }

end Action

end Metaobject
