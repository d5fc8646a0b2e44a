import Metaobject.Identifier
import Metaobject.Text.Terminated

/-!
# Allocators and managers

A block is a region of memory at an address of its own. An allocator says how requests for blocks
are answered; it may refuse any of them, and it may answer with more or fewer bytes than were asked
for. A manager brings together up to four operations, each one that of some allocator. A manager
that can both allocate and release is complete; `service?` are the operations with which it serves.
-/

namespace Metaobject

/-- A region of memory. The address tells blocks apart that hold the same bytes. -/
structure Block where
  address : Nat
  bytes : Bytes
  deriving DecidableEq, Repr

/-- Cuts a byte string, or lengthens it by zeros. -/
def Bytes.resize (a : Bytes) (n : Nat) : Bytes :=
  a.take n ++ List.replicate (n - a.length) 0

/-- The product of two counts, when it is a count. -/
def checkedProduct (m n : Nat) : Option Nat :=
  if m * n < countLimit then some (m * n) else none

/-- How requests are answered. Every answer may depend on the number of requests before. -/
structure Allocator where
  /-- Whether a request is served at all. -/
  serves : (calls : Nat) → Bool
  malloc : (calls size : Nat) → Option Bytes
  calloc : (calls count size : Nat) → Option Bytes
  realloc : (calls : Nat) → Bytes → (size : Nat) → Option Bytes

namespace Allocator

/-- Serves every request with the bytes asked for, all zero, and keeps what it resizes. -/
def system : Allocator where
  serves _ := true
  malloc _ size := some (List.replicate size 0)
  calloc _ count size := (checkedProduct count size).map (List.replicate · 0)
  realloc _ bytes size := some (bytes.resize size)

/-- Serves the first `limit` requests (all of them without a limit). Fresh blocks are filled with
`fill`, and every block has `extra` bytes more than were asked for, or fewer. -/
def metered (fill : UInt8) (limit : Option Nat) (extra : Int) : Allocator where
  serves calls := limit.all (calls < ·)
  malloc _ size := some (List.replicate (size + extra).toNat fill)
  calloc _ count size :=
    (checkedProduct count size).map fun n => List.replicate (n + extra).toNat 0
  realloc _ bytes size := some (bytes.resize (size + extra).toNat)

end Allocator

/-- Data that somebody attached, of no concern to whoever carries it. -/
inductive Attachment where
  | absent
  | word (w : UInt64)
  | text (s : String)
  deriving DecidableEq, Repr

/-- Bytes that an attachment takes: a text is held through a pointer, a capacity and a length. -/
def Attachment.size : Attachment → Nat
  | absent => 0
  | word _ => 8
  | text _ => 24

/-- Up to four operations. -/
structure Manager where
  malloc : Option ArenaId := none
  free : Option ArenaId := none
  calloc : Option ArenaId := none
  realloc : Option ArenaId := none
  state : Attachment := .absent
  deriving DecidableEq, Repr

/-- The operations that serve a request. What is missing is derived from the first two. -/
structure Service where
  malloc : ArenaId
  free : ArenaId
  calloc : Option ArenaId
  realloc : Option ArenaId
  deriving DecidableEq, Repr

namespace Manager

/-- The manager of the system. -/
def system : Manager :=
  ⟨some .system, some .system, some .system, some .system, .absent⟩

/-- No operation is present. -/
def isNull (m : Manager) : Bool :=
  m.malloc.isNone && m.free.isNone && m.calloc.isNone && m.realloc.isNone

/-- Two managers are taken for the same if their operations are; the state does not count. -/
def sameAs (m n : Manager) : Bool :=
  m.malloc = n.malloc && m.free = n.free && m.calloc = n.calloc && m.realloc = n.realloc

/-- The operations of a complete manager. -/
def service? (m : Manager) : Option Service :=
  match m.malloc, m.free with
  | some malloc, some free => some ⟨malloc, free, m.calloc, m.realloc⟩
  | _, _ => none

end Manager

namespace Service

/-- The operations of the system. -/
def system : Service :=
  ⟨.system, .system, some .system, some .system⟩

/-- The operations that serve a request which names `m`: those of the manager if it is complete,
else those of the system. -/
def of (m : Option Manager) : Service :=
  (m.bind (·.service?)).getD .system

end Service

theorem Manager.service?_system : Manager.system.service? = some Service.system := rfl

end Metaobject
