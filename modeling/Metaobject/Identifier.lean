/-!
# Things with an identity

Types, allocators and tracked buffers are told apart by identity, not by what they hold. Each is
known by the number under which it was made.
-/

namespace Metaobject

/-- A type descriptor: its position in the universe of types. -/
abbrev TypeId := Nat

/-- A tracked buffer: its position in the table of cells. -/
abbrev BufferId := Nat

/-- An allocator: the one of the system, or one that was set up later. -/
inductive ArenaId where
  | system
  | custom (index : Nat)
  deriving DecidableEq, Repr, Inhabited

/-- A handle on a tracked buffer. It does not keep the buffer alive; all dangling handles are the
same. -/
inductive Handle where
  | dangling
  | to (buffer : BufferId)
  deriving DecidableEq, Repr, Inhabited

end Metaobject
