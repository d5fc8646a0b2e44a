import Metaobject.Universe.Basic
import Metaobject.Storage.Heap

/-!
# Registries

A registry finds types by name. Registering a type takes the name over from the type that had it.
-/

namespace Metaobject

/-- Types under their names; no name occurs twice. -/
structure Registry where
  entries : List (String × TypeId) := []
  nodup : (entries.map (·.1)).Nodup := by exact List.nodup_nil

namespace Registry

def get? (r : Registry) (name : String) : Option TypeId :=
  r.entries.lookup name

/-- A registry without a name. -/
def erase (r : Registry) (name : String) : Registry where
  entries := r.entries.filter (·.1 ≠ name)
  nodup := r.nodup.sublist (List.filter_sublist.map _)

/-- Takes a name out, and tells the type that had it. -/
def remove (r : Registry) (name : String) : Option TypeId × Registry :=
  (r.get? name, r.erase name)

/-- Puts a type under a name, in place of the one that had it. -/
def insert (r : Registry) (name : String) (t : TypeId) : Registry where
  entries := (name, t) :: (r.erase name).entries
  nodup := List.nodup_cons.2 ⟨by simp [erase], (r.erase name).nodup⟩

/-- Registers a type under its name, and tells the type that had it before. -/
def register (r : Registry) (u : Universe) (t : TypeId) : Action (Option TypeId × Registry) := do
  let old := r.get? (u.name t)
  if let some old := old then Action.log (.typeReplaced (u.name old))
  return (old, r.insert (u.name t) t)

/-- The names, in order. -/
def names (r : Registry) : List String :=
  (r.entries.map (·.1)).mergeSort

def size (r : Registry) : Nat :=
  r.entries.length

/-- Every type that is always there. -/
def builtin : Registry where
  entries := (List.range Universe.builtin.size).map fun t => (Universe.builtin.name t, t)
  nodup := by decide +kernel

end Registry

end Metaobject
