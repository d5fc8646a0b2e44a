/-!
# What can go wrong

Three kinds of failure, each by its cause and with one function that words it. A `BuildError` says
why a value could not be constructed or duplicated, an `AccessError` why a named field could not be
read or written, and a `Violation` which precondition of an operation its caller did not keep.
-/

namespace Metaobject

/-- Why a value could not be constructed or duplicated. -/
inductive BuildError where
  /-- The initials are no value of the type being built. -/
  | initialsMismatch (expected got : String)
  /-- The manager refused an allocation. -/
  | outOfMemory (requested : Nat)
  /-- The type has no generic construction. -/
  | notConstructible (type : String)
  /-- An object does not carry one value per field. -/
  | fieldCount (expected got : Nat)
  /-- A buffer to be copied was already released by its owner. -/
  | releasedBuffer
  /-- A field could not be built. -/
  | field (index : Nat) (name : String) (cause : BuildError)
  deriving DecidableEq, Repr

/-- Why a named field could not be read or written. -/
inductive AccessError where
  | fieldNotFound (name : String)
  | typeMismatch (expected got : String)
  /-- The object's type declares no memory tracker. -/
  | notTracked (type : String)
  | outOfMemory (requested : Nat)
  deriving DecidableEq, Repr

/-- A precondition that a caller broke. -/
inductive Violation where
  /-- A value was freed through a type that does not accept it. -/
  | freedAs (value type : String)
  /-- A value was to be constructed where there is one already. -/
  | targetOccupied (value : String)
  /-- A default instance does not have one value per field. -/
  | defaultArity (type : String) (values fields : Nat)
  deriving DecidableEq, Repr

namespace BuildError

/-- The wording of an error; for a field that failed, down to the innermost cause. -/
def message : BuildError → String
  | initialsMismatch expected got =>
    "Initials type mismatch: expected " ++ expected ++ ", got " ++ got
  | outOfMemory requested => "Out of memory: " ++ toString requested ++ " bytes requested"
  | notConstructible type => "Type " ++ type ++ " is not constructible"
  | fieldCount expected got =>
    "Field count mismatch: expected " ++ toString expected ++ ", got " ++ toString got
  | releasedBuffer => "Source buffer was already released"
  | field index name cause =>
    "Field #" ++ toString index ++ " (" ++ name ++ "): " ++ cause.message

end BuildError

/-- The wording of an error. -/
def AccessError.message : AccessError → String
  | fieldNotFound name => "Field not found: " ++ name
  | typeMismatch expected got => "Type mismatch: expected " ++ expected ++ ", got " ++ got
  | notTracked type => "Type " ++ type ++ " has no memory tracker"
  | outOfMemory requested => "Out of memory: " ++ toString requested ++ " bytes requested"

/-- The wording of a violation. -/
def Violation.message : Violation → String
  | freedAs value type => "free: " ++ value ++ " value passed to type " ++ type
  | targetOccupied value => "init_in_place: target already holds a " ++ value ++ " value"
  | defaultArity type values fields =>
    "assertion `left == right` failed: default instance of " ++ type ++ " has " ++
      toString values ++ " values for " ++ toString fields ++ " fields\n  left: " ++
      toString values ++ "\n right: " ++ toString fields

end Metaobject
