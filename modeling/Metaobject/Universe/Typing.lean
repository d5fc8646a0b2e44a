import Metaobject.Universe.Basic

/-!
# Types and their values

Which type is a subtype of which, which values a type accepts, and the all-zero value of a type.

A type is a subtype of itself and, for a struct, of whatever its base is a subtype of; a hook may
know better and is asked first, at every step of the way. A struct type accepts the objects of its
subtypes, and every type but a scalar accepts null.
-/

namespace Metaobject

namespace Universe

/-- A witness that `t` is a subtype of `other`. -/
def subtype? (u : Universe) (t other : TypeId) : Option TypeId :=
  match (u.desc t).behavior.bind (·.subtype) |>.bind (· t other (u.name other)) with
  | some w => some w
  | none =>
    if t = other then some other
    else
      match _h : u.base? t with
      | some b => u.subtype? b other
      | none => none
  termination_by t
  decreasing_by exact u.base_lt (by assumption)

/-- A witness that `t` is a supertype of `other`. -/
def supertype? (u : Universe) (t other : TypeId) : Option TypeId :=
  match (u.desc t).behavior.bind (·.supertype) |>.bind (· t other (u.name other)) with
  | some w => some w
  | none => (u.subtype? other t).map fun _ => t

/-- The type accepts the value where it is declared. -/
def accepts (u : Universe) (t : TypeId) (v : Value) : Bool :=
  match (u.desc t).kind, v with
  | .scalar _, .null => false
  | _, .null => true
  | .scalar k, .scalar s => s.kind = k
  | .struct _, .object type _ _ => (u.subtype? type t).isSome
  | .bytes, .buffer _ => true
  | .reference k, .reference l _ => k = l
  | .descriptor, .descriptor _ => true
  | .blackBox _, _ => true
  | _, _ => false

/-- The value is of exactly this type, not of a subtype. -/
def isExact (u : Universe) (t : TypeId) : Value → Bool
  | .object type _ _ => type = t
  | v => u.accepts t v

/-- The word for what a value is; for an object, the name of its type. -/
def typeName (u : Universe) : Value → String
  | .null => "null"
  | .scalar s => s.kind.name
  | .buffer _ => "bytes"
  | .object type _ _ => u.name type
  | .reference k _ => k.name
  | .descriptor _ => "type"

/-- The type that a value carries with it: objects and types do, other values do not. -/
def carriedType? : Value → Option TypeId
  | .object type _ _ => some type
  | .descriptor _ => some typeOfTypes
  | _ => none

/-- The type, if its values carry it with them. -/
def carriedBy? (u : Universe) (t : TypeId) : Option TypeId :=
  match (u.desc t).kind with
  | .struct _ | .descriptor => some t
  | _ => none

/-- Type of what a construction takes as its argument. -/
def argumentType (u : Universe) (t : TypeId) : TypeId :=
  (u.desc t).argumentType.getD typeOfTemplates

/-- The all-zero value of a type. -/
def zeroOf (u : Universe) (t : TypeId) : Value :=
  match _h : (u.desc t).kind with
  | .scalar k => .scalar k.zero
  | .struct l =>
    .object t
      (l.fields.attach.map fun f =>
        match _hf : f.1.type with
        | some ft => u.zeroOf ft
        | none => .null)
      (if l.tracked then some {} else none)
  | .reference k => .reference k 0
  | .bytes | .descriptor | .blackBox _ => .null
  termination_by t
  decreasing_by exact u.fieldType_lt (by assumption) f.2 (by assumption)

/-- An object with the given field values. Its tracker, if its type has one, starts empty and
unbound: buffers among the values stay with whoever allocated them. -/
def instantiate (u : Universe) (t : TypeId) (fields : List Value) : Except BuildError Value :=
  match u.layout? t with
  | none => .error (.notConstructible (u.name t))
  | some l =>
    if fields.length = l.fields.length then
      .ok (.object t fields (if l.tracked then some {} else none))
    else .error (.fieldCount l.fields.length fields.length)

/-- Makes a struct type, with its canonical instance if field values for one are given. -/
def declareStruct (u : Universe) (h : Heap) (d : Declaration) (canonical : Option (List Value)) :
    Option (Except Violation (TypeId × Universe)) :=
  (u.declare h d).bind fun (t, u) =>
    match canonical with
    | none => some (.ok (t, u))
    | some fields =>
      match u.instantiate t fields with
      | .ok v => (u.setCanonical t v).map fun u => .ok (t, u)
      | .error _ =>
        some (.error (.defaultArity d.name fields.length ((u.layout? t).elim 0 (·.fields.length))))

theorem subtype?_self (u : Universe) (t : TypeId) : (u.subtype? t t).isSome := by
  unfold subtype?
  split <;> simp

end Universe

end Metaobject
