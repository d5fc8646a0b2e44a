import Metaobject.Universe.Typing

/-!
# Structural comparison

`compare` orders arbitrary values: null before everything else, scalars by value, buffers by
content, objects field by field, references by address, types by name; values that are alike in
neither way are a `mismatch`. A field is compared by the comparer of its declared type, if that type
has one, and an object in a field by its own type, so a type's comparer has a say everywhere but at
the top. `compareAs` gives it a say there too.

`compareTyped` is the comparison through a context that may name a type: operands that carry no type
are taken for that type, and operands that carry one have to be of it.
-/

namespace Metaobject

namespace Universe

/-- The comparer that a type brings. -/
def ownComparer? (u : Universe) (t : TypeId) : Option OwnComparer :=
  (u.desc t).behavior.bind (·.comparer)

end Universe

/-- The verdict of a type's own comparer on two values, given the structural verdicts on the values
and on their first fields. -/
def OwnComparer.verdict (c : OwnComparer) (h : Heap) (x y : Value) (whole first : Unit → Verdict) :
    Verdict :=
  match c.rule with
  | .inverted => (whole ()).invert
  | .lessOnly => .ofLess (whole () = .less)
  | .firstField => first ()
  | .custom f => f h c.context (some x) (some y)

namespace Universe

/-- The verdict on two values declared as `t`, given the structural verdicts. -/
def verdictAs (u : Universe) (h : Heap) (t : TypeId) (x y : Value) (whole first : Unit → Verdict) :
    Verdict :=
  if u.accepts t x && u.accepts t y then
    match u.ownComparer? t with
    | some c => c.verdict h x y whole first
    | none => whole ()
  else .mismatch

/-- The verdict on two values of a field, given the structural verdicts. -/
def fieldVerdict (u : Universe) (h : Heap) (declared : Option TypeId) (x y : Value)
    (whole first : Unit → Verdict) : Verdict :=
  match declared.bind u.ownComparer?, x with
  | some c, _ => c.verdict h x y whole first
  | none, .object t _ _ => u.verdictAs h t x y whole first
  | none, _ => whole ()

theorem verdictAs_eq (u : Universe) (h : Heap) (t : TypeId) (x y : Value)
    (whole first : Unit → Verdict) :
    u.verdictAs h t x y whole first =
      if u.accepts t x && u.accepts t y then
        ((u.ownComparer? t).map (·.verdict h x y whole first)).getD (whole ())
      else .mismatch := by
  rw [verdictAs]
  cases u.ownComparer? t <;> rfl

/-- A comparer of the declared type comes first. -/
theorem fieldVerdict_eq (u : Universe) (h : Heap) (declared : Option TypeId) (x y : Value)
    (whole first : Unit → Verdict) :
    u.fieldVerdict h declared x y whole first =
      ((declared.bind u.ownComparer?).map (·.verdict h x y whole first)).getD
        (match x with
          | .object t _ _ => u.verdictAs h t x y whole first
          | _ => whole ()) := by
  unfold fieldVerdict
  cases declared.bind u.ownComparer? with
  | some c => rfl
  | none => cases x <;> rfl

mutual

/-- The structural comparison of two values. -/
def compare (u : Universe) (h : Heap) : Value → Value → Verdict
  | .null, .null => .equal
  | .null, _ => .less
  | _, .null => .greater
  | .scalar a, .scalar b => a.compare b
  | .buffer a, .buffer b =>
    match h.read a, h.read b with
    | some x, some y => .ofOrdering (x.order y)
    | _, _ => .invalid
  | .object t xs _, .object t' ys _ =>
    if t = t' then
      match u.layout? t with
      | some l => compareFields u h l.fields xs ys
      | none => .invalid
    else .mismatch
  | .reference k a, .reference l b =>
    if k = l then .ofOrdering (Ord.compare a b) else .mismatch
  | .descriptor s, .descriptor t =>
    if s = t then .equal else .ofOrdering (Ord.compare (u.name s) (u.name t))
  | _, _ => .mismatch

/-- Compares field values in order, up to the first pair that is not equal. -/
def compareFields (u : Universe) (h : Heap) (declared : List Field) :
    List Value → List Value → Verdict
  | [], [] => .equal
  | [], _ :: _ => .less
  | _ :: _, [] => .greater
  | x :: xs, y :: ys =>
    match u.fieldVerdict h (declared.head?.bind (·.type)) x y (fun _ => compare u h x y)
      (fun _ => compareFirst u h x y) with
    | .equal => compareFields u h declared.tail xs ys
    | v => v

/-- Compares the first fields of two objects. -/
def compareFirst (u : Universe) (h : Heap) : Value → Value → Verdict
  | .object _ (x :: _) _, .object _ (y :: _) _ => compare u h x y
  | _, _ => .invalid

end

/-- Compares two values declared as `t`: by its own comparer if it has one. -/
def compareAs (u : Universe) (h : Heap) (t : TypeId) (x y : Value) : Verdict :=
  u.verdictAs h t x y (fun _ => u.compare h x y) (fun _ => u.compareFirst h x y)

/-- The value carries a type, and it is not one that `t` accepts. -/
def isOutside (u : Universe) (t : TypeId) (v : Value) : Bool :=
  (carriedType? v).isSome && !u.accepts t v

/-- Compares two values by the types they carry, or else by the type of the context. Operands of one
type compare through it, others through the type of the context. -/
def compareTyped (u : Universe) (h : Heap) (c : Context) : Option Value → Option Value → Verdict
  | some x, some y =>
    if c.type?.any fun t => u.isOutside t x || u.isOutside t y then .mismatch
    else
      match (carriedType? x).or c.type?, (carriedType? y).or c.type? with
      | some s, some t =>
        if s = t then u.compareAs h s x y
        else
          match c.type? with
          | some e => u.compareAs h e x y
          | none => .mismatch
      | _, _ => .invalid
  | _, _ => .invalid

end Universe

/-- A comparison of values together with what it is bound to. -/
inductive ValueComparer where
  /-- By type. -/
  | typed (context : Context)
  /-- The way a type compares its own values. -/
  | own (comparer : OwnComparer)

namespace ValueComparer

def context : ValueComparer → Context
  | typed c => c
  | own c => c.context

/-- Compares two operands, either of which may be absent. -/
def compare (u : Universe) (h : Heap) : ValueComparer → Option Value → Option Value → Verdict
  | typed c, x, y => u.compareTyped h c x y
  | own c, some x, some y =>
    c.verdict h x y (fun _ => u.compare h x y) (fun _ => u.compareFirst h x y)
  | own ⟨c, .custom f⟩, x, y => f h c x y
  | own _, _, _ => .invalid

end ValueComparer

namespace Universe

/-- The comparer for values of a type: its own, else the comparison by type. -/
def comparer (u : Universe) (t : TypeId) : ValueComparer :=
  (u.ownComparer? t).elim (.typed (.ofType t)) .own

/-- The value counts as the default of a field. -/
def isDefault (u : Universe) (h : Heap) (f : Field) (v : Value) : Bool :=
  match f.check with
  | none => v.isZero
  | some (.equals w) => u.compare h v w = .equal
  | some (.below w) => u.compare h v w = .less
  | some (.custom p) => p h v

end Universe

end Metaobject
