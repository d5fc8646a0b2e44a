import Metaobject.Comparison.Operands
import Metaobject.Session.Basic

/-!
# Steps that compare

Operands may be absent. Sorting works on temporary values; what is searched is what the sort left,
even if it was stopped.
-/

namespace Metaobject

/-- What a comparer is bound to, by name. -/
inductive ContextExpr where
  | none
  | length (n : Nat)
  | ofType (type : String)

/-- How values are compared. -/
inductive CompareHow where
  /-- By their structure. -/
  | structural
  /-- As values of a type. -/
  | declaredAs (type : String)
  /-- By the types they carry, within a context. -/
  | typed (c : ContextExpr)
  /-- As a type says. -/
  | comparerOf (type : String)
  /-- By the comparer that a type brings. -/
  | ownOf (type : String)

/-- What a sort and a search came to. -/
structure SortView (α : Type) where
  items : List α
  stopped : Option Verdict
  found : Option (Except Verdict (Option Nat))

/-- Sorts, if asked to, and looks for the key, if there is one. -/
def sortAndSearch {α : Type} (cmp : α → α → Verdict) (sorting : Bool) (items : List α)
    (key : Option α) : SortView α :=
  let (items, stopped) := if sorting then Sequence.sort cmp items else (items, none)
  { items, stopped, found := key.map (Sequence.search cmp items.toArray) }

/-- A comparison of two operands, and what its comparer is bound to. -/
structure CompareView where
  verdict : Verdict
  /-- Absent if an operand is. -/
  equal : Option Bool
  type : Option String
  length : Option Nat

namespace Step

def context : ContextExpr → Step Context
  | .none => return .none
  | .length n => return .length n
  | .ofType type => return .ofType (← typeNamed type)

/-- A comparison that brings a comparer, as opposed to one that only has a verdict. -/
def comparer? : CompareHow → Step (Option ValueComparer)
  | .structural | .declaredAs _ => return none
  | .typed c => return some (.typed (← context c))
  | .comparerOf type => return some ((← schema).comparer (← typeNamed type))
  | .ownOf type => do
    return some (.own (← require ("comparer of " ++ type)
      ((← schema).ownComparer? (← typeNamed type))))

/-- The verdict on two operands. -/
def verdict (how : CompareHow) (x y : Option Value) : Step Verdict := do
  let u ← schema
  let h ← heap
  match how with
  | .structural => return comparePresent (u.compare h) x y
  | .declaredAs type => return comparePresent (u.compareAs h (← typeNamed type)) x y
  | _ => return (← comparer? how).elim .invalid (·.compare u h x y)

def compareView (how : CompareHow) (x y : Option Value) : Step CompareView := do
  let v ← verdict how x y
  let c := ((← comparer? how).map (·.context)).getD .none
  return {
    verdict := v
    equal := if x.isSome && y.isSome then some (v = .equal) else none
    type := typeNames (← get) c.type?, length := c.length? }

/-- Compares two operands. -/
def compare (how : CompareHow) (a b : Option Operand) : Step CompareView :=
  withOperand? a fun x => withOperand? b fun y => do compareView how (← x) (← y)

/-- The order that some values are sorted in. -/
def order (how : CompareHow) : Step (Value → Value → Verdict) := do
  let u ← schema
  let h ← heap
  match how with
  | .structural => return u.compare h
  | .declaredAs type => return u.compareAs h (← typeNamed type)
  | _ => return ((← comparer? how).elim fun _ _ => .invalid) fun c x y =>
      c.compare u h (some x) (some y)

/-- Sorts some values, and then looks for a key among them. The values are dropped in the order that
the sort left them in. -/
def sortValues (how : CompareHow) (items : List Expr) (key : Option Operand) :
    Step (SortView View) := do
  let values ← evalAll items
  let (sorted, stopped) := Sequence.sort (← order how) values
  dropping sorted <| withOperand? key fun key => do
    let found := (sortAndSearch (← order how) false sorted (← key)).found
    return { items := viewsOf (← get) sorted, stopped, found }

end Step

end Metaobject
