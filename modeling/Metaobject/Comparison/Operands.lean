import Metaobject.Comparison.Structural
import Metaobject.Sequence

/-!
# Comparing operands that may be absent

Every comparer answers `invalid` when an operand is absent, so that sorting and searching can stop
instead of failing. The comparers of bytes that look at a bounded number of them take the bound from
their context, and answer `invalid` without one.
-/

namespace Metaobject

variable {α : Type}

/-- Compares two operands that are present. -/
def comparePresent (cmp : α → α → Verdict) : Option α → Option α → Verdict
  | some x, some y => cmp x y
  | _, _ => .invalid

/-- Asks only whether the first operand is less. -/
def compareLess (cmp : α → α → Verdict) : Option α → Option α → Verdict :=
  comparePresent fun x y => .ofLess (cmp x y = .less)

namespace Bytes

/-- How byte strings are compared. -/
inductive Mode where
  /-- The first bytes, as many as the context says. -/
  | range
  /-- Zero-terminated, with the bound of the context. -/
  | bounded
  /-- Zero-terminated, without a bound. -/
  | terminated

def Mode.compare : Mode → Context → Option Bytes → Option Bytes → Verdict
  | range, c => comparePresent fun a b => c.length?.elim .invalid (compareRange · a b)
  | bounded, c => comparePresent fun a b => c.length?.elim .invalid (compareUpTo · a b)
  | terminated, _ => comparePresent compareTerminated

end Bytes

/-- Compares texts by their bytes. -/
def compareText (a b : String) : Verdict :=
  .ofOrdering (compare a b)

end Metaobject
