/-!
# Verdicts of a three-way comparison

A comparison of two operands answers `less`, `equal` or `greater`, or it says why there is no
answer: `invalid` when an operand is absent or the two have no order, `mismatch` when they are of
different types, `lossy` when only a "less than" test was at hand and it failed.

Verdicts travel between programs as 32-bit codes: -1, 0 and 1 for the answers, the three ends of the
range for the rest. `ofCode_code` says that nothing is lost on the way, `invert_invert` and
`invert_ofOrdering` that exchanging the operands is the reflection of an answer.
-/

namespace Metaobject

/-- What a three-way comparison has to say about two operands. -/
inductive Verdict where
  | less
  | equal
  | greater
  /-- An operand is absent, or the operands have no order. -/
  | invalid
  /-- The operands are of different types. -/
  | mismatch
  /-- Only a "less than" test was available, and it did not hold. -/
  | lossy
  deriving DecidableEq, Repr, Inhabited

namespace Verdict

/-- The verdict of a total order. -/
def ofOrdering : Ordering → Verdict
  | .lt => .less
  | .eq => .equal
  | .gt => .greater

/-- The verdict of a partial order: operands without an order are `invalid`. -/
def ofPartial : Option Ordering → Verdict
  | some o => ofOrdering o
  | none => .invalid

/-- The verdict of a "less than" test, which cannot tell equal from greater. -/
def ofLess (less : Bool) : Verdict :=
  if less then .less else .lossy

/-- The answer as an order, when there is one. -/
def toOrdering? : Verdict → Option Ordering
  | .less => some .lt
  | .equal => some .eq
  | .greater => some .gt
  | _ => none

/-- An answer, as opposed to the absence of one. -/
def isOrdinary (v : Verdict) : Bool :=
  v.toOrdering?.isSome

/-- The operands could not be compared at all. -/
def isError : Verdict → Bool
  | .invalid | .mismatch => true
  | _ => false

/-- The verdict on the exchanged operands: answers are reflected, the rest stays. -/
def invert : Verdict → Verdict
  | .less => .greater
  | .greater => .less
  | v => v

/-- Chains a tie-breaker: the second verdict counts only if the first is `equal`. -/
def andThen : Verdict → Verdict → Verdict
  | .equal, w => w
  | v, _ => v

/-- The 32-bit code of a verdict. -/
def code : Verdict → Int
  | .less => -1
  | .equal => 0
  | .greater => 1
  | .invalid => -2147483648
  | .mismatch => -2147483647
  | .lossy => 2147483647

/-- Reads a code; a difference that is no code of its own counts by its sign. -/
def ofCode (raw : Int) : Verdict :=
  if raw = -2147483648 then .invalid
  else if raw = -2147483647 then .mismatch
  else if raw = 2147483647 then .lossy
  else if raw < 0 then .less
  else if raw = 0 then .equal
  else .greater

/-- The word for a verdict. -/
def name : Verdict → String
  | .less => "Less"
  | .equal => "Equal"
  | .greater => "Greater"
  | .invalid => "Invalid"
  | .mismatch => "Mismatch"
  | .lossy => "Lossy"

/-- A verdict is read back from its code. -/
@[simp] theorem ofCode_code (v : Verdict) : ofCode v.code = v := by
  cases v <;> rfl

/-- To turn a verdict around twice changes nothing. -/
@[simp] theorem invert_invert (v : Verdict) : v.invert.invert = v := by
  cases v <;> rfl

/-- A verdict turns around with the ordering that it comes from. -/
theorem invert_ofOrdering (o : Ordering) : (ofOrdering o).invert = ofOrdering o.swap := by
  cases o <;> rfl

/-- An ordinary verdict stays ordinary when it is turned around. -/
@[simp] theorem isOrdinary_invert (v : Verdict) : v.invert.isOrdinary = v.isOrdinary := by
  cases v <;> rfl

/-- The ordinary verdicts are those that put two things in order. -/
theorem isOrdinary_iff {v : Verdict} :
    v.isOrdinary = true ↔ v = .less ∨ v = .equal ∨ v = .greater := by
  cases v <;> simp [isOrdinary, toOrdering?]

end Verdict

end Metaobject
