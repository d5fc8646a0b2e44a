import Metaobject.Scalar.Float

/-!
# The shortest decimal that reads back

Between two neighbouring floats lie the numbers that are rounded to either; those that are rounded
to a float make up an interval around it. `Rounding` is such an interval, measured in a unit in
which the float and both ends are whole numbers. `shortest` finds the coarsest decimal grid with a
point inside, and there the point nearest to the float. `contains_shortest` says that the point it
finds is inside.
-/

namespace Metaobject

/-- The number `digits * 10 ^ exponent`. -/
structure Decimal where
  digits : Nat
  exponent : Int
  deriving DecidableEq, Repr

/-- The numbers that are rounded to `value`. -/
structure Rounding where
  lower : Nat
  value : Nat
  upper : Nat
  /-- The ends are rounded to the value, too. -/
  closed : Bool
  lower_lt : lower < value
  lt_upper : value < upper

namespace Rounding

/-- The number is rounded to the value. -/
def contains (r : Rounding) (n : Nat) : Bool :=
  if r.closed then r.lower ≤ n && n ≤ r.upper else r.lower < n && n < r.upper

/-- The multiple of `step` next to the value that is rounded to it; of two the nearer one, and of
two equally near ones the greater. -/
def neighbour? (r : Rounding) (step : Nat) : Option Nat :=
  let below := r.value / step
  if r.contains (below * step) && (2 * (r.value % step) < step || !r.contains ((below + 1) * step))
  then some below
  else if r.contains ((below + 1) * step) then some (below + 1)
  else none

/-- The nearest point of the coarsest grid that has a point inside, of the grids of `10 ^ places`
and finer ones. -/
def shortest (r : Rounding) : (places : Nat) → Decimal
  | 0 => ⟨r.value, 0⟩
  | places + 1 =>
    match r.neighbour? (Nat.pow 10 (places + 1)) with
    | some n => ⟨n, (places + 1 : Nat)⟩
    | none => r.shortest places

theorem contains_value (r : Rounding) : r.contains r.value = true := by
  have hl := r.lower_lt
  have hu := r.lt_upper
  unfold contains
  split <;> simp <;> omega

theorem contains_neighbour? {r : Rounding} {step n : Nat} (h : r.neighbour? step = some n) :
    r.contains (n * step) = true := by
  simp only [neighbour?] at h
  split at h
  · simp_all
  · split at h <;> simp_all

theorem contains_shortest (r : Rounding) (places : Nat) :
    ∃ n : Nat, (r.shortest places).exponent = n ∧
      r.contains ((r.shortest places).digits * Nat.pow 10 n) = true := by
  induction places with
  | zero => exact ⟨0, rfl, by simpa [shortest] using r.contains_value⟩
  | succ places ih =>
    unfold shortest
    split
    · exact ⟨places + 1, rfl, contains_neighbour? (by assumption)⟩
    · exact ih

end Rounding

namespace FloatKind

/-- A number that is a whole multiple of `2 ^ e` is a whole multiple of `10 ^ min e 0`; this is how
many of the second make one of the first. -/
def unitsPer (e : Int) : Nat :=
  Nat.pow 2 e.toNat * Nat.pow 5 (-e).toNat

theorem unitsPer_pos (e : Int) : 0 < unitsPer e :=
  Nat.mul_pos (Nat.pow_pos (by decide)) (Nat.pow_pos (by decide))

/-- The interval around `m * 2 ^ q`, in units of `10 ^ min (q - 2) 0`. The ends are half way to the
neighbours; below a power of two the neighbour is only half as far away. An even number takes the
ends. -/
def rounding (k : FloatKind) (m : Nat) (q : Int) (hm : 0 < m) : Rounding where
  lower :=
    (4 * m - if m = Nat.pow 2 k.fractionBits ∧ k.minExponent < q then 1 else 2) * unitsPer (q - 2)
  value := 4 * m * unitsPer (q - 2)
  upper := (4 * m + 2) * unitsPer (q - 2)
  closed := m % 2 = 0
  lower_lt := Nat.mul_lt_mul_of_pos_right (by split <;> omega) (unitsPer_pos _)
  lt_upper := Nat.mul_lt_mul_of_pos_right (by omega) (unitsPer_pos _)

/-- The shortest decimal that reads back as `m * 2 ^ q`. -/
def shortest (k : FloatKind) (m : Nat) (q : Int) : Decimal :=
  if hm : 0 < m then
    let r := k.rounding m q hm
    let d := r.shortest ((Nat.toDigits 10 r.value).length - 1)
    { d with exponent := d.exponent + min (q - 2) 0 }
  else ⟨0, 0⟩

end FloatKind

end Metaobject
