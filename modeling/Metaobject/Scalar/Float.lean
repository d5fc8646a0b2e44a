/-!
# Binary floating point by its bits

A float is its bit pattern: a sign, an exponent field and a fraction field. `rank` places every
pattern that is a number on the integer line, so that comparing ranks is the IEEE comparison: the
two zeros share a rank, the infinities are the ends, and a pattern that is not a number has none.
`decode` gives the number itself as `m * 2 ^ q`.
-/

namespace Metaobject

/-- The two interchange formats in use. -/
inductive FloatKind where
  | single
  | double
  deriving DecidableEq, Repr

/-- What a bit pattern stands for. -/
inductive FloatValue where
  | nan
  | infinite (negative : Bool)
  /-- The number `m * 2 ^ q`, negated if `negative`. -/
  | finite (negative : Bool) (m : Nat) (q : Int)
  deriving DecidableEq, Repr

namespace FloatKind

/-- Width of a pattern. -/
def bits : FloatKind → Nat
  | single => 32
  | double => 64

/-- Width of the fraction field. -/
def fractionBits : FloatKind → Nat
  | single => 23
  | double => 52

/-- Width of the exponent field. -/
def exponentBits : FloatKind → Nat
  | single => 8
  | double => 11

def name : FloatKind → String
  | single => "f32"
  | double => "f64"

/-- Exponent of the last place of a number whose exponent field is 0 or 1. -/
def minExponent (k : FloatKind) : Int :=
  2 - Int.ofNat (Nat.pow 2 (k.exponentBits - 1)) - k.fractionBits

/-- The pattern without its sign. -/
def magnitude (k : FloatKind) (w : BitVec k.bits) : Nat :=
  w.toNat % Nat.pow 2 (k.bits - 1)

/-- The magnitude of the infinities; everything above is not a number. -/
def infinity (k : FloatKind) : Nat :=
  (Nat.pow 2 k.exponentBits - 1) * Nat.pow 2 k.fractionBits

/-- Place on the integer line; `none` for a pattern that is not a number. -/
def rank (k : FloatKind) (w : BitVec k.bits) : Option Int :=
  let m := k.magnitude w
  if k.infinity < m then none
  else if w.msb then some (-m) else some m

/-- The number that a pattern stands for. -/
def decode (k : FloatKind) (w : BitVec k.bits) : FloatValue :=
  let m := k.magnitude w
  if k.infinity < m then .nan
  else if m = k.infinity then .infinite w.msb
  else
    let field := m / Nat.pow 2 k.fractionBits
    let fraction := m % Nat.pow 2 k.fractionBits
    if field = 0 then .finite w.msb fraction k.minExponent
    else .finite w.msb (Nat.pow 2 k.fractionBits + fraction) (k.minExponent + (field - 1 : Nat))

example : double.decode 0x3ff8000000000000#64 = .finite false 0x18000000000000 (-52) := by decide
example : double.rank 0x8000000000000000#64 = double.rank 0#64 := by decide
example : single.decode 0xff800000#32 = .infinite true := by decide

end FloatKind

end Metaobject
