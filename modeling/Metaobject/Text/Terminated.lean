import Metaobject.Verdict

/-!
# Comparing bytes

Two ways to compare byte strings. `compareRange` compares the first `n` bytes of both and wants them
all to be there. `compareUpTo` compares zero-terminated texts, at most `limit` bytes of them, and
`compareTerminated` compares them to their end: a text ends at its first zero byte, and the end of
the bytes counts as one. Bytes are unsigned.
-/

namespace Metaobject

abbrev Bytes := List UInt8

/-- Width of a byte count: counts are below `2 ^ 64`. -/
def countLimit : Nat := Nat.pow 2 64

namespace Bytes

/-- Lexicographic order, a proper beginning first. -/
def order : Bytes → Bytes → Ordering
  | [], [] => .eq
  | [], _ :: _ => .lt
  | _ :: _, [] => .gt
  | x :: xs, y :: ys => (compare x y).then (order xs ys)

/-- Compares the first `n` bytes of both; `invalid` if one of them is shorter. -/
def compareRange (n : Nat) (a b : Bytes) : Verdict :=
  if n ≤ a.length ∧ n ≤ b.length then .ofOrdering (order (a.take n) (b.take n)) else .invalid

/-- Compares two zero-terminated texts, looking at no more than `limit` bytes of each. -/
def compareUpTo (limit : Nat) (a b : Bytes) : Verdict :=
  match limit, a, b with
  | 0, _, _ => .equal
  | _, [], [] => .equal
  | _, [], y :: _ => if y = 0 then .equal else .less
  | _, x :: _, [] => if x = 0 then .equal else .greater
  | limit + 1, x :: xs, y :: ys =>
    if x ≠ y then .ofOrdering (compare x y)
    else if x = 0 then .equal
    else compareUpTo limit xs ys

/-- Compares two zero-terminated texts to their end. -/
def compareTerminated (a b : Bytes) : Verdict :=
  compareUpTo (max a.length b.length) a b

/-- The text of some bytes: what stands before the first zero byte. -/
def text (a : Bytes) : Bytes :=
  a.takeWhile (· ≠ 0)

end Bytes

end Metaobject
