import Metaobject.Decimal.Shortest
import Metaobject.Scalar

/-!
# Reading numbers

An integer is read digit by digit, and the first fault counts: a character that is no digit, or a
digit with which the number no longer fits its kind. A float is read as a decimal, with or without a
point and an exponent, and rounded once: to the nearest float, and of two equally near ones to the
even one. The words for what is no number are read in any case.
-/

namespace Metaobject

/-- Why a text is no number. -/
inductive NumberFault where
  | noDigits
  | badDigit
  | tooLarge
  | tooSmall
  | noFloat
  | badFloat
  deriving DecidableEq, Repr

/-- The wording of a fault. -/
def NumberFault.message : NumberFault → String
  | noDigits => "cannot parse integer from empty string"
  | badDigit => "invalid digit found in string"
  | tooLarge => "number too large to fit in target type"
  | tooSmall => "number too small to fit in target type"
  | noFloat => "cannot parse float from empty string"
  | badFloat => "invalid float literal"

/-- The number of a decimal digit. -/
def digit? (c : Char) : Option Nat :=
  if c.isDigit then some (c.toNat - '0'.toNat) else none

/-- Reads digits after those of `n`, as long as the number is at most `limit`. -/
def readDigits (limit : Nat) (excess : NumberFault) (n : Nat) : List Char → Except NumberFault Nat
  | [] => .ok n
  | c :: cs =>
    match digit? c with
    | none => .error .badDigit
    | some d =>
      if limit < 10 * n + d then .error excess else readDigits limit excess (10 * n + d) cs

namespace IntKind

/-- The greatest integer of a kind. -/
def greatest (k : IntKind) : Nat :=
  if k.signed then Nat.pow 2 (k.bits - 1) - 1 else Nat.pow 2 k.bits - 1

/-- Reads an integer. A plus sign is always allowed in front, a minus sign if the kind has negative
integers. -/
def read (k : IntKind) (s : String) : Except NumberFault Int :=
  match s.toList with
  | [] => .error .noDigits
  | ['+'] | ['-'] => .error .badDigit
  | '+' :: cs => (readDigits k.greatest .tooLarge 0 cs).map Int.ofNat
  | '-' :: cs =>
    if k.signed then (readDigits (k.greatest + 1) .tooSmall 0 cs).map (-Int.ofNat ·)
    else .error .badDigit
  | cs => (readDigits k.greatest .tooLarge 0 cs).map Int.ofNat

end IntKind

namespace Decimal

/-- The number that some digits make. -/
def ofDigits (cs : List Char) : Nat :=
  cs.foldl (fun n c => 10 * n + (digit? c).getD 0) 0

/-- Reads the exponent that may end a number. -/
def readExponent : List Char → Option Int
  | [] => some 0
  | e :: cs =>
    if e = 'e' ∨ e = 'E' then
      match cs with
      | '-' :: ds => (digits? ds).map fun n => -Int.ofNat n
      | '+' :: ds => (digits? ds).map Int.ofNat
      | ds => (digits? ds).map Int.ofNat
    else none
where
  digits? (ds : List Char) : Option Nat :=
    if !ds.isEmpty && ds.all Char.isDigit then some (ofDigits ds) else none

/-- Reads a number without a sign. There has to be a digit on one side of the point. -/
def read? (cs : List Char) : Option Decimal :=
  let whole := cs.takeWhile Char.isDigit
  let rest := cs.dropWhile Char.isDigit
  let (fraction, rest) :=
    match rest with
    | '.' :: cs => (cs.takeWhile Char.isDigit, cs.dropWhile Char.isDigit)
    | _ => ([], rest)
  if whole.isEmpty && fraction.isEmpty then none
  else (readExponent rest).map fun e => ⟨ofDigits (whole ++ fraction), e - fraction.length⟩

end Decimal

namespace FloatKind

/-- The quotient, rounded to the nearest natural number and half way to the even one. -/
def roundQuotient (n d : Nat) : Nat :=
  let q := n / d
  match compare (2 * (n % d)) d with
  | .lt => q
  | .gt => q + 1
  | .eq => q + q % 2

/-- The greatest `e` with `2 ^ e ≤ n / d`. -/
def logQuotient (n d : Nat) : Int :=
  let e : Int := Int.ofNat n.log2 - d.log2
  if n * Nat.pow 2 (-e).toNat < d * Nat.pow 2 e.toNat then e - 1 else e

/-- The magnitude of the float nearest to `n / d`. A magnitude counts the last places up to the
float, so a number that is rounded up to the next power of two needs no care. -/
def nearest (k : FloatKind) (n d : Nat) : Nat :=
  if n = 0 then 0
  else
    let q := max k.minExponent (logQuotient n d - k.fractionBits)
    let m := roundQuotient (n * Nat.pow 2 (-q).toNat) (d * Nat.pow 2 q.toNat)
    min k.infinity ((q - k.minExponent).toNat * Nat.pow 2 k.fractionBits + m)

/-- The magnitude of the float nearest to a decimal. Of a decimal that is beyond all floats, or
closer to zero than all of them, only the size is looked at. -/
def ofDecimal (k : FloatKind) (d : Decimal) : Nat :=
  let size := (Nat.toDigits 10 d.digits).length + d.exponent
  if d.digits = 0 ∨ size < k.minExponent then 0
  else if Int.ofNat (Nat.pow 2 (k.exponentBits - 1)) < size then k.infinity
  else k.nearest (d.digits * Nat.pow 10 d.exponent.toNat) (Nat.pow 10 (-d.exponent).toNat)

/-- The pattern with a magnitude and a sign. -/
def ofMagnitude (k : FloatKind) (negative : Bool) (magnitude : Nat) : BitVec k.bits :=
  BitVec.ofNat k.bits (magnitude + if negative then Nat.pow 2 (k.bits - 1) else 0)

/-- Reads what follows the sign. -/
def readMagnitude (k : FloatKind) (cs : List Char) : Option Nat :=
  let word := String.ofList (cs.map Char.toLower)
  if word = "inf" ∨ word = "infinity" then some k.infinity
  else if word = "nan" then some (k.infinity + Nat.pow 2 (k.fractionBits - 1))
  else (Decimal.read? cs).map k.ofDecimal

/-- Reads a float. -/
def read (k : FloatKind) (s : String) : Except NumberFault (BitVec k.bits) :=
  let signed (negative : Bool) (cs : List Char) : Except NumberFault (BitVec k.bits) :=
    match k.readMagnitude cs with
    | some m => .ok (k.ofMagnitude negative m)
    | none => .error .badFloat
  match s.toList with
  | [] => .error .noFloat
  | '-' :: cs => signed true cs
  | '+' :: cs => signed false cs
  | cs => signed false cs

end FloatKind

end Metaobject
