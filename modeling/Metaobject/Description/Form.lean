import Metaobject.Decimal.Shortest
import Metaobject.Text.Quoted

/-!
# The forms of a description

A description shows what something holds, on one line: a word, a number, a quoted text, a list in
brackets, parts in parentheses after a name, or labelled parts in braces after a name.

A float is described by the fewest digits that read back. The point stands where it belongs as long
as the number is at least `10 ^ -4` and less than `10 ^ 16`, and at least one digit follows it;
other numbers are written with an exponent.
-/

namespace Metaobject.Description

/-- The parts with commas between them. -/
def separated (parts : List String) : String :=
  ", ".intercalate parts

/-- The parts in brackets. -/
def list (parts : List String) : String :=
  "[" ++ separated parts ++ "]"

/-- A name and its parts in parentheses. -/
def call (name : String) (parts : List String) : String :=
  name ++ "(" ++ separated parts ++ ")"

/-- A name and its parts in braces, every part after its label. -/
def record (name : String) (parts : List (String × String)) : String :=
  name ++ " \x7b " ++ separated (parts.map fun (label, part) => label ++ ": " ++ part) ++ " \x7d"

/-- A record that does not show everything. -/
def partialRecord (name : String) (parts : List (String × String)) : String :=
  name ++ " \x7b " ++
    separated (parts.map (fun (label, part) => label ++ ": " ++ part) ++ [".."]) ++ " \x7d"

/-- What may be absent, and says so if it is. -/
def optional : Option String → String
  | none => "None"
  | some part => call "Some" [part]

/-- The word for a truth value. -/
def flag (b : Bool) : String :=
  if b then "true" else "false"

/-- The digits of a number. -/
def number (n : Nat) : String :=
  toString n

/-- The digits of a decimal without the zeros at their end, and the place of the point: the number
is `0.digits * 10 ^ point`. -/
def significant (d : Decimal) : List Char × Int :=
  let digits := Nat.toDigits 10 d.digits
  ((digits.reverse.dropWhile (· = '0')).reverse, digits.length + d.exponent)

/-- A number of zeros. -/
def zeros (n : Nat) : List Char :=
  List.replicate n '0'

/-- Digits with the point among them. -/
def positional (digits : List Char) (point : Int) : List Char :=
  if point ≤ 0 then ['0', '.'] ++ zeros (-point).toNat ++ digits
  else
    let whole := point.toNat
    digits.take whole ++ zeros (whole - digits.length) ++ ['.'] ++
      if whole < digits.length then digits.drop whole else ['0']

/-- Digits with the point after the first one, and an exponent. -/
def scientific (digits : List Char) (point : Int) : List Char :=
  let fraction := digits.drop 1
  digits.take 1 ++ (if fraction.isEmpty then [] else '.' :: fraction) ++
    'e' :: (toString (point - 1)).toList

/-- A positive decimal. -/
def decimal (d : Decimal) : String :=
  let (digits, point) := significant d
  String.ofList
    (if -4 < point ∧ point ≤ 16 then positional digits point else scientific digits point)

/-- The sign of a number, if it is negative, and the rest. -/
def signed (negative : Bool) (s : String) : String :=
  if negative then "-" ++ s else s

/-- A float by the fewest digits that read back. -/
def float (k : FloatKind) (w : BitVec k.bits) : String :=
  match k.decode w with
  | .nan => "NaN"
  | .infinite negative => signed negative "inf"
  | .finite negative 0 _ => signed negative "0.0"
  | .finite negative m q => signed negative (decimal (k.shortest m q))

end Metaobject.Description
