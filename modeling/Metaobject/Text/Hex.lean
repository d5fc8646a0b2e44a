import Metaobject.Text.Terminated

/-!
# Hexadecimal text

Bytes are written as two lowercase digits each. `decode_encode` says that reading gives them back.
-/

namespace Metaobject.Hex

/-- The digit of a number below 16. -/
def digit (n : Nat) : Char :=
  "0123456789abcdef".toList.getD n '0'

/-- The number of a digit. -/
def value? (c : Char) : Option Nat :=
  if '0' ≤ c ∧ c ≤ '9' then some (c.toNat - '0'.toNat)
  else if 'a' ≤ c ∧ c ≤ 'f' then some (c.toNat - 'a'.toNat + 10)
  else if 'A' ≤ c ∧ c ≤ 'F' then some (c.toNat - 'A'.toNat + 10)
  else none

/-- The two digits of a byte. -/
def encodeByte (b : UInt8) : List Char :=
  [digit (b.toNat / 16), digit (b.toNat % 16)]

/-- The digits of the bytes, one byte after the other. -/
def encode (bytes : Bytes) : String :=
  String.ofList (bytes.flatMap encodeByte)

/-- The byte with the given digits. -/
def byteOf (high low : Nat) : UInt8 :=
  UInt8.ofNat (16 * high + low)

/-- The bytes that pairs of digits stand for. -/
def decodeChars : List Char → Option Bytes
  | [] => some []
  | [_] => none
  | c :: d :: rest => do
    let high ← value? c
    let low ← value? d
    return byteOf high low :: (← decodeChars rest)

/-- The bytes that a text stands for, if it consists of pairs of digits. -/
def decode (s : String) : Option Bytes :=
  decodeChars s.toList

/-- A number in exactly `width` digits. -/
def padded (width n : Nat) : String :=
  String.ofList ((List.range width).reverse.map fun i => digit (n / Nat.pow 16 i % 16))

/-- Reads a number. -/
def number? (s : String) : Option Nat :=
  s.toList.foldlM (fun n c => (value? c).map (16 * n + ·)) 0

/-- A digit is read as what it stands for. -/
theorem value?_digit : ∀ n < 16, value? (digit n) = some n := by
  decide

/-- The digits of a byte stand for the byte. -/
theorem byteOf_digits (b : UInt8) : byteOf (b.toNat / 16) (b.toNat % 16) = b := by
  rw [byteOf, Nat.div_add_mod, UInt8.ofNat_toNat]

/-- What was written as digits is read as it was. -/
theorem decodeChars_encode (bytes : Bytes) :
    decodeChars (bytes.flatMap encodeByte) = some bytes := by
  induction bytes with
  | nil => rfl
  | cons b bs ih =>
    have hb : b.toNat < 256 := b.toNat_lt
    simp [encodeByte, decodeChars, ih, value?_digit (b.toNat / 16) (by omega),
      value?_digit (b.toNat % 16) (by omega), byteOf_digits]

/-- So is a whole text. -/
theorem decode_encode (bytes : Bytes) : decode (encode bytes) = some bytes := by
  simp [decode, encode, decodeChars_encode]

end Metaobject.Hex
