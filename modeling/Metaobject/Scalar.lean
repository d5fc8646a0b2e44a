import Metaobject.Verdict
import Metaobject.Scalar.Float

/-!
# Machine scalars

A scalar is a boolean, a character, a fixed-width integer or a float; words are kept at their width,
so a number out of range cannot be written down. Scalars of one kind are compared by value, scalars
of different kinds are a `mismatch`, and a float that is not a number is `invalid` beside any other.
-/

namespace Metaobject

/-- The integer kinds. Addresses and sizes are 64 bits wide. -/
inductive IntKind where
  | i8 | i16 | i32 | i64 | isize | u8 | u16 | u32 | u64 | usize
  deriving DecidableEq, Repr

namespace IntKind

/-- The width of an integer of a kind. -/
def bits : IntKind → Nat
  | i8 | u8 => 8
  | i16 | u16 => 16
  | i32 | u32 => 32
  | i64 | u64 | isize | usize => 64

/-- Whether the kind has negative numbers. -/
def signed : IntKind → Bool
  | i8 | i16 | i32 | i64 | isize => true
  | u8 | u16 | u32 | u64 | usize => false

/-- The integer that a word stands for. -/
def value (k : IntKind) (w : BitVec k.bits) : Int :=
  if k.signed then w.toInt else w.toNat

/-- Different words stand for different numbers. -/
theorem value_inj {k : IntKind} {v w : BitVec k.bits} : k.value v = k.value w ↔ v = w := by
  unfold value
  split
  · exact BitVec.toInt_inj
  · exact Int.ofNat_inj.trans BitVec.toNat_inj

end IntKind

/-- The kinds of scalars. -/
inductive ScalarKind where
  | bool
  | char
  | int (kind : IntKind)
  | float (kind : FloatKind)
  deriving DecidableEq, Repr

/-- A scalar, kept at the width of its kind. -/
inductive Scalar where
  | bool (b : Bool)
  | char (c : Char)
  | int (kind : IntKind) (word : BitVec kind.bits)
  | float (kind : FloatKind) (word : BitVec kind.bits)
  deriving DecidableEq, Repr

namespace ScalarKind

/-- Every kind, in the order of their indexes. -/
def all : List ScalarKind :=
  [bool, char, int .i8, int .i16, int .i32, int .i64, int .isize, int .u8, int .u16, int .u32,
    int .u64, int .usize, float .single, float .double]

/-- The word for a kind of scalars. -/
def name : ScalarKind → String
  | bool => "bool"
  | char => "char"
  | int .i8 => "i8"
  | int .i16 => "i16"
  | int .i32 => "i32"
  | int .i64 => "i64"
  | int .isize => "isize"
  | int .u8 => "u8"
  | int .u16 => "u16"
  | int .u32 => "u32"
  | int .u64 => "u64"
  | int .usize => "usize"
  | float k => k.name

/-- What the kind is for, in words. -/
def info : ScalarKind → String
  | bool => "boolean"
  | char => "unicode scalar value"
  | int .i8 => "signed 8-bit integer"
  | int .i16 => "signed 16-bit integer"
  | int .i32 => "signed 32-bit integer"
  | int .i64 => "signed 64-bit integer"
  | int .isize => "pointer difference"
  | int .u8 => "unsigned 8-bit integer"
  | int .u16 => "unsigned 16-bit integer"
  | int .u32 => "unsigned 32-bit integer"
  | int .u64 => "unsigned 64-bit integer"
  | int .usize => "object size"
  | float .single => "single precision float"
  | float .double => "double precision float"

/-- Width in bytes. -/
def size : ScalarKind → Nat
  | bool => 1
  | char => 4
  | int k => k.bits / 8
  | float k => k.bits / 8

/-- Position in `all`. -/
def index (k : ScalarKind) : Nat :=
  all.idxOf k

/-- The kind with a given name. -/
def ofName? (name : String) : Option ScalarKind :=
  all.find? (·.name = name)

/-- The scalar whose bits are all zero. -/
def zero : ScalarKind → Scalar
  | bool => .bool false
  | char => .char (Char.ofNat 0)
  | int k => .int k 0
  | float k => .float k 0

example : all.map index = List.range 14 := by decide

end ScalarKind

namespace Scalar

/-- The kind of a scalar. -/
def kind : Scalar → ScalarKind
  | bool _ => .bool
  | char _ => .char
  | int k _ => .int k
  | float k _ => .float k

/-- All bits are zero. A negative zero is not. -/
def isZero (s : Scalar) : Bool :=
  s = s.kind.zero

/-- The comparison by value. -/
def compare : Scalar → Scalar → Verdict
  | .bool a, .bool b => .ofOrdering (Ord.compare a.toNat b.toNat)
  | .char a, .char b => .ofOrdering (Ord.compare a.toNat b.toNat)
  | .int k a, .int l b =>
    if k = l then .ofOrdering (Ord.compare (k.value a) (l.value b)) else .mismatch
  | .float k a, .float l b =>
    if k = l then
      match k.rank a, l.rank b with
      | some x, some y => .ofOrdering (Ord.compare x y)
      | _, _ => .invalid
    else .mismatch
  | _, _ => .mismatch

/-- The zero of a kind is of that kind. -/
@[simp] theorem kind_zero (k : ScalarKind) : k.zero.kind = k := by
  cases k <;> rfl

/-- The zero of a kind is zero. -/
@[simp] theorem isZero_zero (k : ScalarKind) : k.zero.isZero = true := by
  simp [isZero]

end Scalar

end Metaobject
