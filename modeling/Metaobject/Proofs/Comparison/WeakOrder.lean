import Metaobject.Comparison.Structural
import Metaobject.Proofs.Universe.WellTyped

/-!
# The structural comparison as an order

Where no type has a comparer of its own, "less" is a strict order on all values, whether they are
well typed or not, and values that are equal may stand for each other, also beside a value that
neither of them can be compared with. `Verdict.Chained` says what three verdicts on three operands
have to do with each other. It passes through a comparison field by field, and between values of
different sorts it is a matter of the sorts alone. `Universe.compare_strictWeakOrder` is the result.
-/

namespace Metaobject

/-! ### Three verdicts on three operands -/

namespace Verdict

/-- A verdict that comes from an ordering is "less" if that is. -/
lemma ofOrdering_eq_less {o : Ordering} : ofOrdering o = .less ↔ o = .lt := by
  cases o <;> simp [ofOrdering]

/-- And it is "equal" if that is. -/
lemma ofOrdering_eq_equal {o : Ordering} : ofOrdering o = .equal ↔ o = .eq := by
  cases o <;> simp [ofOrdering]

/-- A verdict other than "equal" is not overruled. -/
lemma andThen_of_ne {v : Verdict} (ne : v ≠ .equal) (w : Verdict) : v.andThen w = v := by
  cases v with
  | equal => exact absurd rfl ne
  | _ => rfl

/-- Verdicts on the first and second, the second and third, and the first and third of three
operands: "less" carries over, and an operand may stand for one that it is equal to. -/
structure Chained (xy yz xz : Verdict) : Prop where
  less : xy = .less → yz = .less → xz = .less
  left : xy = .equal → xz = yz
  right : yz = .equal → xz = xy

namespace Chained

variable {xy yz xz : Verdict}

/-- Where the first two operands are neither less nor equal, only the third can stand for the
second. -/
lemma of_first (ne : xy ≠ .less ∧ xy ≠ .equal) (right : yz = .equal → xz = xy) :
    Chained xy yz xz where
  less less := absurd less ne.1
  left equal := absurd equal ne.2
  right := right

/-- Where the last two operands are neither less nor equal, only the first can stand for the second.
-/
lemma of_last (ne : yz ≠ .less ∧ yz ≠ .equal) (left : xy = .equal → xz = yz) :
    Chained xy yz xz where
  less _ less := absurd less ne.1
  left := left
  right equal := absurd equal ne.2

/-- A tie-breaker comes in only where the first verdicts are equal. -/
lemma andThen {xy' yz' xz' : Verdict} (first : Chained xy yz xz) (rest : Chained xy' yz' xz') :
    Chained (xy.andThen xy') (yz.andThen yz') (xz.andThen xz') := by
  by_cases xyE : xy = .equal
  · rw [first.left xyE, xyE]
    by_cases yzE : yz = .equal
    · rw [yzE]
      exact rest
    · rw [andThen_of_ne yzE, andThen_of_ne yzE]
      exact ⟨fun _ less => less, fun _ => rfl, fun equal => absurd equal yzE⟩
  · rw [andThen_of_ne xyE]
    by_cases yzE : yz = .equal
    · rw [first.right yzE, andThen_of_ne xyE, yzE]
      exact ⟨fun less _ => less, fun equal => absurd equal xyE, fun _ => rfl⟩
    · rw [andThen_of_ne yzE]
      refine ⟨fun xyL yzL => ?_, fun equal => absurd equal xyE, fun equal => absurd equal yzE⟩
      rw [first.less xyL yzL]
      rfl

end Chained

variable {α : Type} [Ord α] [Std.TransOrd α]

/-- An order chains its verdicts. -/
lemma chained_ofOrdering (a b c : α) :
    Chained (ofOrdering (compare a b)) (ofOrdering (compare b c)) (ofOrdering (compare a c)) where
  less ab bc := by
    rw [ofOrdering_eq_less] at ab bc ⊢
    exact Std.TransCmp.lt_trans ab bc
  left ab := by
    rw [Std.TransCmp.congr_left (ofOrdering_eq_equal.1 ab)]
  right bc := by
    rw [Std.TransCmp.congr_right (ofOrdering_eq_equal.1 bc)]

/-- The verdict on two things that may be absent. Without one of them there is no order. -/
def ofPresent : Option α → Option α → Verdict
  | some a, some b => ofOrdering (compare a b)
  | _, _ => .invalid

/-- What is absent is in no order with anything. -/
lemma chained_ofPresent (a b c : Option α) :
    Chained (ofPresent a b) (ofPresent b c) (ofPresent a c) := by
  cases a with
  | none => exact .of_first ⟨nofun, nofun⟩ fun _ => rfl
  | some a =>
    cases b with
    | none => exact .of_first ⟨nofun, nofun⟩ nofun
    | some b =>
      cases c with
      | none => exact .of_last ⟨nofun, nofun⟩ fun _ => rfl
      | some c => exact chained_ofOrdering a b c

/-- Nothing is less than itself. -/
lemma ofPresent_self (a : Option α) : ofPresent a a ≠ .less := by
  cases a with
  | none => exact nofun
  | some a =>
    have same : compare a a = .eq := Std.ReflCmp.compare_self
    rw [ofPresent, same]
    exact nofun

end Verdict

open Verdict (Chained)

/-! ### Scalars and byte strings -/

/-- Integers of one kind are in the order of what they stand for. -/
lemma Scalar.compare_int (k : IntKind) (v w : BitVec k.bits) :
    compare (.int k v) (.int k w) = .ofOrdering (Ord.compare (k.value v) (k.value w)) :=
  if_pos rfl

/-- Floating-point numbers of one kind are in the order of their ranks, NaNs having none. -/
lemma Scalar.compare_float (k : FloatKind) (v w : BitVec k.bits) :
    compare (.float k v) (.float k w) = .ofPresent (k.rank v) (k.rank w) := by
  rw [compare, if_pos rfl]
  cases k.rank v with
  | none => rfl
  | some x => cases k.rank w <;> rfl

/-- Numbers of different kinds are not compared. -/
lemma Scalar.compare_of_kind_ne {a b : Scalar} (ne : a.kind ≠ b.kind) :
    a.compare b = .mismatch := by
  cases a <;> cases b <;> first | rfl | exact absurd rfl ne | skip
  · rename_i k v l w
    exact if_neg fun same => ne (congrArg ScalarKind.int same)
  · rename_i k v l w
    exact if_neg fun same => ne (congrArg ScalarKind.float same)

/-- The verdicts on three scalars of one kind are chained. -/
lemma Scalar.chained_compare {a b c : Scalar} (ab : a.kind = b.kind) (bc : b.kind = c.kind) :
    Chained (a.compare b) (b.compare c) (a.compare c) := by
  cases a with
  | bool x =>
    cases b with
    | bool y =>
      cases c with
      | bool z => exact Verdict.chained_ofOrdering x.toNat y.toNat z.toNat
      | _ => cases bc
    | _ => cases ab
  | char x =>
    cases b with
    | char y =>
      cases c with
      | char z => exact Verdict.chained_ofOrdering x.toNat y.toNat z.toNat
      | _ => cases bc
    | _ => cases ab
  | int k x =>
    cases b with
    | int l y =>
      cases ab
      cases c with
      | int l z =>
        cases bc
        rw [compare_int, compare_int, compare_int]
        exact Verdict.chained_ofOrdering (k.value x) (k.value y) (k.value z)
      | _ => cases bc
    | _ => cases ab
  | float k x =>
    cases b with
    | float l y =>
      cases ab
      cases c with
      | float l z =>
        cases bc
        rw [compare_float, compare_float, compare_float]
        exact Verdict.chained_ofPresent (k.rank x) (k.rank y) (k.rank z)
      | _ => cases bc
    | _ => cases ab

/-- No scalar is less than itself. -/
lemma Scalar.compare_self (a : Scalar) : a.compare a ≠ .less := by
  cases a with
  | bool x => exact Verdict.ofPresent_self (some x.toNat)
  | char x => exact Verdict.ofPresent_self (some x.toNat)
  | int k x =>
    rw [compare_int]
    exact Verdict.ofPresent_self (some (k.value x))
  | float k x =>
    rw [compare_float]
    exact Verdict.ofPresent_self (k.rank x)

/-- Byte strings are in lexicographic order. -/
lemma Bytes.order_eq_compare (a b : Bytes) : a.order b = Ord.compare a b := by
  induction a generalizing b with
  | nil => cases b <;> simp [order]
  | cons x xs ih =>
    cases b with
    | nil => simp [order]
    | cons y ys => rw [order, ih, List.compare_cons_cons]

/-! ### Values at first sight -/

namespace Value

/-- What a value is at first sight. -/
inductive Tag where
  | null
  | scalar (kind : ScalarKind)
  | buffer
  | object (type : TypeId)
  | reference (kind : RefKind)
  | descriptor
  deriving DecidableEq

/-- The sort of a value, with the type or the kind that comes with it. -/
def tag : Value → Tag
  | null => .null
  | scalar s => .scalar s.kind
  | buffer _ => .buffer
  | object type _ _ => .object type
  | reference kind _ => .reference kind
  | descriptor _ => .descriptor

end Value

/-- Values of different tags are told apart by their tags, and null comes first. -/
structure TellsTags (verdict : Value → Value → Verdict) : Prop where
  null : verdict .null .null = .equal
  first : ∀ y : Value, y.tag ≠ .null → verdict .null y = .less
  ne : ∀ x y : Value, x.tag ≠ .null → x.tag ≠ y.tag → verdict x y ≠ .less ∧ verdict x y ≠ .equal
  same : ∀ x y x' y' : Value, x.tag ≠ .null → x.tag = x'.tag → y.tag = y'.tag → x.tag ≠ y.tag →
    verdict x y = verdict x' y'

namespace TellsTags

variable {verdict : Value → Value → Verdict}

/-- There is only one null. -/
lemma eq_null {v : Value} (null : v.tag = .null) : v = .null := by
  cases v with
  | null => rfl
  | _ => cases null

/-- Values that are equal look alike at first sight. -/
lemma tag_eq (tells : TellsTags verdict) {x y : Value} (equal : verdict x y = .equal) :
    x.tag = y.tag := by
  by_contra ne
  by_cases null : x.tag = .null
  · rw [eq_null null] at equal ne
    rw [tells.first y (Ne.symm ne)] at equal
    cases equal
  · exact (tells.ne x y null ne).2 equal

/-- It is enough to look at values of one tag. -/
lemma chained (tells : TellsTags verdict) (x y z : Value)
    (alike : x.tag ≠ .null → x.tag = y.tag → y.tag = z.tag →
      Chained (verdict x y) (verdict y z) (verdict x z)) :
    Chained (verdict x y) (verdict y z) (verdict x z) := by
  -- only where all tags are the same, and not null, anything else than the tags has a say
  by_cases xy : x.tag = y.tag
  · by_cases yz : y.tag = z.tag
    · by_cases null : x.tag = .null
      · have yNull : y.tag = .null := xy.symm.trans null
        rw [eq_null null, eq_null yNull, eq_null (yz.symm.trans yNull), tells.null]
        exact ⟨nofun, fun _ => rfl, fun _ => rfl⟩
      · exact alike null xy yz
    · by_cases null : y.tag = .null
      · rw [eq_null null, eq_null (xy.trans null), tells.null,
          tells.first z fun other => yz (null.trans other.symm)]
        exact ⟨nofun, fun _ => rfl, nofun⟩
      · have stands := tells.same x z y z (xy ▸ null) xy rfl (xy ▸ yz)
        exact .of_last (tells.ne y z null yz) fun _ => stands
  · by_cases null : x.tag = .null
    · have yLater : y.tag ≠ .null := fun other => xy (null.trans other.symm)
      have zLater : verdict y z = .less ∨ verdict y z = .equal → z.tag ≠ .null := by
        intro said other
        have ne := tells.ne y z yLater (other ▸ yLater)
        exact said.elim ne.1 ne.2
      rw [eq_null null, tells.first y yLater]
      exact ⟨fun _ less => tells.first z (zLater (.inl less)), nofun,
        fun equal => tells.first z (zLater (.inr equal))⟩
    · refine .of_first (tells.ne x y null xy) fun equal => ?_
      have yz := tells.tag_eq equal
      exact tells.same x z x y null rfl yz.symm (yz ▸ xy)

end TellsTags

/-! ### Values -/

namespace Universe

variable {u : Universe} {h : Heap}

/-- None of the fields declares a type with a comparer. -/
def areBare (u : Universe) (declared : List Field) : Bool :=
  declared.all fun f => (f.type.bind u.ownComparer?).isNone

mutual

/-- Neither the type of an object in the value nor the declared type of one of its fields has a
comparer. -/
def isUnruled (u : Universe) : Value → Bool
  | .object type fields _ =>
    (u.ownComparer? type).isNone && (u.layout? type).all (u.areBare ·.fields) &&
      allUnruled u fields
  | _ => true

/-- The same for the values of an object. -/
def allUnruled (u : Universe) : List Value → Bool
  | [] => true
  | v :: vs => isUnruled u v && allUnruled u vs

end

/-- Buffers are compared by their bytes, if both are alive. -/
lemma compare_buffer (a b : Handle) :
    u.compare h (.buffer a) (.buffer b) = .ofPresent (h.read a) (h.read b) := by
  rw [compare]
  cases h.read a with
  | none => rfl
  | some x =>
    cases h.read b with
    | none => rfl
    | some y => exact congrArg Verdict.ofOrdering (Bytes.order_eq_compare x y)

/-- Descriptors are in the order of the names. -/
lemma compare_descriptor (s t : TypeId) :
    u.compare h (.descriptor s) (.descriptor t) =
      .ofOrdering (Ord.compare (u.name s) (u.name t)) := by
  rw [compare]
  split
  · rename_i same
    have named : Ord.compare (u.name s) (u.name t) = .eq := same ▸ Std.ReflCmp.compare_self
    rw [named]
    rfl
  · rfl

/-- Objects of one type are compared field by field. -/
lemma compare_object {t : TypeId} {l : Layout} (hl : u.layout? t = some l) (xs ys : List Value)
    (a b : Option Tracker) :
    u.compare h (.object t xs a) (.object t ys b) = u.compareFields h l.fields xs ys := by
  rw [compare, if_pos rfl, hl]

/-- Values of different tags have no order, but that null is less. -/
lemma compare_of_tag_ne {x y : Value} (null : x.tag ≠ .null) (ne : x.tag ≠ y.tag) :
    u.compare h x y = if y.tag = .null then .greater else .mismatch := by
  cases x with
  | null => exact absurd rfl null
  | scalar a =>
    cases y with
    | scalar b =>
      rw [compare]
      exact Scalar.compare_of_kind_ne fun same => ne (congrArg Value.Tag.scalar same)
    | _ => simp only [compare]; rfl
  | buffer a =>
    cases y with
    | buffer b => exact absurd rfl ne
    | _ => simp only [compare]; rfl
  | object t xs a =>
    cases y with
    | object t' ys b =>
      rw [compare]
      exact if_neg fun same => ne (congrArg Value.Tag.object same)
    | _ => simp only [compare]; rfl
  | reference k a =>
    cases y with
    | reference l b =>
      rw [compare]
      exact if_neg fun same => ne (congrArg Value.Tag.reference same)
    | _ => simp only [compare]; rfl
  | descriptor s =>
    cases y with
    | descriptor t => exact absurd rfl ne
    | _ => simp only [compare]; rfl

/-- Values of different sorts are compared by their sorts. -/
lemma tellsTags_compare (u : Universe) (h : Heap) : TellsTags (u.compare h) where
  null := by rw [compare]
  first y ne := by
    cases y with
    | null => exact absurd rfl ne
    | _ => simp only [compare]
  ne x y null ne := by
    rw [compare_of_tag_ne null ne]
    split <;> decide
  same x y x' y' null hx hy ne := by
    rw [compare_of_tag_ne null ne, compare_of_tag_ne (hx ▸ null) (hx ▸ hy ▸ ne), hy]

/-! ### Fields without comparers -/

/-- The verdict on two values of a field where no comparer has a say. -/
def plainVerdict (u : Universe) (h : Heap) (x y : Value) : Verdict :=
  match x with
  | .object t _ _ => if u.accepts t x && u.accepts t y then u.compare h x y else .mismatch
  | _ => u.compare h x y

/-- The value is no object, or an object of a type without a comparer. -/
lemma fieldVerdict_eq_plainVerdict {declared : Option TypeId}
    (bare : declared.bind u.ownComparer? = none) {x : Value} (hx : u.isUnruled x = true)
    (y : Value) :
    u.fieldVerdict h declared x y (fun _ => u.compare h x y) (fun _ => u.compareFirst h x y) =
      u.plainVerdict h x y := by
  unfold fieldVerdict plainVerdict
  rw [bare]
  cases x with
  | object t xs a =>
    have none : u.ownComparer? t = none := by
      rw [isUnruled, Bool.and_eq_true_iff, Bool.and_eq_true_iff] at hx
      exact Option.isNone_iff_eq_none.1 hx.1.1
    dsimp only
    unfold verdictAs
    rw [none]
  | _ => rfl

/-- Values with one tag are accepted by the same types. -/
lemma accepts_of_tag_eq {x y : Value} (same : x.tag = y.tag) (t : TypeId) :
    u.accepts t x = u.accepts t y := by
  cases x with
  | scalar a =>
    cases y with
    | scalar b =>
      have kinds : a.kind = b.kind := Value.Tag.scalar.inj same
      unfold accepts
      cases (u.desc t).kind <;> first | rfl | exact congrArg (fun k => decide (k = _)) kinds
    | _ => cases same
  | reference k a =>
    cases y with
    | reference l b =>
      cases same
      unfold accepts
      cases (u.desc t).kind <;> rfl
    | _ => cases same
  | descriptor s =>
    cases y with
    | descriptor s' => unfold accepts; cases (u.desc t).kind <;> rfl
    | _ => cases same
  | object s xs a =>
    cases y with
    | object s' ys b =>
      cases same
      exact accepts_alike (.object s xs ys a b) t
    | _ => cases same
  | buffer a =>
    cases y with
    | buffer b => exact accepts_alike (.buffer a b) t
    | _ => cases same
  | null =>
    cases y with
    | null => rfl
    | _ => cases same

/-- So are the values of a field without comparers. -/
lemma tellsTags_plainVerdict (u : Universe) (h : Heap) : TellsTags (u.plainVerdict h) where
  null := (tellsTags_compare u h).null
  first y ne := (tellsTags_compare u h).first y ne
  ne x y null ne := by
    have whole := (tellsTags_compare u h).ne x y null ne
    unfold plainVerdict
    split
    · split
      · exact whole
      · decide
    · exact whole
  same x y x' y' null hx hy ne := by
    have whole := (tellsTags_compare u h).same x y x' y' null hx hy ne
    unfold plainVerdict
    cases x with
    | object t xs a =>
      cases x' with
      | object t' ys b =>
        cases hx
        have left : u.accepts t (.object t xs a) = u.accepts t (.object t ys b) :=
          accepts_alike (.object t xs ys a b) t
        dsimp only
        rw [whole, accepts_of_tag_eq hy, left]
      | _ => cases hx
    | null => exact absurd rfl null
    | _ => cases x' <;> first | exact whole | cases hx

/-- Of values with one tag either all are compared as they are, or all are a mismatch. -/
lemma chained_plainVerdict {x y z : Value} (xy : x.tag = y.tag) (yz : y.tag = z.tag)
    (whole : Chained (u.compare h x y) (u.compare h y z) (u.compare h x z)) :
    Chained (u.plainVerdict h x y) (u.plainVerdict h y z) (u.plainVerdict h x z) := by
  unfold plainVerdict
  cases x with
  | object t xs a =>
    cases y with
    | object t' ys b =>
      cases xy
      have left : u.accepts t (.object t xs a) = u.accepts t (.object t ys b) :=
        accepts_alike (.object t xs ys a b) t
      dsimp only
      rw [← accepts_of_tag_eq yz, left]
      split
      · exact whole
      · exact .of_first ⟨nofun, nofun⟩ nofun
    | _ => cases xy
  | _ =>
    cases y with
    | object t ys b => cases xy
    | _ => exact whole

/-- The first field has no comparer. -/
lemma bare_head {declared : List Field} (bare : u.areBare declared = true) :
    (declared.head?.bind (·.type)).bind u.ownComparer? = none := by
  cases declared with
  | nil => rfl
  | cons f fs => exact Option.isNone_iff_eq_none.1 (List.all_eq_true.1 bare f List.mem_cons_self)

/-- Nor have the others. -/
lemma bare_tail {declared : List Field} (bare : u.areBare declared = true) :
    u.areBare declared.tail = true := by
  cases declared with
  | nil => rfl
  | cons f fs => exact (Bool.and_eq_true_iff.1 bare).2

/-- A value of a field is not less than itself if the value by itself is not. -/
lemma plainVerdict_self {x : Value} (whole : u.compare h x x ≠ .less) :
    u.plainVerdict h x x ≠ .less := by
  unfold plainVerdict
  cases x with
  | object t xs a =>
    dsimp only
    split
    · exact whole
    · exact nofun
  | _ => exact whole

/-- The first values decide, and where they are equal the others do. -/
lemma compareFields_cons {declared : List Field} (bare : u.areBare declared = true) {x : Value}
    (hx : u.isUnruled x = true) (y : Value) (xs ys : List Value) :
    u.compareFields h declared (x :: xs) (y :: ys) =
      (u.plainVerdict h x y).andThen (u.compareFields h declared.tail xs ys) := by
  rw [compareFields, fieldVerdict_eq_plainVerdict (bare_head bare) hx y]
  cases u.plainVerdict h x y <;> rfl

/-- An object has no comparer, and neither has anything in it. -/
lemma unruled_object {t : TypeId} {xs : List Value} {a : Option Tracker}
    (hx : u.isUnruled (.object t xs a) = true) :
    (∀ l, u.layout? t = some l → u.areBare l.fields = true) ∧ u.allUnruled xs = true := by
  rw [isUnruled, Bool.and_eq_true_iff, Bool.and_eq_true_iff, Option.all_eq_true] at hx
  exact ⟨hx.1.2, hx.2⟩

mutual

/-- Three values may first differ at three different places, and their verdicts are chained all the
same. -/
lemma chained_compare : (x : Value) → ∀ y z : Value, u.isUnruled x = true → u.isUnruled y = true →
    Chained (u.compare h x y) (u.compare h y z) (u.compare h x z)
  | .null, y, z, _, _ => (tellsTags_compare u h).chained _ y z fun null _ _ => absurd rfl null
  | .scalar a, y, z, _, _ => (tellsTags_compare u h).chained _ y z fun _ xy yz => by
    cases y with
    | scalar b =>
      cases z with
      | scalar c =>
        rw [compare, compare, compare]
        exact Scalar.chained_compare (Value.Tag.scalar.inj xy) (Value.Tag.scalar.inj yz)
      | _ => cases yz
    | _ => cases xy
  | .buffer a, y, z, _, _ => (tellsTags_compare u h).chained _ y z fun _ xy yz => by
    cases y with
    | buffer b =>
      cases z with
      | buffer c =>
        rw [compare_buffer, compare_buffer, compare_buffer]
        exact Verdict.chained_ofPresent (h.read a) (h.read b) (h.read c)
      | _ => cases yz
    | _ => cases xy
  | .reference k a, y, z, _, _ => (tellsTags_compare u h).chained _ y z fun _ xy yz => by
    cases y with
    | reference l b =>
      cases xy
      cases z with
      | reference m c =>
        cases yz
        rw [compare, compare, compare, if_pos rfl, if_pos rfl, if_pos rfl]
        exact Verdict.chained_ofOrdering a b c
      | _ => cases yz
    | _ => cases xy
  | .descriptor s, y, z, _, _ => (tellsTags_compare u h).chained _ y z fun _ xy yz => by
    cases y with
    | descriptor t =>
      cases z with
      | descriptor r =>
        rw [compare_descriptor, compare_descriptor, compare_descriptor]
        exact Verdict.chained_ofOrdering (u.name s) (u.name t) (u.name r)
      | _ => cases yz
    | _ => cases xy
  | .object t xs a, y, z, hx, hy => (tellsTags_compare u h).chained _ y z fun _ xy yz => by
    cases y with
    | object t' ys b =>
      cases xy
      cases z with
      | object t' zs c =>
        cases yz
        cases hl : u.layout? t with
        | none =>
          rw [compare, compare, compare, if_pos rfl, if_pos rfl, if_pos rfl, hl]
          exact .of_first ⟨nofun, nofun⟩ nofun
        | some l =>
          obtain ⟨bare, allx⟩ := unruled_object hx
          obtain ⟨_, ally⟩ := unruled_object hy
          rw [compare_object hl, compare_object hl, compare_object hl]
          exact chained_compareFields xs l.fields ys zs (bare l hl) allx ally
      | _ => cases yz
    | _ => cases xy

/-- The same field by field, by induction on the values of the first object. -/
lemma chained_compareFields : (xs : List Value) → ∀ (declared : List Field) (ys zs : List Value),
    u.areBare declared = true → u.allUnruled xs = true → u.allUnruled ys = true →
      Chained (u.compareFields h declared xs ys) (u.compareFields h declared ys zs)
        (u.compareFields h declared xs zs)
  | [], declared, [], zs, _, _, _ => by
    rw [compareFields]
    exact ⟨fun _ less => less, fun _ => rfl, fun equal => equal⟩
  | [], declared, y :: ys, [], _, _, _ => by
    rw [compareFields, compareFields, compareFields]
    exact ⟨nofun, nofun, nofun⟩
  | [], declared, y :: ys, z :: zs, _, _, _ => by
    rw [compareFields, compareFields]
    exact ⟨fun less _ => less, nofun, fun _ => rfl⟩
  | x :: xs, declared, [], zs, _, _, _ => by
    rw [compareFields]
    refine .of_first ⟨nofun, nofun⟩ fun equal => ?_
    cases zs with
    | nil => rw [compareFields]
    | cons z zs =>
      rw [compareFields] at equal
      cases equal
  | x :: xs, declared, y :: ys, [], _, _, _ => by
    rw [compareFields, compareFields]
    exact .of_last ⟨nofun, nofun⟩ fun _ => rfl
  | x :: xs, declared, y :: ys, z :: zs, bare, hxs, hys => by
    obtain ⟨hx, hxs⟩ := Bool.and_eq_true_iff.1 hxs
    obtain ⟨hy, hys⟩ := Bool.and_eq_true_iff.1 hys
    rw [compareFields_cons bare hx, compareFields_cons bare hy, compareFields_cons bare hx]
    -- which two of the three are told apart here does not matter, the rest is chained anyway
    refine .andThen ?_ (chained_compareFields xs declared.tail ys zs (bare_tail bare) hxs hys)
    exact (tellsTags_plainVerdict u h).chained x y z fun _ xy yz =>
      chained_plainVerdict xy yz (chained_compare x y z hx hy)

end

mutual

/-- No value is less than itself. -/
lemma compare_self : (x : Value) → u.isUnruled x = true → u.compare h x x ≠ .less
  | .null, _ => by
    rw [compare]
    exact nofun
  | .scalar a, _ => by
    rw [compare]
    exact Scalar.compare_self a
  | .buffer a, _ => by
    rw [compare_buffer]
    exact Verdict.ofPresent_self (h.read a)
  | .reference k a, _ => by
    rw [compare, if_pos rfl]
    exact Verdict.ofPresent_self (some a)
  | .descriptor s, _ => by
    rw [compare_descriptor]
    exact Verdict.ofPresent_self (some (u.name s))
  | .object t xs a, hx => by
    cases hl : u.layout? t with
    | none =>
      rw [compare, if_pos rfl, hl]
      exact nofun
    | some l =>
      obtain ⟨bare, allx⟩ := unruled_object hx
      rw [compare_object hl]
      exact compareFields_self xs l.fields (bare l hl) allx

/-- Nor is the list of the values of an object. -/
lemma compareFields_self : (xs : List Value) → ∀ declared : List Field,
    u.areBare declared = true → u.allUnruled xs = true →
      u.compareFields h declared xs xs ≠ .less
  | [], declared, _, _ => by
    rw [compareFields]
    exact nofun
  | x :: xs, declared, bare, hxs => by
    obtain ⟨hx, hxs⟩ := Bool.and_eq_true_iff.1 hxs
    have first := plainVerdict_self (compare_self x hx)
    have rest := compareFields_self xs declared.tail (bare_tail bare) hxs
    rw [compareFields_cons bare hx]
    by_cases equal : u.plainVerdict h x x = .equal
    · rw [equal]
      exact rest
    · rw [Verdict.andThen_of_ne equal]
      exact first

end

/-- Without comparers of types the structural comparison is a strict order, and values that are
equal may stand for each other on either side, whatever the verdict is. -/
theorem compare_strictWeakOrder (u : Universe) (h : Heap) (x y z : Value)
    (hx : u.isUnruled x = true) (hy : u.isUnruled y = true) (hz : u.isUnruled z = true) :
    u.compare h x x ≠ .less ∧
    (u.compare h x y = .less → u.compare h y z = .less → u.compare h x z = .less) ∧
    (u.compare h x y = .equal →
      u.compare h x z = u.compare h y z ∧ u.compare h z x = u.compare h z y) := by
  have chained := chained_compare (h := h) x y z hx hy
  refine ⟨compare_self x hx, chained.less, fun equal => ⟨chained.left equal, ?_⟩⟩
  exact ((chained_compare z x y hz hx).right equal).symm

/-- Types with one more struct: a flag, and any value next to it. -/
def withNode : Universe :=
  let node : Declaration :=
    { name := "Node"
      shape :=
        .struct [⟨"flag", .typed 0, false, none⟩, ⟨"next", .untyped 8, false, none⟩] none false }
  match builtin.declare {} node with
  | some (_, u) => u
  | none => builtin

/-- A node with a flag and what comes next. -/
def node (flag next : Value) : Value :=
  .object 19 [flag, next] none

/-- Of these three the first two differ in what comes next, and the last in the flag. -/
theorem compare_strictWeakOrder_node :
    let no : Value := .scalar (.bool false)
    let yes : Value := .scalar (.bool true)
    withNode.compare {} (node no .null) (node no (node yes .null)) = .less ∧
    withNode.compare {} (node no (node yes .null)) (node yes .null) = .less ∧
    withNode.compare {} (node no .null) (node yes .null) = .less := by
  intro no yes
  have first : withNode.compare {} (node no .null) (node no (node yes .null)) = .less := rfl
  have second : withNode.compare {} (node no (node yes .null)) (node yes .null) = .less := rfl
  have order := compare_strictWeakOrder withNode {} (node no .null) (node no (node yes .null))
    (node yes .null) rfl rfl rfl
  exact ⟨first, second, order.2.1 first second⟩

end Universe

end Metaobject
