import Metaobject.Comparison.Operands
import Metaobject.Proofs.Sequence.Sorting

/-!
# Comparing zero-terminated texts

A comparison that stops at a zero byte, at the end of the bytes or at its bound sees of each operand
only the text before that. It orders the operands by their texts, as bytes are ordered, so it has an
answer for any two of them, and nothing after a text has a say. `Bytes.terminated_orders` is the
result.
-/

namespace Metaobject

open Sequence (Precedes Consistent not_precedes_of_greater)

namespace Bytes

/-- The verdicts are those of the lexicographic order of what is seen of the operands. -/
structure OrdersBy (seen : Bytes → Bytes) (verdict : Bytes → Bytes → Verdict) : Prop where
  less : ∀ a b, verdict a b = .less ↔ seen a < seen b
  equal : ∀ a b, verdict a b = .equal ↔ seen a = seen b
  greater : ∀ a b, verdict a b = .greater ↔ seen b < seen a

/-- There is an answer for any two operands, and the answers are those of a total preorder. -/
structure OrdersAll (verdict : Bytes → Bytes → Verdict) : Prop where
  answered : ∀ a b, (verdict a b).isOrdinary = true
  reflected : ∀ a b, verdict a b = (verdict b a).invert
  total : ∀ a b, Precedes verdict a b ∨ Precedes verdict b a
  trans : ∀ a b c, Precedes verdict a b → Precedes verdict b c → Precedes verdict a c
  equal : ∀ a b, verdict a b = .equal ↔ Precedes verdict a b ∧ Precedes verdict b a

/-! ### Texts -/

/-- A text ends before its first zero. -/
lemma text_zero (a : Bytes) : text (0 :: a) = [] := rfl

/-- What is not zero is part of the text. -/
lemma text_cons {x : UInt8} (some : x ≠ 0) (a : Bytes) : text (x :: a) = x :: text a :=
  List.takeWhile_cons_of_pos (decide_eq_true some)

/-- What follows a zero byte is not part of the text. -/
lemma text_append_zero (a rest : Bytes) : text (a ++ 0 :: rest) = text a := by
  induction a with
  | nil => rfl
  | cons x a ih =>
    by_cases zero : x = 0
    · rw [zero]
      rfl
    · rw [List.cons_append, text_cons zero, text_cons zero, ih]

/-- The text of a prefix is a prefix of the text. -/
lemma text_take (n : Nat) (a : Bytes) : text (a.take n) = (text a).take n :=
  List.take_takeWhile.symm

/-! ### The comparison -/

/-- Zero comes before every other byte. -/
lemma compare_zero {y : UInt8} (some : y ≠ 0) : Ord.compare 0 y = .lt ∧ Ord.compare y 0 = .gt := by
  have pos : 0 < y := UInt8.pos_iff_ne_zero.2 some
  exact ⟨Std.compare_eq_lt.2 pos, Std.compare_eq_gt.2 pos⟩

/-- Different bytes at the same place decide, also where one of them is the end of a text. -/
lemma order_text_of_ne {x y : UInt8} (ne : x ≠ y) (a b : Bytes) :
    order (text (x :: a)) (text (y :: b)) = Ord.compare x y := by
  by_cases hx : x = 0
  · subst hx
    rw [text_zero, text_cons ne.symm, (compare_zero ne.symm).1, order]
  · by_cases hy : y = 0
    · subst hy
      rw [text_zero, text_cons hx, (compare_zero hx).2, order]
    · rw [text_cons hx, text_cons hy, order]
      cases verdict : Ord.compare x y with
      | eq => exact absurd (Std.LawfulEqOrd.compare_eq_iff_eq.1 verdict) ne
      | _ => rfl

/-- The comparison that looks at some bytes orders the texts in them. -/
lemma compareUpTo_eq (n : Nat) (a b : Bytes) :
    compareUpTo n a b = .ofOrdering (order (text (a.take n)) (text (b.take n))) := by
  induction n generalizing a b with
  | zero => rw [compareUpTo, List.take_zero, List.take_zero]; rfl
  | succ n ih =>
    cases a with
    | nil =>
      cases b with
      | nil => rfl
      | cons y b =>
        rw [List.take_succ_cons, List.take_nil]
        show (if y = 0 then Verdict.equal else .less) = _
        by_cases hy : y = 0
        · rw [if_pos hy, hy]
          rfl
        · rw [if_neg hy, text_cons hy]
          rfl
    | cons x a =>
      cases b with
      | nil =>
        rw [List.take_succ_cons, List.take_nil]
        show (if x = 0 then Verdict.equal else .greater) = _
        by_cases hx : x = 0
        · rw [if_pos hx, hx]
          rfl
        · rw [if_neg hx, text_cons hx]
          rfl
      | cons y b =>
        rw [compareUpTo, List.take_succ_cons, List.take_succ_cons]
        by_cases same : x = y
        · rw [if_neg (not_not.2 same), ← same]
          by_cases hx : x = 0
          · rw [if_pos hx, hx]
            rfl
          · have alike : Ord.compare x x = .eq := Std.ReflCmp.compare_self
            rw [if_neg hx, ih, text_cons hx, text_cons hx, order, alike]
            rfl
        · rw [if_pos same, order_text_of_ne same]

/-- As many bytes as both have are enough for a comparison without a bound. -/
lemma compareTerminated_eq (a b : Bytes) :
    compareTerminated a b = .ofOrdering (order (text a) (text b)) := by
  rw [compareTerminated, compareUpTo_eq, List.take_of_length_le (Nat.le_max_left _ _),
    List.take_of_length_le (Nat.le_max_right _ _)]

/-! ### The order -/

/-- The order is the lexicographic one. -/
lemma order_eq_lt {a b : Bytes} : order a b = .lt ↔ a < b := by
  induction a generalizing b with
  | nil =>
    cases b with
    | nil => exact ⟨nofun, nofun⟩
    | cons y b => exact ⟨fun _ => List.nil_lt_cons y b, fun _ => rfl⟩
  | cons x a ih =>
    cases b with
    | nil => exact ⟨nofun, nofun⟩
    | cons y b =>
      rw [order, Ordering.then_eq_lt, List.cons_lt_cons_iff, ih, Std.compare_eq_lt,
        Std.LawfulEqOrd.compare_eq_iff_eq]

/-- It tells every two byte strings apart. -/
lemma order_eq_eq {a b : Bytes} : order a b = .eq ↔ a = b := by
  rw [order_eq_compare, Std.LawfulEqOrd.compare_eq_iff_eq]

/-- And it turns around with them. -/
lemma order_eq_gt {a b : Bytes} : order a b = .gt ↔ b < a := by
  rw [order_swap, Ordering.swap_eq_gt, order_eq_lt]

section

variable {seen : Bytes → Bytes} {verdict : Bytes → Bytes → Verdict}

/-- A verdict that orders what is seen of byte strings orders them by it. -/
lemma ordersBy (eq : ∀ a b, verdict a b = .ofOrdering (order (seen a) (seen b))) :
    OrdersBy seen verdict := by
  have answers : ∀ o : Ordering, (Verdict.ofOrdering o = .less ↔ o = .lt) ∧
      (Verdict.ofOrdering o = .equal ↔ o = .eq) ∧ (Verdict.ofOrdering o = .greater ↔ o = .gt) := by
    decide
  constructor
  case less =>
    intro a b
    rw [eq, (answers _).1, order_eq_lt]
  case equal =>
    intro a b
    rw [eq, (answers _).2.1, order_eq_eq]
  case greater =>
    intro a b
    rw [eq, (answers _).2.2, order_eq_gt]

/-- So it is consistent on all of them. -/
lemma consistent (eq : ∀ a b, verdict a b = .ofOrdering (order (seen a) (seen b))) :
    Consistent (fun _ => True) verdict := by
  have chained : ∀ a b c, Verdict.Chained (verdict a b) (verdict b c) (verdict a c) := by
    intro a b c
    rw [eq, eq, eq, order_eq_compare, order_eq_compare, order_eq_compare]
    exact Verdict.chained_ofOrdering (seen a) (seen b) (seen c)
  constructor
  case reflected =>
    intro a b _ _
    rw [eq, eq, order_swap, Verdict.invert_ofOrdering]
  case less => exact fun {a b c} _ _ _ => (chained a b c).less
  case equal => exact fun {a b c} _ _ _ => (chained a b c).left

/-- And it orders all of them. -/
lemma ordersAll (eq : ∀ a b, verdict a b = .ofOrdering (order (seen a) (seen b))) :
    OrdersAll verdict := by
  have lawful := consistent eq
  have answered : ∀ a b, (verdict a b).isOrdinary = true := fun a b => by
    rw [eq]
    cases order (seen a) (seen b) <;> rfl
  have reflected : ∀ a b, verdict a b = (verdict b a).invert := fun _ _ =>
    lawful.reflected trivial trivial
  constructor
  case answered => exact answered
  case reflected => exact reflected
  case total =>
    intro a b
    rcases Verdict.isOrdinary_iff.1 (answered a b) with less | same | greater
    · exact .inl (.inl less)
    · exact .inl (.inr same)
    · exact .inr (.inl (lawful.less_of_greater trivial trivial greater))
  case trans => exact fun a b c => lawful.precedes_trans trivial trivial trivial
  case equal =>
    intro a b
    constructor
    · exact fun same => ⟨.inr same, .inr (lawful.equal_symm trivial trivial same)⟩
    · rintro ⟨less | same, back⟩
      · have after := lawful.greater_of_less trivial trivial less
        exact absurd back (not_precedes_of_greater after)
      · exact same

end

/-- Bytes are compared as their texts, up to the bound if there is one, in the lexicographic order
of unsigned bytes. What comes after the first zero byte or after the bound does not count, and a
bound that no text exceeds makes no difference. -/
theorem terminated_orders (n : Nat) (c : Context) :
    let bounded a b := Mode.bounded.compare (.length n) (some a) (some b)
    let terminated a b := Mode.terminated.compare c (some a) (some b)
    OrdersBy (fun a => text (a.take n)) bounded ∧ OrdersBy text terminated ∧
    OrdersAll bounded ∧ OrdersAll terminated ∧
    (∀ a rest b, bounded (a ++ 0 :: rest) b = bounded a b ∧
      terminated (a ++ 0 :: rest) b = terminated a b ∧
      (n ≤ a.length → bounded (a ++ rest) b = bounded a b)) ∧
    ∀ a b, (text a).length ≤ n → (text b).length ≤ n → bounded a b = terminated a b := by
  intro bounded terminated
  have upTo : ∀ a b, bounded a b = .ofOrdering (order (text (a.take n)) (text (b.take n))) :=
    compareUpTo_eq n
  have whole : ∀ a b, terminated a b = .ofOrdering (order (text a) (text b)) := compareTerminated_eq
  refine ⟨ordersBy upTo, ordersBy whole, ordersAll upTo, ordersAll whole, fun a rest b => ?_,
    fun a b ha hb => ?_⟩
  · refine ⟨?_, ?_, fun enough => ?_⟩
    · rw [upTo, upTo, text_take, text_take, text_take, text_append_zero]
    · rw [whole, whole, text_append_zero]
    · rw [upTo, upTo, List.take_append_of_le_length enough]
  · rw [upTo, whole, text_take, text_take, List.take_of_length_le ha, List.take_of_length_le hb]

/-- Two texts of one byte, with different bytes after the zero, and a text that is longer than the
bound. -/
theorem terminated_orders_short :
    let bounded (n : Nat) a b := Mode.bounded.compare (.length n) (some a) (some b)
    let terminated a b := Mode.terminated.compare .none (some a) (some b)
    bounded 1 [97, 0, 98] [97] = .equal ∧ bounded 1 [97, 0, 98] [97] = terminated [97, 0, 98] [97] ∧
    bounded 2 [97, 0, 98] [97, 98] = .less ∧ bounded 1 [97, 0, 98] [97, 98] = .equal ∧
    terminated [97, 0, 98] [97, 98] = .less ∧ bounded 2 [97, 200] [97, 98, 1] = .greater := by
  intro bounded terminated
  have orders := terminated_orders 1 .none
  have same := orders.2.2.2.2.2 [97, 0, 98] [97] (by decide) (by decide)
  exact ⟨rfl, same, rfl, rfl, rfl, rfl⟩

end Bytes

end Metaobject
