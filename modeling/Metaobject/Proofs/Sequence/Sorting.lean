import Mathlib.Logic.Relation
import Metaobject.Proofs.Comparison.Exchange
import Metaobject.Proofs.Comparison.WeakOrder
import Metaobject.Sequence

/-!
# Sorting by a comparer

A comparer need not be total: it is `Consistent` if exchanging the operands reflects the verdict,
"less" carries over, and equal operands may stand for each other. Whatever the comparer is, all that
a sort does is to exchange neighbours of which the later one is less, so at every moment it holds
the same items, and those that are equal are in the order that they had. If nothing stops it, a
consistent comparer has put everything in order. `Sequence.sort_sorts` says so.
-/

namespace Metaobject

namespace Sequence

variable {α β : Type}

/-- What sorting and searching ask of a comparer on the items with `P`. -/
structure Consistent (P : α → Prop) (cmp : α → α → Verdict) : Prop where
  reflected : ∀ {x y}, P x → P y → cmp x y = (cmp y x).invert
  less : ∀ {x y z}, P x → P y → P z → cmp x y = .less → cmp y z = .less → cmp x z = .less
  equal : ∀ {x y z}, P x → P y → P z → cmp x y = .equal → cmp x z = cmp y z

/-- The first item is less than the second one, or equal to it. -/
def Precedes (cmp : α → α → Verdict) (x y : α) : Prop :=
  cmp x y = .less ∨ cmp x y = .equal

/-- Every item precedes all those after it. -/
def Sorted (cmp : α → α → Verdict) (items : List α) : Prop :=
  items.Pairwise (Precedes cmp)

/-- The items of the one sequence in the order of the other, each with the position that it had.
Equal items are in the order that they had. -/
def Rearranges (cmp : α → α → Verdict) (before after : List α) : Prop :=
  ∃ placed : List (α × Nat), placed.Perm before.zipIdx ∧ placed.map Prod.fst = after ∧
    placed.Pairwise fun a b => cmp a.1 b.1 = .equal → a.2 < b.2

/-- What a sort of some items came to: the items as it left them, and the verdict that stopped it,
if one did. -/
structure Sorts (cmp : α → α → Verdict) (items sorted : List α) (stop : Option Verdict) : Prop where
  perm : sorted.Perm items
  stable : Rearranges cmp items sorted
  ordered : stop = none → Sorted cmp sorted
  /-- What stopped it is no answer, and it is the verdict on two of the items. -/
  stopped : ∀ v, stop = some v → v.isOrdinary = false ∧
    ∃ (i j : Nat) (x y : α), j < i ∧ items[i]? = some x ∧ items[j]? = some y ∧ cmp x y = v
  /-- Nothing stops it if there is an answer for every two of the items. -/
  finished : (items.Pairwise fun x y => (cmp x y).isOrdinary = true) → stop = none

variable {P : α → Prop} {cmp : α → α → Verdict}

/-! ### Consistent comparers -/

/-- What is greater does not precede. -/
lemma not_precedes_of_greater {x y : α} (greater : cmp x y = .greater) : ¬ Precedes cmp x y := by
  rintro (less | same)
  · cases less.symm.trans greater
  · cases same.symm.trans greater

namespace Consistent

variable {x y z : α}

/-- What is greater one way is less the other way. -/
lemma less_of_greater (consistent : Consistent P cmp) (hx : P x) (hy : P y)
    (after : cmp x y = .greater) : cmp y x = .less := by
  rw [consistent.reflected hy hx, after]
  rfl

/-- And what is less is greater. -/
lemma greater_of_less (consistent : Consistent P cmp) (hx : P x) (hy : P y)
    (before : cmp x y = .less) : cmp y x = .greater := by
  rw [consistent.reflected hy hx, before]
  rfl

/-- What is equal is equal both ways. -/
lemma equal_symm (consistent : Consistent P cmp) (hx : P x) (hy : P y)
    (same : cmp x y = .equal) : cmp y x = .equal := by
  rw [consistent.reflected hy hx, same]
  rfl

/-- Equal operands may stand for each other on the right as well. -/
lemma equal_right (consistent : Consistent P cmp) (hx : P x) (hy : P y) (hz : P z)
    (same : cmp x y = .equal) : cmp z x = cmp z y := by
  rw [consistent.reflected hz hx, consistent.reflected hz hy, consistent.equal hx hy hz same]

/-- To precede is transitive on what is admitted. -/
lemma precedes_trans (consistent : Consistent P cmp) (hx : P x) (hy : P y) (hz : P z)
    (first : Precedes cmp x y) (second : Precedes cmp y z) : Precedes cmp x z := by
  rcases first with less | same
  · rcases second with less' | same'
    · exact .inl (consistent.less hx hy hz less less')
    · left
      rw [← consistent.equal_right hy hz hx same']
      exact less
  · rw [Precedes, consistent.equal hx hy hz same]
    exact second

end Consistent

/-! ### Neighbours that change places -/

/-- Two neighbours change places, of which the later one is less. -/
inductive Swap (cmp : α → α → Verdict) : List α → List α → Prop where
  | swap (before : List α) {x y : α} (after : List α) (less : cmp y x = .less) :
    Swap cmp (before ++ x :: y :: after) (before ++ y :: x :: after)

/-- Any number of such exchanges, one after the other. -/
abbrev Swaps (cmp : α → α → Verdict) : List α → List α → Prop :=
  Relation.ReflTransGen (Swap cmp)

/-- An exchange of neighbours loses nothing. -/
lemma Swap.perm {xs ys : List α} (swap : Swap cmp xs ys) : ys.Perm xs := by
  cases swap with
  | @swap before x y after _ => exact (List.Perm.swap x y after).append_left before

/-- What holds of every two items in their order goes on to hold, if it holds wherever the first of
the two is less. -/
lemma Swap.pairwise {S : α → α → Prop} (less : ∀ x y, cmp x y = .less → S x y) {xs ys : List α}
    (swap : Swap cmp xs ys) (all : xs.Pairwise S) : ys.Pairwise S := by
  cases swap with
  | @swap before x y after lt =>
    simp only [List.pairwise_append, List.pairwise_cons, List.forall_mem_cons] at all ⊢
    obtain ⟨front, ⟨⟨_, fromX⟩, fromY, back⟩, across⟩ := all
    refine ⟨front, ⟨⟨less y x lt, fromY⟩, fromX, back⟩, fun a ha => ?_⟩
    obtain ⟨ax, ay, rest⟩ := across a ha
    exact ⟨ay, ax, rest⟩

/-- Nor do any number of them. -/
lemma Swaps.perm {xs ys : List α} (swaps : Swaps cmp xs ys) : ys.Perm xs := by
  induction swaps with
  | refl => exact .refl xs
  | tail _ swap ih => exact swap.perm.trans ih

/-- What holds of items in their order goes on to hold through any number of exchanges. -/
lemma Swaps.pairwise {S : α → α → Prop} (less : ∀ x y, cmp x y = .less → S x y) {xs ys : List α}
    (swaps : Swaps cmp xs ys) (all : xs.Pairwise S) : ys.Pairwise S := by
  induction swaps with
  | refl => exact all
  | tail _ swap ih => exact swap.pairwise less ih

/-! ### Carrying an item to its place -/

/-- The next item is passed, or the walk ends before it, or its verdict stops the walk. -/
lemma carry_cons_cases (cmp : α → α → Verdict) (x y : α) (ys : List α) :
    (cmp x y = .less ∧
      carry cmp x (y :: ys) = (y :: (carry cmp x ys).1, (carry cmp x ys).2)) ∨
    ((cmp x y = .equal ∨ cmp x y = .greater) ∧ carry cmp x (y :: ys) = (x :: y :: ys, none)) ∨
    ((cmp x y).isOrdinary = false ∧ carry cmp x (y :: ys) = (x :: y :: ys, some (cmp x y))) := by
  rw [carry]
  cases hv : cmp x y with
  | less => exact .inl ⟨rfl, rfl⟩
  | equal => exact .inr (.inl ⟨.inl rfl, rfl⟩)
  | greater => exact .inr (.inl ⟨.inr rfl, rfl⟩)
  | _ => exact .inr (.inr ⟨rfl, rfl⟩)

/-- An item is carried to its place by exchanges of neighbours. -/
lemma swaps_carry (cmp : α → α → Verdict) (x : α) (ys rest : List α) :
    Swaps cmp (ys.reverse ++ x :: rest) ((carry cmp x ys).1.reverse ++ rest) := by
  induction ys generalizing rest with
  | nil => exact .refl
  | cons y ys ih =>
    have stays : (y :: ys).reverse ++ x :: rest = (x :: y :: ys).reverse ++ rest := by simp
    rcases carry_cons_cases cmp x y ys with ⟨less, eq⟩ | ⟨_, eq⟩ | ⟨_, eq⟩
    · rw [eq, List.reverse_cons, List.reverse_cons, List.append_assoc, List.append_assoc]
      exact .head (.swap ys.reverse rest less) (ih (y :: rest))
    · rw [eq, stays]
    · rw [eq, stays]

/-- Carrying an item loses nothing. -/
lemma perm_carry (cmp : α → α → Verdict) (x : α) (ys : List α) :
    (carry cmp x ys).1.Perm (x :: ys) := by
  have perm := (swaps_carry cmp x ys []).perm
  rw [List.append_nil] at perm
  calc (carry cmp x ys).1
    _ |>.Perm (carry cmp x ys).1.reverse := (List.reverse_perm _).symm
    _ |>.Perm (ys.reverse ++ [x]) := perm
    _ |>.Perm (x :: ys) := by
      rw [← List.reverse_cons]
      exact List.reverse_perm _

/-- An item that is carried to its place is in order there. -/
lemma sorted_carry (consistent : Consistent P cmp) {x : α} {ys : List α} (hx : P x)
    (hys : ∀ y ∈ ys, P y) (sorted : Sorted cmp ys.reverse) (whole : (carry cmp x ys).2 = none) :
    Sorted cmp (carry cmp x ys).1.reverse := by
  unfold Sorted at sorted ⊢
  rw [List.pairwise_reverse] at sorted ⊢
  induction ys with
  | nil => exact List.pairwise_singleton _ x
  | cons y ys ih =>
    obtain ⟨hy, hys⟩ := List.forall_mem_cons.1 hys
    obtain ⟨last, sorted'⟩ := List.pairwise_cons.1 sorted
    rcases carry_cons_cases cmp x y ys with ⟨less, eq⟩ | ⟨here, eq⟩ | ⟨_, eq⟩
    · rw [eq] at whole ⊢
      refine List.pairwise_cons.2 ⟨fun z hz => ?_, ih hys sorted' whole⟩
      rcases List.mem_cons.1 ((perm_carry cmp x ys).mem_iff.1 hz) with rfl | old
      · exact .inl less
      · exact last z old
    · rw [eq]
      refine List.pairwise_cons.2 ⟨?_, sorted⟩
      have before : Precedes cmp y x := by
        rcases here with same | greater
        · exact .inr (consistent.equal_symm hx hy same)
        · exact .inl (consistent.less_of_greater hx hy greater)
      -- the other items precede the one that the walk ended at
      refine List.forall_mem_cons.2 ⟨before, fun z hz => ?_⟩
      exact consistent.precedes_trans (hys z hz) hy hx (last z hz) before
    · rw [eq] at whole
      cases whole

/-- What stops an item on its way is the verdict on it and an item that it meets. -/
lemma stopped_carry {x : α} {ys : List α} {v : Verdict} (stop : (carry cmp x ys).2 = some v) :
    v.isOrdinary = false ∧ ∃ y ∈ ys, cmp x y = v := by
  induction ys with
  | nil => cases stop
  | cons y ys ih =>
    rcases carry_cons_cases cmp x y ys with ⟨_, eq⟩ | ⟨_, eq⟩ | ⟨odd, eq⟩
    · rw [eq] at stop
      obtain ⟨odd, z, hz, same⟩ := ih stop
      exact ⟨odd, z, List.mem_cons_of_mem y hz, same⟩
    · rw [eq] at stop
      cases stop
    · rw [eq] at stop
      cases stop
      exact ⟨odd, y, List.mem_cons_self, rfl⟩

/-- Carrying works on keys as it does on the items that have them. -/
lemma carry_map (cmp : α → α → Verdict) (f : β → α) (x : β) (ys : List β) :
    carry cmp (f x) (ys.map f) =
      ((carry (fun a b => cmp (f a) (f b)) x ys).1.map f,
        (carry (fun a b => cmp (f a) (f b)) x ys).2) := by
  induction ys with
  | nil => rfl
  | cons y ys ih =>
    rw [List.map_cons, carry, carry, ih]
    dsimp only
    split
    · rfl
    · split <;> rfl

/-! ### Sorting -/

/-- An item was carried to its place, and the sort goes on, or it was stopped on the way. -/
lemma sortOnto_cons_cases (cmp : α → α → Verdict) (done : List α) (x : α) (rest : List α) :
    ((carry cmp x done).2 = none ∧
      sortOnto cmp done (x :: rest) = sortOnto cmp (carry cmp x done).1 rest) ∨
    ∃ v, (carry cmp x done).2 = some v ∧
      sortOnto cmp done (x :: rest) = ((carry cmp x done).1.reverse ++ rest, some v) := by
  rw [sortOnto]
  rcases hc : carry cmp x done with ⟨done', _ | v⟩
  · exact .inl ⟨rfl, rfl⟩
  · exact .inr ⟨v, rfl, rfl⟩

/-- Sorting is a matter of exchanges of neighbours, whether it comes to its end or not. -/
lemma swaps_sortOnto (cmp : α → α → Verdict) (done rest : List α) :
    Swaps cmp (done.reverse ++ rest) (sortOnto cmp done rest).1 := by
  induction rest generalizing done with
  | nil =>
    rw [List.append_nil]
    exact .refl
  | cons x rest ih =>
    have carried := swaps_carry cmp x done rest
    rcases sortOnto_cons_cases cmp done x rest with ⟨_, eq⟩ | ⟨v, _, eq⟩
    · rw [eq]
      exact carried.trans (ih (carry cmp x done).1)
    · rw [eq]
      exact carried

/-- All that a sort does is to exchange neighbours. -/
lemma swaps_sort (cmp : α → α → Verdict) (items : List α) : Swaps cmp items (sort cmp items).1 :=
  swaps_sortOnto cmp [] items

/-- Items that are carried to their places one by one are sorted, if nothing stops them. -/
lemma sorted_sortOnto (consistent : Consistent P cmp) {done rest : List α}
    (hdone : ∀ x ∈ done, P x) (hrest : ∀ x ∈ rest, P x) (sorted : Sorted cmp done.reverse)
    (whole : (sortOnto cmp done rest).2 = none) : Sorted cmp (sortOnto cmp done rest).1 := by
  induction rest generalizing done with
  | nil => exact sorted
  | cons x rest ih =>
    obtain ⟨hx, hrest⟩ := List.forall_mem_cons.1 hrest
    rcases sortOnto_cons_cases cmp done x rest with ⟨carried, eq⟩ | ⟨v, _, eq⟩
    · rw [eq] at whole ⊢
      refine ih (fun y hy => ?_) hrest (sorted_carry consistent hx hdone sorted carried) whole
      rcases List.mem_cons.1 ((perm_carry cmp x done).mem_iff.1 hy) with rfl | old
      · exact hx
      · exact hdone y old
    · rw [eq] at whole
      cases whole

/-- A sort that comes to its end leaves the items sorted. -/
lemma sorted_sort (consistent : Consistent P cmp) {items : List α} (admitted : ∀ x ∈ items, P x)
    (whole : (sort cmp items).2 = none) : Sorted cmp (sort cmp items).1 :=
  sorted_sortOnto consistent nofun admitted .nil whole

/-- A sort is stopped by the verdict on an item and one that was before it. -/
lemma stopped_sortOnto {done rest : List α} {v : Verdict}
    (stop : (sortOnto cmp done rest).2 = some v) :
    v.isOrdinary = false ∧ ∃ before x after, rest = before ++ x :: after ∧
      ∃ y ∈ done ++ before, cmp x y = v := by
  induction rest generalizing done with
  | nil => cases stop
  | cons x rest ih =>
    rcases sortOnto_cons_cases cmp done x rest with ⟨_, eq⟩ | ⟨w, carried, eq⟩
    · rw [eq] at stop
      obtain ⟨odd, before, z, after, rfl, y, hy, same⟩ := ih stop
      refine ⟨odd, x :: before, z, after, rfl, y, ?_, same⟩
      have perm := (perm_carry cmp x done).append_right before
      exact List.perm_middle.mem_iff.2 (perm.mem_iff.1 hy)
    · rw [eq] at stop
      cases stop
      obtain ⟨odd, y, hy, same⟩ := stopped_carry carried
      exact ⟨odd, [], x, rest, rfl, y, List.mem_append_left [] hy, same⟩

/-- What stops a sort is the verdict on an item and one that came before it. -/
lemma stopped_sort {items : List α} {v : Verdict} (stop : (sort cmp items).2 = some v) :
    v.isOrdinary = false ∧
      ∃ (i j : Nat) (x y : α), j < i ∧ items[i]? = some x ∧ items[j]? = some y ∧ cmp x y = v := by
  obtain ⟨odd, before, x, after, rfl, y, hy, same⟩ := stopped_sortOnto stop
  rw [List.nil_append] at hy
  obtain ⟨j, hj, rfl⟩ := List.getElem_of_mem hy
  refine ⟨odd, before.length, j, x, _, hj, ?_, ?_, same⟩
  · rw [List.getElem?_append_right (Nat.le_refl _), Nat.sub_self, List.getElem?_cons_zero]
  · rw [List.getElem?_append_left hj, List.getElem?_eq_getElem hj]

/-- Sorting works on keys as it does on the items that have them. -/
lemma sortOnto_map (cmp : α → α → Verdict) (f : β → α) (done rest : List β) :
    sortOnto cmp (done.map f) (rest.map f) =
      ((sortOnto (fun a b => cmp (f a) (f b)) done rest).1.map f,
        (sortOnto (fun a b => cmp (f a) (f b)) done rest).2) := by
  induction rest generalizing done with
  | nil => exact Prod.ext List.map_reverse.symm rfl
  | cons x rest ih =>
    rw [List.map_cons, sortOnto, sortOnto, carry_map]
    rcases carry (fun a b => cmp (f a) (f b)) x done with ⟨done', _ | v⟩
    · exact ih done'
    · exact Prod.ext (by simp) rfl

/-- Sorting what items stand for is sorting the items by what they stand for. -/
lemma sort_map (cmp : α → α → Verdict) (f : β → α) (items : List β) :
    (sort cmp (items.map f)).1 = (sort (fun a b => cmp (f a) (f b)) items).1.map f :=
  congrArg Prod.fst (sortOnto_map cmp f [] items)

/-- Items with their positions are in the order of these. -/
lemma pairwise_zipIdx (items : List α) : items.zipIdx.Pairwise fun a b => a.2 < b.2 := by
  have numbers : (items.zipIdx.map Prod.snd).Pairwise (· < ·) := by
    rw [List.zipIdx_map_snd]
    exact List.pairwise_lt_range'
  exact List.pairwise_map.1 numbers

/-- The positions that the items had tell how the sort has moved them. -/
lemma rearranges_sort (cmp : α → α → Verdict) (items : List α) :
    Rearranges cmp items (sort cmp items).1 := by
  have swaps := swaps_sort (fun a b : α × Nat => cmp a.1 b.1) items.zipIdx
  have untouched : items.zipIdx.Pairwise fun a b => cmp a.1 b.1 = .equal → a.2 < b.2 := by
    refine (pairwise_zipIdx items).imp ?_
    exact fun later _ => later
  refine ⟨_, swaps.perm, ?_, swaps.pairwise (fun a b less same => ?_) untouched⟩
  · rw [← sort_map, List.zipIdx_map_fst]
  · rw [less] at same
    cases same

/-- A sort by a consistent comparer is stable, and it can be stopped at any moment. -/
theorem sort_sorts (consistent : Consistent P cmp) {items : List α} (admitted : ∀ x ∈ items, P x) :
    Sorts cmp items (sort cmp items).1 (sort cmp items).2 where
  perm := (swaps_sort cmp items).perm
  stable := rearranges_sort cmp items
  ordered := sorted_sort consistent admitted
  stopped _ stop := stopped_sort stop
  finished answered := by
    cases stop : (sort cmp items).2 with
    | none => rfl
    | some v =>
      obtain ⟨odd, i, j, x, y, before, hx, hy, same⟩ := stopped_sort stop
      obtain ⟨hi, rfl⟩ := List.getElem?_eq_some_iff.1 hx
      obtain ⟨hj, rfl⟩ := List.getElem?_eq_some_iff.1 hy
      -- the two were compared from the other side
      have answer := List.pairwise_iff_getElem.1 answered j i hj hi before
      have back := consistent.reflected (admitted _ (List.getElem_mem hj))
        (admitted _ (List.getElem_mem hi))
      rw [back, Verdict.isOrdinary_invert, same, odd] at answer
      cases answer

/-- Scalars may be sorted, also those of which some have no order. -/
lemma consistent_scalars : Consistent (fun _ => True) Scalar.compare where
  reflected _ _ := Scalar.compare_exchange _ _
  less {x y z} _ _ _ xy yz := by
    have kinds : ∀ {a b : Scalar}, a.compare b = .less → a.kind = b.kind := fun less =>
      by_contra fun ne => nomatch (Scalar.compare_of_kind_ne ne).symm.trans less
    exact (Scalar.chained_compare (kinds xy) (kinds yz)).less xy yz
  equal {x y z} _ _ _ xy := by
    have kind : x.kind = y.kind :=
      by_contra fun ne => nomatch (Scalar.compare_of_kind_ne ne).symm.trans xy
    by_cases other : y.kind = z.kind
    · exact (Scalar.chained_compare kind other).left xy
    · rw [Scalar.compare_of_kind_ne other, Scalar.compare_of_kind_ne (kind ▸ other)]

/-- The number one, both zeros, and what is no number. -/
def someDoubles : List Scalar :=
  [.float .double 0x3ff0000000000000#64, .float .double 0x8000000000000000#64,
    .float .double 0x0000000000000000#64, .float .double 0x7ff8000000000000#64]

/-- The two zeros stay in their order, and one goes behind them. What is no number stops the sort,
and the rest is in order by then. -/
theorem sort_sorts_doubles :
    Consistent (fun _ => True) Scalar.compare ∧
    sort Scalar.compare (someDoubles.take 3) =
      ([someDoubles[1], someDoubles[2], someDoubles[0]], none) ∧
    Sorted Scalar.compare (sort Scalar.compare (someDoubles.take 3)).1 ∧
    (sort Scalar.compare someDoubles).2 = some .invalid ∧
    Sorts Scalar.compare someDoubles (sort Scalar.compare someDoubles).1 (some .invalid) := by
  have sorted : Sorts Scalar.compare (someDoubles.take 3) _ _ :=
    sort_sorts consistent_scalars fun _ _ => trivial
  have stopped : Sorts Scalar.compare someDoubles _ _ :=
    sort_sorts consistent_scalars fun _ _ => trivial
  exact ⟨consistent_scalars, rfl, sorted.ordered rfl, rfl, stopped⟩

end Sequence

end Metaobject
