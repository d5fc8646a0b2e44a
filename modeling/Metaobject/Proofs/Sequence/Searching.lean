import Mathlib.Data.Nat.Size
import Metaobject.Proofs.Sequence.Sorting

/-!
# Searching by a comparer

A search looks at the item in the middle of what is left, and goes on in one half or is done.
`Looks` is a run of it: every position that it looks at holds an item, and there are no more of them
than halvings. Which half may be left out is a matter of the laws alone: an item equal to the key
compares with the one in the middle as the key does, whatever the key has to do with other items.
`Sequence.search_searches` is the result.
-/

namespace Metaobject

namespace Sequence

variable {α : Type}

/-- The position in the middle of those from `lo` up to `hi`. -/
def middle (lo hi : Nat) : Nat :=
  lo + (hi - lo) / 2

/-- A run of a search through the positions from `lo` up to `hi`, with the positions that it looks
at and its answer. -/
inductive Looks (cmp : α → α → Verdict) (items : Array α) (key : α) :
    Nat → Nat → List Nat → Except Verdict (Option Nat) → Prop where
  | nowhere {lo hi} (empty : hi ≤ lo) : Looks cmp items key lo hi [] (.ok none)
  | after {lo hi x looks answer} (any : lo < hi) (item : items[middle lo hi]? = some x)
    (less : cmp x key = .less) (rest : Looks cmp items key (middle lo hi + 1) hi looks answer) :
    Looks cmp items key lo hi (middle lo hi :: looks) answer
  | before {lo hi x looks answer} (any : lo < hi) (item : items[middle lo hi]? = some x)
    (greater : cmp x key = .greater) (rest : Looks cmp items key lo (middle lo hi) looks answer) :
    Looks cmp items key lo hi (middle lo hi :: looks) answer
  | here {lo hi x} (any : lo < hi) (item : items[middle lo hi]? = some x)
    (same : cmp x key = .equal) : Looks cmp items key lo hi [middle lo hi] (.ok (middle lo hi))
  | stopped {lo hi x} (any : lo < hi) (item : items[middle lo hi]? = some x)
    (odd : (cmp x key).isOrdinary = false) :
    Looks cmp items key lo hi [middle lo hi] (.error (cmp x key))

/-- What a search of some items for a key came to. -/
structure Searches (cmp : α → α → Verdict) (items : Array α) (key : α)
    (answer : Except Verdict (Option Nat)) : Prop where
  /-- It comes to an end, and looks at positions of items only. -/
  ends : ∃ looks, Looks cmp items key 0 items.size looks answer ∧ (∀ i ∈ looks, i < items.size) ∧
    looks.length ≤ items.size.size
  found : ∀ i, answer = .ok (some i) → ∃ h : i < items.size, cmp items[i] key = .equal
  missing : answer = .ok none → ∀ x ∈ items, cmp x key ≠ .equal
  /-- What stopped it is no answer, and it is the verdict on some item and the key. -/
  stopped : ∀ v, answer = .error v → v.isOrdinary = false ∧ ∃ x ∈ items, cmp x key = v
  /-- It finds an item that is equal to a key that can be compared with all of them. -/
  finds : (∀ x ∈ items, (cmp x key).isOrdinary = true) → (∃ x ∈ items, cmp x key = .equal) →
    ∃ i, answer = .ok (some i)

variable {P : α → Prop} {cmp : α → α → Verdict} {items : Array α} {key : α}

/-- What the search answers is the end of a run. -/
lemma looks_searchIn (cmp : α → α → Verdict) (items : Array α) (key : α) (lo hi : Nat)
    (h : hi ≤ items.size) :
    ∃ looks, Looks cmp items key lo hi looks (searchIn cmp items key lo hi h) := by
  fun_induction searchIn cmp items key lo hi h with
  | case1 lo hi h any mid less ih =>
    obtain ⟨looks, rest⟩ := ih
    exact ⟨_, .after any (Array.getElem?_eq_getElem _) less rest⟩
  | case2 lo hi h any mid greater ih =>
    obtain ⟨looks, rest⟩ := ih
    exact ⟨_, .before any (Array.getElem?_eq_getElem _) greater rest⟩
  | case3 lo hi h any mid same => exact ⟨_, .here any (Array.getElem?_eq_getElem _) same⟩
  | case4 lo hi h any mid notLess notGreater notEqual =>
    refine ⟨_, .stopped any (Array.getElem?_eq_getElem _) ?_⟩
    rw [← Bool.not_eq_true, Verdict.isOrdinary_iff]
    rintro (less | same | greater)
    · exact notLess less
    · exact notEqual same
    · exact notGreater greater
  | case5 lo hi h empty => exact ⟨[], .nowhere (Nat.le_of_not_lt empty)⟩

/-! ### What a run comes to -/

namespace Looks

variable {lo hi : Nat} {looks : List Nat} {answer : Except Verdict (Option Nat)}

/-- There is an item wherever it looks. -/
lemma lt_size (run : Looks cmp items key lo hi looks answer) : ∀ i ∈ looks, i < items.size := by
  have held : ∀ {i : Nat} {x : α}, items[i]? = some x → i < items.size := fun item =>
    (Array.getElem?_eq_some_iff.1 item).1
  induction run with
  | nowhere => exact nofun
  | after _ item _ _ ih => exact List.forall_mem_cons.2 ⟨held item, ih⟩
  | before _ item _ _ ih => exact List.forall_mem_cons.2 ⟨held item, ih⟩
  | here _ item => exact List.forall_mem_cons.2 ⟨held item, nofun⟩
  | stopped _ item => exact List.forall_mem_cons.2 ⟨held item, nofun⟩

/-- What is left is halved each time. -/
lemma length_le (run : Looks cmp items key lo hi looks answer) :
    looks.length ≤ (hi - lo).size := by
  have halved : ∀ {k n m : Nat}, 0 < n → m ≤ n / 2 → k ≤ m.size → k + 1 ≤ n.size := by
    intro k n m pos half le
    rw [Nat.succ_le_iff, Nat.lt_size]
    cases k with
    | zero => exact pos
    | succ k =>
      have below : 2 ^ k ≤ m := Nat.lt_size.1 le
      rw [Nat.pow_succ]
      omega
  induction run with
  | nowhere => exact Nat.zero_le _
  | after any _ _ _ ih => exact halved (by omega) (by unfold middle; omega) ih
  | before any _ _ _ ih => exact halved (by omega) (by unfold middle; omega) ih
  | here any => exact halved (m := 0) (by omega) (Nat.zero_le _) (Nat.le_refl _)
  | stopped any => exact halved (m := 0) (by omega) (Nat.zero_le _) (Nat.le_refl _)

lemma found (run : Looks cmp items key lo hi looks answer) {i : Nat} (hit : answer = .ok (some i)) :
    ∃ h : i < items.size, cmp items[i] key = .equal := by
  induction run with
  | nowhere => cases hit
  | after _ _ _ _ ih => exact ih hit
  | before _ _ _ _ ih => exact ih hit
  | here _ item same =>
    cases hit
    obtain ⟨h, rfl⟩ := Array.getElem?_eq_some_iff.1 item
    exact ⟨h, same⟩
  | stopped => cases hit

lemma error (run : Looks cmp items key lo hi looks answer) {v : Verdict}
    (stop : answer = .error v) : v.isOrdinary = false ∧ ∃ x ∈ items, cmp x key = v := by
  induction run with
  | nowhere => cases stop
  | after _ _ _ _ ih => exact ih stop
  | before _ _ _ _ ih => exact ih stop
  | here => cases stop
  | stopped _ item odd =>
    cases stop
    exact ⟨odd, _, Array.mem_of_getElem? item, rfl⟩

end Looks

/-- Of two items of a sorted sequence the earlier one precedes. -/
lemma Sorted.precedes (sorted : Sorted cmp items.toList) {i j : Nat} {x y : α} (before : i < j)
    (hx : items[i]? = some x) (hy : items[j]? = some y) : Precedes cmp x y := by
  obtain ⟨hi, rfl⟩ := Array.getElem?_eq_some_iff.1 hx
  obtain ⟨hj, rfl⟩ := Array.getElem?_eq_some_iff.1 hy
  exact List.pairwise_iff_getElem.1 sorted i j hi hj before

namespace Consistent

variable {x y : α}

/-- What precedes an item that is less than the key is not equal to the key. -/
lemma ne_equal_of_less (consistent : Consistent P cmp) (hx : P x) (hy : P y) (hkey : P key)
    (order : Precedes cmp x y) (less : cmp y key = .less) : cmp x key ≠ .equal := by
  intro same
  have after : cmp x y = .greater := by
    rw [consistent.equal hx hkey hy same]
    exact consistent.greater_of_less hy hkey less
  exact not_precedes_of_greater after order

/-- What an item that is greater than the key precedes is not equal to the key. -/
lemma ne_equal_of_greater (consistent : Consistent P cmp) (hx : P x) (hy : P y) (hkey : P key)
    (order : Precedes cmp y x) (greater : cmp y key = .greater) : cmp x key ≠ .equal := by
  intro same
  have after : cmp y x = .greater := by
    rw [consistent.equal_right hx hkey hy same]
    exact greater
  exact not_precedes_of_greater after order

end Consistent

/-- Where a run finds nothing there is nothing. -/
lemma Looks.missing (consistent : Consistent P cmp) (admitted : ∀ x ∈ items, P x) (hkey : P key)
    (sorted : Sorted cmp items.toList) {lo hi : Nat} {looks : List Nat}
    {answer : Except Verdict (Option Nat)} (run : Looks cmp items key lo hi looks answer)
    (none : answer = .ok none) {i : Nat} {x : α} (hlo : lo ≤ i) (hhi : i < hi)
    (hx : items[i]? = some x) : cmp x key ≠ .equal := by
  have holds : ∀ {j : Nat} {y : α}, items[j]? = some y → P y := fun item =>
    admitted _ (Array.mem_of_getElem? item)
  induction run with
  | nowhere empty => omega
  | @after lo hi y looks answer any item less rest ih =>
    rcases Nat.lt_trichotomy i (middle lo hi) with lt | rfl | gt
    · exact consistent.ne_equal_of_less (holds hx) (holds item) hkey (sorted.precedes lt hx item)
        less
    · rw [Option.some.inj (hx.symm.trans item), less]
      decide
    · exact ih none gt hhi
  | @before lo hi y looks answer any item greater rest ih =>
    rcases Nat.lt_trichotomy i (middle lo hi) with lt | rfl | gt
    · exact ih none hlo lt
    · rw [Option.some.inj (hx.symm.trans item), greater]
      decide
    · exact consistent.ne_equal_of_greater (holds hx) (holds item) hkey (sorted.precedes gt item hx)
        greater
  | here => cases none
  | stopped => cases none

/-- A search of sorted items by a consistent comparer finds the key if it is there, unless there is
no answer for the key and an item that it looks at. -/
theorem search_searches (consistent : Consistent P cmp) (admitted : ∀ x ∈ items, P x) (hkey : P key)
    (sorted : Sorted cmp items.toList) : Searches cmp items key (search cmp items key) := by
  obtain ⟨looks, run⟩ := looks_searchIn cmp items key 0 items.size (Nat.le_refl _)
  have missing : search cmp items key = .ok none → ∀ x ∈ items, cmp x key ≠ .equal := by
    intro none x hx
    obtain ⟨i, hi, rfl⟩ := Array.mem_iff_getElem.1 hx
    exact run.missing consistent admitted hkey sorted none (Nat.zero_le i) hi
      (Array.getElem?_eq_getElem hi)
  constructor
  case ends => exact ⟨looks, run, run.lt_size, run.length_le⟩
  case found => exact fun i hit => run.found hit
  case missing => exact missing
  case stopped => exact fun v stop => run.error stop
  case finds =>
    rintro answered ⟨x, hx, same⟩
    cases answer : search cmp items key with
    | error v =>
      obtain ⟨odd, y, hy, verdict⟩ := run.error answer
      rw [← verdict, answered y hy] at odd
      cases odd
    | ok found =>
      cases found with
      | none => exact absurd same (missing answer x hx)
      | some i => exact ⟨i, rfl⟩

/-- Among both zeros and the number one a zero is found in the middle, a half is not found, and what
is no number stops the search. -/
theorem search_searches_doubles :
    let items := #[someDoubles[1], someDoubles[2], someDoubles[0]]
    let half : Scalar := .float .double 0x3fe0000000000000#64
    Consistent (fun _ => True) Scalar.compare ∧ Sorted Scalar.compare items.toList ∧
    search Scalar.compare items someDoubles[1] = .ok (some 1) ∧
    search Scalar.compare items someDoubles[3] = .error .invalid ∧
    search Scalar.compare items half = .ok none ∧ (∀ x ∈ items, x.compare half ≠ .equal) := by
  intro items half
  have sorted : Sorted Scalar.compare (sort Scalar.compare (someDoubles.take 3)).1 :=
    sorted_sort consistent_scalars (fun _ _ => trivial) rfl
  have miss : search Scalar.compare items half = .ok none := by decide +kernel
  have searched : Searches Scalar.compare items half _ :=
    search_searches consistent_scalars (fun _ _ => trivial) trivial sorted
  exact ⟨consistent_scalars, sorted, by decide +kernel, by decide +kernel, miss,
    searched.missing miss⟩

end Sequence

end Metaobject
