import Metaobject.Verdict

/-!
# Sorting and searching by a comparer

`sort` is an insertion sort: it takes the items from left to right and carries each one over the
sorted items before it for as long as the comparer says `less`, so equal items keep their order. The
first verdict that is no answer stops it, and the sequence is left as it stands at that moment.

`search` halves a sorted range. It stops at the first item that compares `equal`, and at the first
verdict that is no answer.
-/

namespace Metaobject.Sequence

variable {α : Type}

/-- Carries `x` over the sorted items before it, nearest first. The items come back nearest first,
together with the verdict that stopped the walk, if one did. -/
def carry (cmp : α → α → Verdict) (x : α) : List α → List α × Option Verdict
  | [] => ([x], none)
  | y :: ys =>
    let v := cmp x y
    if v.isOrdinary = false then (x :: y :: ys, some v)
    else if v = .less then
      let (zs, stop) := carry cmp x ys
      (y :: zs, stop)
    else (x :: y :: ys, none)

/-- Sorts `rest` into `done`, which holds the sorted items, last one first. -/
def sortOnto (cmp : α → α → Verdict) (done : List α) : List α → List α × Option Verdict
  | [] => (done.reverse, none)
  | x :: rest =>
    match carry cmp x done with
    | (done', none) => sortOnto cmp done' rest
    | (done', some v) => (done'.reverse ++ rest, some v)

/-- Sorts a sequence; the verdict is the one that stopped the sort before its end. -/
def sort (cmp : α → α → Verdict) (items : List α) : List α × Option Verdict :=
  sortOnto cmp [] items

/-- Looks for `key` in the positions from `lo` up to `hi`. -/
def searchIn (cmp : α → α → Verdict) (items : Array α) (key : α) (lo hi : Nat)
    (h : hi ≤ items.size) : Except Verdict (Option Nat) :=
  if hlt : lo < hi then
    let mid := lo + (hi - lo) / 2
    match cmp items[mid] key with
    | .less => searchIn cmp items key (mid + 1) hi h
    | .greater => searchIn cmp items key lo mid (by omega)
    | .equal => .ok (some mid)
    | v => .error v
  else .ok none
  termination_by hi - lo

/-- Looks for `key` in a sequence sorted by the same comparer. -/
def search (cmp : α → α → Verdict) (items : Array α) (key : α) : Except Verdict (Option Nat) :=
  searchIn cmp items key 0 items.size (Nat.le_refl _)

theorem length_carry (cmp : α → α → Verdict) (x : α) (ys : List α) :
    (carry cmp x ys).1.length = ys.length + 1 := by
  induction ys with
  | nil => rfl
  | cons y ys ih =>
    simp only [carry]
    split
    · simp
    · split
      · simp [ih]
      · simp

end Metaobject.Sequence
