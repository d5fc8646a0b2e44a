import Metaobject.Proofs.Storage.Upkeep

/-!
# Which buffers are alive

The books say which buffers are alive: those that a tracker lists and those that somebody reads. So
a buffer that is not given up is not concerned when others are.
-/

namespace Metaobject

namespace Heap

variable {h h' : Heap}

/-- A heap with a cell for each cell of another one is no smaller. -/
lemma size_le_of_cells (kept : ∀ (b : BufferId) (c : Cell), h.cells[b]? = some c →
    (h'.cells[b]?).isSome = true) : h.cells.size ≤ h'.cells.size := by
  by_contra lt
  have last : h'.cells.size < h.cells.size := Nat.lt_of_not_le lt
  have there := kept h'.cells.size _ (Array.getElem?_eq_getElem last)
  rw [Array.getElem?_eq_none (Nat.le_refl _)] at there
  cases there

lemma isLive_of_getElem? {b : BufferId} {c : Cell} (hc : h.cells[b]? = some c) :
    h.isLive (.to b) = c.isHeld := by
  rw [isLive, cell?, hc, Option.filter_some]
  cases c.isHeld <;> rfl

/-- While a buffer is alive it reads as the block that is due for it. -/
lemma read_eq_due? (h : Heap) (b : BufferId) :
    h.read (.to b) = if h.isLive (.to b) then (h.due? b).map (·.2.bytes) else none := by
  rw [isLive, read, due?, cell?]
  cases h.cells[b]? with
  | none => rfl
  | some c =>
    rw [Option.filter_some]
    cases c.isHeld <;> rfl

lemma read_congr {b : BufferId} (due : h'.due? b = h.due? b)
    (live : h'.isLive (.to b) = h.isLive (.to b)) : h'.read (.to b) = h.read (.to b) := by
  rw [read_eq_due?, read_eq_due?, due, live]

/-- What can be read is a matter of the cells. -/
lemma read_of_cells (same : h'.cells = h.cells) (ref : Handle) : h'.read ref = h.read ref := by
  obtain _ | b := ref
  · rfl
  · rw [read, read, cell?, cell?, same]

end Heap

namespace Ledger

variable {base h h' : Heap} {held held' bs : List BufferId} {o : Outside}

lemma nodup (ledger : Ledger base held o h) : held.Nodup := by
  obtain ⟨place, new, back, books⟩ := ledger
  refine List.nodup_iff_count.2 fun b => ?_
  rw [books.owned b]
  cases Heap.cellSince base h b with
  | none => exact Nat.zero_le 1
  | some c => exact Bool.toNat_le c.owned

/-- A buffer is alive for as long as a tracker lists it or somebody reads it. -/
lemma isLive_iff (ledger : Ledger base held o h) {b : BufferId} (since : base.cells.size ≤ b) :
    h.isLive (.to b) = true ↔ b ∈ held ∨ b ∈ o.readings := by
  obtain ⟨place, new, back, books⟩ := ledger
  have owned := books.owned b
  have read := books.read b
  rw [Heap.cellSince, if_pos since] at owned read
  rw [← List.count_pos_iff, ← List.count_pos_iff, owned, read]
  cases hc : h.cells[b]? with
  | none => simp [Heap.isLive, Heap.cell?, hc]
  | some c =>
    rw [Heap.isLive_of_getElem? hc, Option.elim_some, Option.elim_some]
    cases ho : c.owned <;> simp [Cell.isHeld, ho]

/-- A buffer that somebody holds was tracked since the beginning. -/
lemma since_of_mem (ledger : Ledger base held o h) {b : BufferId} (hb : b ∈ held) :
    base.cells.size ≤ b := by
  obtain ⟨c, hc, _⟩ := ledger.cell_of_mem hb
  exact Heap.le_of_cellSince hc

/-- A buffer reads as before if it is as alive as before, which buffers from before the beginning
are in any case. -/
lemma read_eq_of_isLive (before : Ledger base held o h) (after : Ledger base held' o h')
    (due : h'.due? = h.due?) {b : BufferId}
    (alive : base.cells.size ≤ b → h'.isLive (.to b) = h.isLive (.to b)) :
    h'.read (.to b) = h.read (.to b) := by
  refine Heap.read_congr (congrFun due b) ?_
  by_cases since : base.cells.size ≤ b
  · exact alive since
  · obtain ⟨_, _, _, books⟩ := before
    obtain ⟨_, _, _, books'⟩ := after
    have old := Nat.lt_of_not_le since
    rw [Heap.isLive, Heap.isLive, Heap.cell?, Heap.cell?, books.kept b old, books'.kept b old]

/-- When some buffers are given up, another one reads as before. -/
lemma read_eq (before : Ledger base (bs ++ held) o h) (after : Ledger base held o h')
    (due : h'.due? = h.due?) {ref : Handle} (other : ∀ b ∈ bs, ref ≠ .to b) :
    h'.read ref = h.read ref := by
  obtain _ | b := ref
  · rfl
  have other : b ∉ bs := fun hb => other b hb rfl
  refine before.read_eq_of_isLive after due fun since => ?_
  rw [Bool.eq_iff_iff, after.isLive_iff since, before.isLive_iff since, List.mem_append]
  simp [other]

/-- A buffer that was given up is dead, unless somebody reads it. -/
lemma dead_of_given_up (before : Ledger base (bs ++ held) o h) (after : Ledger base held o h')
    {b : BufferId} (hb : b ∈ bs) (closed : b ∉ o.readings) : h'.isLive (.to b) = false := by
  have since := before.since_of_mem (List.mem_append_left held hb)
  have apart := (List.nodup_append.1 before.nodup).2.2
  rw [← Bool.not_eq_true, after.isLive_iff since]
  rintro (held | reading)
  · exact apart b hb b held rfl
  · exact closed reading

end Ledger

end Metaobject
