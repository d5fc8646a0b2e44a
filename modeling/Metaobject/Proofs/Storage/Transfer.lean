import Metaobject.Proofs.Lifecycle.Assembly
import Metaobject.Proofs.Storage.Liveness

/-!
# Copies of buffers, one after the other

Whoever copies values in depth has buffers to copy, in some order. A `Transfer` is one of them: the
way to it, the buffer, and the manager that has to supply the copy. It gets stuck if the buffer is
dead, or if no block of the right length is to be had.

`Transfer.afterAll` is what a list of transfers makes of a heap, and `Transfer.firstStuck` tells
which of them is the first to get stuck. Nothing is said here of who asks for the transfers.
-/

namespace Metaobject

open Metaobject.Action Attempt

/-- An error, reported under the fields of a path, the outermost one first. -/
def BuildError.along : List (Nat × String) → BuildError → BuildError
  | [], cause => cause
  | (index, name) :: path, cause => .field index name (along path cause)

/-- A buffer that has to be copied. -/
structure Transfer where
  /-- The indexes and the names of the fields that lead to it. -/
  path : List (Nat × String) := []
  source : Handle
  /-- Where the copy has to come from. -/
  manager : Option Manager

namespace Transfer

/-- The transfer, seen from outside of a field. -/
def under (f : Field) (t : Transfer) : Transfer :=
  { t with path := (f.index, f.name) :: t.path }

/-- What keeps the transfer from being made. -/
def stuck? (t : Transfer) (h : Heap) : Option BuildError :=
  match h.read t.source with
  | none => some .releasedBuffer
  | some bytes =>
    if ((allocateZeroed t.manager bytes.length 1).run h).1.any (·.bytes.length = bytes.length) then
      none
    else some (.outOfMemory bytes.length)

/-- The heap after the transfer, which has put a copy into a new cell. -/
def after (t : Transfer) (h : Heap) : Heap :=
  match h.read t.source with
  | none => h
  | some bytes =>
    match (allocateZeroed t.manager bytes.length 1).run h with
    | (none, h') => h'
    | (some b, h') => h'.withNewCell { block := { b with bytes }, manager := t.manager }

/-- The heap after some transfers. -/
def afterAll : List Transfer → Heap → Heap
  | [], h => h
  | t :: ts, h => afterAll ts (t.after h)

end Transfer

/-- A transfer that gets stuck after others. -/
structure Stuck where
  before : List Transfer
  transfer : Transfer
  cause : BuildError

namespace Transfer

/-- The first of some transfers that gets stuck. -/
def firstStuck : List Transfer → Heap → Option Stuck
  | [], _ => none
  | t :: ts, h =>
    match t.stuck? h with
    | some cause => some ⟨[], t, cause⟩
    | none => (firstStuck ts (t.after h)).map fun s => { s with before := t :: s.before }

variable {t : Transfer} {ts us : List Transfer} {h : Heap}

/-- A transfer from a released buffer is stuck. -/
lemma stuck?_of_dead (dead : h.read t.source = none) : t.stuck? h = some .releasedBuffer := by
  rw [stuck?, dead]

/-- A transfer from a buffer that can be read is stuck if its manager grants no block of that
length. -/
lemma stuck?_of_read {bytes : Bytes} {got : Option Block} {h' : Heap}
    (known : h.read t.source = some bytes)
    (asked : (allocateZeroed t.manager bytes.length 1).run h = (got, h')) :
    t.stuck? h = if got.any (·.bytes.length = bytes.length) then none
      else some (.outOfMemory bytes.length) := by
  rw [stuck?, known]
  dsimp only
  rw [asked]

/-- A transfer that is granted leaves one more cell, with a copy of the bytes. -/
lemma after_of_read {bytes : Bytes} {b : Block} {h' : Heap} (known : h.read t.source = some bytes)
    (asked : (allocateZeroed t.manager bytes.length 1).run h = (some b, h')) :
    t.after h = h'.withNewCell { block := { b with bytes }, manager := t.manager } := by
  rw [after, known]
  dsimp only
  rw [asked]

/-- Transfers one after the other leave what the later ones leave. -/
lemma afterAll_append (ts us : List Transfer) (h : Heap) :
    afterAll (ts ++ us) h = afterAll us (afterAll ts h) := by
  induction ts generalizing h with
  | nil => rfl
  | cons t ts ih => exact ih (t.after h)

/-- Of two lists the second one counts if the first one does not get stuck. -/
lemma firstStuck_append (ts us : List Transfer) (h : Heap) :
    firstStuck (ts ++ us) h = (firstStuck ts h).or
      ((firstStuck us (afterAll ts h)).map fun s => { s with before := ts ++ s.before }) := by
  induction ts generalizing h with
  | nil => exact Option.map_id'.symm
  | cons t ts ih =>
    rw [List.cons_append, firstStuck, firstStuck]
    cases t.stuck? h with
    | some cause => rfl
    | none =>
      dsimp only
      rw [ih, afterAll]
      cases firstStuck ts (t.after h) with
      | some s => rfl
      | none => cases firstStuck us (afterAll ts (t.after h)) <;> rfl

/-- The path to a buffer does not matter for what its transfer leaves. -/
lemma afterAll_map_under (f : Field) (ts : List Transfer) (h : Heap) :
    afterAll (ts.map (under f)) h = afterAll ts h := by
  induction ts generalizing h with
  | nil => rfl
  | cons t ts ih => exact ih (t.after h)

end Transfer

/-- The same, seen from outside of a field. -/
def Stuck.under (f : Field) (s : Stuck) : Stuck where
  before := s.before.map (Transfer.under f)
  transfer := s.transfer.under f
  cause := s.cause

namespace Transfer

variable {t : Transfer} {ts us : List Transfer} {h : Heap}

/-- It is of no concern to transfers on which way one comes to them. -/
lemma firstStuck_map_under (f : Field) (ts : List Transfer) (h : Heap) :
    firstStuck (ts.map (under f)) h = (firstStuck ts h).map (Stuck.under f) := by
  induction ts generalizing h with
  | nil => rfl
  | cons t ts ih =>
    rw [List.map_cons, firstStuck, firstStuck]
    show (match t.stuck? h with
      | some cause => some ⟨[], t.under f, cause⟩
      | none => (firstStuck (ts.map (under f)) (t.after h)).map fun s =>
        { s with before := t.under f :: s.before } : Option Stuck) = _
    rw [ih]
    cases t.stuck? h with
    | some cause => rfl
    | none => cases firstStuck ts (t.after h) <;> rfl

/-- The first to get stuck is the one that gets stuck after all the others before it went well. -/
lemma firstStuck_eq_some_iff {s : Stuck} : firstStuck ts h = some s ↔
    (∃ later, ts = s.before ++ s.transfer :: later) ∧ firstStuck s.before h = none ∧
      s.transfer.stuck? (afterAll s.before h) = some s.cause := by
  induction ts generalizing h s with
  | nil => exact ⟨nofun, fun ⟨⟨later, split⟩, _⟩ => absurd split (by simp)⟩
  | cons t ts ih =>
    rw [firstStuck]
    obtain ⟨before, transfer, cause⟩ := s
    cases stuck : t.stuck? h with
    | some cause' =>
      constructor
      · rintro ⟨⟩
        exact ⟨⟨ts, rfl⟩, rfl, stuck⟩
      · rintro ⟨⟨later, split⟩, clear, last⟩
        cases before with
        | nil =>
          cases split
          cases stuck.symm.trans last
          rfl
        | cons t' before =>
          cases split
          rw [firstStuck, stuck] at clear
          cases clear
    | none =>
      dsimp only
      rw [Option.map_eq_some_iff]
      constructor
      · rintro ⟨s, hs, ⟨⟩⟩
        obtain ⟨⟨later, split⟩, clear, last⟩ := ih.1 hs
        refine ⟨⟨later, congrArg (t :: ·) split⟩, ?_, last⟩
        rw [firstStuck, stuck]
        dsimp only
        rw [clear]
        rfl
      · rintro ⟨⟨later, split⟩, clear, last⟩
        cases before with
        | nil =>
          cases split
          cases stuck.symm.trans last
        | cons t' before =>
          cases split
          rw [firstStuck, stuck] at clear
          exact ⟨⟨before, transfer, cause⟩,
            ih.2 ⟨⟨later, rfl⟩, Option.map_eq_none_iff.1 clear, last⟩, rfl⟩

/-! ### Transfers that are made -/

/-- A transfer that does not get stuck asks the manager for as many bytes as there are to copy, and
gets a block of that length. -/
lemma made (clear : t.stuck? h = none) : ∃ (bytes : Bytes) (h' : Heap) (x : Answer) (b : Block),
    h.read t.source = some bytes ∧ Heap.Step h h' 1 [x] [] ∧ x.service = .of t.manager ∧
    x.block.bytes.length = x.asked ∧ b.address = h.nextAddress ∧ x.block.address = b.address ∧
    b.bytes = bytes ∧ t.after h = h'.withNewCell { block := b, manager := t.manager } := by
  cases known : h.read t.source with
  | none =>
    rw [stuck?_of_dead known] at clear
    cases clear
  | some bytes =>
    have asks := asked_allocateZeroed t.manager bytes.length 1 h
    rcases asked : (allocateZeroed t.manager bytes.length 1).run h with ⟨_ | b, h'⟩
    · rw [stuck?_of_read known asked] at clear
      cases clear
    · rw [asked] at asks
      obtain ⟨address, x, service, size, same, length, step⟩ := asks
      have right : b.bytes.length = bytes.length := by
        by_contra wrong
        rw [stuck?_of_read known asked, Option.any_some, if_neg (by simpa using wrong)] at clear
        cases clear
      refine ⟨bytes, h', x, { b with bytes }, rfl, step, service, ?_, address, same, rfl,
        after_of_read known asked⟩
      rw [length, size, right, Nat.mul_one]

/-- A transfer makes one cell and changes no other. -/
lemma cells_after (clear : t.stuck? h = none) : ∃ (bytes : Bytes) (b : Block),
    h.read t.source = some bytes ∧ b.bytes = bytes ∧
      (t.after h).cells = h.cells.push { block := b, manager := t.manager } := by
  obtain ⟨bytes, h', x, b, known, step, _, _, _, _, same, after⟩ := made clear
  refine ⟨bytes, b, known, same, ?_⟩
  rw [after, Heap.withNewCell, step.cells]

/-- A transfer that is made leaves one more cell. -/
lemma size_after (clear : t.stuck? h = none) : (t.after h).cells.size = h.cells.size + 1 := by
  obtain ⟨bytes, b, _, _, cells⟩ := cells_after clear
  rw [cells, Array.size_push]

/-- And it leaves the other ones alone. -/
lemma extends_after (clear : t.stuck? h = none) : h.Extends (t.after h) := by
  obtain ⟨bytes, h', x, b, _, step, _, _, _, _, _, after⟩ := made clear
  rw [after]
  exact (Heap.Extends.of_cells step.cells).trans (.withNewCell h' _)

/-- When the first one went well, the others go on from there. -/
lemma firstStuck_cons_eq_none :
    firstStuck (t :: ts) h = none ↔ t.stuck? h = none ∧ firstStuck ts (t.after h) = none := by
  rw [firstStuck]
  cases t.stuck? h with
  | some cause => exact ⟨nofun, nofun⟩
  | none => exact Option.map_eq_none_iff.trans ⟨fun rest => ⟨rfl, rest⟩, And.right⟩

/-- None of the first ones gets stuck if none at all does. -/
lemma firstStuck_take (clear : firstStuck ts h = none) (k : Nat) :
    firstStuck (ts.take k) h = none := by
  rw [← List.take_append_drop k ts, firstStuck_append, Option.or_eq_none_iff] at clear
  exact clear.1

/-- Transfers that are made leave one cell each. -/
lemma size_afterAll (clear : firstStuck ts h = none) :
    (afterAll ts h).cells.size = h.cells.size + ts.length := by
  induction ts generalizing h with
  | nil => rfl
  | cons t ts ih =>
    obtain ⟨first, rest⟩ := firstStuck_cons_eq_none.1 clear
    rw [afterAll, ih rest, size_after first, List.length_cons, Nat.add_right_comm, Nat.add_assoc]

/-- And they leave the other ones alone. -/
lemma extends_afterAll (clear : firstStuck ts h = none) : h.Extends (afterAll ts h) := by
  induction ts generalizing h with
  | nil => exact .refl h
  | cons t ts ih =>
    obtain ⟨first, rest⟩ := firstStuck_cons_eq_none.1 clear
    exact (extends_after first).trans (ih rest)

/-- The buffers that were made are held, and nothing else happened to the blocks. -/
lemma ledger_afterAll {base : Heap} {held : List BufferId} {o : Outside}
    (clear : firstStuck ts h = none) (ledger : Ledger base held o h) :
    Ledger base (List.range' h.cells.size ts.length ++ held) o (afterAll ts h) := by
  induction ts generalizing h held with
  | nil => exact ledger
  | cons t ts ih =>
    obtain ⟨first, rest⟩ := firstStuck_cons_eq_none.1 clear
    obtain ⟨bytes, h', x, b, _, step, service, right, address, same, _, after⟩ := made first
    have one := ledger.allot (m := t.manager) step service right address same
    rw [← after, step.cells] at one
    have all := ih rest one
    rw [size_after first] at all
    refine all.perm ?_
    rw [List.length_cons, List.range'_succ]
    exact List.perm_middle

/-- Every transfer reads its buffer when its turn comes, and its copy is in the cell of its
place. -/
lemma cells_afterAll (clear : firstStuck ts h = none) {k : Nat} (hk : ts[k]? = some t) :
    ∃ (bytes : Bytes) (b : Block), (afterAll (ts.take k) h).read t.source = some bytes ∧
      b.bytes = bytes ∧ (afterAll ts h).cells[h.cells.size + k]? =
        some { block := b, manager := t.manager } := by
  induction ts generalizing h k with
  | nil => cases hk
  | cons s ts ih =>
    obtain ⟨first, rest⟩ := firstStuck_cons_eq_none.1 clear
    cases k with
    | zero =>
      cases hk
      obtain ⟨bytes, b, known, same, cells⟩ := cells_after first
      refine ⟨bytes, b, known, same, extends_afterAll rest _ _ ?_⟩
      rw [cells, Nat.add_zero, Array.getElem?_push_size]
    | succ k =>
      obtain ⟨bytes, b, known, same, cell⟩ := ih rest hk
      refine ⟨bytes, b, known, same, ?_⟩
      rw [size_after first, Nat.add_assoc, Nat.add_comm 1 k] at cell
      exact cell

end Transfer

namespace Tracker

/-- The transfer by which a tracker adopts a buffer. -/
def transfer (t : Tracker) (ref : Handle) : Transfer where
  source := ref
  manager := t.manager

variable {t : Tracker} {size : Nat} {fill : Bytes → Bytes} {h h' : Heap}

/-- A request that is not answered with a block of the right length leaves the tracker as it was. -/
lemma run_allocateNow_denied {got : Option Block}
    (asked : (allocateZeroed t.manager size 1).run h = (got, h'))
    (denied : got.any (·.bytes.length = size) = false) :
    ∃ h₁, (t.allocateNow size fill).run h = ((none, t), h₁) ∧ h₁.due? = h'.due? := by
  rw [allocateNow, StateT.run_bind, asked]
  cases got with
  | none => exact ⟨h', rfl, rfl⟩
  | some b =>
    have wrong : b.bytes.length ≠ size := by simpa using denied
    have quiet := step_log (.wrongLength b.bytes.length size) h'
    have back := step_release t.manager b ((log (.wrongLength b.bytes.length size)).run h').2
    refine ⟨_, ?_, (back.after quiet).due?⟩
    show (ite _ _ _ : Action (Option Handle × Tracker)).run h' = _
    rw [if_neg wrong]
    rfl

/-- A block of the right length is tracked. -/
lemma run_allocateNow_granted {b : Block}
    (asked : (allocateZeroed t.manager size 1).run h = (some b, h'))
    (right : b.bytes.length = size) :
    (t.allocateNow size fill).run h = ((some (.to h'.cells.size), t.push h'.cells.size),
      h'.withNewCell { block := { b with bytes := fill b.bytes }, manager := t.manager }) := by
  rw [allocateNow, StateT.run_bind, asked]
  show (ite _ _ _ : Action (Option Handle × Tracker)).run h' = _
  rw [if_pos right, StateT.run_bind, run_trackNow]
  rfl

/-- A tracker adopts a buffer by a transfer, and where that gets stuck no cell is made. -/
lemma run_adopt (idle : t.setup = none) (ref : Handle) (h : Heap) :
    ((t.transfer ref).stuck? h = none → (t.adopt ref).run.run h =
      (.ok (.buffer (.to h.cells.size), t.push h.cells.size), (t.transfer ref).after h)) ∧
    ∀ cause, (t.transfer ref).stuck? h = some cause → ∃ h',
      (t.adopt ref).run.run h = (.error (.refused cause), h') ∧ h'.due? = h.due? := by
  rw [adopt, run_get]
  cases known : h.read ref with
  | none =>
    rw [Transfer.stuck?_of_dead known]
    refine ⟨fun clear => absurd clear (Option.some_ne_none _), fun cause stuck => ?_⟩
    cases stuck
    exact ⟨h, rfl, rfl⟩
  | some bytes =>
    -- a tracker with nothing to set up allocates at once
    have now : t.allocateCopy bytes = t.allocateNow bytes.length fun _ => bytes := by
      rw [allocateCopy, allocateWith, ensureSetup_of_none idle, pure_bind]
    have asks := asked_allocateZeroed t.manager bytes.length 1 h
    rcases asked : (allocateZeroed t.manager bytes.length 1).run h with ⟨got, h'⟩
    rw [asked] at asks
    have step : h'.cells = h.cells := by
      cases got with
      | none => exact Heap.Step.cells asks
      | some b =>
        obtain ⟨_, _, _, _, _, _, step⟩ := asks
        exact step.cells
    dsimp only
    rw [run_lift, now, Transfer.stuck?_of_read known asked]
    cases denied : got.any (·.bytes.length = bytes.length) with
    | false =>
      obtain ⟨h₁, ran, due⟩ :=
        @run_allocateNow_denied t bytes.length (fun _ => bytes) h h' got asked denied
      rw [ran]
      refine ⟨fun clear => absurd clear (Option.some_ne_none _), fun cause stuck => ?_⟩
      cases stuck
      refine ⟨h₁, rfl, due.trans ?_⟩
      funext b
      rw [Heap.due?, Heap.due?, step]
    | true =>
      obtain ⟨b, rfl, right⟩ := (Option.any_eq_true ..).1 denied
      rw [run_allocateNow_granted asked (of_decide_eq_true right), step,
        Transfer.after_of_read known asked]
      exact ⟨fun _ => rfl, fun cause stuck => absurd stuck.symm (Option.some_ne_none cause)⟩

end Tracker

end Metaobject
