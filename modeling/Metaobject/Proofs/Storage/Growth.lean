import Mathlib.Algebra.Group.Nat.Defs
import Mathlib.Order.Bounds.Basic
import Metaobject.Proofs.Lifecycle.StandIn
import Metaobject.Proofs.Storage.Upkeep

/-!
# How the list of a tracker grows

A tracker makes room for a buffer when its list is full. The list then gets exactly as many places
more as it has, or its first four. So the room is 4, 8, 16, and so on, and the least of these that
is enough; there is none before the first buffer, nor after a release. A setup that was put off runs
in the middle of the first use, and may itself track and release buffers, before room is made for
the one that is to be tracked.

`Usage` is a tracker at work. Beside it goes the number of buffers that it has tracked since it was
made or last released them; this is counted from what its operations reply, not from its list.
`Usage.room_least` says of any usage that the list holds as many buffers, and how much room it has.
-/

namespace Metaobject

/-- How many buffers an operation with this reply has tracked. -/
def Reply.tracked : Reply → Nat
  | .handle (some _) => 1
  | _ => 0

/-- A handle was tracked if there is one. -/
lemma Reply.tracked_handle (ref : Option Handle) :
    (Reply.handle ref).tracked = ref.isSome.toNat := by
  cases ref <;> rfl

namespace Tracker

/-- How many buffers were tracked since the last release, after a step of a setup; there were `n` of
them before it. -/
def tallyStep (t : Tracker) (h : Heap) (n : Nat) : SetupStep → Nat
  | .bind _ | .mark _ => n
  | .allocate size => n + ((t.allocateNow size id).run h).1.1.isSome.toNat
  | .copy bytes => n + ((t.allocateNow bytes.length fun _ => bytes).run h).1.1.isSome.toNat
  | .track _ => n + 1
  | .release => 0

/-- The same after some steps. -/
def tallySteps (t : Tracker) (h : Heap) (n : Nat) : List SetupStep → Nat
  | [] => n
  | s :: steps =>
    let (t', h') := (t.perform s).run h
    t'.tallySteps h' (t.tallyStep h n s) steps

/-- The same after what was put off, if anything was. -/
def tallySetup (t : Tracker) (h : Heap) (n : Nat) : Nat :=
  match t.setup with
  | none => n
  | some s =>
    { t with setup := none }.tallySteps ((Action.emit (.setup s)).run h).2 n s.steps

end Tracker

/-- The same after a task. -/
def Task.tally (t : Tracker) (h : Heap) (n : Nat) : Task → Nat
  | .bind _ | .mark _ => n
  | .release => 0
  | task => t.tallySetup h n + ((task.perform t).run h).1.1.tracked

/-- A tracker at work. -/
structure Usage where
  heap : Heap
  tracker : Tracker
  /-- The number of buffers that were tracked since the tracker was made or last released them. -/
  since : Nat

namespace Usage

/-- What may happen next. -/
inductive Use where
  /-- Something else changes the heap. -/
  | elsewhere (h : Heap)
  | task (task : Task)

/-- A new tracker, which may have put its setup off. -/
def made (h : Heap) (m : Option Manager) (setup : Option Setup) : Usage where
  heap := h
  tracker := { manager := m, setup }
  since := 0

/-- Does one thing with the tracker, and counts what was tracked for it since it was last released.
-/
def step (u : Usage) : Use → Usage
  | .elsewhere h => { u with heap := h }
  | .task task =>
    let ((_, tracker), heap) := (task.perform u.tracker).run u.heap
    { heap, tracker, since := task.tally u.tracker u.heap u.since }

/-- Does one thing after the other. -/
def run (u : Usage) (uses : List Use) : Usage :=
  uses.foldl step u

end Usage

/-! ## Room for one more -/

/-- Of the places that a list may have, `c` are the fewest that are enough for `n` buffers. -/
def LeastRoom (n c : Nat) : Prop :=
  IsLeast {c | (∃ k, c = 4 * 2 ^ k) ∧ n ≤ c} c

namespace LeastRoom

variable {n c : Nat}

/-- There is room for all. -/
lemma le (least : LeastRoom n c) : n ≤ c :=
  least.1.2

/-- There is room for four at least. -/
lemma four_le (least : LeastRoom n c) : 4 ≤ c := by
  obtain ⟨⟨k, rfl⟩, _⟩ := least.1
  have pos := Nat.two_pow_pos k
  omega

/-- For the first one there is room for four. -/
lemma first : LeastRoom 1 4 := by
  constructor
  · exact ⟨⟨0, rfl⟩, by decide⟩
  · rintro _ ⟨⟨k, rfl⟩, _⟩
    have pos := Nat.two_pow_pos k
    omega

/-- As long as there is a free place, the room stays what it has to be. -/
lemma keep (least : LeastRoom n c) (free : n < c) : LeastRoom (n + 1) c := by
  constructor
  · exact ⟨least.1.1, free⟩
  · rintro d ⟨power, enough⟩
    exact least.2 ⟨power, Nat.le_of_succ_le enough⟩

/-- When there is none, twice the room is needed. -/
lemma double (least : LeastRoom c c) : LeastRoom (c + 1) (c + c) := by
  obtain ⟨⟨k, rfl⟩, _⟩ := least.1
  constructor
  · refine ⟨⟨k + 1, by rw [Nat.pow_succ]; omega⟩, ?_⟩
    have pos := Nat.two_pow_pos k
    omega
  · rintro _ ⟨⟨j, rfl⟩, enough⟩
    -- a larger power of two is at least the next one
    have more : 2 ^ k < 2 ^ j := by omega
    have next : 2 ^ (k + 1) ≤ 2 ^ j :=
      Nat.pow_le_pow_right (by decide) ((Nat.pow_lt_pow_iff_right (by decide)).1 more)
    rw [Nat.pow_succ] at next
    omega

end LeastRoom

/-! ## One tracker -/

namespace Tracker

/-- The list holds `n` buffers, and has no more room than they need. -/
structure Sized (t : Tracker) (n : Nat) : Prop where
  count : t.buffers.length = n
  bare : n = 0 → t.capacity = 0
  least : n ≠ 0 → LeastRoom n t.capacity

variable {t : Tracker} {n : Nat}

/-- A tracker that never listed anything has no room. -/
lemma sized_empty (empty : t.buffers = []) (bare : t.capacity = 0) : t.Sized 0 where
  count := by rw [empty, List.length_nil]
  bare _ := bare
  least ne := absurd rfl ne

/-- A tracker that was released has none either. -/
lemma sized_release (t : Tracker) (h : Heap) : (t.release.run h).1.2.Sized 0 := by
  rw [run_release]
  exact sized_empty rfl rfl

namespace Sized

/-- It is a matter of the list alone. -/
lemma congr {t' : Tracker} (sized : t.Sized n) (buffers : t'.buffers = t.buffers)
    (capacity : t'.capacity = t.capacity) : t'.Sized n where
  count := by rw [buffers, sized.count]
  bare zero := capacity.trans (sized.bare zero)
  least ne := capacity.symm ▸ sized.least ne

/-- There is then the least room for one buffer more. -/
lemma reserve (sized : t.Sized n) : LeastRoom (n + 1) t.reserve.capacity := by
  rw [Tracker.reserve, sized.count]
  split
  · rename_i full
    show LeastRoom (n + 1) (t.capacity + max (t.capacity * 1) 4)
    by_cases zero : n = 0
    · rw [sized.bare zero, zero]
      exact .first
    · have least := sized.least zero
      rw [← full] at least ⊢
      rw [Nat.mul_one, Nat.max_eq_left least.four_le]
      exact least.double
  · rename_i free
    -- a list without any room is full, so this one holds something
    have ne : n ≠ 0 := fun zero => free (zero.trans (sized.bare zero).symm)
    have least := sized.least ne
    exact least.keep (Nat.lt_of_le_of_ne least.le free)

/-- One more that is listed is one more that was tracked, and room is made for it when there is
none. -/
lemma push (sized : t.Sized n) (b : BufferId) : (t.push b).Sized (n + 1) where
  count := by rw [buffers_push, List.length_append, sized.count, List.length_singleton]
  bare zero := absurd zero (Nat.succ_ne_zero n)
  least _ := sized.reserve

/-- So it is when a block is tracked. -/
lemma trackNow (sized : t.Sized n) (b : Block) (h : Heap) :
    ((t.trackNow b).run h).1.2.Sized (n + 1) := by
  rw [run_trackNow]
  exact sized.push _

/-- An allocation that fails leaves the list as it is. -/
lemma allocateNow (sized : t.Sized n) (size : Nat) (fill : Bytes → Bytes) (h : Heap) :
    ((t.allocateNow size fill).run h).1.2.Sized
      (n + ((t.allocateNow size fill).run h).1.1.isSome.toNat) := by
  have cases := allocateNow_cases t size fill h
  generalize (t.allocateNow size fill).run h = r at cases ⊢
  cases cases with
  | refused => exact sized
  | spoiled => exact sized
  | tracked => exact sized.push _

/-! ### What was put off -/

/-- A deferred step is counted by what it tracks. -/
lemma perform (sized : t.Sized n) (s : SetupStep) (h : Heap) :
    ((t.perform s).run h).1.Sized (t.tallyStep h n s) := by
  cases s with
  | bind m => exact sized.congr rfl rfl
  | mark onHeap => exact sized.congr rfl rfl
  | allocate size => exact sized.allocateNow size id h
  | copy bytes => exact sized.allocateNow bytes.length (fun _ => bytes) h
  | track bytes => exact sized.trackNow ((Action.mint bytes).run h).1 _
  | release => exact sized_release t h

/-- All deferred steps are. -/
lemma performAll (sized : t.Sized n) (steps : List SetupStep) (h : Heap) :
    ((t.performAll steps).run h).1.Sized (t.tallySteps h n steps) := by
  induction steps generalizing t n h with
  | nil => exact sized
  | cons s steps ih => exact ih (sized.perform s h) _

/-- What was deferred is counted when it runs. -/
lemma ensureSetup (sized : t.Sized n) (h : Heap) :
    (t.ensureSetup.run h).1.Sized (t.tallySetup h n) := by
  rw [Tracker.ensureSetup, tallySetup]
  cases t.setup with
  | none => exact sized
  | some s =>
    have settled : Sized { t with setup := none } n := sized.congr rfl rfl
    exact settled.performAll s.steps _

end Sized

end Tracker

/-! ## Any usage -/

/-- A task tracks what its reply says, after what was put off. -/
lemma Task.sized_perform {t : Tracker} {n : Nat} (sized : t.Sized n) (task : Task) (h : Heap) :
    ((task.perform t).run h).1.2.Sized (task.tally t h n) := by
  cases task with
  | bind m => exact sized.congr rfl rfl
  | mark onHeap => exact sized.congr rfl rfl
  | ensure => exact sized.ensureSetup h
  | track b => exact (sized.ensureSetup h).trackNow b _
  | allocate size fill =>
    have allotted := (sized.ensureSetup h).allocateNow size fill (t.ensureSetup.run h).2
    rw [← Reply.tracked_handle] at allotted
    exact allotted
  | release => exact t.sized_release h

namespace Usage

/-- One use keeps the count right. -/
lemma sized_step {u : Usage} (sized : u.tracker.Sized u.since) (use : Use) :
    (u.step use).tracker.Sized (u.step use).since := by
  cases use with
  | elsewhere h => exact sized
  | task task => exact task.sized_perform sized u.heap

/-- Any number of uses do, by induction on them. -/
lemma sized_run {u : Usage} (sized : u.tracker.Sized u.since) (uses : List Use) :
    (u.run uses).tracker.Sized (u.run uses).since := by
  induction uses generalizing u with
  | nil => exact sized
  | cons use uses ih => exact ih (sized_step sized use)

/-- However a tracker was used, it lists the buffers that were tracked since it was made or last
released them, and there is room for all of them. If there are none there is no room either, and
else it is the least one, of those that come from 4 by doubling, that is enough. -/
theorem room_least (h : Heap) (m : Option Manager) (setup : Option Setup) (uses : List Use) :
    let u := (made h m setup).run uses
    u.tracker.buffers.length = u.since ∧ u.tracker.buffers.length ≤ u.tracker.capacity ∧
      if u.since = 0 then u.tracker.capacity = 0
      else IsLeast {c | (∃ k, c = 4 * 2 ^ k) ∧ u.tracker.buffers.length ≤ c}
        u.tracker.capacity := by
  intro u
  have sized : u.tracker.Sized u.since := sized_run (Tracker.sized_empty rfl rfl) uses
  refine ⟨sized.count, ?_, ?_⟩
  all_goals rw [sized.count]
  · by_cases zero : u.since = 0
    · rw [zero]
      exact Nat.zero_le _
    · exact (sized.least zero).le
  · split
    · rename_i zero
      exact sized.bare zero
    · rename_i ne
      exact sized.least ne

/-- The setup tracks a buffer of its own, and so the fourth block needs more room. -/
example :
    let u := (made {} none (some (.preallocate [0]))).run
      (List.replicate 4 (.task (.track ⟨0, []⟩)))
    u.since = 5 ∧ u.tracker.capacity = 8 := by
  decide

end Usage

end Metaobject
