import Mathlib.Tactic.Lemma
import Metaobject.Storage.Tracker

/-!
# What an action does to the heap

The trace tells which blocks were handed out, and to whom blocks went back: `Heap.answers` and
`Heap.returned`. Most actions leave the table of cells alone, and `Heap.Step` says of such an action
how many addresses it used up, which answers it got and which blocks it gave back. The lemmas here
give the step of each of them; an action that does change a cell is a step from the heap in which
the cell is changed. `Tracker.allocateNow_cases` says all that an allocation for a tracker can come
to.
-/

namespace Metaobject

/-- The answer to a request: the operations that gave it, the bytes asked for, and the block. -/
structure Answer where
  service : Service
  asked : Nat
  block : Block

namespace Event

/-- The answer that an event records. -/
def answer? : Event → Option Answer
  | malloc s size _ got => got.map (⟨s, size, ·⟩)
  | calloc s count size _ got => got.map (⟨s, count * size, ·⟩)
  | realloc s _ size _ got => got.map (⟨s, size, ·⟩)
  | _ => none

/-- The block that went back in an event, and the operations that took it. -/
def return? : Event → Option (Service × Block)
  | free s b => some (s, b)
  | _ => none

end Event

/-- What giving the block of a cell back comes to. -/
def Cell.due (c : Cell) : Service × Block :=
  (.of c.manager, c.block)

namespace Heap

/-- Every block that was handed out, in order. -/
def answers (h : Heap) : List Answer :=
  h.trace.toList.filterMap (·.answer?)

/-- Every block that went back, in order. -/
def returned (h : Heap) : List (Service × Block) :=
  h.trace.toList.filterMap (·.return?)

/-- From `h` to `h'` no cell changed, `used` addresses were used up, and `new` and `back` are the
blocks that were handed out and that went back. -/
structure Step (h h' : Heap) (used : Nat) (new : List Answer) (back : List (Service × Block)) :
    Prop where
  cells : h'.cells = h.cells
  nextAddress : h'.nextAddress = h.nextAddress + used
  answers : h'.answers = h.answers ++ new
  returned : h'.returned = h.returned ++ back

/-- The heap with another cell in some place. -/
def withCell (h : Heap) (b : BufferId) (c : Cell) : Heap :=
  { h with cells := h.cells.setIfInBounds b c }

/-- To whom the block of a buffer goes back, and which block. -/
def due? (h : Heap) (b : BufferId) : Option (Service × Block) :=
  (h.cells[b]?).map (·.due)

/-- The heap with one more cell. -/
def withNewCell (h : Heap) (c : Cell) : Heap :=
  { h with cells := h.cells.push c }

/-- A change of a cell that keeps its block and its manager keeps what is due. -/
lemma due?_withCell {h : Heap} {b : BufferId} {c c' : Cell} (hc : h.cells[b]? = some c)
    (due : c'.due = c.due) : (h.withCell b c').due? = h.due? := by
  funext b'
  show ((h.cells.setIfInBounds b c')[b']?).map _ = _
  by_cases ne : b = b'
  · subst ne
    rw [Array.getElem?_setIfInBounds_self, if_pos (Array.getElem?_eq_some_iff.1 hc).1, due?, hc,
      Option.map_some, Option.map_some, due]
  · rw [Array.getElem?_setIfInBounds_ne ne, due?]

/-- A buffer that is alive has its cell. -/
lemma getElem?_of_cell? {h : Heap} {b : BufferId} {c : Cell} (live : h.cell? (.to b) = some c) :
    h.cells[b]? = some c :=
  (Option.filter_eq_some_iff.1 live).1

/-- A buffer that is alive is one of those made. -/
lemma lt_size_of_cell? {h : Heap} {b : BufferId} {c : Cell} (live : h.cell? (.to b) = some c) :
    b < h.cells.size :=
  (Array.getElem?_eq_some_iff.1 (getElem?_of_cell? live)).1

/-- Between two moments buffers were added, and what was due for the earlier ones stayed so. -/
structure Later (h h' : Heap) : Prop where
  size : h.cells.size ≤ h'.cells.size
  kept : ∀ b, b < h.cells.size → h'.due? b = h.due? b

namespace Later

variable {h h' h'' : Heap}

lemma refl : Later h h :=
  ⟨Nat.le_refl _, fun _ _ => rfl⟩

lemma trans (l : Later h h') (l' : Later h' h'') : Later h h'' where
  size := Nat.le_trans l.size l'.size
  kept b hb := (l'.kept b (Nat.lt_of_lt_of_le hb l.size)).trans (l.kept b hb)

/-- If nothing due has changed, there are no new buffers either. -/
lemma of_due? (due : h'.due? = h.due?) : Later h h' where
  size := by
    apply Nat.le_of_not_lt
    intro lt
    have same := congrFun due h'.cells.size
    rw [due?, due?, Array.getElem?_eq_none (Nat.le_refl _), Array.getElem?_eq_getElem lt] at same
    cases same
  kept b _ := congrFun due b

/-- One more cell leaves the earlier ones alone. -/
lemma withNewCell (c : Cell) : Later h (h.withNewCell c) where
  size := by
    show _ ≤ (h.cells.push c).size
    rw [Array.size_push]
    exact Nat.le_succ _
  kept b hb := by
    show ((h.cells.push c)[b]?).map _ = _
    rw [Array.getElem?_push_lt hb, due?, Array.getElem?_eq_getElem hb]

end Later

/-- Buffers were added for `s` only. -/
structure Grown (s : Service) (h h' : Heap) : Prop extends Later h h' where
  fresh : ∀ b d, h.cells.size ≤ b → h'.due? b = some d → d.1 = s

namespace Grown

variable {s : Service} {h h' h'' : Heap}

/-- If nothing due has changed, no buffer was added for anybody. -/
lemma of_due? (due : h'.due? = h.due?) : Grown s h h' where
  toLater := .of_due? due
  fresh b d hb hd := by
    rw [due, Heap.due?, Array.getElem?_eq_none hb] at hd
    cases hd

lemma trans (g : Grown s h h') (g' : Grown s h' h'') : Grown s h h'' where
  toLater := g.toLater.trans g'.toLater
  fresh b d hb hd := by
    by_cases old : b < h'.cells.size
    · exact g.fresh b d hb ((g'.kept b old).symm.trans hd)
    · exact g'.fresh b d (Nat.le_of_not_lt old) hd

/-- One more cell is for the service that its block is due to. -/
lemma withNewCell {c : Cell} (due : c.due.1 = s) : Grown s h (h.withNewCell c) where
  toLater := .withNewCell c
  fresh b d hb hd := by
    change ((h.cells.push c)[b]?).map _ = _ at hd
    obtain rfl | lt := Nat.eq_or_lt_of_le hb
    · rw [Array.getElem?_push_size] at hd
      cases hd
      exact due
    · rw [Array.getElem?_eq_none (by rw [Array.size_push]; exact lt)] at hd
      cases hd

end Grown

namespace Step

variable {h h' h'' : Heap} {m n : Nat} {new new' : List Answer}
  {back back' : List (Service × Block)}

lemma refl : Step h h 0 [] [] := by
  constructor <;> simp

lemma trans (s : Step h h' m new back) (s' : Step h' h'' n new' back') :
    Step h h'' (m + n) (new ++ new') (back ++ back') where
  cells := s'.cells.trans s.cells
  nextAddress := by rw [s'.nextAddress, s.nextAddress, Nat.add_assoc]
  answers := by rw [s'.answers, s.answers, List.append_assoc]
  returned := by rw [s'.returned, s.returned, List.append_assoc]

/-- A step that allocates and returns nothing may come before another one. -/
lemma after (s' : Step h' h'' n new' back') (s : Step h h' 0 [] []) :
    Step h h'' n new' back' := by
  simpa using s.trans s'

/-- A step does not mind what is in a cell. -/
lemma withCell (s : Step h h' n new back) (b : BufferId) (c : Cell) :
    Step (h.withCell b c) (h'.withCell b c) n new back where
  cells := congrArg (Array.setIfInBounds · b c) s.cells
  nextAddress := s.nextAddress
  answers := s.answers
  returned := s.returned

/-- A step finds the same cells. -/
lemma cell? (s : Step h h' n new back) (ref : Handle) : h'.cell? ref = h.cell? ref := by
  obtain _ | b := ref
  · rfl
  · rw [Heap.cell?, Heap.cell?, s.cells]

/-- So the same is due after it. -/
lemma due? (s : Step h h' n new back) : h'.due? = h.due? := by
  funext b
  rw [Heap.due?, Heap.due?, s.cells]

end Step

end Heap

namespace Action

open Heap

/-- An event adds to the trace what it tells. -/
lemma step_emit (e : Event) (h : Heap) :
    Step h ((emit e).run h).2 0 e.answer?.toList e.return?.toList := by
  constructor
  · rfl
  · rfl
  · show List.filterMap _ (h.trace.push e).toList = _
    cases he : e.answer? <;> simp [answers, he]
  · show List.filterMap _ (h.trace.push e).toList = _
    cases he : e.return? <;> simp [returned, he]

/-- Logging is a step that allocates and returns nothing. -/
lemma step_log (r : LogRecord) (h : Heap) : Step h ((log r).run h).2 0 [] [] :=
  step_emit (.log r) h

/-- Looking for whom to ask is of no concern to blocks. -/
lemma step_serve (m : Option Manager) (h : Heap) :
    ((serve m).run h).1 = .of m ∧ Step h ((serve m).run h).2 0 [] [] := by
  rw [serve]
  split
  · exact ⟨rfl, step_log _ h⟩
  · exact ⟨rfl, .refl⟩

/-- A block goes back through the operations of its manager. -/
lemma step_release (m : Option Manager) (b : Block) (h : Heap) :
    Step h ((release m b).run h).2 0 [] [(.of m, b)] := by
  obtain ⟨hs, quiet⟩ := step_serve m h
  have back := step_emit (.free ((serve m).run h).1 b) ((serve m).run h).2
  rw [hs] at back
  have ran : ((release m b).run h).2 = ((emit (.free (.of m) b)).run ((serve m).run h).2).2 := by
    rw [← hs]; rfl
  rw [ran]
  exact back.after quiet

/-- A new block takes one address. -/
lemma step_mint (bytes : Bytes) (h : Heap) :
    ((mint bytes).run h).1.address = h.nextAddress ∧ Step h ((mint bytes).run h).2 1 [] [] :=
  ⟨rfl, rfl, rfl, (List.append_nil _).symm, (List.append_nil _).symm⟩

/-- Asking for the manager of the process allocates and returns nothing. -/
lemma step_processManager (h : Heap) : Step h (processManager.run h).2 0 [] [] :=
  ⟨rfl, rfl, (List.append_nil _).symm, (List.append_nil _).symm⟩

/-- Counting a call allocates and returns nothing. -/
lemma step_countCall (h : Heap) (a : ArenaId) : Step h (h.countCall a) 0 [] [] := by
  cases a <;> exact ⟨rfl, rfl, (List.append_nil _).symm, (List.append_nil _).symm⟩

/-- What an answered or a refused request comes to, for `asked` bytes from `s`. -/
def Asked (s : Service) (asked : Nat) (h : Heap) : Option Block × Heap → Prop
  | (none, h') => Step h h' 0 [] []
  | (some b, h') => b.address = h.nextAddress ∧ ∃ x : Answer, x.service = s ∧ x.asked = asked ∧
      x.block.address = b.address ∧ x.block.bytes.length = b.bytes.length ∧ Step h h' 1 [x] []

/-- What a request does: the call is counted, and the answer depends on the arena alone. -/
lemma run_request (a : ArenaId) (reply : Allocator → Nat → Option Bytes)
    (event : Bool → Option Block → Event) (h : Heap) :
    (request a reply event).run h =
      let served := (h.arena a).allocator.serves (h.arena a).calls
      match if served then reply (h.arena a).allocator (h.arena a).calls else none with
      | none => (none, ((emit (event served none)).run (h.countCall a)).2)
      | some bytes =>
        let (b, h') := (mint bytes).run (h.countCall a)
        (some b, ((emit (event served (some b))).run h').2) := by
  rw [request]
  simp only [StateT.run_bind, StateT.run_get, StateT.run_modify, pure_bind]
  show Id.run _ = _
  cases if (h.arena a).allocator.serves (h.arena a).calls
    then reply (h.arena a).allocator (h.arena a).calls else none with
  | none => rfl
  | some bytes => rfl

/-- A request is refused, or it is answered with a block at a new address. -/
lemma asked_request {a : ArenaId} {reply : Allocator → Nat → Option Bytes}
    {event : Bool → Option Block → Event} {s : Service} {asked : Nat}
    (answer : ∀ served got, (event served got).answer? = got.map (⟨s, asked, ·⟩))
    (noReturn : ∀ served got, (event served got).return? = none) (h : Heap) :
    Asked s asked h ((request a reply event).run h) := by
  have counted := step_countCall h a
  rw [run_request]
  dsimp only
  split
  · have told := step_emit (event ((h.arena a).allocator.serves (h.arena a).calls) none)
      (h.countCall a)
    rw [answer, noReturn] at told
    exact told.after counted
  · rename_i bytes _
    obtain ⟨address, minted⟩ := step_mint bytes (h.countCall a)
    have told := step_emit (event ((h.arena a).allocator.serves (h.arena a).calls)
      (some ((mint bytes).run (h.countCall a)).1)) ((mint bytes).run (h.countCall a)).2
    rw [answer, noReturn] at told
    exact ⟨address.trans counted.nextAddress, _, rfl, rfl, rfl, rfl,
      (minted.trans told).after counted⟩

/-- What is asked for may come after a step that allocates and returns nothing. -/
lemma Asked.after {s : Service} {asked : Nat} {h h' : Heap} {r : Option Block × Heap}
    (asks : Asked s asked h' r) (quiet : Step h h' 0 [] []) : Asked s asked h r := by
  obtain ⟨_ | b, h''⟩ := r
  · exact Step.after asks quiet
  · obtain ⟨address, x, service, size, same, length, step⟩ := asks
    exact ⟨address.trans quiet.nextAddress, x, service, size, same, length, step.after quiet⟩

/-- Looking for whom to ask changes nothing about what is asked. -/
lemma asked_serve {s : Service} {asked : Nat} {m : Option Manager}
    {ask : Service → Action (Option Block)} (h : Heap)
    (asks : ∀ h', Asked s asked h' ((ask (.of m)).run h')) :
    Asked s asked h ((serve m >>= ask).run h) := by
  obtain ⟨hs, quiet⟩ := step_serve m h
  rw [StateT.run_bind]
  change Asked s asked h ((ask ((serve m).run h).1).run ((serve m).run h).2)
  rw [hs]
  exact (asks _).after quiet

/-- A block is asked for through the operations of the manager. -/
lemma asked_allocate (m : Option Manager) (size : Nat) (h : Heap) :
    Asked (.of m) size h ((allocate m size).run h) := by
  apply asked_serve
  intro h'
  exact asked_request (fun _ _ => rfl) (fun _ _ => rfl) h'

/-- What is written into the block of an answer changes nothing about the request. -/
lemma Asked.map {s : Service} {asked : Nat} {h : Heap} {a : Action (Option Block)}
    (asks : Asked s asked h (a.run h)) {f : Block → Block}
    (address : ∀ b, (f b).address = b.address)
    (length : ∀ b, (f b).bytes.length = b.bytes.length) :
    Asked s asked h ((do let got ← a; return got.map f : Action (Option Block)).run h) := by
  rw [StateT.run_bind]
  change Asked s asked h ((a.run h).1.map f, (a.run h).2)
  generalize a.run h = r at asks ⊢
  obtain ⟨_ | b, h'⟩ := r
  · exact asks
  · obtain ⟨next, x, service, size, same, bytes, step⟩ := asks
    exact ⟨(address b).trans next, x, service, size, same.trans (address b).symm,
      bytes.trans (length b).symm, step⟩

/-- Zeros are asked for through the operations of the manager, whichever of them serves. -/
lemma asked_allocateZeroed (m : Option Manager) (count size : Nat) (h : Heap) :
    Asked (.of m) (count * size) h ((allocateZeroed m count size).run h) := by
  apply asked_serve
  intro h'
  cases hc : (Service.of m).calloc with
  | some a => exact asked_request (fun _ _ => rfl) (fun _ _ => rfl) h'
  | none =>
    cases ht : checkedProduct count size with
    | none => exact Step.refl
    | some total =>
      have htotal : total = count * size := by
        unfold checkedProduct at ht
        split at ht
        · exact (Option.some.inj ht).symm
        · cases ht
      subst htotal
      refine Asked.map ?_ (fun _ => rfl) (fun b => List.length_replicate)
      exact asked_request (fun _ _ => rfl) (fun _ _ => rfl) h'

/-- Changing the cell of a buffer gives the block back if nobody needs it any more. -/
lemma step_updateCell {b : BufferId} (f : Cell → Cell) {h : Heap} {c : Cell}
    (hb : h.cell? (.to b) = some c) :
    Step (h.withCell b (f c)) ((updateCell b f).run h).2 0 []
      (if (f c).isHeld then [] else [c.due]) := by
  rw [updateCell]
  simp only [StateT.run_bind, StateT.run_get, StateT.run_modify, pure_bind, hb]
  cases (f c).isHeld with
  | true => exact .refl
  | false => exact step_release c.manager c.block _

/-- A buffer that its tracker gives up goes back unless somebody is reading it. -/
lemma step_disown {b : BufferId} {h : Heap} {c : Cell} (hb : h.cell? (.to b) = some c) :
    Step (h.withCell b { c with owned := false }) ((disown b).run h).2 0 []
      (if 0 < c.borrows then [] else [c.due]) := by
  rw [disown]
  simp only [StateT.run_bind, StateT.run_get, pure_bind, hb]
  by_cases reading : 0 < c.borrows
  · have quiet := step_log .stillBorrowed h
    have live := (quiet.cell? (.to b)).trans hb
    have update := step_updateCell (fun c => { c with owned := false }) live
    simp only [Cell.isHeld, reading, decide_true, Bool.or_true, if_true] at update ⊢
    exact update.after (quiet.withCell b _)
  · have update := step_updateCell (fun c => { c with owned := false }) hb
    simp only [Cell.isHeld, reading, decide_false, Bool.or_false, if_false] at update ⊢
    exact update

end Action

namespace Tracker

open Metaobject.Action Heap

/-- A tracker whose list has got another buffer. -/
def push (t : Tracker) (b : BufferId) : Tracker :=
  { t.reserve with buffers := t.reserve.buffers ++ [b] }

/-- Making room keeps the list. -/
@[simp] lemma buffers_reserve (t : Tracker) : t.reserve.buffers = t.buffers := by
  rw [reserve]
  split <;> rfl

/-- Making room keeps the manager. -/
@[simp] lemma manager_reserve (t : Tracker) : t.reserve.manager = t.manager := by
  rw [reserve]
  split <;> rfl

/-- Making room keeps what is deferred. -/
@[simp] lemma setup_reserve (t : Tracker) : t.reserve.setup = t.setup := by
  rw [reserve]
  split <;> rfl

/-- A buffer that is listed comes last. -/
@[simp] lemma buffers_push (t : Tracker) (b : BufferId) :
    (t.push b).buffers = t.buffers ++ [b] := by
  simp [push]

/-- Listing a buffer keeps the manager. -/
@[simp] lemma manager_push (t : Tracker) (b : BufferId) : (t.push b).manager = t.manager := by
  simp [push]

/-- Listing a buffer keeps what is deferred. -/
@[simp] lemma setup_push (t : Tracker) (b : BufferId) : (t.push b).setup = t.setup := by
  simp [push]

/-- An operation has nothing to do first when no setup is pending. -/
lemma ensureSetup_of_none {t : Tracker} (setup : t.setup = none) : t.ensureSetup = pure t := by
  rw [ensureSetup]
  rw [setup]

/-- A block that is tracked comes into a cell of its own, for the manager of the tracker. -/
lemma run_trackNow (t : Tracker) (b : Block) (h : Heap) :
    (t.trackNow b).run h = ((.to h.cells.size, t.push h.cells.size),
      h.withNewCell { block := b, manager := t.manager }) := by
  rw [← manager_reserve]
  rfl

/-- What can come of an allocation for a tracker: it is refused; or the block has the wrong length
and goes back to whom it came from; or the block is tracked. -/
inductive Allocated (t : Tracker) (size : Nat) (h : Heap) : (Option Handle × Tracker) × Heap → Prop
  | refused {h' : Heap} (step : Step h h' 0 [] []) : Allocated t size h ((none, t), h')
  | spoiled {h' : Heap} {x : Answer} {b : Block} (step : Step h h' 1 [x] [(x.service, b)])
      (service : x.service = .of t.manager) (asked : x.asked = size)
      (wrong : x.block.bytes.length ≠ size) (address : b.address = h.nextAddress)
      (same : x.block.address = b.address) (length : x.block.bytes.length = b.bytes.length) :
      Allocated t size h ((none, t), h')
  | tracked {h' : Heap} {x : Answer} {b : Block} (step : Step h h' 1 [x] [])
      (service : x.service = .of t.manager) (asked : x.asked = size)
      (right : x.block.bytes.length = size) (address : b.address = h.nextAddress)
      (same : x.block.address = b.address) :
      Allocated t size h ((some (.to h'.cells.size), t.push h'.cells.size),
        h'.withNewCell { block := b, manager := t.manager })

/-- There is no other way for an allocation to end. -/
lemma allocateNow_cases (t : Tracker) (size : Nat) (fill : Bytes → Bytes) (h : Heap) :
    Allocated t size h ((t.allocateNow size fill).run h) := by
  have asks := asked_allocateZeroed t.manager size 1 h
  rw [allocateNow]
  rw [StateT.run_bind]
  generalize (allocateZeroed t.manager size 1).run h = r at asks ⊢
  obtain ⟨_ | b, h'⟩ := r
  · exact .refused asks
  · obtain ⟨address, x, service, asked, same, length, step⟩ := asks
    rw [Nat.mul_one] at asked
    change Allocated t size h ((ite _ _ _ : Action (Option Handle × Tracker)).run h')
    split
    · rename_i right
      rw [StateT.run_bind, run_trackNow]
      exact .tracked (b := { b with bytes := fill b.bytes }) step service asked
        (length.trans right) address same
    · rename_i wrong
      have quiet := step_log (.wrongLength b.bytes.length size) h'
      have back := step_release t.manager b ((log (.wrongLength b.bytes.length size)).run h').2
      rw [← service] at back
      exact .spoiled (step.trans (back.after quiet)) service asked (length ▸ wrong) address same
        length

end Tracker

end Metaobject
