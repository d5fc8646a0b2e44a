import Metaobject.Proofs.Contract
import Metaobject.Proofs.Storage.Embedded
import Metaobject.Proofs.Storage.Liveness

/-!
# The passage of time on a heap

Whatever happens, a buffer keeps its block and the manager that takes it back, and once nobody needs
it nobody will again. `Heap.Passes` says so of two moments, and that only some managers were asked
for anything in between. `Action.Passes` is the contract of an action in these terms. It is made
under a `Regime`, which also says what the lists of trackers may be; a tracker is `Within` a regime
if it keeps to it and neither it nor a buffer that it lists has anything to do with other managers.
-/

namespace Metaobject

/-- The operations that a request was put to. -/
def Event.service? : Event → Option Service
  | malloc s .. | calloc s .. | realloc s .. | free s _ => some s
  | _ => none

/-- What managers may be asked, and what the lists of trackers may be. A list may always be empty,
and a buffer that is made from some moment on may be added to it. -/
structure Regime where
  asks : Option Manager → Prop
  /-- The number of buffers at that moment. -/
  since : Nat
  lists : List BufferId → Prop
  nil : lists []
  push : ∀ bs b, since ≤ b → (∀ b' ∈ bs, b' < b) → lists bs → lists (bs ++ [b])

/-- The regime that only concerns the managers. -/
def Regime.ofManagers (asks : Option Manager → Prop) : Regime where
  asks
  since := 0
  lists _ := True
  nil := trivial
  push _ _ _ _ _ := trivial

/-- If the event is a request, it was put to one of the managers. -/
def Event.Within (asks : Option Manager → Prop) (e : Event) : Prop :=
  ∀ s, e.service? = some s → ∃ m, asks m ∧ s = .of m

/-- A request to the operations of one of the managers is within them. -/
lemma Event.within_of_service {asks : Option Manager → Prop} {m : Option Manager} (hm : asks m)
    {e : Event} (put : e.service? = some (.of m)) : e.Within asks := by
  intro s hs
  rw [put] at hs
  cases hs
  exact ⟨m, hm, rfl⟩

/-- What is no request is within any managers. -/
lemma Event.within_of_silent {asks : Option Manager → Prop} {e : Event} (silent : e.service? = none) :
    e.Within asks := by
  intro s hs
  rw [silent] at hs
  cases hs

/-- What a cell can become. -/
structure Cell.Becomes (c c' : Cell) : Prop where
  block : c'.block = c.block
  manager : c'.manager = c.manager
  owned : c'.owned = true → c.owned = true
  held : c'.isHeld = true → c.isHeld = true

/-- From one moment to a later one the cells only became what they can become, and only these
managers were asked. -/
structure Heap.Passes (asks : Option Manager → Prop) (h h' : Heap) : Prop where
  cells : ∀ (b : BufferId) (c : Cell), h.cells[b]? = some c →
    ∃ c' : Cell, h'.cells[b]? = some c' ∧ c.Becomes c'
  trace : ∃ es, h'.trace.toList = h.trace.toList ++ es ∧ ∀ e ∈ es, e.Within asks

variable {M : Regime} {α β : Type}

lemma Cell.Becomes.refl (c : Cell) : c.Becomes c :=
  ⟨rfl, rfl, id, id⟩

lemma Cell.Becomes.trans {c c' c'' : Cell} (first : c.Becomes c') (second : c'.Becomes c'') :
    c.Becomes c'' where
  block := second.block.trans first.block
  manager := second.manager.trans first.manager
  owned := first.owned ∘ second.owned
  held := first.held ∘ second.held

namespace Heap.Passes

variable {asks : Option Manager → Prop} {h h' h'' : Heap}

/-- Where nothing is recorded nobody is asked. -/
lemma quiet (cells : ∀ (b : BufferId) (c : Cell), h.cells[b]? = some c →
    ∃ c' : Cell, h'.cells[b]? = some c' ∧ c.Becomes c') (trace : h'.trace = h.trace) :
    h.Passes asks h' where
  cells := cells
  trace := ⟨[], trace ▸ (List.append_nil _).symm, List.forall_mem_nil _⟩

lemma refl (h : Heap) : h.Passes asks h :=
  quiet (fun _ c hc => ⟨c, hc, .refl c⟩) rfl

lemma trans (first : h.Passes asks h') (second : h'.Passes asks h'') : h.Passes asks h'' where
  cells b c hc := by
    obtain ⟨c', hc', becomes⟩ := first.cells b c hc
    obtain ⟨c'', hc'', becomes'⟩ := second.cells b c' hc'
    exact ⟨c'', hc'', becomes.trans becomes'⟩
  trace := by
    obtain ⟨es, trace, within⟩ := first.trace
    obtain ⟨es', trace', within'⟩ := second.trace
    refine ⟨es ++ es', by rw [trace', trace, List.append_assoc], fun e he => ?_⟩
    exact (List.mem_append.1 he).elim (within e) (within' e)

/-- No cell goes away. -/
lemma size_le (passes : h.Passes asks h') : h.cells.size ≤ h'.cells.size := by
  apply size_le_of_cells
  intro b c hc
  obtain ⟨c', hc', _⟩ := passes.cells b c hc
  rw [hc']
  rfl

/-- What was due for a buffer stays so. -/
lemma due?_eq (passes : h.Passes asks h') {b : BufferId} (hb : b < h.cells.size) :
    h'.due? b = h.due? b := by
  obtain ⟨c', hc', becomes⟩ := passes.cells b _ (Array.getElem?_eq_getElem hb)
  rw [Heap.due?, Heap.due?, hc', Array.getElem?_eq_getElem hb, Option.map_some, Option.map_some,
    Cell.due, Cell.due, becomes.block, becomes.manager]

/-- A buffer that is dead stays dead. -/
lemma isLive_of_isLive (passes : h.Passes asks h') {b : BufferId} (hb : b < h.cells.size)
    (live : h'.isLive (.to b) = true) : h.isLive (.to b) = true := by
  obtain ⟨c', hc', becomes⟩ := passes.cells b _ (Array.getElem?_eq_getElem hb)
  rw [isLive_of_getElem? hc'] at live
  rw [isLive_of_getElem? (Array.getElem?_eq_getElem hb)]
  exact becomes.held live

end Heap.Passes

/-- What holds of a heap holds of it later. -/
def Lasts (M : Regime) (P : Heap → Prop) : Prop :=
  ∀ h h', h.Passes M.asks h' → P h → P h'

/-- From every heap with `P` the action leads to an answer and a later heap with `Q`, and it only
asks managers of the regime, once that has begun. -/
def Action.Passes (M : Regime) (P : Heap → Prop) (a : Action α) (Q : α → Heap → Prop) : Prop :=
  ∀ h, M.since ≤ h.cells.size → P h →
    h.Passes M.asks (a.run h).2 ∧ Q (a.run h).1 (a.run h).2

namespace Action.Passes

variable {P P' F : Heap → Prop} {Q Q' : α → Heap → Prop} {R : β → Heap → Prop}

lemma pure {x : α} (hP : ∀ h, P h → Q x h) : Passes M P (pure x) Q :=
  fun h _ hp => ⟨.refl h, hP h hp⟩

/-- The second action starts from what is known after the first one, whatever that answered. -/
lemma bind {a : Action α} {f : α → Action β} (ha : Passes M P a Q)
    (hf : ∀ x, Passes M (Q x) (f x) R) : Passes M P (a >>= f) R := by
  intro h since hp
  obtain ⟨first, hq⟩ := ha h since hp
  obtain ⟨second, hr⟩ := hf _ _ (Nat.le_trans since first.size_le) hq
  exact ⟨first.trans second, hr⟩

lemma weaken {a : Action α} (ha : Passes M P a Q) (hQ : ∀ x h, Q x h → Q' x h) :
    Passes M P a Q' := by
  intro h since hp
  obtain ⟨passes, hq⟩ := ha h since hp
  exact ⟨passes, hQ _ _ hq⟩

lemma strengthen {a : Action α} (ha : Passes M P a Q) (hP : ∀ h, P' h → P h) :
    Passes M P' a Q :=
  fun h since hp => ha h since (hP h hp)

/-- A fact that the precondition settles may be taken out of it. -/
lemma of_imp {p : Prop} {a : Action α} (hp : ∀ h, P h → p) (ha : p → Passes M P a Q) :
    Passes M P a Q :=
  fun h since hP => ha (hp h hP) h since hP

/-- What is known of the answer anyway may be added. -/
lemma known {a : Action α} {K : α → Prop} (ha : Passes M P a Q) (yields : a.Yields K) :
    Passes M P a fun x h => K x ∧ Q x h := by
  intro h since hp
  obtain ⟨passes, hq⟩ := ha h since hp
  exact ⟨passes, yields h, hq⟩

/-- What lasts may be carried past an action. -/
lemma frame {a : Action α} (ha : Passes M P a Q) (lasts : Lasts M F) :
    Passes M (fun h => P h ∧ F h) a (fun x h => Q x h ∧ F h) := by
  rintro h since ⟨hp, hF⟩
  obtain ⟨passes, hq⟩ := ha h since hp
  exact ⟨passes, hq, lasts _ _ passes hF⟩

/-- An action of which nothing else is to be known leaves alone what lasts. -/
lemma past {a : Action α} (ha : Passes M (fun _ => True) a fun _ _ => True) (lasts : Lasts M F) :
    Passes M F a fun _ => F := by
  intro h since hF
  obtain ⟨passes, _⟩ := ha h since trivial
  exact ⟨passes, lasts _ _ passes hF⟩

end Action.Passes

/-- The same for a computation that may be kept from an answer. -/
def Attempt.Passes (M : Regime) (P : Heap → Prop) (a : Attempt α)
    (Q : Except Fault α → Heap → Prop) : Prop :=
  Action.Passes M P a.run Q

namespace Attempt.Passes

variable {P P' F : Heap → Prop} {Q : Except Fault α → Heap → Prop}
  {R : Except Fault β → Heap → Prop}

lemma pure {x : α} (hP : ∀ h, P h → Q (.ok x) h) : Passes M P (pure x) Q :=
  fun h _ hp => ⟨.refl h, hP h hp⟩

lemma throw {fault : Fault} (hP : ∀ h, P h → Q (.error fault) h) : Passes M P (throw fault) Q :=
  fun h _ hp => ⟨.refl h, hP h hp⟩

lemma refuse {e : BuildError} (hP : ∀ h, P h → Q (.error (.refused e)) h) :
    Passes M P (refuse e) Q :=
  fun h _ hp => ⟨.refl h, hP h hp⟩

/-- What comes first either fails, and that is to be accounted for, or has the rest begin. -/
lemma bind {a : Attempt α} {f : α → Attempt β} (ha : Passes M P a Q)
    (hok : ∀ x, Passes M (Q (.ok x)) (f x) R)
    (herror : ∀ fault h, Q (.error fault) h → R (.error fault) h) : Passes M P (a >>= f) R := by
  intro h since hp
  obtain ⟨first, hq⟩ := ha h since hp
  rw [ExceptT.run_bind, StateT.run_bind]
  rcases e : a.run.run h with ⟨fault | x, h'⟩
  · rw [e] at first hq
    exact ⟨first, herror fault h' hq⟩
  · rw [e] at first hq
    obtain ⟨second, hr⟩ := hok x h' (Nat.le_trans since first.size_le) hq
    exact ⟨first.trans second, hr⟩

lemma lift {a : Action α} {Q : α → Heap → Prop} {f : α → Attempt β} (ha : Action.Passes M P a Q)
    (hf : ∀ x, Passes M (Q x) (f x) R) : Passes M P (liftM a >>= f) R :=
  Action.Passes.bind ha hf

/-- What is done with a fault has to be accounted for as well. -/
lemma outcome {a : Attempt α} {f : Except Fault α → Attempt β} (ha : Passes M P a Q)
    (hf : ∀ r, Passes M (Q r) (f r) R) : Passes M P (a.outcome >>= f) R :=
  Action.Passes.bind ha hf

lemma get {f : Heap → Attempt β} (hf : ∀ x, Passes M (fun h => x = h ∧ P h) (f x) R) :
    Passes M P (MonadState.get >>= f) R :=
  fun h since hp => hf h h since ⟨rfl, hp⟩

lemma strengthen {a : Attempt α} (ha : Passes M P a Q) (hP : ∀ h, P' h → P h) :
    Passes M P' a Q :=
  Action.Passes.strengthen ha hP

/-- A fact that the precondition settles may be taken out of it. -/
lemma of_imp {p : Prop} {a : Attempt α} (hp : ∀ h, P h → p) (ha : p → Passes M P a Q) :
    Passes M P a Q :=
  Action.Passes.of_imp hp ha

/-- What lasts may be carried past a computation, failed or not. -/
lemma frame {a : Attempt α} (ha : Passes M P a Q) (lasts : Lasts M F) :
    Passes M (fun h => P h ∧ F h) a (fun x h => Q x h ∧ F h) :=
  Action.Passes.frame ha lasts

end Attempt.Passes

/-! ### Single steps -/

namespace Action

/-- The action asks managers of the regime only, wherever it starts. -/
abbrev Asks (M : Regime) (a : Action α) : Prop :=
  a.Passes M (fun _ => True) fun _ _ => True

/-- Actions that ask managers of the regime do so one after the other. -/
lemma Asks.andThen {a : Action α} {f : α → Action β} (ha : a.Asks M) (hf : ∀ x, (f x).Asks M) :
    (a >>= f).Asks M :=
  .bind ha hf

/-- An answer without any action asks nobody. -/
lemma asks_pure (x : α) : (pure x : Action α).Asks M :=
  .pure fun _ => id

/-- What leaves the cells and the trace alone asks nobody. -/
lemma asks_of_same {a : Action α} (cells : ∀ h, (a.run h).2.cells = h.cells)
    (trace : ∀ h, (a.run h).2.trace = h.trace) : a.Asks M := by
  refine fun h _ _ => ⟨.quiet (fun b c hc => ⟨c, ?_, .refl c⟩) (trace h), trivial⟩
  rwa [cells]

/-- Whoever records an event asked for what it records. -/
lemma asks_emit {e : Event} (within : e.Within M.asks) : (emit e).Asks M := by
  refine fun h _ _ => ⟨⟨fun _ c hc => ⟨c, hc, .refl c⟩, [e], Array.toList_push, ?_⟩, trivial⟩
  intro e' he'
  rw [List.mem_singleton.1 he']
  exact within

/-- What is no request may be recorded. -/
lemma asks_note {e : Event} (none : e.service? = none) : (emit e).Asks M :=
  asks_emit (Event.within_of_silent none)

/-- What is logged is no request. -/
lemma asks_log (r : LogRecord) : (log r).Asks M :=
  asks_note rfl

/-- Nor does a new block have anybody asked. -/
lemma asks_mint (bytes : Bytes) : (mint bytes).Asks M :=
  asks_of_same (fun _ => rfl) fun _ => rfl

/-- A request is made of whom its event says. -/
lemma asks_request (a : ArenaId) (reply : Allocator → Nat → Option Bytes)
    {event : Bool → Option Block → Event}
    (within : ∀ served got, (event served got).Within M.asks) : (request a reply event).Asks M := by
  have count : (modify (·.countCall a) : Action Unit).Asks M := by
    apply asks_of_same <;> intro h <;> cases a <;> rfl
  have minted : ∀ bytes : Option Bytes, (bytes.mapM mint).Asks M := by
    rintro (_ | bytes)
    · exact asks_pure _
    · exact .andThen (asks_mint bytes) fun _ => asks_pure _
  rw [request]
  refine .andThen (asks_of_same (fun _ => rfl) fun _ => rfl) fun h => ?_
  exact .andThen count fun _ => .andThen (minted _) fun got =>
    .andThen (asks_emit (within _ got)) fun _ => asks_pure _

/-- The operations that serve are those of the manager, and looking for them asks nobody for
anything. -/
lemma passes_serve (m : Option Manager) :
    (serve m).Passes M (fun _ => True) fun s _ => s = .of m := by
  rw [serve]
  split
  · exact .bind (asks_log _) fun _ => .pure fun _ _ => rfl
  · exact .pure fun _ _ => rfl

/-- A request that names a manager asks that manager. -/
lemma asks_serve {m : Option Manager} {f : Service → Action α} (hf : (f (.of m)).Asks M) :
    (serve m >>= f).Asks M := by
  refine .bind (passes_serve m) fun s => .of_imp (fun _ => id) ?_
  rintro rfl
  exact hf.strengthen fun _ _ => trivial

/-- A block of zeros is asked of one manager, by calloc or by malloc. -/
lemma asks_allocateZeroed {m : Option Manager} (hm : M.asks m) (count size : Nat) :
    (allocateZeroed m count size).Asks M := by
  apply asks_serve
  split
  · exact asks_request _ _ fun _ _ => Event.within_of_service hm rfl
  · split
    · exact asks_pure _
    · exact .andThen (asks_request _ _ fun _ _ => Event.within_of_service hm rfl) fun _ =>
        asks_pure _

/-- A block is asked of one manager. -/
lemma asks_allocate {m : Option Manager} (hm : M.asks m) (size : Nat) :
    (allocate m size).Asks M := by
  apply asks_serve
  exact asks_request _ _ fun _ _ => Event.within_of_service hm rfl

/-- A block is given back to one manager. -/
lemma asks_release {m : Option Manager} (hm : M.asks m) (b : Block) :
    (release m b).Asks M := by
  apply asks_serve
  exact asks_emit (Event.within_of_service hm rfl)

end Action

/-- The buffer was tracked for one of these managers. -/
def Heap.KeepsFor (asks : Option Manager → Prop) (h : Heap) (b : BufferId) : Prop :=
  ∃ c : Cell, h.cells[b]? = some c ∧ asks c.manager

/-- A buffer stays tracked for the manager that it was tracked for. -/
lemma Heap.KeepsFor.lasts (b : BufferId) : Lasts M fun h => h.KeepsFor M.asks b := by
  rintro h h' passes ⟨c, hc, hm⟩
  obtain ⟨c', hc', becomes⟩ := passes.cells b c hc
  exact ⟨c', hc', becomes.manager.symm ▸ hm⟩

lemma Lasts.forall {ι : Sort*} {P : ι → Heap → Prop} (each : ∀ i, Lasts M (P i)) :
    Lasts M fun h => ∀ i, P i h :=
  fun h h' passes all i => each i h h' passes (all i)

lemma Lasts.imp {p : Prop} {P : Heap → Prop} (lasts : Lasts M P) : Lasts M fun h => p → P h :=
  fun h h' passes all hp => lasts h h' passes (all hp)

lemma Lasts.and {P Q : Heap → Prop} (first : Lasts M P) (second : Lasts M Q) :
    Lasts M fun h => P h ∧ Q h :=
  fun h h' passes both => ⟨first h h' passes both.1, second h h' passes both.2⟩

namespace Action

/-- The cell of a buffer may be changed into what it can become. -/
lemma passes_updateCell (b : BufferId) {f : Cell → Cell}
    (becomes : ∀ c : Cell, c.isHeld = true → c.Becomes (f c)) :
    (updateCell b f).Passes M (·.KeepsFor M.asks b) fun _ _ => True := by
  rintro h since ⟨c, hc, hm⟩
  rw [updateCell]
  simp only [StateT.run_bind, StateT.run_get, pure_bind]
  cases live : h.cell? (.to b) with
  | none => exact ⟨.refl h, trivial⟩
  | some c' =>
    have hc' := Heap.getElem?_of_cell? live
    cases hc.symm.trans hc'
    have held : c.isHeld = true := (Option.filter_eq_some_iff.1 live).2
    have changed : h.Passes M.asks (h.withCell b (f c)) := by
      refine .quiet (fun b' c' hc' => ?_) rfl
      show ∃ c'' : Cell, (h.cells.setIfInBounds b (f c))[b']? = some c'' ∧ _
      by_cases ne : b = b'
      · subst ne
        cases hc.symm.trans hc'
        refine ⟨f c, ?_, becomes c held⟩
        rw [Array.getElem?_setIfInBounds_self, if_pos (Array.getElem?_eq_some_iff.1 hc).1]
      · exact ⟨c', by rwa [Array.getElem?_setIfInBounds_ne ne], .refl c'⟩
    -- a block that nobody holds goes back to the manager that it was tracked for
    have back : (if !(f c).isHeld then release c.manager c.block else pure ()).Asks M := by
      split
      · exact asks_release hm c.block
      · exact asks_pure ()
    have since := Nat.le_trans since changed.size_le
    exact ⟨changed.trans (back _ since trivial).1, trivial⟩

/-- A buffer that is given up goes back to the manager that it was tracked for, at the latest when
its last reader leaves. -/
lemma passes_disown (b : BufferId) :
    (disown b).Passes M (·.KeepsFor M.asks b) fun _ _ => True := by
  have update : (updateCell b fun c => { c with owned := false }).Passes M
      (·.KeepsFor M.asks b) fun _ _ => True := by
    refine passes_updateCell b fun c held => ⟨rfl, rfl, nofun, fun _ => held⟩
  intro h since kept
  rw [disown]
  simp only [StateT.run_bind, StateT.run_get, pure_bind]
  cases h.cell? (.to b) with
  | none => exact ⟨.refl h, trivial⟩
  | some c =>
    dsimp only
    split
    · have both : (do log .stillBorrowed; updateCell b fun c => { c with owned := false }).Passes M
          (·.KeepsFor M.asks b) fun _ _ => True :=
        .bind ((asks_log _).past (Heap.KeepsFor.lasts b)) fun _ => update
      exact both h since kept
    · exact update h since kept

/-- Reading a buffer brings none back to life. -/
lemma passes_borrow (b : BufferId) :
    (borrow b).Passes M (·.KeepsFor M.asks b) fun _ _ => True :=
  passes_updateCell b fun _ held => ⟨rfl, rfl, id, fun _ => held⟩

/-- So does one that the last reader leaves. -/
lemma passes_endBorrow (b : BufferId) :
    (endBorrow b).Passes M (·.KeepsFor M.asks b) fun _ _ => True :=
  passes_updateCell b fun _ held => ⟨rfl, rfl, id, fun _ => held⟩

end Action

/-! ### Trackers -/

namespace Tracker

open Metaobject.Action

/-- The tracker and the buffers that it lists have to do with managers of the regime only, and its
list is as the regime has it. -/
structure Within (M : Regime) (h : Heap) (t : Tracker) : Prop where
  manager : M.asks t.manager
  setup : ∀ s, t.setup = some s → ∀ m, SetupStep.bind m ∈ s.steps → M.asks m
  lists : M.lists t.buffers
  kept : ∀ b ∈ t.buffers, h.KeepsFor M.asks b

/-- A tracker stays within the regime for as long as nothing is done with it. -/
lemma Within.lasts (t : Tracker) : Lasts M fun h => t.Within M h :=
  fun h h' passes within => { within with
    kept := fun b hb => Heap.KeepsFor.lasts b h h' passes (within.kept b hb) }

/-- A new tracker is within whatever its manager is within. -/
lemma within_new {h : Heap} {m : Option Manager} (hm : M.asks m) :
    ({ manager := m } : Tracker).Within M h :=
  ⟨hm, nofun, M.nil, nofun⟩

/-- A tracker with nothing in its list is as much within the regime. -/
lemma Within.released {h : Heap} {t : Tracker} (within : t.Within M h) : t.released.Within M h :=
  ⟨within.manager, within.setup, M.nil, nofun⟩

/-- A block that is tracked comes into a cell for the manager of the tracker. -/
lemma passes_trackNow (t : Tracker) (b : Block) :
    (t.trackNow b).Passes M (t.Within M ·) fun r h => r.2.Within M h ∧ r.2.setup = t.setup := by
  intro h since within
  rw [run_trackNow]
  have passes : h.Passes M.asks (h.withNewCell { block := b, manager := t.manager }) := by
    refine .quiet (fun b' c hc => ⟨c, ?_, .refl c⟩) rfl
    exact (Array.getElem?_push_lt (Array.getElem?_eq_some_iff.1 hc).1).trans
      (congrArg some (Array.getElem?_eq_some_iff.1 hc).2)
  refine ⟨passes, ⟨?_, ?_, ?_, ?_⟩, setup_push t _⟩
  · exact (manager_reserve t).symm ▸ within.manager
  · rw [setup_push]
    exact within.setup
  · rw [buffers_push]
    -- the buffers of the list have cells, so the new one comes after all of them
    refine M.push _ _ since (fun b' hb' => ?_) within.lists
    obtain ⟨c, hc, _⟩ := within.kept b' hb'
    exact (Array.getElem?_eq_some_iff.1 hc).1
  · rw [buffers_push]
    intro b' hb'
    obtain hb' | hb' := List.mem_append.1 hb'
    · exact Heap.KeepsFor.lasts b' _ _ passes (within.kept b' hb')
    · rw [List.mem_singleton.1 hb']
      exact ⟨{ block := b, manager := t.manager }, Array.getElem?_push_size, within.manager⟩

/-- Memory that is taken at once is asked of the manager of the tracker, and listed if it was
granted. -/
lemma passes_allocateNow (t : Tracker) (size : Nat) (fill : Bytes → Bytes) :
    (t.allocateNow size fill).Passes M (t.Within M ·) fun r h =>
      r.2.Within M h ∧ r.2.setup = t.setup := by
  refine .of_imp (fun h within => within.manager) fun hm => ?_
  rw [allocateNow]
  refine .bind ((asks_allocateZeroed hm size 1).past (Within.lasts t)) ?_
  rintro (_ | b)
  · exact .pure fun h within => ⟨within, rfl⟩
  · dsimp only
    split
    · exact .bind (passes_trackNow t _) fun r => .pure fun h => id
    · refine .bind ((asks_log _).past (Within.lasts t)) fun _ =>
        .bind ((asks_release hm b).past (Within.lasts t)) fun _ => ?_
      exact .pure fun h within => ⟨within, rfl⟩

/-- Buffers that are given up go back to managers of the regime. -/
lemma passes_disownAll (bs : List BufferId) :
    (disownAll bs).Passes M (fun h => ∀ b ∈ bs, h.KeepsFor M.asks b) fun _ _ => True := by
  induction bs with
  | nil => exact .pure fun _ _ => trivial
  | cons b bs ih =>
    have rest : Lasts M fun h => ∀ b' ∈ bs, h.KeepsFor M.asks b' :=
      .forall fun b' => .imp (Heap.KeepsFor.lasts b')
    refine .bind (((passes_disown b).frame rest).strengthen fun h => List.forall_mem_cons.1)
      fun _ => ?_
    exact ih.strengthen fun h after => after.2

/-- A whole list goes back to managers of the regime. -/
lemma passes_giveUp (t : Tracker) : t.giveUp.Passes M (t.Within M ·) fun _ _ => True :=
  .bind ((passes_disownAll t.buffers).strengthen fun _ within => within.kept) fun _ => asks_log _

/-- So does what a dropped tracker lists. -/
lemma passes_drop (t : Tracker) : t.drop.Passes M (t.Within M ·) fun _ _ => True := by
  rw [drop]
  split
  · exact .bind ((asks_log _).past (Within.lasts t)) fun _ => passes_giveUp t
  · exact .pure fun _ _ => trivial

/-- A release leaves an empty list, and what was deferred stays so. -/
lemma passes_release (t : Tracker) :
    t.release.Passes M (t.Within M ·) fun r h =>
      r.2.Within M h ∧ r.2.setup = t.setup ∧ r.2.buffers = [] := by
  intro h since within
  -- what the answer is `run_release` says, so only the way there is to be looked at
  have passes : h.Passes M.asks (t.release.run h).2 := by
    have gives : (do let _ ← t.release : Action Unit).Passes M (t.Within M ·) fun _ _ => True := by
      rw [release]
      split
      · exact .pure fun _ _ => trivial
      · exact passes_giveUp t
    exact (gives h since within).1
  rw [run_release]
  exact ⟨passes, (Within.lasts t _ _ passes within).released, rfl, rfl⟩

/-- A deferred step keeps to the regime, if the manager that it binds is one of it. -/
lemma passes_perform (t : Tracker) {s : SetupStep} (binds : ∀ m, s = .bind m → M.asks m) :
    (t.perform s).Passes M (t.Within M ·) fun t' h => t'.Within M h ∧ t'.setup = t.setup := by
  cases s with
  | bind m => exact .pure fun h within => ⟨{ within with manager := binds m rfl }, rfl⟩
  | mark onHeap =>
    exact .pure fun h within => ⟨⟨within.manager, within.setup, within.lists, within.kept⟩, rfl⟩
  | allocate size => exact .bind (passes_allocateNow t size id) fun _ => .pure fun _ => id
  | copy bytes => exact .bind (passes_allocateNow t _ _) fun _ => .pure fun _ => id
  | track bytes =>
    exact .bind ((asks_mint bytes).past (Within.lasts t)) fun b =>
      .bind (passes_trackNow t b) fun _ => .pure fun _ => id
  | release =>
    exact .bind (passes_release t) fun _ => .pure fun _ after => ⟨after.1, after.2.1⟩

/-- All of them do, one after the other. -/
lemma passes_performAll (t : Tracker) {steps : List SetupStep}
    (binds : ∀ m, SetupStep.bind m ∈ steps → M.asks m) :
    (t.performAll steps).Passes M (t.Within M ·) fun t' h =>
      t'.Within M h ∧ t'.setup = t.setup := by
  induction steps generalizing t with
  | nil => exact .pure fun h within => ⟨within, rfl⟩
  | cons s steps ih =>
    have first : ∀ m, s = .bind m → M.asks m := fun m hs => binds m (hs ▸ List.mem_cons_self)
    refine .bind (passes_perform t first) fun t' => .of_imp (fun h after => after.2) fun setup => ?_
    rw [← setup]
    exact (ih t' fun m hm => binds m (List.mem_cons_of_mem s hm)).strengthen fun h after => after.1

/-- What is deferred runs within the regime, as a tracker within it has deferred nothing else. -/
lemma passes_ensureSetup (t : Tracker) :
    t.ensureSetup.Passes M (t.Within M ·) fun t' h => t'.Within M h := by
  rw [ensureSetup]
  split
  · exact .pure fun h => id
  · rename_i s hs
    refine .of_imp (fun h within => within.setup s hs) fun binds => ?_
    -- the steps are taken off the tracker before the first of them is performed
    refine .bind ((asks_note (e := .setup s) rfl).past (Within.lasts t)) fun _ => ?_
    refine ((passes_performAll { t with setup := none } binds).strengthen fun h within => ?_).weaken
      fun t' h after => after.1
    refine ⟨within.manager, fun s' hs' => ?_, within.lists, within.kept⟩
    cases hs'

/-- Tracking a block, deferred steps and all, leaves the tracker within the regime. -/
lemma passes_track (t : Tracker) (b : Block) :
    (t.track b).Passes M (t.Within M ·) fun r h => r.2.Within M h :=
  .bind (passes_ensureSetup t) fun t' => (passes_trackNow t' b).weaken fun _ _ after => after.1

/-- And so does taking memory. -/
lemma passes_allocateWith (t : Tracker) (size : Nat) (fill : Bytes → Bytes) :
    (t.allocateWith size fill).Passes M (t.Within M ·) fun r h => r.2.Within M h :=
  .bind (passes_ensureSetup t) fun t' =>
    (passes_allocateNow t' size fill).weaken fun _ _ after => after.1

end Tracker

end Metaobject
