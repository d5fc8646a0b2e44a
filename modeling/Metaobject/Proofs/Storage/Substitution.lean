import Metaobject.Proofs.Storage.Passage

/-!
# Managers that serve alike

Two managers serve alike if their requests are put to the same operations. A manager that lacks
malloc or free serves as that of the system does. A `Substitution` puts a manager that serves alike
in the place of each one, wherever it is kept: in trackers and what they have deferred, in cells, in
the place of the manager of the process. It also says which managers there are at all.

`Action.Mirrors` compares the runs of two actions from heaps that a substitution carries into each
other. What the second one answers is what the first one does, but for the managers in it, and so is
what it leaves behind, and on the way only managers were asked that there are. The one thing that is
not compared is the record that a manager could not serve.
-/

namespace Metaobject

/-- Without one of malloc and free a manager does not serve. -/
lemma Manager.service?_eq_none {m : Manager} (lacks : m.malloc = none ∨ m.free = none) :
    m.service? = none := by
  obtain malloc | free := lacks
  · rw [service?, malloc]
  · rw [service?, free]
    cases m.malloc <;> rfl

/-- Puts a manager that serves alike in the place of each one. -/
structure Substitution where
  manager : Manager → Manager
  service : ∀ m, Service.of (some (manager m)) = Service.of (some m)
  system : manager .system = .system
  /-- There is such a manager. -/
  known : Manager → Prop
  known_system : known .system

namespace Substitution

/-- A manager that lacks malloc or free gives way to that of the system. -/
def ofIncomplete (m₀ : Manager) (lacks : m₀.malloc = none ∨ m₀.free = none)
    (used : Manager → Prop) : Substitution where
  manager m := if m = m₀ then .system else m
  service m := by
    split
    · rename_i same
      rw [same, Service.of, Service.of, Option.bind_some, Option.bind_some,
        Manager.service?_eq_none lacks]
      rfl
    · rfl
  system := by
    rw [if_neg]
    rintro rfl
    obtain malloc | free := lacks
    · cases malloc
    · cases free
  known m := m = .system ∨ used m
  known_system := .inl rfl

variable (σ : Substitution)

/-- What a tracker has deferred, with the other manager in it if it binds one. -/
def step : SetupStep → SetupStep
  | .bind m => .bind (m.map σ.manager)
  | s => s

/-- Everything that a tracker has deferred, with the other managers in it. -/
def setup (s : Setup) : Setup :=
  { s with steps := s.steps.map σ.step }

/-- The tracker with the other manager, now and in what it has deferred. -/
def tracker (t : Tracker) : Tracker :=
  { t with manager := t.manager.map σ.manager, setup := t.setup.map σ.setup }

/-- The cell with the other manager to give its block back to. -/
def cell (c : Cell) : Cell :=
  { c with manager := c.manager.map σ.manager }

/-- The event with the other managers in it. Only what was deferred shows any. -/
def event : Event → Event
  | .setup s => .setup (σ.setup s)
  | e => e

/-- The manager is one that there is, if it is named at all. -/
def Knows (m : Option Manager) : Prop :=
  ∀ n, m = some n → σ.known n

/-- Putting in the other manager makes no difference to who serves, none being named included. -/
lemma of_map (m : Option Manager) : Service.of (m.map σ.manager) = Service.of m := by
  cases m with
  | none => rfl
  | some m => exact σ.service m

variable {σ}

/-- Naming no manager names none that there is not. -/
lemma knows_none : σ.Knows none := by
  rintro _ ⟨⟩

/-- A manager that there is may be named. -/
lemma knows_some {m : Manager} (known : σ.known m) : σ.Knows (some m) := by
  rintro _ ⟨⟩
  exact known

end Substitution

/-- The tracker and what it has deferred only have to do with managers that there are. -/
structure Tracker.KnownTo (σ : Substitution) (t : Tracker) : Prop where
  manager : σ.Knows t.manager
  setup : ∀ s, t.setup = some s → ∀ m, SetupStep.bind m ∈ s.steps → σ.Knows m

/-- The event says more than that a manager could not serve. -/
def Event.tells : Event → Bool
  | log .incompleteManager => false
  | _ => true

/-- The events that say more than that. -/
def Heap.seen (h : Heap) : List Event :=
  h.trace.toList.filter (·.tells)

/-- The second heap is the first one with other managers. -/
structure Heap.Mirrors (σ : Substitution) (h h' : Heap) : Prop where
  arenas : h'.arenas = h.arenas
  cells : h'.cells = h.cells.map σ.cell
  nextAddress : h'.nextAddress = h.nextAddress
  processManager : h'.processManager = h.processManager.map σ.manager
  seen : h'.seen = h.seen.map σ.event
  /-- The managers of the first one are those that there are. -/
  known : ∀ c ∈ h.cells, σ.Knows c.manager
  process : σ.Knows h.processManager
  requests : ∀ e ∈ h.trace, e.Within σ.Knows

variable {α β γ δ : Type} {σ : Substitution}

/-- From two such heaps the actions come to two such heaps. The answer of the first one has `P`, and
that of the second one is what `f` makes of it. -/
def Action.Mirrors (σ : Substitution) (f : α → β) (P : α → Prop) (a : Action α) (a' : Action β) :
    Prop :=
  ∀ h h', h.Mirrors σ h' →
    (a'.run h').1 = f (a.run h).1 ∧ P (a.run h).1 ∧ (a.run h).2.Mirrors σ (a'.run h').2

/-- The same for computations that may be kept from an answer. -/
def Attempt.Mirrors (σ : Substitution) (f : α → β) (P : α → Prop) (a : Attempt α)
    (a' : Attempt β) : Prop :=
  Action.Mirrors σ (Except.map f) (fun r => ∀ x, r = .ok x → P x) a.run a'.run

/-! ### The rules -/

namespace Action.Mirrors

variable {f : α → β} {g : γ → δ} {P : α → Prop} {Q : γ → Prop} {a : Action α} {a' : Action β}

lemma pure {x : α} {y : β} (same : y = f x) (hP : P x) : Mirrors σ f P (pure x) (pure y) :=
  fun _ _ mirrors => ⟨same, hP, mirrors⟩

/-- The second action goes on with what it makes of the answer of the first one. -/
lemma bind {k : α → Action γ} {k' : β → Action δ} (ha : Mirrors σ f P a a')
    (hk : ∀ x, P x → Mirrors σ g Q (k x) (k' (f x))) : Mirrors σ g Q (a >>= k) (a' >>= k') := by
  intro h h' mirrors
  obtain ⟨answer, hP, after⟩ := ha h h' mirrors
  have rest := hk (a.run h).1 hP _ _ after
  rw [← answer] at rest
  exact rest

lemma get {k : Heap → Action γ} {k' : Heap → Action δ}
    (hk : ∀ x x', x.Mirrors σ x' → Mirrors σ g Q (k x) (k' x')) :
    Mirrors σ g Q (MonadState.get >>= k) (MonadState.get >>= k') :=
  fun h h' mirrors => hk h h' mirrors h h' mirrors

/-- A change of the heap on both sides. -/
lemma change {f f' : Heap → Heap} (keeps : ∀ h h', h.Mirrors σ h' → (f h).Mirrors σ (f' h')) :
    Mirrors σ id (fun _ => True) (modify f) (modify f') :=
  fun h h' mirrors => ⟨rfl, trivial, keeps h h' mirrors⟩

end Action.Mirrors

namespace Attempt.Mirrors

variable {f : α → β} {g : γ → δ} {P : α → Prop} {Q : γ → Prop} {a : Attempt α} {a' : Attempt β}

lemma pure {x : α} {y : β} (same : y = f x) (hP : P x) : Mirrors σ f P (pure x) (pure y) := by
  refine Action.Mirrors.pure (congrArg Except.ok same) ?_
  rintro _ ⟨⟩
  exact hP

lemma throw (fault : Fault) : Mirrors σ f P (throw fault) (throw fault) :=
  Action.Mirrors.pure rfl nofun

lemma refuse (e : BuildError) : Mirrors σ f P (refuse e) (refuse e) :=
  throw _

/-- What comes first either fails on both sides, or goes on with its answers. -/
lemma bind {k : α → Attempt γ} {k' : β → Attempt δ} (ha : Mirrors σ f P a a')
    (hk : ∀ x, P x → Mirrors σ g Q (k x) (k' (f x))) : Mirrors σ g Q (a >>= k) (a' >>= k') := by
  intro h h' mirrors
  obtain ⟨answer, hP, after⟩ := ha h h' mirrors
  rw [ExceptT.run_bind, ExceptT.run_bind, StateT.run_bind, StateT.run_bind]
  rcases e : a.run.run h with ⟨fault | x, h₁⟩
  all_goals
    rcases e' : a'.run.run h' with ⟨fault' | x', h₁'⟩
    all_goals
      rw [e, e'] at answer after
      rw [e] at hP
      cases answer
  · exact ⟨rfl, nofun, after⟩
  · exact hk x (hP x rfl) h₁ h₁' after

lemma lift {b : Action α} {b' : Action β} {k : α → Attempt γ} {k' : β → Attempt δ}
    (hb : Action.Mirrors σ f P b b') (hk : ∀ x, P x → Mirrors σ g Q (k x) (k' (f x))) :
    Mirrors σ g Q (liftM b >>= k) (liftM b' >>= k') :=
  Action.Mirrors.bind hb hk

/-- What is done with a fault has to mirror as well. -/
lemma outcome {k : Except Fault α → Attempt γ} {k' : Except Fault β → Attempt δ}
    (ha : Mirrors σ f P a a')
    (hk : ∀ r, (∀ x, r = .ok x → P x) → Mirrors σ g Q (k r) (k' (r.map f))) :
    Mirrors σ g Q (a.outcome >>= k) (a'.outcome >>= k') :=
  Action.Mirrors.bind ha hk

lemma get {k : Heap → Attempt γ} {k' : Heap → Attempt δ}
    (hk : ∀ x x', x.Mirrors σ x' → Mirrors σ g Q (k x) (k' x')) :
    Mirrors σ g Q (MonadState.get >>= k) (MonadState.get >>= k') :=
  fun h h' mirrors => hk h h' mirrors h h' mirrors

end Attempt.Mirrors

/-! ### Reading a heap -/

namespace Heap.Mirrors

variable {h h' : Heap}

/-- At the start there is no manager anywhere. -/
lemma start (σ : Substitution) (arenas : Array Arena) :
    Heap.Mirrors σ { arenas } { arenas } where
  arenas := rfl
  cells := Array.map_empty.symm
  nextAddress := rfl
  processManager := rfl
  seen := rfl
  known c hc := absurd hc (Array.not_mem_empty c)
  process := Substitution.knows_none
  requests e he := absurd he (Array.not_mem_empty e)

/-- Where there is a cell in the first heap there is its image in the second one. -/
lemma cell? (mirrors : h.Mirrors σ h') (ref : Handle) :
    h'.cell? ref = (h.cell? ref).map σ.cell := by
  obtain _ | b := ref
  · rfl
  · rw [Heap.cell?, Heap.cell?, mirrors.cells, Array.getElem?_map, Option.filter_map]
    rfl

/-- The same bytes are read in both. -/
lemma read (mirrors : h.Mirrors σ h') (ref : Handle) : h'.read ref = h.read ref := by
  rw [Heap.read, Heap.read, mirrors.cell?, Option.map_map]
  rfl

/-- The same buffers are alive in both. -/
lemma isLive (mirrors : h.Mirrors σ h') (ref : Handle) : h'.isLive ref = h.isLive ref := by
  rw [Heap.isLive, Heap.isLive, mirrors.cell?, Option.isSome_map]

/-- The arenas are the same. -/
lemma arena (mirrors : h.Mirrors σ h') (a : ArenaId) : h'.arena a = h.arena a := by
  cases a with
  | system => rfl
  | custom i => rw [Heap.arena, Heap.arena, mirrors.arenas]

/-- An event is recorded in both, if its requests are put to managers that there are. -/
lemma push (mirrors : h.Mirrors σ h') {e : Event} (within : e.Within σ.Knows) :
    ({ h with trace := h.trace.push e } : Heap).Mirrors σ
      { h' with trace := h'.trace.push (σ.event e) } where
  arenas := mirrors.arenas
  cells := mirrors.cells
  nextAddress := mirrors.nextAddress
  processManager := mirrors.processManager
  seen := by
    have tells : (σ.event e).tells = e.tells := by cases e <;> rfl
    have seen := mirrors.seen
    rw [Heap.seen, Heap.seen] at seen ⊢
    rw [Array.toList_push, Array.toList_push, List.filter_append, List.filter_append, seen,
      List.map_append, List.filter_cons, List.filter_cons, tells]
    cases e.tells <;> rfl
  known := mirrors.known
  process := mirrors.process
  requests e' he' := by
    obtain old | rfl := Array.mem_push.1 he'
    · exact mirrors.requests e' old
    · exact within

/-- It makes no difference to record that a manager could not serve. -/
lemma pushIf (mirrors : h.Mirrors σ h') (first second : Bool) :
    Heap.Mirrors σ
      { h with trace := if first then h.trace.push (.log .incompleteManager) else h.trace }
      { h' with
        trace := if second then h'.trace.push (.log .incompleteManager) else h'.trace } where
  arenas := mirrors.arenas
  cells := mirrors.cells
  nextAddress := mirrors.nextAddress
  processManager := mirrors.processManager
  seen := by
    have quiet : ∀ (b : Bool) (es : Array Event),
        (if b then es.push (.log .incompleteManager) else es).toList.filter (·.tells) =
          es.toList.filter (·.tells) := by
      intro b es
      cases b with
      | false => rfl
      | true =>
        rw [if_pos rfl, Array.toList_push, List.filter_append]
        exact List.append_nil _
    have seen := mirrors.seen
    rw [Heap.seen, Heap.seen] at seen ⊢
    rw [quiet, quiet, seen]
  known := mirrors.known
  process := mirrors.process
  requests e he := by
    cases first with
    | false => exact mirrors.requests e he
    | true =>
      obtain old | rfl := Array.mem_push.1 he
      · exact mirrors.requests e old
      · exact Event.within_of_silent rfl

/-- A call is counted in both. -/
lemma countCall (mirrors : h.Mirrors σ h') (a : ArenaId) :
    (h.countCall a).Mirrors σ (h'.countCall a) := by
  cases a with
  | system => exact mirrors
  | custom i =>
    refine { mirrors with arenas := ?_ }
    rw [Heap.countCall, Heap.countCall, mirrors.arenas]

end Heap.Mirrors

/-! ### Requests -/

namespace Action

/-- The answer is the same, and nothing is to be known of it. -/
abbrev Same (σ : Substitution) (a a' : Action α) : Prop :=
  Mirrors σ id (fun _ => True) a a'

/-- An event is emitted by both, each with its own managers in it. -/
lemma mirrors_emit {e : Event} (within : e.Within σ.Knows) : Same σ (emit e) (emit (σ.event e)) :=
  .change fun _ _ mirrors => mirrors.push within

/-- What is no request may be recorded. -/
lemma mirrors_note {e : Event} (silent : e.service? = none) :
    Same σ (emit e) (emit (σ.event e)) :=
  mirrors_emit (Event.within_of_silent silent)

/-- Nothing that is logged names a manager. -/
lemma mirrors_log (r : LogRecord) : Same σ (log r) (log r) :=
  mirrors_note (e := .log r) rfl

/-- A new block has the same address and the same bytes. -/
lemma mirrors_mint (bytes : Bytes) : Same σ (mint bytes) (mint bytes) := by
  intro h h' mirrors
  have next := mirrors.nextAddress
  exact ⟨congrArg (Block.mk · bytes) next, trivial,
    { mirrors with nextAddress := congrArg (· + 1) next }⟩

/-- The operations that serve are the same, whatever is recorded about it. -/
lemma mirrors_serve (m : Option Manager) :
    Mirrors σ id (· = .of m) (serve m) (serve (m.map σ.manager)) := by
  intro h h' mirrors
  have run : ∀ (m : Option Manager) (h : Heap), (serve m).run h = (.of m, { h with
      trace := if m.any (·.service?.isNone) then h.trace.push (.log .incompleteManager)
        else h.trace }) := by
    intro m h
    rw [serve]
    cases m.any (·.service?.isNone) <;> rfl
  rw [run, run]
  exact ⟨σ.of_map m, rfl, mirrors.pushIf _ _⟩

/-- A request to an operation comes to the same answer, if what it records names no manager. -/
lemma mirrors_request (a : ArenaId) (reply : Allocator → Nat → Option Bytes)
    {event : Bool → Option Block → Event}
    (same : ∀ served got, σ.event (event served got) = event served got)
    (within : ∀ served got, (event served got).Within σ.Knows) :
    Same σ (request a reply event) (request a reply event) := by
  refine .get fun x x' like => ?_
  dsimp only
  rw [like.arena a]
  refine .bind (.change fun h h' mirrors => mirrors.countCall a) fun _ _ => ?_
  have minted : ∀ bytes : Option Bytes, Same σ (bytes.mapM mint) (bytes.mapM mint) := by
    rintro (_ | bytes)
    · exact .pure rfl trivial
    · show Same σ (mint bytes >>= fun b => pure (some b)) (mint bytes >>= fun b => pure (some b))
      exact .bind (mirrors_mint bytes) fun b _ => .pure rfl trivial
  refine .bind (minted _) fun got _ => ?_
  have told := mirrors_emit (within ((x.arena a).allocator.serves (x.arena a).calls) got)
  rw [same] at told
  exact .bind told fun _ _ => .pure rfl trivial

/-- The operations of a manager that there is are asked for a block. -/
lemma mirrors_malloc {m : Option Manager} (hm : σ.Knows m) (size : Nat) :
    Same σ (malloc (.of m) size) (malloc (.of m) size) :=
  mirrors_request _ _ (fun _ _ => rfl) fun _ _ => Event.within_of_service hm rfl

/-- A block is given back to the operations of a manager that there is. -/
lemma mirrors_giveBack {m : Option Manager} (hm : σ.Knows m) (b : Block) :
    Same σ (giveBack (.of m) b) (giveBack (.of m) b) :=
  mirrors_emit (e := .free (.of m) b) (Event.within_of_service hm rfl)

/-- A manager hands out what the one in its place does. -/
lemma mirrors_allocate {m : Option Manager} (hm : σ.Knows m) (size : Nat) :
    Same σ (allocate m size) (allocate (m.map σ.manager) size) := by
  refine .bind (mirrors_serve m) ?_
  rintro _ rfl
  exact mirrors_malloc hm size

/-- A manager takes back what the one in its place does. -/
lemma mirrors_release {m : Option Manager} (hm : σ.Knows m) (b : Block) :
    Same σ (release m b) (release (m.map σ.manager) b) := by
  refine .bind (mirrors_serve m) ?_
  rintro _ rfl
  exact mirrors_giveBack hm b

/-- Filled with zeros, by calloc or by hand, a block is the same from both managers. -/
lemma mirrors_allocateZeroed {m : Option Manager} (hm : σ.Knows m) (count size : Nat) :
    Same σ (allocateZeroed m count size) (allocateZeroed (m.map σ.manager) count size) := by
  refine .bind (mirrors_serve m) ?_
  rintro _ rfl
  dsimp only [id]
  split
  · exact mirrors_request _ _ (fun _ _ => rfl) fun _ _ => Event.within_of_service hm rfl
  · split
    · exact .pure rfl trivial
    · exact .bind (mirrors_malloc hm _) fun got _ => .pure rfl trivial

/-- So it is when it has another size, by realloc or by hand. -/
lemma mirrors_reallocate {m : Option Manager} (hm : σ.Knows m) (old : Block) (size : Nat) :
    Same σ (reallocate m old size) (reallocate (m.map σ.manager) old size) := by
  refine .bind (mirrors_serve m) ?_
  rintro _ rfl
  dsimp only [id]
  split
  · exact mirrors_request _ _ (fun _ _ => rfl) fun _ _ => Event.within_of_service hm rfl
  · exact .bind (mirrors_giveBack hm old) fun _ _ => .bind (mirrors_malloc hm size) fun got _ =>
      .pure rfl trivial

/-! ### The process and its cells -/

/-- The manager of the process is one that there is, also when that of the system has to be
appointed. -/
lemma mirrors_processManager :
    Mirrors σ σ.manager σ.known processManager processManager := by
  intro h h' mirrors
  have same : h'.processManager.getD .system = σ.manager (h.processManager.getD .system) := by
    rw [mirrors.processManager]
    cases h.processManager with
    | none => exact σ.system.symm
    | some m => rfl
  have known : σ.known (h.processManager.getD .system) := by
    cases hm : h.processManager with
    | none => exact σ.known_system
    | some m => exact mirrors.process m hm
  exact ⟨same, known, { mirrors with
    processManager := congrArg some same, process := Substitution.knows_some known }⟩

/-- It may be appointed if there is such a manager, and in both heaps it is too late for another
one. -/
lemma mirrors_setProcessManager {m : Manager} (hm : σ.known m) :
    Same σ (setProcessManager m) (setProcessManager (σ.manager m)) := by
  refine .get fun x x' like => ?_
  rw [like.processManager]
  cases x.processManager with
  | some _ => exact .bind (mirrors_log _) fun _ _ => .pure rfl trivial
  | none =>
    refine .bind (.change fun h h' mirrors => ?_) fun _ _ => .pure rfl trivial
    exact { mirrors with processManager := rfl, process := Substitution.knows_some hm }

/-- A cell is made for the same buffer, with the image of the manager that takes the block back. -/
lemma mirrors_newCell (b : Block) {m : Option Manager} (hm : σ.Knows m) :
    Same σ (newCell b m) (newCell b (m.map σ.manager)) := by
  intro h h' mirrors
  refine ⟨?_, trivial, { mirrors with cells := ?_, known := fun c hc => ?_ }⟩
  · show h'.cells.size = h.cells.size
    rw [mirrors.cells, Array.size_map]
  · show h'.cells.push _ = (h.cells.push _).map σ.cell
    rw [mirrors.cells, Array.map_push]
    rfl
  · obtain old | rfl := Array.mem_push.1 hc
    · exact mirrors.known c old
    · exact hm

/-- A cell may be changed, but not the manager that takes its block back. -/
lemma mirrors_updateCell (b : BufferId) {f : Cell → Cell} (same : ∀ c, f (σ.cell c) = σ.cell (f c))
    (keeps : ∀ c, (f c).manager = c.manager) : Same σ (updateCell b f) (updateCell b f) := by
  refine .get fun x x' like => ?_
  rw [like.cell?]
  cases live : x.cell? (.to b) with
  | none => exact .pure rfl trivial
  | some c =>
    have known := like.known c (Array.mem_of_getElem? (Heap.getElem?_of_cell? live))
    dsimp only [Option.map_some]
    rw [same]
    refine .bind (.change fun h h' mirrors =>
      { mirrors with cells := ?_, known := ?_ }) fun _ _ => ?_
    · show h'.cells.setIfInBounds b (σ.cell (f c)) = (h.cells.setIfInBounds b (f c)).map σ.cell
      rw [mirrors.cells, Array.map_setIfInBounds]
    · intro c' hc'
      obtain old | rfl := Array.mem_or_eq_of_mem_setIfInBounds hc'
      · exact mirrors.known c' old
      · exact (keeps c).symm ▸ known
    · have held : (σ.cell (f c)).isHeld = (f c).isHeld := rfl
      rw [held]
      cases (f c).isHeld with
      | true => exact .pure rfl trivial
      | false => exact mirrors_release known c.block

/-- A buffer is given up in both, with the same complaint if it is being read. -/
lemma mirrors_disown (b : BufferId) : Same σ (disown b) (disown b) := by
  have update : Same σ (updateCell b fun c => { c with owned := false })
      (updateCell b fun c => { c with owned := false }) :=
    mirrors_updateCell b (fun _ => rfl) fun _ => rfl
  refine .get fun x x' like => ?_
  rw [like.cell?]
  cases x.cell? (.to b) with
  | none => exact .pure rfl trivial
  | some c =>
    have borrows : (σ.cell c).borrows = c.borrows := rfl
    dsimp only [Option.map_some]
    rw [borrows]
    split
    · exact .bind (mirrors_log _) fun _ _ => update
    · exact update

/-- A reader comes to the same buffer. -/
lemma mirrors_borrow (b : BufferId) : Same σ (borrow b) (borrow b) :=
  mirrors_updateCell b (fun _ => rfl) fun _ => rfl

/-- A reader leaves the same buffer. -/
lemma mirrors_endBorrow (b : BufferId) : Same σ (endBorrow b) (endBorrow b) :=
  mirrors_updateCell b (fun _ => rfl) fun _ => rfl

end Action

/-! ### Trackers -/

namespace Tracker

open Metaobject.Action

variable {t : Tracker}

/-- A tracker by itself, which is as the one that it mirrors but for its manager. -/
abbrev Kept (σ : Substitution) (a a' : Action Tracker) : Prop :=
  Mirrors σ σ.tracker (·.KnownTo σ) a a'

/-- What an operation of a tracker answers, together with the tracker. -/
abbrev Answers (σ : Substitution) (a a' : Action (α × Tracker)) : Prop :=
  Mirrors σ (fun r => (r.1, σ.tracker r.2)) (·.2.KnownTo σ) a a'

/-- A new tracker knows its manager only. -/
lemma knownTo_new {m : Option Manager} (hm : σ.Knows m) : ({ manager := m } : Tracker).KnownTo σ :=
  ⟨hm, by rintro _ ⟨⟩⟩

/-- Making room has nothing to do with managers. -/
lemma reserve_substitution (t : Tracker) : (σ.tracker t).reserve = σ.tracker t.reserve := by
  have same : ((σ.tracker t).buffers.length = (σ.tracker t).capacity) =
    (t.buffers.length = t.capacity) := rfl
  simp only [reserve, same]
  split <;> rfl

/-- Making room brings no other manager in. -/
lemma KnownTo.reserve (known : t.KnownTo σ) : t.reserve.KnownTo σ where
  manager := t.manager_reserve.symm ▸ known.manager
  setup := t.setup_reserve.symm ▸ known.setup

/-- A block is tracked at once by both trackers, under the same handle. -/
lemma mirrors_trackNow (known : t.KnownTo σ) (b : Block) :
    Answers σ (t.trackNow b) ((σ.tracker t).trackNow b) := by
  rw [trackNow, trackNow, reserve_substitution]
  exact .bind (mirrors_newCell b known.reserve.manager) fun id _ =>
    .pure rfl ⟨known.reserve.manager, known.reserve.setup⟩

/-- Memory is taken at once from managers that serve alike, and is tracked or refused by both. -/
lemma mirrors_allocateNow (known : t.KnownTo σ) (size : Nat) (fill : Bytes → Bytes) :
    Answers σ (t.allocateNow size fill) ((σ.tracker t).allocateNow size fill) := by
  refine .bind (mirrors_allocateZeroed known.manager size 1) ?_
  rintro (_ | b) -
  · exact .pure rfl known
  · dsimp only [id]
    split
    · exact .bind (mirrors_trackNow known _) fun r known => .pure rfl known
    · exact .bind (mirrors_log _) fun _ _ => .bind (mirrors_release known.manager b) fun _ _ =>
        .pure rfl known

/-- The same buffers are given up. -/
lemma mirrors_disownAll (bs : List BufferId) : Same σ (disownAll bs) (disownAll bs) := by
  induction bs with
  | nil => exact .pure rfl trivial
  | cons b bs ih => exact .bind (mirrors_disown b) fun _ _ => ih

/-- Giving up a list says nothing about its manager. -/
lemma mirrors_giveUp (t : Tracker) : Same σ t.giveUp (σ.tracker t).giveUp :=
  .bind (mirrors_disownAll t.buffers) fun _ _ => mirrors_log _

/-- A tracker that is dropped complains in both or in none. -/
lemma mirrors_drop (t : Tracker) : Same σ t.drop (σ.tracker t).drop := by
  have same : (σ.tracker t).buffers = t.buffers := rfl
  rw [drop, drop, same]
  split
  · exact .bind (mirrors_log _) fun _ _ => mirrors_giveUp t
  · exact .pure rfl trivial

/-- A release empties both trackers. -/
lemma mirrors_release (known : t.KnownTo σ) : Answers σ t.release (σ.tracker t).release := by
  have same : ((σ.tracker t).buffers.isEmpty && (σ.tracker t).capacity = 0) =
    (t.buffers.isEmpty && t.capacity = 0) := rfl
  rw [release, release, same]
  split
  · exact .pure rfl ⟨known.manager, known.setup⟩
  · exact .bind (mirrors_giveUp t) fun _ _ => .pure rfl ⟨known.manager, known.setup⟩

/-- Each deferred step is performed by both, the binding of a manager with its image. -/
lemma mirrors_perform (known : t.KnownTo σ) {s : SetupStep} (binds : ∀ m, s = .bind m → σ.Knows m) :
    Kept σ (t.perform s) ((σ.tracker t).perform (σ.step s)) := by
  cases s with
  | bind m => exact .pure rfl ⟨binds m rfl, known.setup⟩
  | mark onHeap => exact .pure rfl ⟨known.manager, known.setup⟩
  | allocate size => exact .bind (mirrors_allocateNow known size id) fun _ => .pure rfl
  | copy bytes => exact .bind (mirrors_allocateNow known _ _) fun _ => .pure rfl
  | track bytes =>
    exact .bind (mirrors_mint bytes) fun b _ => .bind (mirrors_trackNow known b) fun _ => .pure rfl
  | release => exact .bind (mirrors_release known) fun _ => .pure rfl

/-- All deferred steps are. -/
lemma mirrors_performAll (known : t.KnownTo σ) {steps : List SetupStep}
    (binds : ∀ m, SetupStep.bind m ∈ steps → σ.Knows m) :
    Kept σ (t.performAll steps) ((σ.tracker t).performAll (steps.map σ.step)) := by
  induction steps generalizing t with
  | nil => exact .pure rfl known
  | cons s steps ih =>
    have first : ∀ m, s = .bind m → σ.Knows m := fun m hs => binds m (hs ▸ List.mem_cons_self)
    exact .bind (mirrors_perform known first) fun t' known =>
      ih known fun m hm => binds m (List.mem_cons_of_mem s hm)

/-- What is deferred runs in both at the same moment, and is deferred no longer. -/
lemma mirrors_ensureSetup (known : t.KnownTo σ) :
    Kept σ t.ensureSetup (σ.tracker t).ensureSetup := by
  have same : (σ.tracker t).setup = t.setup.map σ.setup := rfl
  rw [ensureSetup, ensureSetup, same]
  cases hs : t.setup with
  | none => exact .pure rfl known
  | some s =>
    refine .bind (mirrors_note (e := .setup s) rfl) fun _ _ => ?_
    have bare : ({ t with setup := none } : Tracker).KnownTo σ := ⟨known.manager, by rintro _ ⟨⟩⟩
    exact mirrors_performAll bare (known.setup s hs)

/-- Tracking a block first runs what is deferred, in both. -/
lemma mirrors_track (known : t.KnownTo σ) (b : Block) :
    Answers σ (t.track b) ((σ.tracker t).track b) :=
  .bind (mirrors_ensureSetup known) fun _ known => mirrors_trackNow known b

/-- So does taking memory. -/
lemma mirrors_allocateWith (known : t.KnownTo σ) (size : Nat) (fill : Bytes → Bytes) :
    Answers σ (t.allocateWith size fill) ((σ.tracker t).allocateWith size fill) :=
  .bind (mirrors_ensureSetup known) fun _ known => mirrors_allocateNow known size fill

end Tracker

end Metaobject
