import Metaobject.Proofs.Contract
import Metaobject.Proofs.Storage.Effects

/-!
# What a run records

The trace only grows, and what trackers and managers do adds no hook to it: only types are
consulted. `Action.Keeps` says that an action leads from a heap to a related one; `Heap.Records` is
the relation that is about the trace.
-/

namespace Metaobject

variable {α β : Type} {R : Heap → Heap → Prop}

/-- A relation between heaps that holds along a run if it holds step by step. -/
structure Heap.Lasting (R : Heap → Heap → Prop) : Prop where
  refl : ∀ h, R h h
  trans : ∀ {h h' h''}, R h h' → R h' h'' → R h h''

/-- From every heap the action leads to one that is so related to it. -/
def Action.Keeps (R : Heap → Heap → Prop) (a : Action α) : Prop :=
  ∀ h, R h (a.run h).2

/-- The same for a computation that may be kept from an answer. -/
def Attempt.Keeps (R : Heap → Heap → Prop) (a : Attempt α) : Prop :=
  Action.Keeps R a.run

namespace Heap.Lasting

lemma pure (lasting : Lasting R) (x : α) : (Pure.pure x : Action α).Keeps R :=
  lasting.refl

/-- Actions one after the other keep what each of them keeps. -/
lemma bind (lasting : Lasting R) {a : Action α} {f : α → Action β} (ha : a.Keeps R)
    (hf : ∀ x, (f x).Keeps R) : (a >>= f).Keeps R :=
  fun h => lasting.trans (ha h) (hf _ _)

lemma ok (lasting : Lasting R) (x : α) : (Pure.pure x : Attempt α).Keeps R :=
  lasting.refl

lemma throw (lasting : Lasting R) (fault : Fault) : (throw fault : Attempt α).Keeps R :=
  lasting.refl

lemma refuse (lasting : Lasting R) (e : BuildError) : (Attempt.refuse e : Attempt α).Keeps R :=
  lasting.refl

/-- Computations one after the other keep what each of them keeps, also if the first one fails. -/
lemma attempt (lasting : Lasting R) {a : Attempt α} {f : α → Attempt β} (ha : a.Keeps R)
    (hf : ∀ x, (f x).Keeps R) : (a >>= f).Keeps R := by
  intro h
  have first := ha h
  rw [ExceptT.run_bind, StateT.run_bind]
  rcases ran : a.run.run h with ⟨fault | x, h'⟩
  · rw [ran] at first
    exact first
  · rw [ran] at first
    exact lasting.trans first (hf x h')

lemma lift (lasting : Lasting R) {a : Action α} {f : α → Attempt β} (ha : a.Keeps R)
    (hf : ∀ x, (f x).Keeps R) : (liftM a >>= f : Attempt β).Keeps R :=
  fun h => lasting.trans (ha h) (hf _ _)

/-- What is done with a fault has to keep it as well. -/
lemma outcome (lasting : Lasting R) {a : Attempt α} {f : Except Fault α → Attempt β}
    (ha : a.Keeps R) (hf : ∀ r, (f r).Keeps R) : (a.outcome >>= f).Keeps R :=
  fun h => lasting.trans (ha h) (hf _ _)

lemma get {f : Heap → Attempt β} (hf : ∀ h, (f h).Keeps R) :
    (MonadState.get >>= f : Attempt β).Keeps R :=
  fun h => hf h h

end Heap.Lasting

/-! ### The trace -/

/-- A hook was consulted. -/
def Event.isHook : Event → Bool
  | hook .. => true
  | _ => false

/-- The trace has grown, by events with `P`. -/
def Heap.Records (P : Event → Prop) (h h' : Heap) : Prop :=
  ∃ es, h'.trace.toList = h.trace.toList ++ es ∧ ∀ e ∈ es, P e

/-- A trace that only grows by such events does so along a run. -/
lemma Heap.lasting_records (P : Event → Prop) : Lasting (Records P) where
  refl _ := ⟨[], (List.append_nil _).symm, fun _ mem => absurd mem List.not_mem_nil⟩
  trans := by
    rintro h h' h'' ⟨es, first, all⟩ ⟨es', second, all'⟩
    refine ⟨es ++ es', by rw [second, first, List.append_assoc], fun e he => ?_⟩
    exact (List.mem_append.1 he).elim (all e) (all' e)

/-- Where the trace is the same nothing was recorded. -/
lemma Heap.records_of_trace {P : Event → Prop} {h h' : Heap} (same : h'.trace = h.trace) :
    h.Records P h' :=
  ⟨[], by rw [same, List.append_nil], fun _ mem => absurd mem List.not_mem_nil⟩

/-- An event comes first after another moment. -/
def Heap.Opens (h h' : Heap) (e : Event) : Prop :=
  ∃ es, h'.trace.toList = h.trace.toList ++ e :: es

section

variable {P : Event → Prop}

open Heap (Records lasting_records records_of_trace)

namespace Action

/-- An event may be recorded if it is such an event. -/
lemma records_emit {e : Event} (he : P e) : (emit e).Keeps (Records P) := by
  refine fun h => ⟨[e], Array.toList_push, fun e' he' => ?_⟩
  rw [List.mem_singleton.1 he']
  exact he

/-- A new block is not recorded by itself. -/
lemma records_mint (bytes : Bytes) : (mint bytes).Keeps (Records P) :=
  fun _ => records_of_trace rfl

/-- A request is recorded with its answer, and nothing else is. -/
lemma records_request (a : ArenaId) (reply : Allocator → Nat → Option Bytes)
    {event : Bool → Option Block → Event} (all : ∀ served got, P (event served got)) :
    (request a reply event).Keeps (Records P) := by
  have count : (modify (·.countCall a) : Action Unit).Keeps (Records P) := by
    intro h
    cases a <;> exact records_of_trace rfl
  have minted : ∀ bytes : Option Bytes, (bytes.mapM mint).Keeps (Records P) := by
    rintro (_ | bytes)
    · exact (lasting_records P).pure _
    · exact (lasting_records P).bind (records_mint bytes) fun _ => (lasting_records P).pure _
  rw [request]
  refine (lasting_records P).bind (fun h => (lasting_records P).refl h) fun h => ?_
  refine (lasting_records P).bind count fun _ => (lasting_records P).bind (minted _) fun got => ?_
  exact (lasting_records P).bind (records_emit (all _ got)) fun _ => (lasting_records P).pure _

variable (others : ∀ e : Event, e.isHook = false → P e)

include others

/-- What is logged is recorded as such. -/
lemma records_log (r : LogRecord) : (log r).Keeps (Records P) :=
  records_emit (others _ rfl)

/-- Of looking for the operations that serve at most a complaint is recorded. -/
lemma records_serve (m : Option Manager) : (serve m).Keeps (Records P) := by
  rw [serve]
  split
  · exact (lasting_records P).bind (records_log others _) fun _ => (lasting_records P).pure _
  · exact (lasting_records P).pure _

/-- Of taking zeros a request is recorded, besides. -/
lemma records_allocateZeroed (m : Option Manager) (count size : Nat) :
    (allocateZeroed m count size).Keeps (Records P) := by
  refine (lasting_records P).bind (records_serve others m) fun s => ?_
  split
  · exact records_request _ _ fun _ _ => others _ rfl
  · split
    · exact (lasting_records P).pure _
    · exact (lasting_records P).bind (records_request _ _ fun _ _ => others _ rfl) fun _ =>
        (lasting_records P).pure _

/-- Of giving back a block that is recorded. -/
lemma records_release (m : Option Manager) (b : Block) : (release m b).Keeps (Records P) :=
  (lasting_records P).bind (records_serve others m) fun _ => records_emit (others _ rfl)

/-- Of a change to a cell at most the block going back is recorded. -/
lemma records_updateCell (b : BufferId) (f : Cell → Cell) :
    (updateCell b f).Keeps (Records P) := by
  refine (lasting_records P).bind (fun h => (lasting_records P).refl h) fun h => ?_
  split
  · exact (lasting_records P).pure _
  · refine (lasting_records P).bind (fun _ => records_of_trace rfl) fun _ => ?_
    split
    · exact records_release others _ _
    · exact (lasting_records P).pure _

/-- So it is when a buffer is given up, with a complaint if it is being read. -/
lemma records_disown (b : BufferId) : (disown b).Keeps (Records P) := by
  refine (lasting_records P).bind (fun h => (lasting_records P).refl h) fun h => ?_
  split
  · exact (lasting_records P).pure _
  · have update := records_updateCell others b fun c => { c with owned := false }
    dsimp only
    split
    · exact (lasting_records P).bind (records_log others _) fun _ => update
    · exact update

end Action

namespace Tracker

open Metaobject.Action

/-- Of tracking a block nothing is recorded. -/
lemma records_trackNow (t : Tracker) (b : Block) : (t.trackNow b).Keeps (Records P) := by
  intro h
  rw [run_trackNow]
  exact records_of_trace rfl

variable (others : ∀ e : Event, e.isHook = false → P e)

include others

/-- Of taking memory at once what the manager does is recorded. -/
lemma records_allocateNow (t : Tracker) (size : Nat) (fill : Bytes → Bytes) :
    (t.allocateNow size fill).Keeps (Records P) := by
  refine (lasting_records P).bind (records_allocateZeroed others _ _ _) ?_
  rintro (_ | b)
  · exact (lasting_records P).pure _
  · dsimp only
    split
    · exact (lasting_records P).bind (records_trackNow t _) fun _ => (lasting_records P).pure _
    · refine (lasting_records P).bind (records_log others _) fun _ => ?_
      exact (lasting_records P).bind (records_release others _ _) fun _ => (lasting_records P).pure _

/-- Of giving up buffers what becomes of their blocks is recorded. -/
lemma records_disownAll (bs : List BufferId) : (disownAll bs).Keeps (Records P) := by
  induction bs with
  | nil => exact (lasting_records P).pure _
  | cons b bs ih => exact (lasting_records P).bind (records_disown others b) fun _ => ih

/-- And of a release that there was one. -/
lemma records_release (t : Tracker) : t.release.Keeps (Records P) := by
  rw [release]
  split
  · exact (lasting_records P).pure _
  · refine (lasting_records P).bind ?_ fun _ => (lasting_records P).pure _
    exact (lasting_records P).bind (records_disownAll others _) fun _ => records_log others _

/-- A deferred step records what it comes to. -/
lemma records_perform (t : Tracker) (s : SetupStep) : (t.perform s).Keeps (Records P) := by
  cases s with
  | bind m => exact (lasting_records P).pure _
  | mark onHeap => exact (lasting_records P).pure _
  | allocate size =>
    exact (lasting_records P).bind (records_allocateNow others t _ _) fun _ =>
      (lasting_records P).pure _
  | copy bytes =>
    exact (lasting_records P).bind (records_allocateNow others t _ _) fun _ =>
      (lasting_records P).pure _
  | track bytes =>
    exact (lasting_records P).bind (records_mint bytes) fun _ =>
      (lasting_records P).bind (records_trackNow t _) fun _ => (lasting_records P).pure _
  | release =>
    exact (lasting_records P).bind (records_release others t) fun _ => (lasting_records P).pure _

/-- So do all of them. -/
lemma records_performAll (t : Tracker) (steps : List SetupStep) :
    (t.performAll steps).Keeps (Records P) := by
  induction steps generalizing t with
  | nil => exact (lasting_records P).pure _
  | cons s steps ih => exact (lasting_records P).bind (records_perform others t s) fun t => ih t

/-- Copying bytes into a tracker records what taking memory does. -/
lemma records_allocateCopy (t : Tracker) (bytes : Bytes) :
    (t.allocateCopy bytes).Keeps (Records P) := by
  refine (lasting_records P).bind ?_ fun t => records_allocateNow others t _ _
  rw [ensureSetup]
  split
  · exact (lasting_records P).pure _
  · exact (lasting_records P).bind (records_emit (others _ rfl)) fun _ =>
      records_performAll others _ _

/-- Whoever adopts a buffer consults nobody. -/
lemma records_adopt (t : Tracker) (ref : Handle) : Attempt.Keeps (Records P) (t.adopt ref) := by
  rw [adopt]
  refine Heap.Lasting.get fun h => ?_
  split
  · exact (lasting_records P).refuse _
  · refine (lasting_records P).lift (records_allocateCopy others t _) ?_
    rintro ⟨_ | copy, t'⟩
    · exact (lasting_records P).refuse _
    · exact (lasting_records P).ok _

end Tracker

end

end Metaobject
