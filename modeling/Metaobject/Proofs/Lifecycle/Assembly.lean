import Metaobject.Proofs.Lifecycle.Building
import Metaobject.Proofs.Universe.Shape

/-!
# Assembly, field by field

A construction goes from field to field. `Universe.made` is what is done for one of them, and
`Universe.constructFields_cons` how the others follow. A construction that succeeds is told by what
it did for each field: `Universe.Assembled` lists these steps, `Universe.construct_ok` finds them,
and `Universe.extends_construct` says that on the way nothing happened to the buffers of before.
-/

namespace Metaobject

/-- The cells of before are as they were. -/
def Heap.Extends (h h' : Heap) : Prop :=
  ∀ (b : BufferId) (c : Cell), h.cells[b]? = some c → h'.cells[b]? = some c

namespace Heap.Extends

variable {h h' h'' : Heap}

lemma refl (h : Heap) : h.Extends h :=
  fun _ _ => id

lemma trans (first : h.Extends h') (second : h'.Extends h'') : h.Extends h'' :=
  fun b c hc => second b c (first b c hc)

/-- With the same cells nothing has changed for the buffers. -/
lemma of_cells (same : h'.cells = h.cells) : h.Extends h' := by
  intro b c hc
  rw [same]
  exact hc

/-- One more cell changes nothing for the other buffers. -/
lemma withNewCell (h : Heap) (c : Cell) : h.Extends (h.withNewCell c) := by
  intro b d hd
  have lt := (Array.getElem?_eq_some_iff.1 hd).1
  show (h.cells.push c)[b]? = some d
  rw [Array.getElem?_push_lt lt, ← Array.getElem?_eq_getElem lt]
  exact hd

/-- A buffer that can be read can be read later on. -/
lemma read (later : h.Extends h') {ref : Handle} {bytes : Bytes} (known : h.read ref = some bytes) :
    h'.read ref = some bytes := by
  rcases ref with _ | b
  · cases known
  · obtain ⟨c, hc, rfl⟩ := Option.map_eq_some_iff.1 known
    obtain ⟨place, held⟩ := Option.filter_eq_some_iff.1 hc
    rw [Heap.read, Heap.cell?, later b c place, Option.filter_some, if_pos held]
    rfl

/-- A buffer of before reads as it did. -/
lemma read_old (later : h.Extends h') {b : BufferId} (old : b < h.cells.size) :
    h'.read (.to b) = h.read (.to b) := by
  have place := Array.getElem?_eq_getElem old
  rw [Heap.read, Heap.read, Heap.cell?, Heap.cell?, later b _ place, place]

end Heap.Extends

namespace Attempt

variable {α β : Type}

/-- A look at the heap is a look at where the run starts. -/
lemma run_get (f : Heap → Attempt α) (h : Heap) :
    (get >>= f).run.run h = (f h).run.run h := rfl

/-- What is done with a fault starts where the computation ends. -/
lemma run_outcome (a : Attempt α) (f : Except Fault α → Attempt β) (h : Heap) :
    (a.outcome >>= f).run.run h = (f (a.run.run h).1).run.run (a.run.run h).2 :=
  rfl

/-- An action that cannot fail comes first, and the rest starts where it ends. -/
lemma run_lift (a : Action α) (f : α → Attempt β) (h : Heap) :
    (liftM a >>= f).run.run h = (f (a.run h).1).run.run (a.run h).2 :=
  rfl

/-- What comes first in a run that succeeds succeeds. -/
lemma bind_ok {a : Attempt α} {f : α → Attempt β} {h h' : Heap} {y : β}
    (ran : (a >>= f).run.run h = (.ok y, h')) :
    ∃ x h₁, a.run.run h = (.ok x, h₁) ∧ (f x).run.run h₁ = (.ok y, h') := by
  rw [ExceptT.run_bind, StateT.run_bind] at ran
  rcases first : a.run.run h with ⟨fault | x, h₁⟩
  · rw [first] at ran
    cases ran
  · rw [first] at ran
    exact ⟨x, h₁, rfl, ran⟩

/-- What follows an action that cannot fail is what succeeds. -/
lemma lift_ok {a : Action α} {f : α → Attempt β} {h h' : Heap} {y : β}
    (ran : (liftM a >>= f).run.run h = (.ok y, h')) :
    (f (a.run h).1).run.run (a.run h).2 = (.ok y, h') :=
  ran

/-- An answer without any action is the answer, and nothing happens. -/
lemma pure_ok {x y : α} {h h' : Heap}
    (ran : (pure x : Attempt α).run.run h = (.ok y, h')) : y = x ∧ h' = h := by
  cases ran
  exact ⟨rfl, rfl⟩

end Attempt

open Attempt

/-! ### Buffers -/

/-- A buffer that was just made has the bytes of its block. -/
lemma Heap.read_withNewCell (h : Heap) {c : Cell} (owned : c.owned = true) :
    (h.withNewCell c).read (.to h.cells.size) = some c.block.bytes := by
  have place : (h.withNewCell c).cells[h.cells.size]? = some c := Array.getElem?_push_size
  have held : c.isHeld = true := by rw [Cell.isHeld, owned, Bool.true_or]
  rw [read, cell?, place, Option.filter_some, if_pos held]
  rfl

namespace Tracker

/-- An allocation that is granted makes one more cell, with the bytes that were to be written. -/
lemma allocateNow_some {t t' : Tracker} {size : Nat} {fill : Bytes → Bytes} {h h' : Heap}
    {ref : Handle} (ran : (t.allocateNow size fill).run h = ((some ref, t'), h')) :
    ∃ (h₁ : Heap) (b : Block), h₁.cells = h.cells ∧ ref = .to h.cells.size ∧
      t' = t.push h.cells.size ∧
      h' = h₁.withNewCell { block := { b with bytes := fill b.bytes }, manager := t.manager } := by
  have asks := Action.asked_allocateZeroed t.manager size 1 h
  rw [allocateNow, StateT.run_bind] at ran
  generalize (Action.allocateZeroed t.manager size 1).run h = r at asks ran
  obtain ⟨_ | b, h₁⟩ := r
  · cases ran
  · obtain ⟨_, _, _, _, _, _, step⟩ := asks
    change (ite _ _ _ : Action (Option Handle × Tracker)).run h₁ = _ at ran
    split at ran
    · rw [StateT.run_bind, run_trackNow, step.cells] at ran
      cases ran
      exact ⟨h₁, b, step.cells, rfl, rfl, rfl⟩
    · cases ran

/-- A buffer is adopted by a tracker when it can be read and a copy of it comes into a cell of its
own. -/
lemma adopt_ok {t t' : Tracker} (idle : t.setup = none) {ref : Handle} {v : Value} {h h' : Heap}
    (ran : (t.adopt ref).run.run h = (.ok (v, t'), h')) :
    ∃ b bytes, v = .buffer (.to b) ∧ t' = t.push b ∧ h.read ref = some bytes ∧
      h'.read (.to b) = some bytes ∧ h.Extends h' := by
  rw [adopt, Attempt.run_get] at ran
  cases known : h.read ref with
  | none =>
    rw [known] at ran
    cases ran
  | some bytes =>
    rw [known] at ran
    have now : t.allocateCopy bytes = t.allocateNow bytes.length fun _ => bytes := by
      rw [allocateCopy, allocateWith, ensureSetup_of_none idle, pure_bind]
    have ran := lift_ok ran
    rw [now] at ran
    rcases granted : (t.allocateNow bytes.length fun _ => bytes).run h with ⟨⟨_ | copy, t₁⟩, h₂⟩
    · rw [granted] at ran
      cases ran
    · rw [granted] at ran
      cases ran
      obtain ⟨h₁, b, cells, rfl, rfl, rfl⟩ := allocateNow_some granted
      refine ⟨h.cells.size, bytes, rfl, rfl, rfl, ?_, ?_⟩
      · rw [← cells]
        exact Heap.read_withNewCell h₁ rfl
      · exact (Heap.Extends.of_cells cells).trans (.withNewCell h₁ _)

end Tracker

namespace Universe

variable {u : Universe}

/-- The value of a field of an object with the given tracker, while the heap is `h`. -/
def made (u : Universe) (nested : TypeId → Template → Attempt Value) (c : Template) (m : Manager)
    (initials canonical : Option (List Value)) (h : Heap) (f : Field) (tracker : Option Tracker) :
    Attempt (Value × Option Tracker) :=
  match u.sourceOf h c initials canonical f with
  | some v => copyInto nested m tracker v
  | none => do return (← u.defaultFor nested m f, tracker)

/-- A construction field by field makes the first field and settles it. -/
lemma constructFields_cons (nested : TypeId → Template → Attempt Value) (t : TypeId)
    (c : Template) (m : Manager) (initials canonical : Option (List Value)) (f : Field)
    (fs : List Field) (built : List Value) (tracker : Option Tracker) :
    u.constructFields nested t c m initials canonical (f :: fs) built tracker = (do
      let h ← get
      u.settle t f built tracker
        (Action.log (.fieldFailed (u.name t) f.name (tracker.elim 0 (·.buffers.length))))
        (fun built tracker => u.constructFields nested t c m initials canonical fs built tracker)
        (← (u.made nested c m initials canonical h f tracker).outcome)) :=
  rfl

/-! ### What a field is copied from -/

/-- The value that the initials have for a field. -/
def initialAt (initials : Option (List Value)) (f : Field) : Option Value :=
  initials.bind (·[f.index]?)

/-- The value that the default instance has for a field, if it is not null. -/
def defaultAt (canonical : Option (List Value)) (f : Field) : Option Value :=
  (canonical.bind (·[f.index]?)).filter (!·.isNull)

/-- A field is copied from its initial, if that is preferred, or else from its default. -/
lemma sourceOf_eq (h : Heap) (c : Template) (initials canonical : Option (List Value)) (f : Field) :
    u.sourceOf h c initials canonical f =
      ((initialAt initials f).filter (u.prefersInitial h c f)).or (defaultAt canonical f) :=
  rfl

/-- What a field is copied from is one of the initials or a value of the default instance. -/
lemma sourceOf_cases {h : Heap} {c : Template} {initials canonical : Option (List Value)}
    {f : Field} {v : Value} (source : u.sourceOf h c initials canonical f = some v) :
    initialAt initials f = some v ∨ defaultAt canonical f = some v := by
  rcases Option.or_eq_some_iff.1 source with first | ⟨_, second⟩
  · exact .inl (Option.filter_eq_some_iff.1 first).1
  · exact .inr second

/-! ### Constructions that succeed -/

variable {nested : TypeId → Template → Attempt Value}

/-- The steps of a construction that succeeds, one for each field: from a heap and a tracker to the
values, the tracker and the heap in the end. -/
inductive Assembled (u : Universe) (nested : TypeId → Template → Attempt Value) (c : Template)
    (m : Manager) (initials canonical : Option (List Value)) :
    Heap → Option Tracker → List Field → List Value → Option Tracker → Heap → Prop where
  | nil (h : Heap) (a : Option Tracker) : Assembled u nested c m initials canonical h a [] [] a h
  | cons {h h₁ h₂ : Heap} {a a₁ a₂ : Option Tracker} {f : Field} {fs : List Field} {v : Value}
      {vs : List Value}
      (first : (u.made nested c m initials canonical h f a).run.run h = (.ok (v, a₁), h₁))
      (rest : Assembled u nested c m initials canonical h₁ a₁ fs vs a₂ h₂) :
      Assembled u nested c m initials canonical h a (f :: fs) (v :: vs) a₂ h₂

/-- A field that could not be built is the end of the object. -/
lemma settle_ok {t : TypeId} {f : Field} {built : List Value} {a : Option Tracker}
    {note : Action Unit} {next : List Value → Option Tracker → Attempt Value}
    {r : Except Fault (Value × Option Tracker)} {h h' : Heap} {w : Value}
    (ran : (u.settle t f built a note next r).run.run h = (.ok w, h')) :
    ∃ v a₁, r = .ok (v, a₁) ∧ (next (built ++ [v]) a₁).run.run h = (.ok w, h') := by
  rcases r with (e | violation | _) | ⟨v, a₁⟩
  · rw [settle] at ran
    replace ran := lift_ok ran
    replace ran := lift_ok ran
    split at ran <;> cases ran
  · cases ran
  · cases ran
  · exact ⟨v, a₁, rfl, ran⟩

/-- A construction field by field that succeeds is assembled from its fields. -/
lemma constructFields_ok {t : TypeId} {c : Template} {m : Manager}
    {initials canonical : Option (List Value)} {fs : List Field} {built : List Value}
    {a : Option Tracker} {h h' : Heap} {w : Value}
    (ran : (u.constructFields nested t c m initials canonical fs built a).run.run h =
      (.ok w, h')) :
    ∃ vs b, w = finish t (built ++ vs) b ∧
      u.Assembled nested c m initials canonical h a fs vs b h' := by
  induction fs generalizing built a h with
  | nil =>
    obtain ⟨rfl, rfl⟩ := pure_ok ran
    exact ⟨[], a, by rw [List.append_nil], .nil h' a⟩
  | cons f fs ih =>
    rw [constructFields_cons] at ran
    obtain ⟨v, a₁, ok, ran⟩ := settle_ok ran
    obtain ⟨vs, b, rfl, rest⟩ := ih ran
    refine ⟨v :: vs, b, by rw [List.append_assoc, List.singleton_append], .cons ?_ rest⟩
    exact Prod.ext ok rfl

/-- The type leaves the construction of its values to the general algorithm. -/
def leavesConstruction (u : Universe) (t : TypeId) : Bool :=
  ((u.desc t).behavior.bind (·.construct)).isNone

/-- Without hooks each type leaves its constructions alone. -/
lemma HookFree.leavesConstruction (hooks : u.HookFree) (t : TypeId) :
    u.leavesConstruction t = true := by
  rw [Universe.leavesConstruction, hooks t]
  rfl

/-- Looking for a manager changes no buffers. -/
lemma cells_managerFor (t : TypeId) (c : Template) (h : Heap) :
    ((u.managerFor t c).run h).2.cells = h.cells := by
  rw [managerFor]
  split
  · rfl
  · exact (Action.step_processManager h).cells

/-- A structure that is constructed has its layout's fields assembled, one value each. -/
lemma constructStruct_ok {t : TypeId} {c : Template} {h h' : Heap} {w : Value}
    (ran : (u.constructStruct nested t c).run.run h = (.ok w, h')) :
    ∃ (l : Layout) (m : Manager) (h₁ : Heap) (vs : List Value) (b : Option Tracker),
      u.layout? t = some l ∧ h₁.cells = h.cells ∧ w = finish t vs b ∧
      (∀ ws, c.initials?.bind (·.fields?) = some ws → ws.length = l.fields.length) ∧
      u.Assembled nested c m (c.initials?.bind (·.fields?)) ((u.desc t).canonical.bind (·.fields?))
        h₁ (if l.tracked then some { manager := some m } else none) l.fields vs b h' := by
  rw [constructStruct] at ran
  split at ran
  · cases ran
  · rename_i l hl
    replace ran := lift_ok ran
    dsimp only at ran
    split at ran
    · cases ran
    · rename_i complete
      obtain ⟨vs, b, rfl, steps⟩ := constructFields_ok ran
      refine ⟨l, _, _, vs, b, hl, cells_managerFor t c h, rfl, fun ws hws => ?_, steps⟩
      have := List.find?_eq_none.1 complete ws (by simp [hws])
      simpa using this

/-- Asking the hook changes no buffers. -/
lemma cells_consultConstruct (t : TypeId) (c : Template) (h : Heap) :
    ((u.consultConstruct t c).run h).2.cells = h.cells := by
  rw [consultConstruct]
  split
  · rfl
  · rfl

/-- A type that leaves constructions alone answers nothing to them. -/
lemma consultConstruct_of_leaves {t : TypeId} (leaves : u.leavesConstruction t = true)
    (c : Template) : u.consultConstruct t c = pure .decline := by
  rw [consultConstruct, Option.isNone_iff_eq_none.1 leaves]

/-- From initials of exactly its type an object of a type without a hook is made field by field. -/
lemma constructWith_of_leaves {t : TypeId} {l : Layout} (hl : u.layout? t = some l)
    (leaves : u.leavesConstruction t = true) {c : Template}
    (exact : ∀ v, c.initials? = some v → u.isExact t v = true) :
    u.constructWith nested t c = u.constructStruct nested t c := by
  rw [constructWith, filter_initials?_eq_none.2 exact, consultConstruct_of_leaves leaves,
    liftM_pure, pure_bind]
  dsimp only
  rw [kind_of_layout? hl]

/-- Initials have to be of exactly the type that is constructed. -/
lemma isExact_of_ok {t : TypeId} {c : Template} {h h' : Heap} {w v : Value}
    (ran : (u.constructWith nested t c).run.run h = (.ok w, h')) (hv : c.initials? = some v) :
    u.isExact t v = true := by
  rw [constructWith] at ran
  split at ran
  · cases ran
  · rename_i checked
    exact filter_initials?_eq_none.1 checked v hv

/-- A construction that succeeds made an object field by field, or it was done at once. -/
lemma constructWith_ok {t : TypeId} {c : Template} {h h' : Heap} {w : Value}
    (ran : (u.constructWith nested t c).run.run h = (.ok w, h')) :
    ∃ h₁ : Heap, h₁.cells = h.cells ∧
      (h' = h₁ ∨ (u.constructStruct nested t c).run.run h₁ = (.ok w, h')) := by
  rw [constructWith] at ran
  split at ran
  · cases ran
  · replace ran := lift_ok ran
    refine ⟨((u.consultConstruct t c).run h).2, cells_consultConstruct t c h, ?_⟩
    split at ran
    · exact .inl (pure_ok ran).2
    · cases ran
    · exact .inr ran
    · split at ran
      · exact .inr ran
      · cases ran
      · exact .inl (pure_ok ran).2

/-- An object of a type without a hook is made field by field. -/
lemma constructWith_struct_ok {t : TypeId} {l : Layout} (hl : u.layout? t = some l)
    (leaves : u.leavesConstruction t = true) {c : Template} {h h' : Heap} {w : Value}
    (ran : (u.constructWith nested t c).run.run h = (.ok w, h')) :
    (u.constructStruct nested t c).run.run h = (.ok w, h') := by
  rw [constructWith] at ran
  split at ran
  · cases ran
  · rw [consultConstruct_of_leaves leaves, liftM_pure, pure_bind] at ran
    dsimp only at ran
    rw [kind_of_layout? hl] at ran
    exact ran

/-- A construction that succeeds has levels left, and its first one succeeds. -/
lemma construct_ok {depth : Nat} {t : TypeId} {c : Template} {h h' : Heap} {w : Value}
    (ran : (u.construct (depth + 1) t c).run.run h = (.ok w, h')) :
    (u.constructWith (u.construct depth) t c).run.run h = (.ok w, h') := by
  rw [construct, run_outcome] at ran
  generalize (u.constructWith (u.construct depth) t c).run.run h = r at ran ⊢
  obtain ⟨(e | violation | _) | v, h₁⟩ := r
  · cases ran
  · cases ran
  · cases ran
  · exact ran

/-! ### What became of a field -/

/-- What became of a field of an object, by what it is copied from: the value, the tracker of the
object and the heap before and after. -/
inductive Became (u : Universe) (nested : TypeId → Template → Attempt Value) (m : Manager)
    (f : Field) : Option Value → Heap → Option Tracker → Value → Option Tracker → Heap → Prop where
  /-- An object is copied by a construction through its own type. -/
  | copied {s : TypeId} {vs : List Value} {t a : Option Tracker} {h h' : Heap} {x : Value}
    (ran : (nested s { manager := some m, initials := some (.object s vs t) }).run.run h =
      (.ok x, h')) : Became u nested m f (some (.object s vs t)) h a x a h'
  /-- A buffer is copied for a tracker. -/
  | adopted {ref : Handle} {bytes : Bytes} {b : BufferId} {t : Tracker} {h h' : Heap}
    (known : h.read ref = some bytes) (copy : h'.read (.to b) = some bytes)
    (later : h.Extends h') :
    Became u nested m f (some (.buffer ref)) h (some t) (.buffer (.to b)) (some (t.push b)) h'
  /-- Without a tracker a buffer is shared. -/
  | shared {ref : Handle} {h : Heap} :
    Became u nested m f (some (.buffer ref)) h none (.buffer ref) none h
  /-- Any other value is taken as it is. -/
  | same {v : Value} {h : Heap} {a : Option Tracker} (object : v.isObject = false)
    (buffer : v.handle? = none) : Became u nested m f (some v) h a v a h
  | null {h : Heap} {a : Option Tracker} (untyped : f.type = none) :
    Became u nested m f none h a .null a h
  /-- A part is constructed from nothing. -/
  | part {s : TypeId} {h h' : Heap} {a : Option Tracker} {x : Value} (declared : f.type = some s)
    (isStruct : (u.layout? s).isSome) (ran : (nested s { manager := some m }).run.run h =
      (.ok x, h')) : Became u nested m f none h a x a h'
  | default {s : TypeId} {h : Heap} {a : Option Tracker} (declared : f.type = some s)
    (plain : u.layout? s = none) :
    Became u nested m f none h a ((u.desc s).canonical.elim (u.zeroOf s) (·.rawCopy)) a h

/-- What became of a field, where it could be made. -/
lemma became_of_made {c : Template} {m : Manager} {initials canonical : Option (List Value)}
    {h h₁ h₂ : Heap} {f : Field} {a a₁ : Option Tracker} {x : Value} (idle : Idle a)
    (ran : (u.made nested c m initials canonical h f a).run.run h₁ = (.ok (x, a₁), h₂)) :
    u.Became nested m f (u.sourceOf h c initials canonical f) h₁ a x a₁ h₂ := by
  unfold made at ran
  generalize u.sourceOf h c initials canonical f = source at ran ⊢
  cases source with
  | some v =>
    cases v with
    | object s vs t =>
      obtain ⟨w, h', ran, done⟩ := bind_ok ran
      cases done
      exact .copied ran
    | buffer ref =>
      cases a with
      | none =>
        cases ran
        exact .shared
      | some t =>
        obtain ⟨⟨w, t'⟩, h', ran, done⟩ := bind_ok ran
        cases done
        obtain ⟨b, bytes, rfl, rfl, known, copy, later⟩ := Tracker.adopt_ok (idle t rfl) ran
        exact .adopted known copy later
    | _ =>
      cases ran
      exact .same rfl rfl
  | none =>
    obtain ⟨w, h', ran, done⟩ := bind_ok ran
    cases done
    unfold defaultFor at ran
    cases declared : f.type with
    | none =>
      rw [declared] at ran
      cases ran
      exact .null declared
    | some s =>
      rw [declared] at ran
      dsimp only at ran
      split at ran
      · rename_i isStruct
        exact .part declared isStruct ran
      · rename_i plain
        cases ran
        exact .default declared (Option.not_isSome_iff_eq_none.1 plain)

/-! ### Nothing happens to the buffers of before -/

/-- Constructions that succeed leave the cells of before as they were. -/
def ExtendHeaps (nested : TypeId → Template → Attempt Value) : Prop :=
  ∀ t c h x h', (nested t c).run.run h = (.ok x, h') → h.Extends h'

/-- The tracker of an object under construction has nothing to set up, and keeps what it lists. -/
structure Kept (a b : Option Tracker) : Prop where
  idle : Idle b
  buffers : buffersOf a ⊆ buffersOf b
  present : b.isSome = a.isSome

lemma Kept.refl {a : Option Tracker} (idle : Idle a) : Kept a a :=
  ⟨idle, List.Subset.refl _, rfl⟩

lemma Kept.trans {a b d : Option Tracker} (first : Kept a b) (second : Kept b d) : Kept a d :=
  ⟨second.idle, List.Subset.trans first.buffers second.buffers,
    second.present.trans first.present⟩

/-- A tracker is kept with one more buffer in its list. -/
lemma Kept.push {t : Tracker} (idle : Idle (some t)) (b : BufferId) :
    Kept (some t) (some (t.push b)) where
  idle := by
    rintro _ ⟨⟩
    rw [Tracker.setup_push]
    exact idle t rfl
  buffers := by
    intro d hd
    show d ∈ (t.push b).buffers
    rw [Tracker.buffers_push]
    exact List.mem_append_left _ hd
  present := rfl

/-- Making a field extends the heap and keeps the tracker, if the constructions below extend heaps.
-/
lemma Became.extends (below : ExtendHeaps nested) {m : Manager} {f : Field} {source : Option Value}
    {h h' : Heap} {a b : Option Tracker} {x : Value} (idle : Idle a)
    (became : u.Became nested m f source h a x b h') : h.Extends h' ∧ Kept a b := by
  cases became with
  | copied ran => exact ⟨below _ _ _ _ _ ran, .refl idle⟩
  | adopted _ _ later => exact ⟨later, .push idle _⟩
  | part _ _ ran => exact ⟨below _ _ _ _ _ ran, .refl idle⟩
  | shared => exact ⟨.refl h, .refl idle⟩
  | same => exact ⟨.refl h, .refl idle⟩
  | null => exact ⟨.refl h, .refl idle⟩
  | default => exact ⟨.refl h, .refl idle⟩

/-- So does making all of them. -/
lemma Assembled.extends (below : ExtendHeaps nested) {c : Template} {m : Manager}
    {initials canonical : Option (List Value)} {h h' : Heap} {a b : Option Tracker}
    {fs : List Field} {vs : List Value} (idle : Idle a)
    (steps : u.Assembled nested c m initials canonical h a fs vs b h') :
    h.Extends h' ∧ Kept a b := by
  induction steps with
  | nil h a => exact ⟨.refl h, .refl idle⟩
  | cons first _ ih =>
    obtain ⟨later, kept⟩ := (became_of_made idle first).extends below idle
    obtain ⟨rest, keptRest⟩ := ih kept.idle
    exact ⟨later.trans rest, kept.trans keptRest⟩

/-- And so does constructing a structure. -/
lemma extends_constructStruct (below : ExtendHeaps nested) {t : TypeId} {c : Template}
    {h h' : Heap} {w : Value} (ran : (u.constructStruct nested t c).run.run h = (.ok w, h')) :
    h.Extends h' := by
  obtain ⟨l, m, h₁, vs, b, _, cells, _, _, steps⟩ := constructStruct_ok ran
  exact (Heap.Extends.of_cells cells).trans (steps.extends below (idle_new l.tracked _)).1

/-- Whatever the hooks of the types are, a construction that succeeds has changed no buffer. -/
theorem extends_construct (u : Universe) (depth : Nat) : ExtendHeaps (u.construct depth) := by
  induction depth with
  | zero =>
    intro t c h x h' ran
    cases ran
  | succ depth ih =>
    intro t c h x h' ran
    obtain ⟨h₁, cells, rfl | ran⟩ := constructWith_ok (construct_ok ran)
    · exact .of_cells cells
    · exact (Heap.Extends.of_cells cells).trans (extends_constructStruct ih ran)

end Universe

end Metaobject
