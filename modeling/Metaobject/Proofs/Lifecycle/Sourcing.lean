import Metaobject.Proofs.Lifecycle.Accounting
import Metaobject.Proofs.Lifecycle.DefaultRule

/-!
# Accounting for constructions

What a construction has to copy depends on where the values of its fields come from, and that is
asked field by field, when the buffers for the fields before have been copied already.
`Universe.transfersFrom` lists the buffers in that order, and `Universe.ends_construct` says that a
construction is accounted for by them, unless it goes too deep.
-/

namespace Metaobject

open Metaobject.Action Attempt

/-- What has to be copied for some fields. Each of them is asked in the heap that those before it
have left. -/
def Transfer.gather (each : Heap → Field → List Transfer) : Heap → List Field → List Transfer
  | _, [] => []
  | h, f :: fs => (each h f).map (under f) ++ gather each (afterAll (each h f) h) fs

/-- What has to be copied for a field with that origin: a buffer, if the object that is made has a
tracker, and otherwise what is `inside`. -/
def Origin.transfers (m : Manager) (tracked : Bool) (inside : Start → List Transfer)
    (o : Origin) : List Transfer :=
  match o.value?.bind (·.handle?) with
  | some ref => if tracked then [{ source := ref, manager := some m }] else []
  | none => o.start.elim [] inside

namespace Universe

/-- What a construction has to copy if the manager `m` serves it, down to some depth. -/
def transfersFrom (u : Universe) (m : Manager) : (depth : Nat) → Heap → Start → List Transfer
  | 0, _, _ => []
  | depth + 1, h, s => (u.layout? s.type).elim [] fun l =>
    Transfer.gather (fun h f =>
      (u.originOf h s f).transfers m l.tracked (u.transfersFrom m depth h)) h l.fields

end Universe

/-- An operation goes too deep, or it is accounted for. -/
def Ends {α : Type} (h : Heap) (ts : List Transfer) (good : α → Prop)
    (r : Except Fault α × Heap) : Prop :=
  r.1 = .error .tooDeep ∨ Accounted h ts good r

namespace Ends

variable {α β : Type} {h : Heap} {ts : List Transfer} {good good' : α → Prop}

/-- Without any transfer there is nothing to get stuck. -/
lemma done {x : α} (hx : good x) : Ends h [] good (.ok x, h) :=
  .inr (.done hx)

lemma weaken {r : Except Fault α × Heap} (ends : Ends h ts good r)
    (more : ∀ x, good x → good' x) : Ends h ts good' r :=
  ends.imp_right (·.weaken more)

/-- What is known of the answer anyway may be added. -/
lemma known {a : Attempt α} (ends : Ends h ts good (a.run.run h)) {P : α → Prop}
    (yields : a.Yields P) : Ends h ts (fun x => P x ∧ good x) (a.run.run h) := by
  refine ends.imp_right fun accounted => ⟨fun clear => ?_, accounted.denied⟩
  obtain ⟨x, ran, hx⟩ := accounted.served clear
  exact ⟨x, ran, yields h x (congrArg Prod.fst ran), hx⟩

lemma map {a : Attempt α} {f : α → β} {got : β → Prop} (ends : Ends h ts good (a.run.run h))
    (made : ∀ x, good x → got (f x)) :
    Ends h ts got ((do return f (← a) : Attempt β).run.run h) := by
  refine ends.imp ?_ (·.map made)
  intro deep
  rw [ExceptT.run_bind, StateT.run_bind]
  generalize a.run.run h = r at deep
  obtain ⟨fault | x, h'⟩ := r
  · cases deep
    rfl
  · cases deep

end Ends

/-- The tracker of an object that is being constructed, if it has one, takes from `m`, and has
nothing left to set up. -/
structure Ready (m : Manager) (tracked : Bool) (a : Option Tracker) : Prop where
  present : a.isSome = tracked
  idle : Idle a
  manager : ∀ t, a = some t → t.manager = some m

/-- A tracker that adopts one more buffer is as ready. -/
lemma Ready.push {m : Manager} {tracked : Bool} {t : Tracker} (ready : Ready m tracked (some t))
    (b : BufferId) : Ready m tracked (some (t.push b)) := by
  refine ⟨ready.present, ?_, ?_⟩
  · rintro _ ⟨⟩
    rw [Tracker.setup_push]
    exact ready.idle t rfl
  · rintro _ ⟨⟩
    rw [Tracker.manager_push]
    exact ready.manager t rfl

namespace Universe

variable {u : Universe}

/-- The constructions of structs one level down end so, if they are told to use `m`. -/
def EndsBelow (u : Universe) (m : Manager) (depth : Nat) : Prop :=
  ∀ t c h given, c.manager = some m → (u.layout? t).isSome = true →
    (∀ v, c.initials? = some v → u.Instance t v) →
      Ends h (u.transfersFrom m depth h (.of t c given)) (u.Instance t)
        ((u.construct depth t c).run.run h)

/-- What is no struct has nothing inside that would have to be copied. -/
lemma transfersFrom_plain {s : Start} (plain : u.layout? s.type = none) (m : Manager) (depth : Nat)
    (h : Heap) : u.transfersFrom m depth h s = [] := by
  cases depth with
  | zero => rfl
  | succ depth =>
    rw [transfersFrom, plain]
    rfl

/-- A value that is copied is accounted for by its buffer, or by what is inside of it. -/
lemma ends_copyInto {m : Manager} {depth : Nat} (below : u.EndsBelow m depth) {tracked : Bool}
    {a : Option Tracker} (ready : Ready m tracked a) {v : Value} (sound : u.isSound v = true)
    {o : Origin} (origin : o = .initial v ∨ o = .preset v) (h : Heap) :
    Ends h (o.transfers m tracked (u.transfersFrom m depth h)) (fun r => Ready m tracked r.2)
      ((copyInto (u.construct depth) m a v).run.run h) := by
  have value : o.value? = some v := by
    obtain rfl | rfl := origin <;> rfl
  rw [Origin.transfers, value, Option.bind_some]
  cases v with
  | object s vs tr =>
    obtain ⟨l, hl, held⟩ := isSound_object.1 sound
    obtain ⟨given, start⟩ : ∃ given,
        o.start = some { type := s, values := some vs, given := given } := by
      obtain rfl | rfl := origin
      · exact ⟨true, rfl⟩
      · exact ⟨false, rfl⟩
    rw [start]
    have inside := below s { manager := some m, initials := some (.object s vs tr) } h given rfl
      (by rw [hl]; rfl) fun w hw => by
        cases hw
        exact instance_of_forall₂ hl held tr
    exact inside.map fun _ _ => ready
  | buffer ref =>
    have present := ready.present
    cases a with
    | none =>
      subst present
      exact .done ready
    | some t =>
      subst present
      have one : [t.transfer ref] = [{ source := ref, manager := some m }] := by
        rw [Tracker.transfer, ready.manager t rfl]
      show Ends h [{ source := ref, manager := some m }] _ _
      rw [← one]
      refine .inr ((Tracker.accounted_adopt (ready.idle t rfl) ref h).map ?_)
      rintro _ rfl
      exact ready.push h.cells.size
  | _ =>
    have nothing : o.start = none := by
      obtain rfl | rfl := origin <;> rfl
    rw [nothing]
    exact .done ready

/-- What nothing is copied into asks for no buffer, apart from those of a part that is made anew. -/
lemma ends_defaultFor {m : Manager} {depth : Nat} (below : u.EndsBelow m depth) (f : Field)
    (tracked : Bool) (h : Heap) :
    Ends h ((Origin.blank f.type).transfers m tracked (u.transfersFrom m depth h)) (fun _ => True)
      ((u.defaultFor (u.construct depth) m f).run.run h) := by
  rw [defaultFor]
  cases f.type with
  | none => exact .done trivial
  | some t =>
    show Ends h (u.transfersFrom m depth h { type := t }) _ _
    dsimp only
    split
    · rename_i isStruct
      have nothing : ∀ v, (none : Option Value) = some v → u.Instance t v :=
        fun v given => absurd given.symm (Option.some_ne_none v)
      exact (below t { manager := some m } h false rfl isStruct nothing).weaken fun _ _ => trivial
    · rename_i plain
      rw [transfersFrom_plain (by simpa using plain)]
      exact .done trivial

variable {m : Manager} {depth : Nat} {t : TypeId} {l : Layout} {c : Template}

/-- A field comes to a value that it may hold, and is accounted for by what its origin asks for. -/
lemma ends_made (below : u.EndsBelow m depth) (constructs : u.Constructs (u.construct depth))
    (defaults : u.DefaultsTyped) (hl : u.layout? t = some l)
    (starts : ∀ v, c.initials? = some v → u.Instance t v) (given : Bool) {f : Field}
    (hf : f ∈ l.fields) {a : Option Tracker} (ready : Ready m l.tracked a) (h : Heap) :
    Ends h ((u.originOf h (.of t c given) f).transfers m l.tracked (u.transfersFrom m depth h))
      (fun r => u.Fits f r.1 ∧ Ready m l.tracked r.2)
      ((u.made (u.construct depth) c m (c.initials?.bind (·.fields?))
        ((u.desc t).canonical.bind (·.fields?)) h f a).run.run h) := by
  have value := value?_originOf (u := u) h t c given f
  rw [made]
  cases source : u.sourceOf h c (c.initials?.bind (·.fields?))
      ((u.desc t).canonical.bind (·.fields?)) f with
  | some v =>
    rw [source] at value
    have fits := fits_sourceOf (held_of_instance hl starts) (held_of_instance hl (defaults t))
      (getElem?_index hl hf) source
    have origin : u.originOf h (.of t c given) f = .initial v ∨
        u.originOf h (.of t c given) f = .preset v := by
      cases ho : u.originOf h (.of t c given) f with
      | initial w =>
        rw [ho] at value
        exact .inl (congrArg Origin.initial (Option.some.inj value))
      | preset w =>
        rw [ho] at value
        exact .inr (congrArg Origin.preset (Option.some.inj value))
      | blank =>
        rw [ho] at value
        cases value
    exact (ends_copyInto below ready fits.sound origin h).known (fits_copyInto constructs m a fits)
  | none =>
    rw [source] at value
    rw [originOf_of_value?_none value]
    have ends := (ends_defaultFor below f l.tracked h).known
      (fits_defaultFor constructs defaults m f)
    exact ends.map fun v fits => ⟨fits.1, ready⟩

/-- An object that is constructed is accounted for by its fields, one after the other. -/
lemma ends_settle (hl : u.layout? t = some l) {built : List Value}
    (able : u.areFreeable l.fields built = true) {f : Field} {a : Option Tracker}
    {note : Action Unit} (keeps : note.KeepsDue)
    {next : List Value → Option Tracker → Attempt Value} {h : Heap} {ts us : List Transfer}
    {got : Value × Option Tracker → Prop} {good : Value → Prop}
    {r : Except Fault (Value × Option Tracker) × Heap} (first : Ends h ts got r)
    (rest : Transfer.firstStuck ts h = none → ∀ v a', got (v, a') →
      Ends (Transfer.afterAll ts h) us good
        ((next (built ++ [v]) a').run.run (Transfer.afterAll ts h))) :
    Ends h (ts.map (·.under f) ++ us) good
      ((u.settle t f built a note next r.1).run.run r.2) := by
  rcases first with deep | first
  · rw [deep]
    exact .inl rfl
  · cases clear : Transfer.firstStuck ts h with
    | some s =>
      refine .inr (accounted_settle hl able keeps first fun none => ?_)
      cases clear.symm.trans none
    | none =>
      obtain ⟨⟨v, a'⟩, ran, made⟩ := first.served clear
      rcases rest clear v a' made with deep | rest
      · rw [ran]
        exact .inl deep
      · have first : Accounted h ts (· = (v, a')) r :=
          ⟨fun _ => ⟨_, ran, rfl⟩, first.denied⟩
        refine .inr (accounted_settle hl able keeps first ?_)
        rintro _ _ _ ⟨⟩
        exact rest

/-- Values that the fields may hold may be freed where there are no hooks. -/
lemma clears_of_fits (hooks : u.HookFree) {f : Field} {v : Value} (fits : u.Fits f v) :
    u.Clears f v :=
  ⟨fun _ ht => fits.freedThrough ht,
    isFreeable_of_isSound v fits.sound (leavesFreeing_of_isHookless v (hooks.isHookless v))⟩

/-- Field by field, those of `done` being built already. -/
lemma ends_constructFields (hooks : u.HookFree) (below : u.EndsBelow m depth)
    (constructs : u.Constructs (u.construct depth)) (defaults : u.DefaultsTyped)
    (hl : u.layout? t = some l) (starts : ∀ v, c.initials? = some v → u.Instance t v)
    (given : Bool) (fs : List Field) :
    ∀ (done : List Field) (built : List Value) (a : Option Tracker) (h : Heap),
      l.fields = done ++ fs → List.Forall₂ u.Fits done built → Ready m l.tracked a →
      Ends h (Transfer.gather (fun h f => (u.originOf h (.of t c given) f).transfers m l.tracked
          (u.transfersFrom m depth h)) h fs) (u.Instance t)
        ((u.constructFields (u.construct depth) t c m (c.initials?.bind (·.fields?))
          ((u.desc t).canonical.bind (·.fields?)) fs built a).run.run h) := by
  induction fs with
  | nil =>
    intro done built a h split held ready
    rw [List.append_nil] at split
    exact .done (instance_of_forall₂ hl (split ▸ held) _)
  | cons f fs ih =>
    intro done built a h split held ready
    have mem : f ∈ l.fields := by
      rw [split]
      exact List.mem_append_right done List.mem_cons_self
    have able : u.areFreeable l.fields built = true := by
      rw [split]
      exact areFreeable_append (held.imp fun _ _ => clears_of_fits hooks) (f :: fs)
    rw [constructFields_cons, run_get, run_outcome, Transfer.gather]
    refine ends_settle hl able (keepsDue_log _)
      (ends_made below constructs defaults hl starts given mem ready h) ?_
    rintro _ v a' ⟨fits, ready'⟩
    refine ih (done ++ [f]) (built ++ [v]) a' _ ?_ (List.rel_append held (.cons fits .nil)) ready'
    rw [split, List.append_cons done f fs]

/-- A failure of a construction is noted, and changes nothing else. -/
lemma ends_noted {h : Heap} {ts : List Transfer} {good : Value → Prop} {h₀ : Heap}
    (ends : Ends h ts good ((u.constructWith (u.construct depth) t c).run.run h₀)) :
    Ends h ts good ((u.construct (depth + 1) t c).run.run h₀) := by
  rw [construct, run_outcome]
  generalize (u.constructWith (u.construct depth) t c).run.run h₀ = r at ends ⊢
  rcases ends with deep | ⟨served, denied⟩
  · rw [deep]
    exact .inl rfl
  · refine .inr ⟨fun clear => ?_, fun s stuck => ?_⟩
    · obtain ⟨x, rfl, hx⟩ := served clear
      exact ⟨x, rfl, hx⟩
    · obtain ⟨error, due⟩ := denied s stuck
      rw [error]
      exact ⟨rfl, (keepsDue_log _ _).trans due⟩

/-- A construction of a struct, from nothing or from an instance of it, is accounted for by what has
to be copied from the initials and from the default instances, unless it goes too deep. -/
lemma ends_construct (hooks : u.HookFree) (defaults : u.DefaultsTyped) (depth : Nat) :
    ∀ t c h given, (u.layout? t).isSome = true → (∀ v, c.initials? = some v → u.Instance t v) →
      Ends ((u.managerFor t c).run h).2
        (u.transfersFrom ((u.managerFor t c).run h).1 depth ((u.managerFor t c).run h).2
          (.of t c given)) (u.Instance t) ((u.construct depth t c).run.run h) := by
  induction depth with
  | zero => exact fun t c h given _ _ => .inl rfl
  | succ depth ih =>
    intro t c h given isStruct starts
    obtain ⟨l, hl⟩ := Option.isSome_iff_exists.1 isStruct
    have below : ∀ m, u.EndsBelow m depth := by
      intro m t c h given own isStruct starts
      have ends := ih t c h given isStruct starts
      rwa [managerFor, own, Option.some_or] at ends
    have exact : ∀ v, c.initials? = some v → u.isExact t v = true := by
      intro v hv
      obtain ⟨vs, a, rfl⟩ := (starts v hv).exact l hl
      exact decide_eq_true rfl
    have counted : ∀ vs, c.initials?.bind (·.fields?) = some vs ∨
        (u.desc t).canonical.bind (·.fields?) = some vs → vs.length = l.fields.length := by
      rintro vs (picked | picked)
      · exact (held_of_instance hl starts vs picked).length_eq.symm
      · exact (held_of_instance hl (defaults t) vs picked).length_eq.symm
    refine ends_noted ?_
    rw [constructWith_struct hooks hl exact, run_constructStruct hl counted, transfersFrom]
    show Ends _ ((u.layout? t).elim [] _) _ _
    rw [hl, Option.elim_some]
    refine ends_constructFields hooks (below _) (instance_construct hooks defaults depth) defaults
      hl starts given l.fields [] [] _ _ rfl .nil ⟨?_, idle_new l.tracked _, ?_⟩
    · cases l.tracked <;> rfl
    · split
      · rintro _ ⟨⟩
        rfl
      · rintro _ ⟨⟩

end Universe

end Metaobject
