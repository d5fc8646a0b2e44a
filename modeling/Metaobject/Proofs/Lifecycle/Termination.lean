import Metaobject.Proofs.Lifecycle.Assembly
import Metaobject.Proofs.Lifecycle.Soundness

/-!
# Constructions that end

A construction asks for others: for copies of the objects that its fields are copied from, and for
the parts that nothing is copied into. Values are nested finitely and types are built on earlier
types, so it is the default instances alone that can lead on for ever: a default may be set when its
type is in use already, and hold an object of that very type.

`Universe.Asks` is the construction that a field asks for. Where the constructions without initials
lead nowhere for ever, `Universe.construct_ends` brings every construction to its end, whatever the
template is; and where one leads on for ever it never makes a value.
-/

namespace Metaobject

variable {α β : Type}

namespace Attempt

/-- With enough levels of constructions a run is always the same, and not cut short. -/
def Converges (a : Nat → Attempt α) : Prop :=
  ∀ h, ∃ r : Except Fault α × Heap,
    r.1 ≠ .error .tooDeep ∧ ∃ depth, ∀ d ≥ depth, (a d).run.run h = r

namespace Converges

lemma pure {x : α} : Converges fun _ => pure x :=
  fun h => ⟨(.ok x, h), nofun, 0, fun _ _ => rfl⟩

lemma throw {fault : Fault} (ne : fault ≠ .tooDeep) :
    Converges fun _ => (MonadExcept.throw fault : Attempt α) :=
  fun h => ⟨(.error fault, h), fun same => ne (Except.error.inj same), 0, fun _ _ => rfl⟩

lemma refuse {e : BuildError} : Converges fun _ => (refuse e : Attempt α) :=
  throw nofun

/-- Two runs come to an end with the levels that the longer one takes. -/
lemma bind {a : Nat → Attempt α} {f : Nat → α → Attempt β} (ha : Converges a)
    (hf : ∀ x, Converges (f · x)) : Converges fun d => a d >>= f d := by
  intro h
  obtain ⟨⟨fault | x, h'⟩, ne, depth, ran⟩ := ha h
  · refine ⟨(.error fault, h'), fun same => ne (congrArg Except.error (Except.error.inj same)),
      depth, fun d hd => ?_⟩
    rw [ExceptT.run_bind, StateT.run_bind, ran d hd]
    rfl
  · obtain ⟨r, ne', depth', ran'⟩ := hf x h'
    refine ⟨r, ne', max depth depth', fun d hd => ?_⟩
    rw [ExceptT.run_bind, StateT.run_bind, ran d (Nat.le_trans (Nat.le_max_left ..) hd)]
    exact ran' d (Nat.le_trans (Nat.le_max_right ..) hd)

lemma lift {a : Action α} {f : Nat → α → Attempt β} (hf : ∀ x, Converges (f · x)) :
    Converges fun d => liftM a >>= f d :=
  fun _ => hf _ _

lemma get {f : Nat → Heap → Attempt β} (hf : ∀ x, Converges (f · x)) :
    Converges fun d => MonadState.get >>= f d :=
  fun h => hf h h

/-- What is done about a failure need not care for a run that is cut short. -/
lemma outcome {a : Nat → Attempt α} {f : Nat → Except Fault α → Attempt β} (ha : Converges a)
    (hf : ∀ r, r ≠ .error .tooDeep → Converges (f · r)) :
    Converges fun d => (a d).outcome >>= f d := by
  intro h
  obtain ⟨⟨x, h'⟩, ne, depth, ran⟩ := ha h
  obtain ⟨r, ne', depth', ran'⟩ := hf x ne h'
  refine ⟨r, ne', max depth depth', fun d hd => ?_⟩
  have first : (a d).run.run h = (x, h') := ran d (Nat.le_trans (Nat.le_max_left ..) hd)
  have rest := ran' d (Nat.le_trans (Nat.le_max_right ..) hd)
  rw [run_outcome, first]
  exact rest

/-- It does no harm to have one more level. -/
lemma of_succ {a : Nat → Attempt α} (ha : Converges fun d => a (d + 1)) : Converges a := by
  intro h
  obtain ⟨r, ne, depth, ran⟩ := ha h
  refine ⟨r, ne, depth + 1, fun d hd => ?_⟩
  obtain ⟨d, rfl⟩ := Nat.exists_eq_add_of_le' (Nat.one_le_of_lt hd)
  exact ran d (Nat.le_of_succ_le_succ hd)

end Converges

end Attempt

open Attempt (Converges)

/-- The fields of a value are smaller than the value. -/
lemma Value.sizeOf_lt_of_mem_fields {v w : Value} {vs : List Value} (fields : v.fields? = some vs)
    (mem : w ∈ vs) : sizeOf w < sizeOf v := by
  cases v with
  | object s ws a =>
    cases fields
    have := List.sizeOf_lt_of_mem mem
    rw [object.sizeOf_spec]
    omega
  | _ => cases fields

/-- A construction that another one asks for: nothing is overridden in it. -/
structure Job where
  type : TypeId
  initials : Option Value := none

/-- The template of a construction that is asked for, with the manager that serves the one that
asks. -/
def Job.template (j : Job) (m : Option Manager) : Template :=
  { manager := m, initials := j.initials }

namespace Universe

/-- What a field is copied from in a construction from a template, while the heap is `h`. -/
def source (u : Universe) (h : Heap) (t : TypeId) (c : Template) (f : Field) : Option Value :=
  u.sourceOf h c (c.initials?.bind (·.fields?)) ((u.desc t).canonical.bind (·.fields?)) f

/-- The construction that a field asks for, while the heap is `h`. -/
inductive Asks (u : Universe) (h : Heap) (t : TypeId) (c : Template) (f : Field) : Job → Prop where
  /-- Objects are copied by a construction. -/
  | copy {s : TypeId} {vs : List Value} {a : Option Tracker} :
    u.source h t c f = some (.object s vs a) →
    Asks u h t c f { type := s, initials := some (.object s vs a) }
  /-- Without anything to copy a part is made anew. -/
  | part {s : TypeId} :
    u.source h t c f = none → f.type = some s → (u.layout? s).isSome → Asks u h t c f { type := s }

/-- On some heap one of the fields asks for the other construction. -/
def MayAsk (u : Universe) (j k : Job) : Prop :=
  ∃ l, u.layout? j.type = some l ∧ ∃ f ∈ l.fields, ∃ h, u.Asks h j.type (j.template none) f k

/-- One of the fields asks for the other construction, whatever the heap is. -/
def MustAsk (u : Universe) (j k : Job) : Prop :=
  ∃ l, u.layout? j.type = some l ∧ ∃ f ∈ l.fields, ∀ h, u.Asks h j.type (j.template none) f k

variable {u : Universe}

/-- What is asked for does not depend on the manager. -/
lemma Asks.template {h : Heap} {j k : Job} {m : Option Manager} {f : Field}
    (asked : u.Asks h j.type (j.template m) f k) (m' : Option Manager) :
    u.Asks h j.type (j.template m') f k := by
  cases asked with
  | copy found => exact .copy found
  | part nothing declared isStruct => exact .part nothing declared isStruct

/-! ### Constructions that lead nowhere for ever -/

/-- Adopting a buffer takes no levels. -/
lemma converges_adopt (tr : Tracker) (ref : Handle) : Converges fun _ => tr.adopt ref := by
  refine .get fun before => ?_
  split
  · exact .refuse
  · refine .lift fun r => ?_
    split
    · exact .pure
    · exact .refuse

/-- Where an object is assembled, a field that was not cut short leaves the rest to come to an end.
-/
lemma converges_settle (t : TypeId) (f : Field) (built : List Value) (tracker : Option Tracker)
    (note : Action Unit) {next : Nat → List Value → Option Tracker → Attempt Value}
    (hnext : ∀ built tracker, Converges (next · built tracker))
    {r : Except Fault (Value × Option Tracker)} (ne : r ≠ .error .tooDeep) :
    Converges fun d => u.settle t f built tracker note (next d) r := by
  rcases r with (e | violation | _) | ⟨v, tracker'⟩
  · refine .lift fun _ => .lift fun abandoned => ?_
    split
    · exact .refuse
    · exact .throw nofun
  · exact .lift fun _ => .throw nofun
  · exact absurd rfl ne
  · exact hnext (built ++ [v]) tracker'

variable {nested : Nat → TypeId → Template → Attempt Value}

/-- The constructions that fields ask for come to their ends. -/
def Served (u : Universe) (nested : Nat → TypeId → Template → Attempt Value) (t : TypeId)
    (c : Template) (fs : List Field) : Prop :=
  ∀ h, ∀ f ∈ fs, ∀ k, u.Asks h t c f k →
    ∀ m, Converges fun d => nested d k.type (k.template (some m))

/-- A field that asks for a construction holds what is constructed. -/
lemma made_of_asks {t : TypeId} {c : Template} {f : Field} {h : Heap} {k : Job} (m : Manager)
    (tracker : Option Tracker) (nested : TypeId → Template → Attempt Value)
    (asked : u.Asks h t c f k) :
    u.made nested c m (c.initials?.bind (·.fields?)) ((u.desc t).canonical.bind (·.fields?)) h f
      tracker = do return (← nested k.type (k.template (some m)), tracker) := by
  cases asked with
  | copy found =>
    have found : u.sourceOf h c _ _ f = _ := found
    rw [made, found]
    rfl
  | part nothing declared isStruct =>
    have nothing : u.sourceOf h c _ _ f = none := nothing
    rw [made, nothing]
    unfold defaultFor
    rw [declared]
    dsimp only
    rw [if_pos isStruct]
    rfl

/-- A field is built once the construction that it asks for comes to its end. -/
lemma converges_made {t : TypeId} {c : Template} {f : Field} {h : Heap} (m : Manager)
    (tracker : Option Tracker)
    (served : ∀ k, u.Asks h t c f k → Converges fun d => nested d k.type (k.template (some m))) :
    Converges fun d => u.made (nested d) c m (c.initials?.bind (·.fields?))
      ((u.desc t).canonical.bind (·.fields?)) h f tracker := by
  unfold made
  cases found : u.source h t c f with
  | some v =>
    rw [source] at found
    rw [found]
    cases v with
    | object s vs a => exact .bind (served _ (.copy found)) fun _ => .pure
    | buffer ref =>
      cases tracker with
      | none => exact .pure
      | some tr => exact .bind (converges_adopt tr ref) fun _ => .pure
    | _ => exact .pure
  | none =>
    rw [source] at found
    rw [found]
    refine .bind ?_ fun _ => .pure
    unfold defaultFor
    cases declared : f.type with
    | none => exact .pure
    | some s =>
      dsimp only
      split
      · rename_i isStruct
        exact served { type := s } (.part found declared isStruct)
      · exact .pure

/-- The fields come to an end one by one, if what they ask for does. -/
lemma converges_constructFields {t : TypeId} {c : Template} (m : Manager) (fs : List Field)
    (served : u.Served nested t c fs) : ∀ (built : List Value) (tracker : Option Tracker),
      Converges fun d => u.constructFields (nested d) t c m (c.initials?.bind (·.fields?))
        ((u.desc t).canonical.bind (·.fields?)) fs built tracker := by
  induction fs with
  | nil => exact fun built tracker => .pure
  | cons f fs ih =>
    intro built tracker
    have rest := ih fun h f hf => served h f (List.mem_cons_of_mem _ hf)
    refine .get fun h => .outcome ?_ fun r ne => converges_settle t f built tracker _ rest ne
    exact converges_made m tracker fun k hk => served h f List.mem_cons_self k hk m

/-- So does the structure. -/
lemma converges_constructStruct {t : TypeId} {c : Template}
    (served : ∀ l, u.layout? t = some l → u.Served nested t c l.fields) :
    Converges fun d => u.constructStruct (nested d) t c := by
  unfold constructStruct
  cases hl : u.layout? t with
  | none => exact .refuse
  | some l =>
    refine .lift fun m => ?_
    dsimp only
    split
    · exact .refuse
    · exact converges_constructFields m l.fields (served l hl) [] _

/-- And so does a construction of any type, as no hook has a say. -/
lemma converges_constructWith (hooks : u.HookFree) {t : TypeId} {c : Template}
    (served : ∀ l, u.layout? t = some l → u.Served nested t c l.fields) :
    Converges fun d => u.constructWith (nested d) t c := by
  unfold constructWith
  split
  · exact .refuse
  · rw [hooks.consultConstruct, liftM_pure]
    simp only [pure_bind]
    split
    · exact converges_constructStruct served
    · exact .refuse
    · exact .pure

/-- A construction comes to its end if those do that its fields ask for. -/
lemma converges_construct (hooks : u.HookFree) {t : TypeId} {c : Template}
    (served : ∀ l, u.layout? t = some l → u.Served u.construct t c l.fields) :
    Converges fun depth => u.construct depth t c := by
  refine .of_succ (.outcome (converges_constructWith hooks served) fun r ne => ?_)
  rcases r with (e | violation | _) | v
  · exact .lift fun _ => .throw nofun
  · exact .throw nofun
  · exact absurd rfl ne
  · exact .pure

/-- Constructions without overrides that lead nowhere for ever come to their ends. -/
lemma converges_of_acc (hooks : u.HookFree) {j : Job} (acc : Acc (flip u.MayAsk) j)
    (m : Option Manager) : Converges fun depth => u.construct depth j.type (j.template m) := by
  -- the manager changes on the way down: the whole construction is served by the first one
  induction acc generalizing m with
  | intro j _ ih =>
    refine converges_construct hooks fun l hl h f hf k asked m => ?_
    exact ih k ⟨l, hl, f, hf, h, asked.template none⟩ (some m)

/-- Constructions that start from nothing lead nowhere for ever. -/
def Grounded (u : Universe) : Prop :=
  ∀ t, Acc (flip u.MayAsk) { type := t }

/-- What is asked for on the way from nothing: a copy of an object in the default instance, or a
part of an earlier type. -/
lemma asked_from_nothing {t : TypeId} {k : Job} (may : u.MayAsk { type := t } k) :
    (∃ v vs, (u.desc t).canonical = some v ∧ v.fields? = some vs ∧
      ∃ s ws a, .object s ws a ∈ vs ∧ k = { type := s, initials := some (.object s ws a) }) ∨
    ∃ s < t, k = { type := s } := by
  obtain ⟨l, hl, f, hf, h, asked⟩ := may
  cases asked with
  | copy found =>
    rcases sourceOf_cases found with initial | default
    · cases initial
    · obtain ⟨picked, _⟩ := Option.filter_eq_some_iff.1 default
      obtain ⟨vs, present, place⟩ := Option.bind_eq_some_iff.1 picked
      obtain ⟨v, canonical, fields⟩ := Option.bind_eq_some_iff.1 present
      exact .inl ⟨v, vs, canonical, fields, _, _, _, List.mem_of_getElem? place, rfl⟩
  | part _ declared _ => exact .inr ⟨_, u.fieldType_lt (kind_of_layout? hl) hf declared, rfl⟩

/-- What is asked for on the way from initials: a copy of an object among them, or what would be
asked for without them. -/
lemma asked_from_initials {t : TypeId} {v : Value} {k : Job}
    (may : u.MayAsk { type := t, initials := some v } k) :
    (∃ vs, v.fields? = some vs ∧
      ∃ s ws a, .object s ws a ∈ vs ∧ k = { type := s, initials := some (.object s ws a) }) ∨
    u.MayAsk { type := t } k ∨ ∃ s < t, k = { type := s } := by
  obtain ⟨l, hl, f, hf, h, asked⟩ := may
  cases asked with
  | copy found =>
    rcases sourceOf_cases found with initial | default
    · obtain ⟨vs, picked, place⟩ := Option.bind_eq_some_iff.1 initial
      obtain ⟨w, given, fields⟩ := Option.bind_eq_some_iff.1 picked
      cases (Option.filter_eq_some_iff.1 given).1
      exact .inl ⟨vs, fields, _, _, _, List.mem_of_getElem? place, rfl⟩
    · refine .inr (.inl ⟨l, hl, f, hf, h, .copy ?_⟩)
      show u.sourceOf h _ _ _ f = _
      rw [sourceOf_eq, default]
      rfl
  | part _ declared _ =>
    exact .inr (.inr ⟨_, u.fieldType_lt (kind_of_layout? hl) hf declared, rfl⟩)

/-- Initials lead further down only as deep as they are nested. -/
lemma Grounded.acc_initials (grounded : u.Grounded) (v : Value) (t : TypeId) :
    Acc (flip u.MayAsk) { type := t, initials := some v } := by
  refine Acc.intro _ fun k may => ?_
  -- the initials get smaller on the way down, until the default instances take over
  rcases asked_from_initials may with ⟨vs, fields, s, ws, a, mem, rfl⟩ | default | ⟨s, _, rfl⟩
  · exact grounded.acc_initials (.object s ws a) s
  · exact (grounded t).inv default
  · exact grounded s
  termination_by SizeOf.sizeOf v
  decreasing_by exact Value.sizeOf_lt_of_mem_fields fields mem

/-- Whatever a construction starts from, it leads nowhere for ever. -/
lemma Grounded.acc (grounded : u.Grounded) (j : Job) : Acc (flip u.MayAsk) j := by
  obtain ⟨t, _ | v⟩ := j
  · exact grounded t
  · exact grounded.acc_initials v t

mutual

/-- Every object in the value is of a type that was made before `t`. -/
def isBefore (t : TypeId) : Value → Bool
  | .object s fields _ => s < t && areBefore t fields
  | _ => true

/-- The same for the values of an object. -/
def areBefore (t : TypeId) : List Value → Bool
  | [] => true
  | v :: vs => isBefore t v && areBefore t vs

end

/-- Each of the values is before `t` as well. -/
lemma isBefore_of_mem {t : TypeId} {vs : List Value} (before : areBefore t vs = true) {v : Value}
    (mem : v ∈ vs) : isBefore t v = true := by
  induction vs with
  | nil => cases mem
  | cons w vs ih =>
    obtain ⟨first, rest⟩ := Bool.and_eq_true_iff.1 before
    rcases List.mem_cons.1 mem with rfl | later
    · exact first
    · exact ih rest later

/-- The type of an object is before `t`, and so is what is in it. -/
lemma isBefore_object {t s : TypeId} {vs : List Value} {a : Option Tracker}
    (before : isBefore t (.object s vs a) = true) : s < t ∧ areBefore t vs = true := by
  rw [isBefore, Bool.and_eq_true_iff] at before
  exact ⟨of_decide_eq_true before.1, before.2⟩

/-- Initials of earlier types lead nowhere for ever if these types do not. -/
lemma acc_of_isBefore {t : TypeId} (earlier : ∀ s < t, Acc (flip u.MayAsk) { type := s })
    (v : Value) (before : isBefore t v = true) (s : TypeId) (lt : s < t) :
    Acc (flip u.MayAsk) { type := s, initials := some v } := by
  refine Acc.intro _ fun k may => ?_
  rcases asked_from_initials may with ⟨vs, fields, r, ws, a, mem, rfl⟩ | default | ⟨r, sooner, rfl⟩
  · have inside : isBefore t (.object r ws a) = true := by
      cases v with
      | object _ _ _ =>
        cases fields
        exact isBefore_of_mem (isBefore_object before).2 mem
      | _ => cases fields
    exact acc_of_isBefore earlier (.object r ws a) inside r (isBefore_object inside).1
  · exact (earlier s lt).inv default
  · exact earlier r (Nat.lt_trans sooner lt)
  termination_by SizeOf.sizeOf v
  decreasing_by exact Value.sizeOf_lt_of_mem_fields fields mem

/-- Defaults whose objects are of earlier types lead nowhere for ever. They are all there is where
types get their defaults when they are made. -/
theorem grounded_of_areBefore
    (before : ∀ t v vs, (u.desc t).canonical = some v → v.fields? = some vs →
      areBefore t vs = true) : u.Grounded := by
  intro t
  induction t using Nat.strongRecOn with
  | ind t earlier =>
    refine Acc.intro _ fun k may => ?_
    rcases asked_from_nothing may with ⟨v, vs, canonical, fields, s, ws, a, mem, rfl⟩ | ⟨s, lt, rfl⟩
    · have inside := isBefore_of_mem (before t v vs canonical fields) mem
      exact acc_of_isBefore earlier _ inside s (isBefore_object inside).1
    · exact earlier s lt

/-! ### Constructions that lead on for ever -/

/-- An object is never finished if one of its fields is not. -/
lemma no_value_constructFields {nested : TypeId → Template → Attempt Value} {t : TypeId}
    {c : Template} {k : Job} (m : Manager)
    (below : (nested k.type (k.template (some m))).Yields fun _ => False) (fs : List Field)
    {f : Field} (mem : f ∈ fs) (asked : ∀ h, u.Asks h t c f k) :
    ∀ (built : List Value) (tracker : Option Tracker),
      (u.constructFields nested t c m (c.initials?.bind (·.fields?))
        ((u.desc t).canonical.bind (·.fields?)) fs built tracker).Yields fun _ => False := by
  induction fs with
  | nil => cases mem
  | cons g fs ih =>
    intro built tracker
    rw [constructFields_cons]
    refine .get fun h => ?_
    by_cases here : f = g
    -- the construction below makes no value, so there is nothing to go on with
    · subst here
      refine .outcome (P := fun _ => False) ?_ fun r none => u.yields_settle t f built tracker _ ?_
      · rw [made_of_asks m tracker nested (asked h)]
        exact .bind below fun _ impossible => impossible.elim
      · exact fun v tracker' made => (none _ made).elim
    · have later : f ∈ fs := (List.mem_cons.1 mem).resolve_left here
      refine .outcome (P := fun _ => True) (fun _ _ _ => trivial) fun r _ => ?_
      exact u.yields_settle t g built tracker _ fun v tracker' _ => ih later _ tracker'

/-- A construction makes no value if one that it must ask for makes none. -/
lemma no_value_constructWith (hooks : u.HookFree) {j k : Job} (must : u.MustAsk j k)
    {nested : TypeId → Template → Attempt Value}
    (below : ∀ m, (nested k.type (k.template m)).Yields fun _ => False) (m : Option Manager) :
    (u.constructWith nested j.type (j.template m)).Yields fun _ => False := by
  obtain ⟨l, hl, f, hf, asked⟩ := must
  rw [constructWith]
  split
  · exact .refuse
  · rw [hooks.consultConstruct, liftM_pure, pure_bind]
    dsimp only
    rw [kind_of_layout? hl, constructStruct, hl]
    refine .lift fun m' => ?_
    dsimp only
    split
    · exact .refuse
    · have asked := fun h => (asked h).template m
      exact no_value_constructFields m' (below (some m')) l.fields hf asked [] _

/-- At the head of an endless chain no depth is enough, by induction on the depth. -/
lemma no_value_of_chain (hooks : u.HookFree) (depth : Nat) : ∀ chain : Nat → Job,
    (∀ n, u.MustAsk (chain n) (chain (n + 1))) → ∀ m,
      (u.construct depth (chain 0).type ((chain 0).template m)).Yields fun _ => False := by
  -- one level down it is the same chain, from its second construction on
  induction depth with
  | zero => exact fun _ _ _ => .throw
  | succ depth ih =>
    intro chain must m
    have below := ih (fun n => chain (n + 1)) fun n => must (n + 1)
    exact yields_construct_succ (no_value_constructWith hooks (must 0) below m)

/-- Where constructions that start from nothing lead nowhere for ever, every construction comes to
its end, and one that leads on for ever never makes a value. -/
theorem construct_ends (hooks : u.HookFree) :
    (u.Grounded → ∀ t c, Converges fun depth => u.construct depth t c) ∧
    ∀ chain : Nat → Job, (∀ n, u.MustAsk (chain n) (chain (n + 1))) → ∀ depth m h v,
      ((u.construct depth (chain 0).type ((chain 0).template m)).run.run h).1 ≠ .ok v := by
  constructor
  · intro grounded t c
    refine converges_construct hooks fun l _ h f _ k _ m => ?_
    exact converges_of_acc hooks (grounded.acc k) (some m)
  · intro chain must depth m h v made
    exact no_value_of_chain hooks depth chain must m h v made

/-- Types with one more struct, whose default is set last: it holds one object of the struct inside
another one. -/
def withCircle : Universe :=
  let link : Declaration :=
    { name := "Link", shape := .struct [⟨"next", .untyped 8, false, none⟩] none false }
  match (builtin.declare {} link).bind fun (t, u) =>
      u.setCanonical t (.object t [.object t [.null] none] none) with
  | some u => u
  | none => builtin

/-- The object in the default of a link. -/
def lastLink : Value :=
  .object 19 [.null] none

/-- A link that starts from the last one must ask for a construction that does so too. -/
lemma mustAsk_lastLink :
    withCircle.MustAsk { type := 19, initials := some lastLink }
      { type := 19, initials := some lastLink } :=
  ⟨_, rfl, { name := "next", index := 0, size := 8 }, List.mem_cons_self, fun _ => .copy rfl⟩

/-- No type of a whole leads on for ever. -/
lemma grounded_withWhole : withWhole.Grounded := by
  refine grounded_of_areBefore fun t v vs canonical fields => ?_
  rcases desc_withWhole t with rfl | rfl | known
  · cases canonical
    cases fields
    rfl
  · cases canonical
    cases fields
    rfl
  · rw [known] at canonical
    rcases zero_of_canonical_builtin canonical with ⟨k, _, rfl⟩ | ⟨k, _, rfl⟩
    · cases fields
    · cases fields

/-- A whole can be constructed, and a link that begins with the last one cannot. -/
theorem construct_ends_whole :
    (withWhole.HookFree ∧ withWhole.Grounded ∧
      Converges fun depth => withWhole.construct depth 20 {}) ∧
    withCircle.HookFree ∧ ∀ depth v,
      ((withCircle.construct depth 19 { initials := some lastLink }).run.run {}).1 ≠ .ok v := by
  have whole : withWhole.HookFree := hookFree_of_all rfl
  have circle : withCircle.HookFree := hookFree_of_all rfl
  refine ⟨⟨whole, grounded_withWhole, ?_⟩, circle, fun depth v => ?_⟩
  · exact (construct_ends whole).1 grounded_withWhole 20 {}
  · exact (construct_ends circle).2 (fun _ => { type := 19, initials := some lastLink })
      (fun _ => mustAsk_lastLink) depth none {} v

/-- What a link becomes once there is something for its field, or is not. -/
def linkFrom : Except Fault (Value × Option Tracker) → Attempt Value :=
  withCircle.settle 19 { name := "next", index := 0, size := 8 } [] none
    (Action.log (.fieldFailed "Link" "next" 0)) fun built tracker => return finish 19 built tracker

/-- Whether it starts from nothing or from the last link, a link asks for one more. -/
lemma constructWith_link (nested : TypeId → Template → Attempt Value) (m : Manager) :
    withCircle.constructWith nested 19 { manager := some m, initials := some lastLink } = (do
      let last : Attempt (Value × Option Tracker) := do
        return (← nested 19 { manager := some m, initials := some lastLink }, none)
      linkFrom (← last.outcome)) :=
  rfl

/-- From nothing a link asks the manager of the process to serve, and goes on with the last link. -/
lemma run_constructWith_link (nested : TypeId → Template → Attempt Value) :
    (withCircle.constructWith nested 19 {}).run.run {} = (do
      let last : Attempt (Value × Option Tracker) := do
        return (← nested 19 { manager := some .system, initials := some lastLink }, none)
      linkFrom (← last.outcome)).run.run { processManager := some .system } :=
  rfl

/-- However deep it goes, a link from the last link goes too deep. -/
lemma construct_lastLink (m : Manager) (depth : Nat) :
    withCircle.construct depth 19 { manager := some m, initials := some lastLink } =
      throw .tooDeep := by
  induction depth with
  | zero => rfl
  | succ depth ih =>
    rw [construct, constructWith_link, ih]
    rfl

/-- A construction that never comes to its end, however many levels there may be. -/
theorem construct_endless :
    withCircle.HookFree ∧
      ∀ depth, ((withCircle.construct depth 19 {}).run.run {}).1 = .error .tooDeep := by
  refine ⟨hookFree_of_all rfl, fun depth => ?_⟩
  cases depth with
  | zero => rfl
  | succ depth =>
    have stuck : (withCircle.constructWith (withCircle.construct depth) 19 {}).run.run {} =
        (.error .tooDeep, { processManager := some .system }) := by
      rw [run_constructWith_link, construct_lastLink]
      rfl
    rw [construct, Attempt.run_outcome, stuck]
    rfl

end Universe

end Metaobject
