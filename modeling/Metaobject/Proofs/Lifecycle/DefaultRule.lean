import Metaobject.Proofs.Lifecycle.Assembly
import Metaobject.Proofs.Lifecycle.Soundness
import Metaobject.Proofs.Storage.Embedded
import Metaobject.Session.Basic

/-!
# The default rule, at every depth

Every value in an object that was constructed has its `Origin`: the initials, the default instance
of the type it was constructed for, or nothing but the declared type of its field. Objects from the
initials and from default instances are constructed anew, through their own types, so that the
question comes up again inside of them: `Universe.originAt` follows a path of field indexes.

Whether an initial is a default is asked in the course of the construction, when other buffers may
have been copied already. The moments at which it is asked are the heaps of `m`, one for each path.

`Universe.construct_default_rule` says that an object that was constructed is what the origins say,
and that a value comes from the initials if and only if, all along its path, the initial was no
default or, at the first step only, was insisted on.
-/

namespace Metaobject

/-- What the values of an object start from: the values of a source, if there is one, which may be
the initials of the whole construction. -/
structure Start where
  type : TypeId
  overrides : Nat → Bool := fun _ => false
  values : Option (List Value) := none
  /-- The values are from the initials of the whole construction. -/
  given : Bool := false

/-- The start of a construction from a template. -/
def Start.of (t : TypeId) (c : Template) (given : Bool) : Start where
  type := t
  overrides := c.overrides
  values := c.initials?.bind (·.fields?)
  given

/-- Where the value of a field comes from. -/
inductive Origin where
  /-- The initials of the whole construction. -/
  | initial (v : Value)
  /-- A default instance. -/
  | preset (v : Value)
  /-- Nothing but the declared type of the field. -/
  | blank (declared : Option TypeId)

namespace Origin

/-- The value that the field is copied from. -/
def value? : Origin → Option Value
  | initial v | preset v => some v
  | blank _ => none

/-- What the values inside of an object start from. -/
def start : Origin → Option Start
  | initial (.object t vs _) => some { type := t, values := some vs, given := true }
  | preset (.object t vs _) => some { type := t, values := some vs }
  | blank (some t) => some { type := t }
  | _ => none

end Origin

/-- Only an object among the initials is a start that was given. -/
lemma Origin.start_of_given {o : Origin} {s : Start} (inside : o.start = some s)
    (given : s.given = true) : ∃ t vs a, o = .initial (.object t vs a) ∧
      s = { type := t, values := some vs, given := true } := by
  cases o with
  | initial v =>
    cases v with
    | object t vs a =>
      cases inside
      exact ⟨t, vs, a, rfl, rfl⟩
    | _ => cases inside
  | preset v =>
    cases v with
    | object t vs a =>
      cases inside
      cases given
    | _ => cases inside
  | blank declared =>
    cases declared with
    | none => cases inside
    | some t =>
      cases inside
      cases given

namespace Universe

/-- The layout by which the objects of a type are made, unless a hook makes them. -/
def assembled? (u : Universe) (t : TypeId) : Option Layout :=
  if u.leavesConstruction t then u.layout? t else none

/-- The field at a position of the objects of a type. -/
def fieldAt? (u : Universe) (t : TypeId) (i : Nat) : Option Field :=
  (u.assembled? t).bind (·.fields[i]?)

/-- Where the value of a field comes from, if the question is asked while the heap is `h`: the
source, if its value is insisted on or is no default; else the default instance of the type, if its
value is not null; else nothing. -/
def originOf (u : Universe) (h : Heap) (s : Start) (f : Field) : Origin :=
  match (initialAt s.values f).filter fun v => s.overrides f.index || !u.isDefault h f v with
  | some v => if s.given then .initial v else .preset v
  | none =>
    match defaultAt ((u.desc s.type).canonical.bind (·.fields?)) f with
    | some v => .preset v
    | none => .blank f.type

/-- Where the value at the end of a path comes from. -/
def originAt (u : Universe) (m : List Nat → Heap) (s : Start) : List Nat → Option Origin
  | [] => none
  | [i] => (u.fieldAt? s.type i).map (u.originOf (m [i]) s)
  | i :: j :: p =>
    ((u.fieldAt? s.type i).bind fun f => (u.originOf (m [i]) s f).start).bind fun s =>
      originAt u (fun q => m (i :: q)) s (j :: p)

/-- The value is an object of the type, with one value per field, if the type has its objects made
field by field. -/
def ObjectOf (u : Universe) (t : TypeId) (x : Value) : Prop :=
  ∀ l, u.assembled? t = some l → ∃ vs a, x = .object t vs a ∧ vs.length = l.fields.length

/-- The value is a copy of another one, in an object with the given tracker: objects are constructed
anew, and buffers are copied for the tracker, if there is one. -/
def IsCopy (u : Universe) (h : Heap) (a : Option Tracker) (x : Value) : Value → Prop
  | .object t _ _ => u.ObjectOf t x
  | .buffer ref =>
    match a with
    | some tr => ∃ b ∈ tr.buffers, ∃ bytes, x = .buffer (.to b) ∧ h.read ref = some bytes ∧
      h.read (.to b) = some bytes
    | none => x = .buffer ref
  | v => x = v

/-- The value of a field is what its origin says, in an object with the given tracker. -/
def Accords (u : Universe) (h : Heap) (a : Option Tracker) (x : Value) : Origin → Prop
  | .initial v | .preset v => u.IsCopy h a x v
  | .blank none => x = .null
  | .blank (some t) =>
    if (u.layout? t).isSome then u.ObjectOf t x
    else x = (u.desc t).canonical.elim (u.zeroOf t) (·.rawCopy)

/-- All along every path the values inside of a value are what their origins say. -/
def Follows (u : Universe) (m : List Nat → Heap) (s : Start) (h : Heap) (w : Value) : Prop :=
  ∀ p o, u.originAt m s p = some o →
    ∃ x, w.at? p = some x ∧ u.Accords h (Value.trackerAt? p.dropLast w) x o

variable {u : Universe}

/-! ### What later steps leave as it is -/

/-- A copy stays one while buffers are added and the tracker keeps its list. -/
lemma IsCopy.later {h h' : Heap} {a b : Option Tracker} {x v : Value} (copy : u.IsCopy h a x v)
    (later : h.Extends h') (buffers : buffersOf a ⊆ buffersOf b) (present : b.isSome = a.isSome) :
    u.IsCopy h' b x v := by
  cases v with
  | buffer ref =>
    cases a with
    | none =>
      cases b with
      | none => exact copy
      | some tr => cases present
    | some tr =>
      cases b with
      | none => cases present
      | some tr' =>
        obtain ⟨b, mem, bytes, rfl, known, same⟩ := copy
        exact ⟨b, buffers mem, bytes, rfl, later.read known, later.read same⟩
  | _ => exact copy

/-- A value that accords with its origin goes on to do so. -/
lemma Accords.later {h h' : Heap} {a b : Option Tracker} {x : Value} {o : Origin}
    (accords : u.Accords h a x o) (later : h.Extends h') (buffers : buffersOf a ⊆ buffersOf b)
    (present : b.isSome = a.isSome) : u.Accords h' b x o := by
  cases o with
  | initial v => exact IsCopy.later accords later buffers present
  | preset v => exact IsCopy.later accords later buffers present
  | blank declared =>
    cases declared with
    | none => exact accords
    | some t => exact accords

/-- A value that follows its origins goes on to do so. -/
lemma Follows.later {m : List Nat → Heap} {s : Start} {h h' : Heap} {w : Value}
    (follows : u.Follows m s h w) (later : h.Extends h') : u.Follows m s h' w := by
  intro p o ho
  obtain ⟨x, hx, accords⟩ := follows p o ho
  exact ⟨x, hx, accords.later later (List.Subset.refl _) rfl⟩

/-! ### The fields of an object -/

/-- The value of a field accords with its origin, and so do the values inside of it. -/
structure Becomes (u : Universe) (m : List Nat → Heap) (h : Heap) (a : Option Tracker) (o : Origin)
    (x : Value) : Prop where
  accords : u.Accords h a x o
  inside : ∀ s, o.start = some s → u.Follows m s h x

/-- A field that has become what its origin says goes on to be that. -/
lemma Becomes.later {m : List Nat → Heap} {h h' : Heap} {a b : Option Tracker} {x : Value}
    {o : Origin} (becomes : u.Becomes m h a o x) (later : h.Extends h')
    (buffers : buffersOf a ⊆ buffersOf b) (present : b.isSome = a.isSome) :
    u.Becomes m h' b o x where
  accords := becomes.accords.later later buffers present
  inside s hs := (becomes.inside s hs).later later

/-- A type whose objects are not made field by field has no origins. -/
lemma originAt_of_not_assembled {s : Start} (other : u.assembled? s.type = none)
    (m : List Nat → Heap) (p : List Nat) : u.originAt m s p = none := by
  match p with
  | [] => rfl
  | [i] => rw [originAt, fieldAt?, other]; rfl
  | i :: j :: p => rw [originAt, fieldAt?, other]; rfl

/-- An object is what the origins say if its fields are. -/
lemma follows_object {m : List Nat → Heap} {s : Start} {h : Heap} {vs : List Value}
    {a : Option Tracker}
    (fields : ∀ i f, u.fieldAt? s.type i = some f → ∃ x, vs[i]? = some x ∧
      u.Becomes (fun q => m (i :: q)) h a (u.originOf (m [i]) s f) x) :
    u.Follows m s h (.object s.type vs a) := by
  intro p o ho
  match p, ho with
  | [i], ho =>
    obtain ⟨f, hf, rfl⟩ := Option.map_eq_some_iff.1 ho
    obtain ⟨x, hx, becomes⟩ := fields i f hf
    exact ⟨x, by rw [Value.at?, hx]; rfl, becomes.accords⟩
  | i :: j :: p, ho =>
    obtain ⟨s', hs', ho⟩ := Option.bind_eq_some_iff.1 ho
    obtain ⟨f, hf, hs'⟩ := Option.bind_eq_some_iff.1 hs'
    obtain ⟨x, hx, becomes⟩ := fields i f hf
    obtain ⟨y, hy, accords⟩ := becomes.inside s' hs' (j :: p) o ho
    refine ⟨y, ?_, ?_⟩
    · rw [Value.at?, hx]
      exact hy
    · rw [List.dropLast_cons_of_ne_nil (List.cons_ne_nil j p), Value.trackerAt?, hx]
      exact accords

/-! ### Constructions follow the rule -/

/-- Each moment lies between two heaps. -/
def Between (h h' : Heap) (m : List Nat → Heap) : Prop :=
  ∀ p, h.Extends (m p) ∧ (m p).Extends h'

/-- A stretch of time is part of a longer one. -/
lemma Between.widen {h h₁ h₂ h' : Heap} {m : List Nat → Heap} (between : Between h₁ h₂ m)
    (before : h.Extends h₁) (after : h₂.Extends h') : Between h h' m :=
  fun p => ⟨before.trans (between p).1, (between p).2.trans after⟩

/-- Constructions that succeed follow the rule, beginning at the moment they begin. -/
def Obey (u : Universe) (nested : TypeId → Template → Attempt Value) : Prop :=
  ∀ t c h x h', (nested t c).run.run h = (.ok x, h') → u.ObjectOf t x ∧
    ∃ m : List Nat → Heap, m [] = h ∧ Between h h' m ∧
      ∀ given, u.Follows m (.of t c given) h' x

variable {nested : TypeId → Template → Attempt Value}

/-- The origin of a field names the value that it is copied from. -/
lemma value?_originOf (h : Heap) (t : TypeId) (c : Template) (given : Bool) (f : Field) :
    (u.originOf h (.of t c given) f).value? = u.sourceOf h c (c.initials?.bind (·.fields?))
      ((u.desc t).canonical.bind (·.fields?)) f := by
  rw [originOf, sourceOf_eq]
  show Origin.value? (match (initialAt (c.initials?.bind (·.fields?)) f).filter
    (u.prefersInitial h c f) with | some v => _ | none => _) = _
  cases (initialAt (c.initials?.bind (·.fields?)) f).filter (u.prefersInitial h c f) with
  | some v => cases given <;> rfl
  | none =>
    show Origin.value? (match defaultAt ((u.desc t).canonical.bind (·.fields?)) f with
      | some v => _ | none => _) = _
    cases defaultAt ((u.desc t).canonical.bind (·.fields?)) f with
    | some v => rfl
    | none => rfl

/-- Where nothing is the origin there is nothing but the declared type. -/
lemma originOf_of_value?_none {h : Heap} {s : Start} {f : Field}
    (none : (u.originOf h s f).value? = none) : u.originOf h s f = .blank f.type := by
  unfold originOf at none ⊢
  split
  · rename_i picked
    rw [picked] at none
    dsimp only at none
    split at none <;> cases none
  · rename_i picked
    rw [picked] at none
    dsimp only at none
    split
    · rename_i default
      rw [default] at none
      cases none
    · rfl

/-- What became of a value that was copied, and of the values inside of it if it is an object. -/
lemma copied_of_became (below : u.Obey nested) {m : Manager} {f : Field} {h h' : Heap}
    {a b : Option Tracker} {x v : Value} (became : u.Became nested m f (some v) h a x b h')
    (later : h.Extends h') :
    ∃ m : List Nat → Heap, m [] = h ∧ Between h h' m ∧ u.IsCopy h' b x v ∧
      ∀ t vs tr, v = .object t vs tr →
        ∀ given, u.Follows m { type := t, values := some vs, given := given } h' x := by
  have still : Between h h' fun _ => h := fun _ => ⟨.refl h, later⟩
  cases became with
  | copied ran =>
    obtain ⟨object, m, start, between, follows⟩ := below _ _ _ _ _ ran
    refine ⟨m, start, between, object, ?_⟩
    rintro t vs tr ⟨⟩ given
    exact follows given
  | @adopted ref bytes b t _ _ known copy _ =>
    refine ⟨fun _ => h, rfl, still, ⟨b, ?_, bytes, rfl, later.read known, copy⟩,
      fun _ _ _ same => nomatch same⟩
    rw [Tracker.buffers_push]
    exact List.mem_append_right _ List.mem_cons_self
  | shared => exact ⟨fun _ => h, rfl, still, rfl, fun _ _ _ same => nomatch same⟩
  | same object buffer =>
    cases x with
    | object t vs tr => cases object
    | buffer ref => cases buffer
    | _ => exact ⟨fun _ => h, rfl, still, rfl, fun _ _ _ same => nomatch same⟩

/-- A field that nothing was copied for is blank: null, a part, or a default. -/
lemma blank_of_became (below : u.Obey nested) {m : Manager} {f : Field} {h h' : Heap}
    {a b : Option Tracker} {x : Value} (became : u.Became nested m f none h a x b h')
    (later : h.Extends h') :
    ∃ m : List Nat → Heap, m [] = h ∧ Between h h' m ∧ u.Becomes m h' b (.blank f.type) x := by
  have still : Between h h' fun _ => h := fun _ => ⟨.refl h, later⟩
  cases became with
  | null untyped =>
    rw [untyped]
    exact ⟨fun _ => h, rfl, still, rfl, nofun⟩
  | part declared isStruct ran =>
    obtain ⟨object, m, start, between, follows⟩ := below _ _ _ _ _ ran
    rw [declared]
    refine ⟨m, start, between, ?_, ?_⟩
    · rw [Accords, if_pos isStruct]
      exact object
    · rintro s ⟨⟩
      exact follows false
  | @default s _ _ declared plain =>
    rw [declared]
    refine ⟨fun _ => h, rfl, still, ?_, ?_⟩
    · rw [Accords, plain]
      rfl
    · rintro _ ⟨⟩ p o ho
      have other : u.assembled? s = none := by
        rw [assembled?, plain, ite_self]
      rw [originAt_of_not_assembled other] at ho
      cases ho

/-- What became of a field is what its origin says, if that names the value it was copied from. -/
lemma becomes_of_became (below : u.Obey nested) {m : Manager} {f : Field} {source : Option Value}
    {h h' : Heap} {a b : Option Tracker} {x : Value}
    (became : u.Became nested m f source h a x b h') (later : h.Extends h') :
    ∃ m : List Nat → Heap, m [] = h ∧ Between h h' m ∧
      ∀ o : Origin, o.value? = source → (o.value? = none → o = .blank f.type) →
        u.Becomes m h' b o x := by
  cases source with
  | none =>
    obtain ⟨m, start, between, becomes⟩ := blank_of_became below became later
    refine ⟨m, start, between, fun o none blank => ?_⟩
    rw [blank none]
    exact becomes
  | some v =>
    obtain ⟨m, start, between, copy, follows⟩ := copied_of_became below became later
    refine ⟨m, start, between, fun o names _ => ?_⟩
    cases o with
    | initial w =>
      cases names
      refine ⟨copy, fun s hs => ?_⟩
      cases v with
      | object t vs tr =>
        cases hs
        exact follows t vs tr rfl true
      | _ => cases hs
    | preset w =>
      cases names
      refine ⟨copy, fun s hs => ?_⟩
      cases v with
      | object t vs tr =>
        cases hs
        exact follows t vs tr rfl false
      | _ => cases hs
    | blank declared => cases names

/-- Step by step the values of the fields become what their origins say. -/
lemma becomes_of_assembled (below : u.Obey nested) (extend : ExtendHeaps nested) {t : TypeId}
    {c : Template} {m : Manager} {h h' : Heap} {a b : Option Tracker} {fs : List Field}
    {vs : List Value} (idle : Idle a)
    (steps : u.Assembled nested c m (c.initials?.bind (·.fields?))
      ((u.desc t).canonical.bind (·.fields?)) h a fs vs b h') :
    vs.length = fs.length ∧
    ∃ ms : Nat → List Nat → Heap, (∀ k, Between h h' (ms k)) ∧
      ∀ k f, fs[k]? = some f → ∃ x, vs[k]? = some x ∧
        ∀ given, u.Becomes (ms k) h' b (u.originOf (ms k []) (.of t c given) f) x := by
  induction steps with
  | nil h a => exact ⟨rfl, fun _ _ => h, fun _ _ => ⟨.refl h, .refl h⟩, nofun⟩
  | @cons h h₁ h₂ a a₁ a₂ f fs v vs first rest ih =>
    have became := became_of_made idle first
    obtain ⟨later, kept⟩ := became.extends extend idle
    obtain ⟨laterRest, keptRest⟩ := rest.extends extend kept.idle
    obtain ⟨length, ms, between, becomes⟩ := ih kept.idle
    obtain ⟨m₀, start, between₀, becomes₀⟩ := becomes_of_became below became later
    refine ⟨congrArg Nat.succ length, fun k => k.casesOn m₀ ms, ?_, ?_⟩
    · intro k
      cases k with
      | zero => exact between₀.widen (.refl h) laterRest
      | succ k => exact (between k).widen later (.refl h₂)
    · intro k g hg
      cases k with
      | zero =>
        cases hg
        refine ⟨v, rfl, fun given => ?_⟩
        show u.Becomes m₀ h₂ a₂ (u.originOf (m₀ []) (.of t c given) f) v
        rw [start]
        have becomes := becomes₀ _ (value?_originOf h t c given f) originOf_of_value?_none
        exact becomes.later laterRest keptRest.buffers keptRest.present
      | succ k => exact becomes k g hg

/-- A type has its objects made field by field if it has a layout and leaves its constructions
alone. -/
lemma assembled?_eq_some {t : TypeId} {l : Layout} :
    u.assembled? t = some l ↔ u.leavesConstruction t = true ∧ u.layout? t = some l := by
  unfold assembled?
  split
  · rename_i leaves
    exact ⟨fun hl => ⟨leaves, hl⟩, fun both => both.2⟩
  · rename_i hooked
    exact ⟨nofun, fun both => absurd both.1 hooked⟩

/-- A field is where its index says. -/
lemma index_of_fieldAt? {t : TypeId} {i : Nat} {f : Field} (hf : u.fieldAt? t i = some f) :
    f.index = i := by
  obtain ⟨l, hl, place⟩ := Option.bind_eq_some_iff.1 hf
  exact index_of_getElem? (assembled?_eq_some.1 hl).2 place

/-- A construction that is left to the general algorithm follows the rule if those one level down
do. -/
lemma obey_constructStruct (below : u.Obey nested) (extend : ExtendHeaps nested) {t : TypeId}
    {c : Template} {h h' : Heap} {w : Value}
    (ran : (u.constructStruct nested t c).run.run h = (.ok w, h')) :
    u.ObjectOf t w ∧ ∃ m : List Nat → Heap, m [] = h ∧ Between h h' m ∧
      ∀ given, u.Follows m (.of t c given) h' w := by
  obtain ⟨l, manager, h₁, vs, b, hl, cells, rfl, _, steps⟩ := constructStruct_ok ran
  have idle := idle_new l.tracked (some manager)
  obtain ⟨length, ms, between, becomes⟩ := becomes_of_assembled below extend idle steps
  have before : h.Extends h₁ := .of_cells cells
  have after : h.Extends h' := before.trans (steps.extends extend idle).1
  refine ⟨fun l' hl' => ?_, fun p => p.casesOn h fun i q => ms i q, rfl, ?_, fun given => ?_⟩
  · cases hl.symm.trans (assembled?_eq_some.1 hl').2
    exact ⟨vs, _, rfl, length⟩
  · intro p
    cases p with
    | nil => exact ⟨.refl h, after⟩
    | cons i q => exact (between i).widen before (.refl h') q
  · refine follows_object (s := .of t c given) fun i f hf => ?_
    obtain ⟨l', hl', place⟩ := Option.bind_eq_some_iff.1 hf
    cases hl.symm.trans (assembled?_eq_some.1 hl').2
    obtain ⟨x, hx, becomes⟩ := becomes i f place
    refine ⟨x, hx, (becomes given).later (.refl h') ?_ ?_⟩
    · cases b <;> exact List.Subset.refl _
    · cases b <;> rfl

/-- Constructions of every depth follow the rule, by induction on the depth. -/
lemma obey_construct (u : Universe) (depth : Nat) : u.Obey (u.construct depth) := by
  induction depth with
  | zero =>
    intro t c h x h' ran
    cases ran
  | succ depth ih =>
    intro t c h x h' ran
    have later := u.extends_construct (depth + 1) t c h x h' ran
    cases hl : u.assembled? t with
    | none =>
      refine ⟨fun l hl' => ?_, fun _ => h, rfl, fun _ => ⟨.refl h, later⟩, fun given p o ho => ?_⟩
      · cases hl.symm.trans hl'
      · rw [originAt_of_not_assembled (s := .of t c given) hl] at ho
        cases ho
    | some l =>
      obtain ⟨leaves, hl⟩ := assembled?_eq_some.1 hl
      have ran := constructWith_struct_ok hl leaves (construct_ok ran)
      exact obey_constructStruct ih (u.extends_construct depth) ran

/-! ### What comes from the initials -/

/-- All along a path into an object the value is no default, as the check of its field in the type
of the object around it has it; at the first step it may be insisted on instead. -/
def Taken (u : Universe) (m : List Nat → Heap) (overrides : Nat → Bool) (v : Value)
    (p : List Nat) : Prop :=
  ∀ r i q, p = r ++ i :: q → ∃ t vs a f x, v.at? r = some (.object t vs a) ∧
    u.fieldAt? t i = some f ∧ vs[i]? = some x ∧
    (r = [] ∧ overrides i = true ∨ u.isDefault (m (r ++ [i])) f x = false)

/-- A field takes the value of its source if that is insisted on or is no default. -/
lemma originOf_eq_initial {h : Heap} {s : Start} {f : Field} {v : Value} :
    u.originOf h s f = .initial v ↔ s.given = true ∧ initialAt s.values f = some v ∧
      (s.overrides f.index = true ∨ u.isDefault h f v = false) := by
  have taken : ∀ w, (s.overrides f.index || !u.isDefault h f w) = true ↔
      s.overrides f.index = true ∨ u.isDefault h f w = false := fun w => by
    rw [Bool.or_eq_true, Bool.not_eq_true']
  unfold originOf
  constructor
  · intro origin
    split at origin
    · rename_i w picked
      obtain ⟨present, binding⟩ := Option.filter_eq_some_iff.1 picked
      split at origin
      · rename_i given
        cases origin
        exact ⟨given, present, (taken v).1 binding⟩
      · cases origin
    · split at origin <;> cases origin
  · rintro ⟨given, present, binding⟩
    rw [present, Option.filter_some, if_pos ((taken v).2 binding), given]
    rfl

/-- Inside of what does not come from the initials nothing does. -/
lemma originAt_of_not_given {p : List Nat} {m : List Nat → Heap} {s : Start} {v : Value}
    (other : s.given = false) : u.originAt m s p ≠ some (.initial v) := by
  -- an object that is copied from a default instance makes its values no initials either
  induction p generalizing m s with
  | nil => exact nofun
  | cons i p ih =>
    intro origin
    cases p with
    | nil =>
      obtain ⟨f, _, origin⟩ := Option.map_eq_some_iff.1 origin
      rw [(originOf_eq_initial.1 origin).1] at other
      cases other
    | cons j p =>
      obtain ⟨s', hs', origin⟩ := Option.bind_eq_some_iff.1 origin
      obtain ⟨f, _, hs'⟩ := Option.bind_eq_some_iff.1 hs'
      refine ih ?_ origin
      cases ho : u.originOf (m [i]) s f with
      | initial w =>
        rw [(originOf_eq_initial.1 ho).1] at other
        cases other
      | preset w =>
        rw [ho] at hs'
        cases w with
        | object t vs a =>
          cases hs'
          rfl
        | _ => cases hs'
      | blank declared =>
        rw [ho] at hs'
        cases declared with
        | none => cases hs'
        | some t =>
          cases hs'
          rfl

/-- Only from an object anything inside is taken. -/
lemma taken_object {m : List Nat → Heap} {overrides : Nat → Bool} {v : Value} {i : Nat}
    {p : List Nat} (taken : u.Taken m overrides v (i :: p)) : ∃ t vs a, v = .object t vs a := by
  obtain ⟨t, vs, a, _, _, here, _⟩ := taken [] i p rfl
  cases here
  exact ⟨t, vs, a, rfl⟩

/-- The first field on the way is overridden, or is no default when it is asked about. -/
lemma taken_first {m : List Nat → Heap} {overrides : Nat → Bool} {t : TypeId} {vs : List Value}
    {a : Option Tracker} {i : Nat} {p : List Nat}
    (taken : u.Taken m overrides (.object t vs a) (i :: p)) :
    ∃ f x, u.fieldAt? t i = some f ∧ vs[i]? = some x ∧
      (overrides i = true ∨ u.isDefault (m [i]) f x = false) := by
  obtain ⟨t', vs', a', f, x, here, hf, hx, binding⟩ := taken [] i p rfl
  cases here
  refine ⟨f, x, hf, hx, ?_⟩
  rcases binding with ⟨_, insisted⟩ | no_default
  · exact .inl insisted
  · exact .inr no_default

/-- One field on: it is taken itself, and from it what is inside, where nothing is overridden. -/
lemma taken_cons {m : List Nat → Heap} {overrides : Nat → Bool} {t : TypeId} {vs : List Value}
    {a : Option Tracker} {i j : Nat} {p : List Nat} :
    u.Taken m overrides (.object t vs a) (i :: j :: p) ↔
      ∃ f x, u.fieldAt? t i = some f ∧ vs[i]? = some x ∧
        (overrides i = true ∨ u.isDefault (m [i]) f x = false) ∧
        u.Taken (fun q => m (i :: q)) (fun _ => false) x (j :: p) := by
  constructor
  · intro taken
    obtain ⟨f, x, hf, hx, binding⟩ := taken_first taken
    refine ⟨f, x, hf, hx, binding, fun r k q split => ?_⟩
    obtain ⟨t', vs', a', g, y, there, hg, hy, binding⟩ := taken (i :: r) k q (by rw [split]; rfl)
    rw [Value.at?, hx] at there
    refine ⟨t', vs', a', g, y, there, hg, hy, .inr ?_⟩
    rcases binding with ⟨impossible, _⟩ | no_default
    · cases impossible
    · exact no_default
  · rintro ⟨f, x, hf, hx, binding, deeper⟩ r k q split
    cases r with
    | nil =>
      cases split
      refine ⟨t, vs, a, f, x, rfl, hf, hx, ?_⟩
      rcases binding with insisted | no_default
      · exact .inl ⟨rfl, insisted⟩
      · exact .inr no_default
    | cons i' r =>
      obtain ⟨rfl, deep⟩ := List.cons.inj split
      obtain ⟨t', vs', a', g, y, there, hg, hy, binding⟩ := deeper r k q deep
      refine ⟨t', vs', a', g, y, ?_, hg, hy, .inr ?_⟩
      · rw [Value.at?, hx]
        exact there
      · rcases binding with ⟨_, impossible⟩ | no_default
        · cases impossible
        · exact no_default

/-- A path of one step is taken if the value there is. -/
lemma taken_singleton {m : List Nat → Heap} {overrides : Nat → Bool} {t : TypeId} {vs : List Value}
    {a : Option Tracker} {i : Nat} :
    u.Taken m overrides (.object t vs a) [i] ↔ ∃ f x, u.fieldAt? t i = some f ∧ vs[i]? = some x ∧
      (overrides i = true ∨ u.isDefault (m [i]) f x = false) := by
  refine ⟨taken_first, ?_⟩
  rintro ⟨f, x, hf, hx, binding⟩ r k q split
  -- there is only one way to take a path of one step apart
  obtain ⟨rfl, rfl⟩ : r = [] ∧ k = i := by
    cases r with
    | nil =>
      cases split
      exact ⟨rfl, rfl⟩
    | cons _ r =>
      have impossible := (List.cons.inj split).2
      cases r <;> cases impossible
  exact ⟨t, vs, a, f, x, rfl, hf, hx, binding.imp_left fun insisted => ⟨rfl, insisted⟩⟩

/-- Where a field of given values takes its value from them. -/
lemma originOf_eq_initial_of_values {h : Heap} {s : Start} {vs : List Value} {i : Nat} {f : Field}
    {v : Value} (given : s.given = true) (values : s.values = some vs)
    (hf : u.fieldAt? s.type i = some f) :
    u.originOf h s f = .initial v ↔
      vs[i]? = some v ∧ (s.overrides i = true ∨ u.isDefault h f v = false) := by
  rw [originOf_eq_initial, initialAt, values, Option.bind_some, index_of_fieldAt? hf]
  exact and_iff_right given

/-- The origin at the end of a path is an initial if and only if the path is taken. -/
lemma originAt_eq_initial {p : List Nat} (ne : p ≠ []) {m : List Nat → Heap} {s : Start}
    {vs : List Value} {a : Option Tracker} {v : Value} (given : s.given = true)
    (values : s.values = some vs) :
    u.originAt m s p = some (.initial v) ↔
      (Value.object s.type vs a).at? p = some v ∧
        u.Taken m s.overrides (.object s.type vs a) p := by
  -- further down nothing is insisted on, so the overrides vary with the start
  induction p generalizing m s vs a with
  | nil => exact absurd rfl ne
  | cons i p ih =>
    cases p with
    | nil =>
      rw [taken_singleton]
      constructor
      · intro origin
        obtain ⟨f, hf, origin⟩ := Option.map_eq_some_iff.1 origin
        obtain ⟨present, binding⟩ := (originOf_eq_initial_of_values given values hf).1 origin
        exact ⟨by rw [Value.at?, present]; rfl, f, v, hf, present, binding⟩
      · rintro ⟨place, f, x, hf, hx, binding⟩
        rw [Value.at?, hx] at place
        cases place
        refine Option.map_eq_some_iff.2 ⟨f, hf, ?_⟩
        exact (originOf_eq_initial_of_values given values hf).2 ⟨hx, binding⟩
    | cons j p =>
      rw [taken_cons]
      constructor
      · intro origin
        obtain ⟨s', hs', origin⟩ := Option.bind_eq_some_iff.1 origin
        obtain ⟨f, hf, hs'⟩ := Option.bind_eq_some_iff.1 hs'
        have given' : s'.given = true := by
          by_contra other
          exact originAt_of_not_given (Bool.eq_false_iff.2 other) origin
        obtain ⟨t, ws, b, initial, rfl⟩ := Origin.start_of_given hs' given'
        obtain ⟨present, binding⟩ := (originOf_eq_initial_of_values given values hf).1 initial
        obtain ⟨place, deeper⟩ := (ih (List.cons_ne_nil j p) (a := b) rfl rfl).1 origin
        refine ⟨?_, f, _, hf, present, binding, deeper⟩
        rw [Value.at?, present]
        exact place
      · rintro ⟨place, f, x, hf, hx, binding, deeper⟩
        obtain ⟨t, ws, b, rfl⟩ := taken_object deeper
        rw [Value.at?, hx] at place
        have initial : u.originOf (m [i]) s f = .initial (.object t ws b) :=
          (originOf_eq_initial_of_values given values hf).2 ⟨hx, binding⟩
        refine Option.bind_eq_some_iff.2 ⟨{ type := t, values := some ws, given := true },
          Option.bind_eq_some_iff.2 ⟨f, hf, by rw [initial]; rfl⟩, ?_⟩
        exact (ih (List.cons_ne_nil j p) (a := b) rfl rfl).2 ⟨place, deeper⟩

/-- The initials of a construction that succeeds are an object of the type. -/
lemma object_of_initials {depth : Nat} {t : TypeId} {l : Layout} (hl : u.layout? t = some l)
    {c : Template} {h h' : Heap} {w v : Value}
    (ran : (u.construct depth t c).run.run h = (.ok w, h')) (hv : c.initials? = some v) :
    ∃ vs a, v = .object t vs a := by
  cases depth with
  | zero => cases ran
  | succ depth =>
    have same := isExact_of_ok (construct_ok ran) hv
    have present := (Option.filter_eq_some_iff.1 hv).2
    cases v with
    | object s vs a =>
      cases of_decide_eq_true same
      exact ⟨vs, a, rfl⟩
    | null => cases present
    | _ =>
      change u.accepts t _ = true at same
      rw [accepts_struct hl] at same
      cases same

/-- No check of a field changes its mind between two heaps. -/
def Steady (u : Universe) (h h' : Heap) : Prop :=
  ∀ g, h.Extends g → g.Extends h' → ∀ f v, u.isDefault g f v = u.isDefault h f v

/-- Between two moments that do not differ for the checks all origins are those of the first one. -/
lemma originAt_of_steady {h h' : Heap} (steady : u.Steady h h') {m : List Nat → Heap}
    (between : Between h h' m) (s : Start) (p : List Nat) :
    u.originAt m s p = u.originAt (fun _ => h) s p := by
  have origin : ∀ q s f, u.originOf (m q) s f = u.originOf h s f := fun q s f => by
    have same : ∀ v, u.isDefault (m q) f v = u.isDefault h f v :=
      steady (m q) (between q).1 (between q).2 f
    unfold originOf
    rw [funext same]
  induction p generalizing m s with
  | nil => rfl
  | cons i p ih =>
    cases p with
    | nil =>
      rw [originAt, originAt, funext (origin [i] s)]
    | cons j p =>
      rw [originAt, originAt, funext fun f => congrArg Origin.start (origin [i] s f)]
      congr 1
      funext s'
      exact ih (fun q => between (i :: q)) s' fun q => origin (i :: q)

/-- An object of a struct type without a hook that was constructed is what the origins say, at every
depth, and a value comes from the initials if and only if its path into them is taken. -/
theorem construct_default_rule {depth : Nat} {t : TypeId} {l : Layout} {c : Template}
    {h h' : Heap} {w : Value} (hl : u.layout? t = some l) (leaves : u.leavesConstruction t = true)
    (ran : (u.construct depth t c).run.run h = (.ok w, h')) :
    (∃ vs a, w = .object t vs a ∧ vs.length = l.fields.length) ∧
    ∃ m : List Nat → Heap, Between h h' m ∧ u.Follows m (.of t c true) h' w ∧
      (∀ v₀, c.initials? = some v₀ → ∀ p v, p ≠ [] → v₀.at? p = some v →
        (u.originAt m (.of t c true) p = some (.initial v) ↔ u.Taken m c.overrides v₀ p)) ∧
      (u.Steady h h' → u.originAt m = u.originAt fun _ => h) := by
  obtain ⟨object, m, _, between, follows⟩ := u.obey_construct depth t c h w h' ran
  refine ⟨object l (assembled?_eq_some.2 ⟨leaves, hl⟩), m, between, follows true, ?_, ?_⟩
  · intro v₀ hv₀ p v ne place
    obtain ⟨vs, a, rfl⟩ := object_of_initials hl ran hv₀
    have values : (Start.of t c true).values = some vs := by
      show c.initials?.bind (·.fields?) = some vs
      rw [hv₀]
      rfl
    have origin := originAt_eq_initial (u := u) ne (m := m) (a := a) (v := v) rfl values
    exact origin.trans ⟨And.right, fun taken => ⟨place, taken⟩⟩
  · intro steady
    funext s p
    exact originAt_of_steady steady between s p

/-- The part is taken from the initials because it is insisted on. Its flag, which is a default, is
not, and it is set. -/
theorem construct_default_rule_whole :
    let no : Value := .scalar (.bool false)
    let yes : Value := .scalar (.bool true)
    let c : Template :=
      { initials := some (.object 20 [.object 19 [no] none, yes] none), overrideAt := some (· = 0) }
    let w : Value := .object 20 [.object 19 [yes] none, yes] none
    ∃ h' m, (withWhole.construct 2 20 c).run.run {} = (.ok w, h') ∧
      withWhole.Follows m (.of 20 c true) h' w ∧
      withWhole.originAt m (.of 20 c true) [0] = some (.initial (.object 19 [no] none)) ∧
      withWhole.originAt m (.of 20 c true) [0, 0] = some (.preset yes) ∧
      withWhole.originAt m (.of 20 c true) [1] = some (.initial yes) := by
  intro no yes c w
  have ran : (withWhole.construct 2 20 c).run.run {} =
      (.ok w, { processManager := some .system }) := rfl
  obtain ⟨_, m, _, follows, _⟩ := construct_default_rule (u := withWhole) rfl rfl ran
  exact ⟨_, m, ran, follows, rfl, rfl, rfl⟩

end Universe

end Metaobject
