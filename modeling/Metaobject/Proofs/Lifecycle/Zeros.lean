import Metaobject.Proofs.Lifecycle.Abandonment
import Metaobject.Proofs.Lifecycle.Origins
import Metaobject.Proofs.Lifecycle.Unseen

/-!
# Zeros, taken or constructed

The zero of a type is put together from the declared types alone, while a construction asks at every
field for initials, for the default instance, and for a construction one level down. Where there is
nothing to be found the two come to the same: `Universe.construct_eq_zeroOf` says that such a
construction makes the zero, with trackers that are ready for use, and does nothing to the heap but
to settle on the manager of the process.
-/

namespace Metaobject

open Attempt

namespace Value

mutual

/-- The value with every tracker in it bound to a manager, and on the heap. -/
def boundTo (m : Manager) : Value → Value
  | object type fields tracker =>
    object type (allBoundTo m fields)
      (tracker.map fun t => { t with manager := some m, onHeap := true })
  | v => v

/-- The same for the values of an object. -/
def allBoundTo (m : Manager) : List Value → List Value
  | [] => []
  | v :: vs => v.boundTo m :: allBoundTo m vs

end

/-- Values are bound one by one. -/
lemma allBoundTo_eq_map (m : Manager) (vs : List Value) :
    allBoundTo m vs = vs.map (·.boundTo m) := by
  induction vs with
  | nil => rfl
  | cons v vs ih => rw [allBoundTo, ih, List.map_cons]

/-- What is no object has no tracker to bind. -/
lemma boundTo_of_plain {v : Value} (plain : v.isObject = false) (m : Manager) :
    v.boundTo m = v := by
  cases v with
  | object => cases plain
  | _ => rfl

/-- What is no object is its own raw copy. -/
lemma rawCopy_of_plain {v : Value} (plain : v.isObject = false) : v.rawCopy = v := by
  cases v with
  | object => cases plain
  | _ => rfl

end Value

namespace Universe

/-- A field of the first type is declared with the second one, or there are types between them for
which that is so. -/
def Reaches (u : Universe) : TypeId → TypeId → Prop :=
  Relation.ReflTransGen fun t s => ∃ l f, u.layout? t = some l ∧ f ∈ l.fields ∧ f.type = some s

/-- Nothing but zeros can be found along the types of fields: structs have no say in how they are
constructed and no default instance, and the default of any other type is its zero. -/
structure Blank (u : Universe) (t : TypeId) : Prop where
  struct : ∀ s, u.Reaches t s → (u.layout? s).isSome = true →
    u.leavesConstruction s = true ∧ (u.desc s).canonical = none
  other : ∀ s, u.Reaches t s → u.layout? s = none →
    ∀ v, (u.desc s).canonical = some v → v = u.zeroOf s

/-- The template has nothing for the fields of a type: there are no initials, or all of them are
zero, no field has a check of its own, and the template insists on none. -/
def SuppliesNothing (t : TypeId) (l : Layout) (c : Template) : Prop :=
  c.initials? = none ∨ ∃ vs tracker, c.initials? = some (.object t vs tracker) ∧
    vs.length = l.fields.length ∧ (∀ v ∈ vs, v.isZero = true) ∧
    ∀ f ∈ l.fields, f.check = none ∧ c.overrides f.index = false

variable {u : Universe} {t s : TypeId} {l : Layout} {c : Template}

/-! ### Zeros -/

/-- The zero of a type is zero at every depth. -/
lemma isZero_zeroOf (u : Universe) (t : TypeId) : (u.zeroOf t).isZero = true := by
  refine zeroOf_forall (P := (·.isZero = true)) (fun k => ?_) (fun t l vs _ _ inside => ?_) t
  · cases k with
    | scalar k => exact Scalar.isZero_zero k
    | _ => rfl
  · rw [Value.isZero, Value.allZero_eq_all, List.all_eq_true]
    exact inside

/-- The zero of a type that is no struct goes by its kind. -/
lemma zeroOf_of_kind {k : TypeKind} (hk : (u.desc t).kind = k) (other : ∀ l, k ≠ .struct l) :
    u.zeroOf t = k.zero := by
  subst hk
  exact zeroOf_plain (layout?_eq_none other)

/-- The types that are always there have no default but their zero. -/
lemma canonical_builtin {v : Value} (hv : (builtin.desc t).canonical = some v) :
    v = builtin.zeroOf t := by
  rcases zero_of_canonical_builtin hv with ⟨k, hk, rfl⟩ | ⟨k, hk, rfl⟩
  · exact (zeroOf_of_kind hk nofun).symm
  · exact (zeroOf_of_kind hk nofun).symm

/-! ### What can be reached -/

/-- The types of the fields of a blank type are blank. -/
lemma Blank.inside (blank : u.Blank t) (hl : u.layout? t = some l) {f : Field} (hf : f ∈ l.fields)
    (hs : f.type = some s) : u.Blank s := by
  have step : u.Reaches t s := .single ⟨l, f, hl, hf, hs⟩
  exact ⟨fun r hr => blank.struct r (step.trans hr), fun r hr => blank.other r (step.trans hr)⟩

/-- A struct is blank if the types of its fields are. -/
lemma Blank.of_fields (hl : u.layout? t = some l) (leaves : u.leavesConstruction t = true)
    (none : (u.desc t).canonical = none)
    (inside : ∀ f ∈ l.fields, ∀ s, f.type = some s → u.Blank s) : u.Blank t := by
  constructor
  · intro r hr hasLayout
    rcases hr.cases_head with rfl | ⟨s, ⟨l', f, hl', hf, hs⟩, above⟩
    · exact ⟨leaves, none⟩
    · cases hl.symm.trans hl'
      exact (inside f hf s hs).struct r above hasLayout
  · intro r hr noLayout
    rcases hr.cases_head with rfl | ⟨s, ⟨l', f, hl', hf, hs⟩, above⟩
    · cases hl.symm.trans noLayout
    · cases hl.symm.trans hl'
      exact (inside f hf s hs).other r above noLayout

/-- From a type that is no struct nothing else is reached. -/
lemma Blank.of_plain (plain : u.layout? t = none)
    (zero : ∀ v, (u.desc t).canonical = some v → v = u.zeroOf t) : u.Blank t := by
  have alone : ∀ r, u.Reaches t r → r = t := by
    intro r hr
    rcases hr.cases_head with rfl | ⟨_, ⟨l, _, hl, _⟩, _⟩
    · rfl
    · cases plain.symm.trans hl
  constructor
  · intro r hr hasLayout
    rw [alone r hr, plain] at hasLayout
    cases hasLayout
  · intro r hr _
    rw [alone r hr]
    exact zero

/-! ### Constructions from nothing -/

/-- Nothing is copied into a field. -/
lemma sourceOf_of_suppliesNothing (nothing : SuppliesNothing t l c)
    (none : (u.desc t).canonical = none) (h : Heap) {f : Field} (hf : f ∈ l.fields) :
    u.sourceOf h c (c.initials?.bind (·.fields?)) ((u.desc t).canonical.bind (·.fields?)) f =
      Option.none := by
  have noDefault : defaultAt ((u.desc t).canonical.bind (·.fields?)) f = Option.none := by
    rw [none]
    rfl
  rw [sourceOf_eq, noDefault, Option.or_none, Option.filter_eq_none_iff]
  rcases nothing with absent | ⟨vs, tracker, given, _, zero, usual⟩
  · rw [absent]
    rintro v ⟨⟩
  · rw [given]
    intro v hv
    -- the initial is there, but it counts as the default of its field
    obtain ⟨unchecked, free⟩ := usual f hf
    have isZero := zero v (List.mem_of_getElem? hv)
    rw [prefersInitial, free, isDefault, unchecked]
    simp [isZero]

/-- An object into which nothing is copied has in its fields what is made for them. -/
lemma run_constructFields_default {nested : TypeId → Template → Attempt Value} {m : Manager}
    {initials canonical : Option (List Value)} {fs : List Field} {w : Field → Value} {h : Heap}
    (none : ∀ f ∈ fs, u.sourceOf h c initials canonical f = none)
    (default : ∀ f ∈ fs, (u.defaultFor nested m f).run.run h = (.ok (w f), h)) :
    ∀ (built : List Value) (tracker : Option Tracker),
      (u.constructFields nested t c m initials canonical fs built tracker).run.run h =
        (.ok (finish t (built ++ fs.map w) tracker), h) := by
  induction fs with
  | nil =>
    intro built tracker
    rw [List.map_nil, List.append_nil]
    rfl
  | cons f fs ih =>
    intro built tracker
    have made : (u.made nested c m initials canonical h f tracker).run.run h =
        (.ok (w f, tracker), h) := by
      rw [Universe.made, none f List.mem_cons_self, ExceptT.run_bind, StateT.run_bind,
        default f List.mem_cons_self]
      rfl
    rw [constructFields_cons, run_get, run_outcome, made, List.map_cons, List.append_cons]
    exact ih (fun g hg => none g (List.mem_cons_of_mem f hg))
      (fun g hg => default g (List.mem_cons_of_mem f hg)) (built ++ [w f]) tracker

/-- What is made for a field is the zero of its type, if that is what a construction makes of any
struct among the types. -/
lemma run_defaultFor_blank {nested : TypeId → Template → Attempt Value} {m : Manager} {f : Field}
    {h : Heap} (blank : ∀ s, f.type = some s → u.Blank s)
    (below : ∀ s ls, f.type = some s → u.layout? s = some ls →
      (nested s { manager := some m }).run.run h = (.ok ((u.zeroOf s).boundTo m), h)) :
    (u.defaultFor nested m f).run.run h = (.ok ((f.type.elim .null u.zeroOf).boundTo m), h) := by
  rw [defaultFor]
  cases hs : f.type with
  | none => rfl
  | some s =>
    dsimp only
    rw [Option.elim_some]
    cases hls : u.layout? s with
    | some ls =>
      rw [if_pos Option.isSome_some]
      exact below s ls hs hls
    | none =>
      have plain := (zeroOf_of_plain hls).1
      rw [if_neg (by simp), Value.boundTo_of_plain plain]
      cases hv : (u.desc s).canonical with
      | none => rfl
      | some v =>
        rw [(blank s hs).other s .refl hls v hv, Option.elim_some, Value.rawCopy_of_plain plain]
        rfl

/-- Where nothing is found a construction makes the zero of the type. -/
lemma run_construct_blank (hl : u.layout? t = some l) (blank : u.Blank t)
    (nothing : SuppliesNothing t l c) {depth : Nat} (enough : t < depth) (h : Heap) :
    (u.construct depth t c).run.run h =
      (.ok ((u.zeroOf t).boundTo ((u.managerFor t c).run h).1), ((u.managerFor t c).run h).2) := by
  -- the types of fields were made earlier, and so the levels suffice
  induction t using Nat.strongRecOn generalizing l c depth h with
  | ind t ih =>
    obtain _ | depth := depth
    · exact absurd enough (Nat.not_lt_zero t)
    obtain ⟨leaves, none⟩ := blank.struct t .refl (by rw [hl]; rfl)
    have kind := kind_of_layout? hl
    have exact : ∀ v, c.initials? = some v → u.isExact t v = true := by
      intro v hv
      rcases nothing with absent | ⟨vs, tracker, given, _⟩
      · cases absent.symm.trans hv
      · cases given.symm.trans hv
        exact decide_eq_true rfl
    have counted : ∀ vs, c.initials?.bind (·.fields?) = some vs ∨
        (u.desc t).canonical.bind (·.fields?) = some vs → vs.length = l.fields.length := by
      rw [none]
      rintro vs (initials | ⟨⟨⟩⟩)
      rcases nothing with absent | ⟨ws, tracker, given, len, _⟩
      · rw [absent] at initials
        cases initials
      · rw [given] at initials
        cases initials
        exact len
    have default : ∀ m h, ∀ f ∈ l.fields, (u.defaultFor (u.construct depth) m f).run.run h =
        (.ok ((f.type.elim .null u.zeroOf).boundTo m), h) := by
      intro m h f hf
      refine run_defaultFor_blank (fun s hs => blank.inside hl hf hs) fun s ls hs hls => ?_
      have lt := u.fieldType_lt kind hf hs
      have enough := Nat.lt_of_lt_of_le lt (Nat.le_of_lt_succ enough)
      have absent : Template.initials? { manager := some m } = .none := rfl
      exact ih s lt hls (blank.inside hl hf hs) (.inl absent) enough h
    have ran : (u.constructWith (u.construct depth) t c).run.run h =
        (.ok ((u.zeroOf t).boundTo ((u.managerFor t c).run h).1),
          ((u.managerFor t c).run h).2) := by
      rw [constructWith_of_leaves hl leaves exact, run_constructStruct hl counted,
        run_constructFields_default (fun f => sourceOf_of_suppliesNothing nothing none _)
          (default _ _), zeroOf_struct kind, Value.boundTo, Value.allBoundTo_eq_map, List.map_map,
        List.nil_append, finish]
      cases l.tracked <;> rfl
    rw [construct, run_outcome, ran]
    rfl

/-- The manager that serves a construction is that of the template, of the type or of the process,
on which it may have to settle. -/
lemma run_managerFor (t : TypeId) (c : Template) (h : Heap) :
    (u.managerFor t c).run h =
      (((c.manager.or (u.desc t).manager).or h.processManager).getD .system,
        { h with processManager := if (c.manager.or (u.desc t).manager).isSome then h.processManager
          else some (((c.manager.or (u.desc t).manager).or h.processManager).getD .system) }) := by
  rw [managerFor]
  cases c.manager.or (u.desc t).manager with
  | some m => rfl
  | none => rfl

/-- Where nothing is found a construction comes to the zero of the type, with trackers that are bound
to the manager that serves it and say that their objects live on the heap. Nothing is allocated. The
zero of a type is one of its values, and it is zero. -/
theorem construct_eq_zeroOf (u : Universe) {t : TypeId} {l : Layout} (hl : u.layout? t = some l)
    (blank : u.Blank t) {c : Template} (nothing : SuppliesNothing t l c) {depth : Nat}
    (enough : t < depth) (h : Heap) :
    (let named := c.manager.or (u.desc t).manager
      let m := (named.or h.processManager).getD .system
      (u.constructReporting depth t c).run h =
        ((.ok ((u.zeroOf t).boundTo m), c.message),
          { h with processManager := if named.isSome then h.processManager else some m })) ∧
    (∀ s, u.accepts s (u.zeroOf s) = true ∧ (u.zeroOf s).isZero = true) ∧
    ∀ s v, (builtin.desc s).canonical = some v → v = builtin.zeroOf s := by
  refine ⟨?_, fun s => ⟨?_, u.isZero_zeroOf s⟩, fun s v => canonical_builtin⟩
  · rw [constructReporting, StateT.run_bind, run_construct_blank hl blank nothing enough,
      run_managerFor]
    rfl
  · exact (isWellTyped_iff.1 (u.isWellTyped_zeroOf s)).1

/-- Types with a cabinet, which has a drawer, a flag and a note. In the drawer there may be an
identity, a type, an opaque value and bytes. -/
def withCabinet : Universe :=
  let sealed : Declaration := { name := "Sealed", shape := .blackBox 4 }
  let drawer : Declaration :=
    { name := "Drawer"
      shape := .struct [⟨"key", .typed 15, false, none⟩, ⟨"kind", .typed 17, false, none⟩,
        ⟨"content", .typed 19, false, none⟩, ⟨"label", .typed 14, true, none⟩] none true }
  let cabinet : Declaration :=
    { name := "Cabinet"
      shape := .struct [⟨"drawer", .typed 20, false, none⟩, ⟨"locked", .typed 0, false, none⟩,
        ⟨"note", .untyped 8, false, none⟩] none true }
  match (builtin.declare {} sealed).bind fun (_, u) => (u.declare {} drawer).bind fun (_, u) =>
      u.declare {} cabinet with
  | some (_, u) => u
  | none => builtin

/-- Nothing in a cabinet has hooks or a default. -/
lemma blank_cabinet : withCabinet.Blank 21 := by
  have drawer : withCabinet.Blank 20 := by
    refine .of_fields rfl rfl rfl fun f hf s hs => ?_
    rcases hf with _ | ⟨_, _ | ⟨_, _ | ⟨_, _ | ⟨_, ⟨⟩⟩⟩⟩⟩
    all_goals
      cases hs
      refine .of_plain rfl fun v hv => ?_
      cases hv
    exact (zeroOf_plain (u := withCabinet) (t := 15) rfl).symm
  refine .of_fields rfl rfl rfl fun f hf s hs => ?_
  rcases hf with _ | ⟨_, _ | ⟨_, _ | ⟨_, ⟨⟩⟩⟩⟩
  · cases hs
    exact drawer
  · cases hs
    refine .of_plain rfl fun v hv => ?_
    cases hv
    exact (zeroOf_plain (u := withCabinet) (t := 0) rfl).symm
  · cases hs

/-- A cabinet that is made from nothing but zeros is the zero of its type, made ready. -/
theorem construct_eq_zeroOf_cabinet :
    let c : Template := { initials := some (.object 21 [.object 20 [.null, .null, .null, .null]
      (some {}), .scalar (.bool false), .null] (some {})) }
    let ready : Option Tracker := some { manager := some .system, onHeap := true }
    withCabinet.Blank 21 ∧ (∃ l, withCabinet.layout? 21 = some l ∧ SuppliesNothing 21 l c) ∧
      (withCabinet.constructReporting 22 21 c).run {} =
        ((.ok (.object 21 [.object 20 [.reference .object 0, .null, .null, .null] ready,
          .scalar (.bool false), .null] ready), none), { processManager := some .system }) := by
  intro c ready
  obtain ⟨l, hl, nothing⟩ : ∃ l, withCabinet.layout? 21 = some l ∧ SuppliesNothing 21 l c := by
    refine ⟨_, rfl, .inr ⟨_, _, rfl, rfl, by decide, fun f hf => ?_⟩⟩
    rcases hf with _ | ⟨_, _ | ⟨_, _ | ⟨_, ⟨⟩⟩⟩⟩
    all_goals exact ⟨rfl, rfl⟩
  have drawer : withCabinet.zeroOf 20 =
      .object 20 [.reference .object 0, .null, .null, .null] (some {}) := by
    rw [zeroOf_struct rfl]
    show Value.object 20 [withCabinet.zeroOf 15, withCabinet.zeroOf 17, withCabinet.zeroOf 19,
      withCabinet.zeroOf 14] (some {}) = _
    rw [zeroOf_plain rfl, zeroOf_plain rfl, zeroOf_plain rfl, zeroOf_plain rfl]
    rfl
  have cabinet : withCabinet.zeroOf 21 =
      .object 21 [withCabinet.zeroOf 20, .scalar (.bool false), .null] (some {}) := by
    rw [zeroOf_struct rfl]
    show Value.object 21 [_, withCabinet.zeroOf 0, .null] (some {}) = _
    rw [zeroOf_plain rfl]
    rfl
  refine ⟨blank_cabinet, ⟨l, hl, nothing⟩, ?_⟩
  refine (construct_eq_zeroOf withCabinet hl blank_cabinet nothing (by decide) {}).1.trans ?_
  rw [cabinet, drawer]
  rfl

end Universe

end Metaobject
