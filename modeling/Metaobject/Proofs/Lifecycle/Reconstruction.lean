import Metaobject.Proofs.Comparison.Content
import Metaobject.Proofs.Lifecycle.Origins

/-!
# Constructing again

An object that was constructed may be the initials of another construction, and then every field is
decided once more, by looking at the object. Where no field has a check of its own, nothing comes of
that: `Universe.construct_idempotent`. A field whose value is no zero is copied, and what is inside
of it was decided in the same way; a field whose value is a zero was not taken from the initials,
for nothing that is no zero becomes one (`Universe.Holds.isZero_eq_false`), and so it comes from the
same default again, which leads to the same content (`Universe.Built.agrees`).
-/

namespace Metaobject

open Value (Agrees)

namespace Universe

/-- Constructions depend on nothing but the content of what they start from: there are no hooks, no
field has a check of its own, and only structs have objects for their defaults. -/
structure Simple (u : Universe) : Prop where
  hooks : u.HookFree
  unchecked : ∀ t l, u.layout? t = some l → ∀ f ∈ l.fields, f.check = none
  formed : u.DefaultsFormed
  plain : u.PlainDefaults

variable {u : Universe} {h h' : Heap}

/-! ### What a construction has made -/

/-- The value was built from the start, whatever happened meanwhile. -/
structure Built (u : Universe) (h : Heap) (s : Start) (x : Value) : Prop where
  formed : u.isFormed x = true
  object : u.ObjectOf s.type x
  follows : ∃ m, u.Follows m s h x

/-- The value that a field holds unless it holds an object. -/
def plainOf (u : Universe) : Origin → Option Value
  | .initial v | .preset v => if v.isObject then none else some v
  | .blank none => some .null
  | .blank (some t) =>
    if (u.layout? t).isSome then none
    else some ((u.desc t).canonical.elim (u.zeroOf t) (·.rawCopy))

/-- What a field holds, by its origin, whoever owns the buffers. -/
inductive Holds (u : Universe) (h : Heap) (o : Origin) : Value → Prop where
  | object {s : Start} {l : Layout} {x : Value} (start : o.start = some s)
    (hl : u.layout? s.type = some l) (built : u.Built h s x) : Holds u h o x
  | plain {z x : Value} (value : u.plainOf o = some z) (agrees : z.Agrees h x) : Holds u h o x

/-- A value that is no object is taken as it is. -/
lemma plainOf_of_value? {o : Origin} {v : Value} (value : o.value? = some v)
    (plain : v.isObject = false) : u.plainOf o = some v := by
  cases o with
  | initial w | preset w =>
    cases value
    rw [plainOf, plain]
    rfl
  | blank => cases value

/-- From where a construction starts nothing is taken as it is. -/
lemma plainOf_of_start {o : Origin} {s : Start} {l : Layout} (start : o.start = some s)
    (hl : u.layout? s.type = some l) : u.plainOf o = none := by
  cases o with
  | initial v | preset v =>
    cases v with
    | object => rfl
    | _ => cases start
  | blank declared =>
    cases declared with
    | none => cases start
    | some t =>
      cases start
      rw [plainOf, hl]
      rfl

/-- Where defaults are simple, what is taken as it is is no object. -/
lemma isObject_plainOf (simple : u.Simple) {o : Origin} {z : Value} (value : u.plainOf o = some z) :
    z.isObject = false := by
  cases o with
  | initial v | preset v =>
    rw [plainOf] at value
    split at value
    · cases value
    · rename_i plain
      cases value
      exact Bool.eq_false_iff.2 plain
  | blank declared =>
    cases declared with
    | none =>
      cases value
      rfl
    | some t =>
      rw [plainOf] at value
      split at value
      · cases value
      · rename_i none
        cases value
        exact isObject_default simple.plain (Option.not_isSome_iff_eq_none.1 none)

/-- A field that has become what its origin says holds that. -/
lemma holds_of_filled {m : List Nat → Heap} {a : Option Tracker} {o : Origin} {x : Value}
    (filled : u.Filled m h a o x) (formed : u.isFormed x = true) : u.Holds h o x := by
  cases filled with
  | object start hl object follows => exact .object start hl ⟨formed, object, m, follows⟩
  | adopted value _ _ known copy => exact .plain (plainOf_of_value? value rfl) (.bytes known copy)
  | shared value => exact .plain (plainOf_of_value? value rfl) (.same rfl)
  | same value object => exact .plain (plainOf_of_value? value object) (.same object)
  | null => exact .plain rfl (.same rfl)
  | default none =>
    refine .plain ?_ (.refl h _)
    rw [plainOf, none]
    rfl

/-! ### Where the values come from -/

/-- The values of a start are formed, and they count as presets. -/
structure Proper (u : Universe) (s : Start) : Prop where
  given : s.given = false
  formed : s.All (u.isFormed · = true)

/-- Where the value of a field comes from that is not taken from what the object starts from. -/
def fallback (u : Universe) (t : TypeId) (f : Field) : Origin :=
  match defaultAt ((u.desc t).canonical.bind (·.fields?)) f with
  | some v => .preset v
  | none => .blank f.type

/-- A value is taken if that is insisted on or if it is no zero. -/
lemma originOf_of_taken {s : Start} {f : Field} {v : Value} (proper : u.Proper s)
    (unchecked : f.check = none) (present : initialAt s.values f = some v)
    (taken : s.overrides f.index = true ∨ v.isZero = false) : u.originOf h s f = .preset v := by
  have binding : (s.overrides f.index || !u.isDefault h f v) = true := by
    rw [isDefault, unchecked]
    rcases taken with insisted | nonzero
    · rw [insisted, Bool.true_or]
    · rw [nonzero, Bool.not_false, Bool.or_true]
  rw [originOf, present, Option.filter_some, if_pos binding, proper.given]
  rfl

/-- An initial that is zero and not insisted on gives way to what there is without it. -/
lemma originOf_of_not_taken {s : Start} {f : Field} (unchecked : f.check = none)
    (zero : ∀ v, initialAt s.values f = some v → s.overrides f.index = false ∧ v.isZero = true) :
    u.originOf h s f = u.fallback s.type f := by
  have none : (initialAt s.values f).filter
      (fun v => s.overrides f.index || !u.isDefault h f v) = none := by
    refine Option.filter_eq_none_iff.2 fun v present => ?_
    obtain ⟨free, zero⟩ := zero v present
    rw [isDefault, unchecked, free, zero]
    exact nofun
  rw [originOf, none]
  rfl

/-- Either the value of the start is taken, or the field is left to the defaults. -/
lemma originOf_cases (h : Heap) {s : Start} {f : Field} (proper : u.Proper s)
    (unchecked : f.check = none) :
    (∃ v, initialAt s.values f = some v ∧ (s.overrides f.index = true ∨ v.isZero = false) ∧
      u.originOf h s f = .preset v) ∨ u.originOf h s f = u.fallback s.type f := by
  by_cases taken : ∃ v, initialAt s.values f = some v ∧
      (s.overrides f.index = true ∨ v.isZero = false)
  · obtain ⟨v, present, binding⟩ := taken
    exact .inl ⟨v, present, binding, originOf_of_taken proper unchecked present binding⟩
  · refine .inr (originOf_of_not_taken unchecked fun v present => ?_)
    have other : ¬(s.overrides f.index = true ∨ v.isZero = false) :=
      fun binding => taken ⟨v, present, binding⟩
    rw [not_or, Bool.not_eq_true, Bool.not_eq_false] at other
    exact other

/-- What leads from a proper start to another one leads to a proper one, on which nothing is
insisted. -/
lemma proper_of_origin (simple : u.Simple) {s s' : Start} {f : Field} (proper : u.Proper s)
    (start : (u.originOf h s f).start = some s') :
    u.Proper s' ∧ s'.overrides = fun _ => false := by
  have inherited := inherited_isFormed simple.formed
  have formed := inherited.start (fun v value => inherited.originOf proper.formed value) start
  cases origin : u.originOf h s f with
  | initial v => cases proper.given.symm.trans (originOf_eq_initial.1 origin).1
  | preset v =>
    rw [origin] at start
    cases v with
    | object =>
      cases start
      exact ⟨⟨rfl, formed⟩, rfl⟩
    | _ => cases start
  | blank declared =>
    rw [origin] at start
    cases declared with
    | none => cases start
    | some t =>
      cases start
      exact ⟨⟨rfl, formed⟩, rfl⟩

/-! ### Objects that were built -/

/-- A value that was built for a struct type is an object of the type, as its type has them, and
every field holds what its origin says. -/
lemma Built.inv (simple : u.Simple) {s : Start} {x : Value} (built : u.Built h s x)
    (proper : u.Proper s) {l : Layout} (hl : u.layout? s.type = some l) :
    ∃ vs a, x = .object s.type vs a ∧ vs.length = l.fields.length ∧ a.isSome = l.tracked ∧
      ∀ i f, l.fields[i]? = some f →
        f.index = i ∧ f.check = none ∧ ∃ y, vs[i]? = some y ∧ u.Holds h (u.originOf {} s f) y := by
  obtain ⟨m, follows⟩ := built.follows
  obtain ⟨vs, a, rfl, len, fields⟩ :=
    fields_of_follows simple.hooks simple.formed proper.formed hl built.object follows
  obtain ⟨⟨l', hl', _, tracked⟩, all⟩ := isFormed_object.1 built.formed
  cases hl.symm.trans hl'
  refine ⟨vs, a, rfl, len, tracked.symm, fun i f place => ?_⟩
  have unchecked := simple.unchecked s.type l hl f (List.mem_of_getElem? place)
  obtain ⟨y, hy, filled⟩ := fields i f place
  refine ⟨index_of_getElem? hl place, unchecked, y, hy, ?_⟩
  -- without checks it does not matter when the question is asked
  have still : u.originOf (m [i]) s f = u.originOf {} s f := by
    rw [originOf, originOf]
    simp only [isDefault, unchecked]
  rw [still] at filled
  exact holds_of_filled filled (all y (List.mem_of_getElem? hy))

/-- Objects of a type agree if their fields do. -/
lemma agrees_object {t : TypeId} {l : Layout} {vs ws : List Value} {a b : Option Tracker}
    (len : vs.length = l.fields.length) (len' : ws.length = l.fields.length)
    (tracked : a.isSome = l.tracked) (tracked' : b.isSome = l.tracked)
    (fields : ∀ (i : Nat) (f : Field) (v w : Value), l.fields[i]? = some f → vs[i]? = some v →
      ws[i]? = some w → v.Agrees h w) : (Value.object t vs a).Agrees h (.object t ws b) := by
  refine .object (List.forall₂_iff_get.2 ⟨len.trans len'.symm, fun i hv hw => ?_⟩)
    (tracked.trans tracked'.symm)
  refine fields i _ _ _ (List.getElem?_eq_getElem (len ▸ hv)) ?_ ?_
  · exact List.getElem?_eq_getElem _
  · exact List.getElem?_eq_getElem _

/-! ### One start leads to one content -/

/-- Two values of one origin agree if two objects of one start do. -/
lemma Holds.agrees {o : Origin} {x y : Value} (first : u.Holds h o x) (second : u.Holds h o y)
    (objects : ∀ s l, o.start = some s → u.layout? s.type = some l → u.Built h s x →
      u.Built h s y → x.Agrees h y) : x.Agrees h y := by
  cases first with
  | object start hl built =>
    cases second with
    | object start' _ built' =>
      cases start.symm.trans start'
      exact objects _ _ start hl built built'
    | plain value => cases (plainOf_of_start start hl).symm.trans value
  | plain value agrees =>
    cases second with
    | object start hl => cases (plainOf_of_start start hl).symm.trans value
    | plain value' agrees' =>
      cases value.symm.trans value'
      exact agrees.symm.trans agrees'

/-- What was built from the same start has the same content. -/
lemma Built.agrees (simple : u.Simple) {s : Start} {l : Layout} {x y : Value}
    (proper : u.Proper s) (hl : u.layout? s.type = some l) (first : u.Built h s x)
    (second : u.Built h s y) : x.Agrees h y := by
  induction x using Value.objectInduction generalizing s l y with
  | plain x plain =>
    obtain ⟨_, _, rfl, _⟩ := first.inv simple proper hl
    cases plain
  | object t vs a ih =>
    obtain ⟨_, _, same, len, tracked, fields⟩ := first.inv simple proper hl
    cases same
    obtain ⟨ws, b, rfl, len', tracked', fields'⟩ := second.inv simple proper hl
    refine agrees_object len len' tracked tracked' fun i f v w place hv hw => ?_
    obtain ⟨_, _, v', hv', holds⟩ := fields i f place
    obtain ⟨_, _, w', hw', holds'⟩ := fields' i f place
    cases hv.symm.trans hv'
    cases hw.symm.trans hw'
    refine holds.agrees holds' fun s' l' start hl' first second => ?_
    obtain ⟨proper', _⟩ := proper_of_origin simple proper start
    exact ih v (List.mem_of_getElem? hv) proper' hl' first second

/-! ### What is no zero does not become one -/

/-- A formed object is a proper start for a construction. -/
lemma proper_of_isFormed {t : TypeId} {vs : List Value} {a : Option Tracker}
    (formed : u.isFormed (.object t vs a) = true) : u.Proper { type := t, values := some vs } := by
  refine ⟨rfl, ?_⟩
  rintro _ ⟨⟩
  exact (isFormed_object.1 formed).2

/-- A value that is no zero is taken. -/
lemma Built.taken (simple : u.Simple) {t : TypeId} {vs : List Value} {a : Option Tracker}
    {v x : Value} {i : Nat} (formed : u.isFormed (.object t vs a) = true)
    (built : u.Built h { type := t, values := some vs } x) (hv : vs[i]? = some v)
    (nonzero : v.isZero = false) :
    ∃ ws b w, x = .object t ws b ∧ ws[i]? = some w ∧ u.Holds h (.preset v) w := by
  obtain ⟨⟨l, hl, count, _⟩, _⟩ := isFormed_object.1 formed
  have proper := proper_of_isFormed formed
  obtain ⟨ws, b, rfl, _, _, fields⟩ := built.inv simple proper hl
  have lt : i < l.fields.length := count ▸ (List.getElem?_eq_some_iff.1 hv).1
  obtain ⟨index, unchecked, w, hw, holds⟩ := fields i _ (List.getElem?_eq_getElem lt)
  have present : initialAt (some vs) l.fields[i] = some v := by
    rw [initialAt, Option.bind_some, index]
    exact hv
  rw [originOf_of_taken proper unchecked present (.inr nonzero)] at holds
  exact ⟨ws, b, w, rfl, hw, holds⟩

/-- What becomes of a value that is no zero is none either. -/
lemma Holds.isZero_eq_false (simple : u.Simple) {v x : Value} (holds : u.Holds h (.preset v) x)
    (formed : u.isFormed v = true) (nonzero : v.isZero = false) : x.isZero = false := by
  induction v using Value.objectInduction generalizing x with
  | plain v plain =>
    have value : u.plainOf (.preset v) = some v := plainOf_of_value? rfl plain
    cases holds with
    | object start hl => cases (plainOf_of_start start hl).symm.trans value
    | plain value' agrees =>
      cases value.symm.trans value'
      exact agrees.isZero_eq.trans nonzero
  | object t vs a ih =>
    cases holds with
    | plain value => cases value
    | object start _ built =>
      cases start
      -- a field that is no zero is taken, and what becomes of it is no zero again
      rw [Value.isZero, Value.allZero_eq_all, List.all_eq_false] at nonzero
      obtain ⟨v, mem, nonzero⟩ := nonzero
      replace nonzero := Bool.eq_false_iff.2 nonzero
      obtain ⟨i, hv⟩ := List.mem_iff_getElem?.1 mem
      obtain ⟨ws, b, w, rfl, hw, holds⟩ := built.taken simple formed hv nonzero
      have nonzero' := ih v mem holds ((isFormed_object.1 formed).2 v mem) nonzero
      rw [Value.isZero, Value.allZero_eq_all, List.all_eq_false]
      exact ⟨w, List.mem_of_getElem? hw, Bool.eq_false_iff.1 nonzero'⟩

/-! ### Once more -/

/-- A field that is decided once more, by looking at what it holds, comes to the same: the value is
copied, or the field is left to the defaults for the second time. -/
lemma Holds.again (simple : u.Simple) {s s' : Start} {f : Field} {x y : Value}
    (proper : u.Proper s) (proper' : u.Proper s') (unchecked : f.check = none)
    (type : s'.type = s.type) (overrides : s'.overrides = s.overrides)
    (present : initialAt s'.values f = some x) (first : u.Holds h (u.originOf {} s f) x)
    (second : u.Holds h (u.originOf {} s' f) y)
    (objects : ∀ s l t vs a, u.Proper s → u.layout? s.type = some l →
      s.overrides = (fun _ => false) → x = .object t vs a → u.Built h s x →
      u.Built h { type := t, values := some vs } y → x.Agrees h y) : x.Agrees h y := by
  by_cases taken : s.overrides f.index = true ∨ x.isZero = false
  · rw [originOf_of_taken proper' unchecked present (overrides ▸ taken)] at second
    cases second with
    | plain value agrees =>
      rw [plainOf] at value
      split at value
      · cases value
      · cases value
        exact agrees
    | object start' _ built' =>
      cases x with
      | object t vs a =>
        cases start'
        cases first with
        | object start hl built =>
          obtain ⟨proper, free⟩ := proper_of_origin simple proper start
          exact objects _ _ t vs a proper hl free rfl built built'
        | plain value agrees =>
          have plain := isObject_plainOf simple value
          obtain ⟨_, _, rfl, _⟩ := agrees.symm.object_inv
          cases plain
      | _ => cases start'
  · rw [not_or, Bool.not_eq_true, Bool.not_eq_false] at taken
    have fallen' : u.originOf {} s' f = u.fallback s.type f := by
      rw [← type]
      refine originOf_of_not_taken unchecked fun v hv => ?_
      cases present.symm.trans hv
      rw [overrides]
      exact taken
    have fallen : u.originOf {} s f = u.fallback s.type f := by
      obtain ⟨v, _, binding, origin⟩ | fallen := originOf_cases {} proper unchecked
      · -- what was taken at first was no zero, and neither is what became of it
        have formed : u.isFormed v = true := (inherited_isFormed simple.formed).originOf
          proper.formed (congrArg Origin.value? origin)
        rw [origin] at first
        have nonzero := binding.resolve_left (Bool.eq_false_iff.1 taken.1)
        cases (first.isZero_eq_false simple formed nonzero).symm.trans taken.2
      · exact fallen
    rw [← fallen.trans fallen'.symm] at second
    refine first.agrees second fun s l start hl built built' => ?_
    exact built.agrees simple (proper_of_origin simple proper start).1 hl built'

/-- What is built from an object that was built from the same start has its content. -/
lemma Built.again (simple : u.Simple) {s : Start} {l : Layout} {t : TypeId} {vs : List Value}
    {a : Option Tracker} {x y : Value} (proper : u.Proper s) (hl : u.layout? s.type = some l)
    (object : x = .object t vs a) (first : u.Built h s x)
    (second : u.Built h { s with type := t, values := some vs } y) : x.Agrees h y := by
  induction x using Value.objectInduction generalizing s l t vs a y with
  | plain x plain =>
    rw [object] at plain
    cases plain
  | object r vs a ih =>
    obtain ⟨_, _, same, len, tracked, fields⟩ := first.inv simple proper hl
    obtain ⟨rfl, rfl, rfl⟩ := Value.object.inj same
    obtain ⟨rfl, rfl, rfl⟩ := Value.object.inj object
    have proper' : u.Proper { s with values := some vs } :=
      ⟨proper.given, (proper_of_isFormed first.formed).formed⟩
    obtain ⟨ws, b, rfl, len', tracked', fields'⟩ := second.inv simple proper' hl
    refine agrees_object len len' tracked tracked' fun i f v w place hv hw => ?_
    obtain ⟨index, unchecked, v', hv', holds⟩ := fields i f place
    obtain ⟨_, _, w', hw', holds'⟩ := fields' i f place
    cases hv.symm.trans hv'
    cases hw.symm.trans hw'
    have present : initialAt (some vs) f = some v := by
      rw [initialAt, Option.bind_some, index]
      exact hv
    refine holds.again simple proper proper' unchecked rfl rfl present holds' ?_
    intro s l t us c proper hl free object built built'
    refine ih v (List.mem_of_getElem? hv) proper hl object built ?_
    obtain ⟨t, overrides, values, given⟩ := s
    cases free
    cases proper.given
    exact built'

/-! ### Constructions -/

/-- A construction that succeeds builds its value from its template. -/
lemma built_of_construct (simple : u.Simple) {depth : Nat} {t : TypeId} {c : Template}
    {h₀ : Heap} {w : Value} (starts : u.StartsFormed c)
    (ran : (u.construct depth t c).run.run h₀ = (.ok w, h)) : u.Built h (.of t c false) w := by
  obtain ⟨object, m, _, _, follows⟩ := u.obey_construct depth t c h₀ w h ran
  have formed := formed_construct simple.hooks.hooksForm simple.formed depth t c starts h₀ w
  exact ⟨formed (congrArg Prod.fst ran), object, m, follows false⟩

/-- What was built goes on to be so while buffers are added. -/
lemma Built.later {s : Start} {x : Value} (built : u.Built h s x) (later : h.Extends h') :
    u.Built h' s x := by
  obtain ⟨m, follows⟩ := built.follows
  exact ⟨built.formed, built.object, m, follows.later later⟩

/-- Constructing an object of a struct type from one that was constructed before, with the same
fields insisted on, comes to the same content, whatever was done meanwhile. -/
theorem construct_idempotent (simple : u.Simple) {t : TypeId} {l : Layout}
    (hl : u.layout? t = some l) {c c' : Template} (starts : u.StartsFormed c)
    {depth depth' : Nat} {h h₁ h₂ h₃ : Heap} {w w' : Value}
    (ran : (u.construct depth t c).run.run h = (.ok w, h₁)) (later : h₁.Extends h₂)
    (initials : c'.initials = some w) (overrides : c'.overrides = c.overrides)
    (ran' : (u.construct depth' t c').run.run h₂ = (.ok w', h₃)) : w.Agrees h₃ w' := by
  have built := (built_of_construct simple starts ran).later
    (later.trans (u.extends_construct depth' t c' h₂ w' h₃ ran'))
  have proper : u.Proper (.of t c false) :=
    ⟨rfl, all_of_template (inherited_isFormed simple.formed) starts t false⟩
  obtain ⟨vs, a, rfl, _⟩ := built.inv simple proper hl
  have present : c'.initials? = some (.object t vs a) := by
    rw [Template.initials?, initials]
    rfl
  have starts' : u.StartsFormed c' := by
    intro v hv
    cases present.symm.trans hv
    exact built.formed
  have again := built_of_construct simple starts' ran'
  have start : Start.of t c' false = { Start.of t c false with values := some vs } := by
    rw [Start.of, Start.of, overrides, present]
    rfl
  rw [start] at again
  exact built.again simple proper hl rfl again

/-- What holds of the layouts of all types that were made holds of all there are. -/
lemma layouts_of_all {P : Layout → Bool}
    (all : ((List.range u.size).all fun t => (u.layout? t).all P) = true) (t : TypeId) (l : Layout)
    (hl : u.layout? t = some l) : P l = true := by
  have known := List.all_eq_true.1 all t (List.mem_range.2 (lt_size_of_layout? hl))
  rw [hl] at known
  exact known

/-- It is enough to look at the types that were made. -/
lemma unchecked_of_all (all : ((List.range u.size).all fun t =>
    (u.layout? t).all (·.fields.all (·.check.isNone))) = true) (t : TypeId) (l : Layout)
    (hl : u.layout? t = some l) (f : Field) (hf : f ∈ l.fields) : f.check = none :=
  Option.isNone_iff_eq_none.1 (List.all_eq_true.1 (layouts_of_all all t l hl) f hf)

/-- The default of a twig is no object. -/
lemma simple_withTwig : (withTwig none).Simple where
  hooks := hookFree_of_all rfl
  unchecked := unchecked_of_all rfl
  formed := canonical_of_all (P := fun _ v => (withTwig none).isFormed v) rfl
  plain := plain_of_all rfl

/-- A twig that was grafted is grafted again, and its buffer is copied once more. -/
theorem construct_idempotent_twig :
    let u := withTwig none
    u.Simple ∧ u.StartsFormed graft ∧
      ∃ w w' h₁ h₂, (u.construct 2 20 graft).run.run soil = (.ok w, h₁) ∧
        (u.construct 2 20 { initials := some w }).run.run h₁ = (.ok w', h₂) ∧
        w.at? [0, 0] = some (.buffer (.to 1)) ∧ w'.at? [0, 0] = some (.buffer (.to 2)) ∧
        w.Agrees h₂ w' := by
  intro u
  have starts : u.StartsFormed graft := by
    rintro v ⟨⟩
    rfl
  let twig (b : BufferId) : Value := .object 20
    [.object 19 [.buffer (.to b)] (some
      { manager := some .system, onHeap := true, buffers := [b], capacity := 4 })]
    (some { manager := some .system, onHeap := true })
  obtain ⟨h₁, ran⟩ : ∃ h₁, (u.construct 2 20 graft).run.run soil = (.ok (twig 1), h₁) := ⟨_, rfl⟩
  obtain ⟨h₂, ran'⟩ : ∃ h₂, (u.construct 2 20 { initials := some (twig 1) }).run.run h₁ =
      (.ok (twig 2), h₂) := by
    cases ran
    exact ⟨_, rfl⟩
  let grown : Template := { initials := some (twig 1) }
  have agrees := construct_idempotent simple_withTwig rfl starts ran (.refl h₁)
    (rfl : grown.initials = _) rfl ran'
  exact ⟨simple_withTwig, starts, _, _, _, _, ran, ran', rfl, rfl, agrees⟩

/-- Types with three more: a pair of flags, the second of which is set by default, a pouch of bytes
that has a pair for its default, and a case with a pouch. -/
def withCase : Universe :=
  let pair : Declaration :=
    { name := "Pair"
      shape := .struct [⟨"left", .typed 0, false, none⟩, ⟨"right", .typed 0, false, none⟩] none false
      canonical := some (.object 19 [.scalar (.bool false), .scalar (.bool true)] none) }
  let pouch : Declaration :=
    { name := "Pouch", shape := .bytes
      canonical := some (.object 19 [.scalar (.bool true), .scalar (.bool false)] none) }
  let holder : Declaration :=
    { name := "Case", shape := .struct [⟨"pouch", .typed 20, false, none⟩] none false }
  match (builtin.declare {} pair).bind fun (_, u) =>
    (u.declare {} pouch).bind fun (_, u) => u.declare {} holder with
  | some (_, u) => u
  | none => builtin

/-- The pair in a case is the default of the pouch at first, copied as it is. From there it is built
as a pair of its own, and its right flag gives way to the default. -/
theorem construct_not_idempotent :
    let u := withCase
    let pair (right : Bool) : Value :=
      .object 21 [.object 19 [.scalar (.bool true), .scalar (.bool right)] none] none
    u.HookFree ∧ (∀ t l, u.layout? t = some l → ∀ f ∈ l.fields, f.check = none) ∧
      u.DefaultsFormed ∧
      (∀ t v, (u.desc t).kind.parity = "opaque" → (u.desc t).canonical = some v →
        v.isObject = false) ∧
      ∃ h₁ h₂, (u.construct 2 21 {}).run.run {} = (.ok (pair false), h₁) ∧
        (u.construct 2 21 { initials := some (pair false) }).run.run h₁ = (.ok (pair true), h₂) ∧
        ¬ (pair false).Agrees h₂ (pair true) := by
  intro u pair
  refine ⟨hookFree_of_all rfl, unchecked_of_all rfl,
    canonical_of_all (P := fun _ v => u.isFormed v) rfl, opaque_of_all rfl, _, _, rfl, rfl,
    fun agrees => ?_⟩
  obtain ⟨_, _, same, fields, _⟩ := agrees.object_inv
  cases same
  cases fields with
  | cons first _ =>
    obtain ⟨_, _, same, fields, _⟩ := first.object_inv
    cases same
    cases fields with
    | cons _ rest =>
      cases rest with
      | cons right _ => cases right.eq_of_plain rfl rfl

end Universe

end Metaobject
