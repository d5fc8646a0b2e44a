import Metaobject.Proofs.Comparison.WeakOrder
import Metaobject.Proofs.Universe.HookFree

/-!
# Values that can be compared

A type is monomorphic if it is known what its values are: every field of a struct declares a type,
at every depth, and none of these types has hooks or is opaque. Two values of one such type, with no
object of a subtype anywhere in them, have an order, unless there is something in one of them that
has no order at all. `Universe.compareTyped_answers` is the result. It goes by canonical forms: what
is in two fields of one type is null, or it has the tag that the type asks for.
-/

namespace Metaobject

/-- A float that is not a number. -/
def Scalar.isNaN : Scalar → Bool
  | .float k w => k.decode w = .nan
  | _ => false

/-- Nothing is known of the values but their size. -/
def TypeKind.isOpaque : TypeKind → Bool
  | .blackBox _ => true
  | _ => false

namespace Value

mutual

/-- There is something in the value that has no order, also not with itself: a float that is not a
number, or a buffer that was released. -/
def lacksOrder (h : Heap) : Value → Bool
  | .scalar s => s.isNaN
  | .buffer ref => (h.read ref).isNone
  | .object _ fields _ => anyLacksOrder h fields
  | _ => false

/-- The same for the values of an object. -/
def anyLacksOrder (h : Heap) : List Value → Bool
  | [] => false
  | v :: vs => lacksOrder h v || anyLacksOrder h vs

end

end Value

/-- The verdict is an answer, or there is none for a reason. -/
def Verdict.Answers (reason : Prop) (v : Verdict) : Prop :=
  v.isOrdinary = true ∨ v = .invalid ∧ reason

namespace Universe

/-- The second type is the first one, or a field of the first one involves it. -/
inductive Involves (u : Universe) : TypeId → TypeId → Prop where
  | self (t : TypeId) : Involves u t t
  | field {t r s : TypeId} {l : Layout} {f : Field} (struct : u.layout? t = some l)
    (mem : f ∈ l.fields) (type : f.type = some r) (rest : Involves u r s) : Involves u t s

/-- No type that is involved has hooks or is opaque, and all of their fields declare a type. -/
structure Monomorphic (u : Universe) (t : TypeId) : Prop where
  silent : ∀ s, u.Involves t s → u.isSilent s = true
  known : ∀ s, u.Involves t s → (u.desc s).kind.isOpaque = false
  typed : ∀ s l, u.Involves t s → u.layout? s = some l → ∀ f ∈ l.fields, f.type.isSome = true

mutual

/-- Every object in a field is of the very type that the field declares, at every depth. -/
def holdsExact (u : Universe) : Value → Bool
  | .object type values _ => (u.layout? type).all fun l => allExact u l.fields values
  | _ => true

/-- The same for the values of the fields. -/
def allExact (u : Universe) : List Field → List Value → Bool
  | f :: fs, v :: vs => f.type.all (u.isExact · v) && holdsExact u v && allExact u fs vs
  | _, _ => true

end

/-- The value is well typed, and there is no object of a subtype anywhere in it. -/
structure ExactlyOf (u : Universe) (t : TypeId) (v : Value) : Prop where
  typed : u.isWellTyped t v = true
  exact : u.isExact t v = true
  inner : u.holdsExact v = true

/-- The field declares a monomorphic type, and the value is exactly of it. -/
def FieldExact (u : Universe) (f : Field) (v : Value) : Prop :=
  ∃ s, f.type = some s ∧ u.Monomorphic s ∧ u.ExactlyOf s v

end Universe

/-! ### Answers -/

namespace Verdict

variable {p q : Prop} {v w : Verdict}

lemma Answers.mono (answers : v.Answers p) (weaker : p → q) : v.Answers q :=
  answers.imp_right (And.imp_right weaker)

/-- If both verdicts are answers, the one that the first leaves to the second is. -/
lemma Answers.andThen (first : v.Answers p) (second : w.Answers p) : (v.andThen w).Answers p := by
  by_cases equal : v = .equal
  · rw [equal]
    exact second
  · rw [andThen_of_ne equal]
    exact first

/-- An answer is none of the other verdicts, and without the reason it is one of the three. -/
lemma Answers.cases (answers : v.Answers p) : v ≠ .mismatch ∧ v ≠ .lossy ∧ (v = .invalid → p) ∧
    (v ≠ .invalid → v = .less ∨ v = .equal ∨ v = .greater) := by
  rcases answers with ordinary | ⟨rfl, reason⟩
  · have answer := isOrdinary_iff.1 ordinary
    refine ⟨?_, ?_, ?_, fun _ => answer⟩ <;> rintro rfl <;> cases ordinary
  · exact ⟨nofun, nofun, fun _ => reason, fun ne => absurd rfl ne⟩

/-- An ordering is an answer. -/
lemma answers_ofOrdering (o : Ordering) : (ofOrdering o).Answers p := by
  cases o <;> exact .inl rfl

/-- Of things that may be absent there is an answer unless one is. -/
lemma answers_ofPresent {α : Type} [Ord α] {a b : Option α} (reason : a = none ∨ b = none → p) :
    (ofPresent a b).Answers p := by
  cases a with
  | none => exact .inr ⟨rfl, reason (.inl rfl)⟩
  | some a =>
    cases b with
    | none => exact .inr ⟨rfl, reason (.inr rfl)⟩
    | some b => exact answers_ofOrdering _

end Verdict

open Verdict

namespace Scalar

/-- A float has no place on the line exactly if it is not a number. -/
lemma isNaN_of_rank {k : FloatKind} {w : BitVec k.bits} (none : k.rank w = none) :
    (Scalar.float k w).isNaN = true := by
  rw [FloatKind.rank] at none
  rw [isNaN, FloatKind.decode]
  split at none
  · rename_i above
    rw [if_pos above]
    rfl
  · split at none <;> cases none

/-- Scalars of one kind are in an order, unless one of them is not a number. -/
lemma answers_compare {a b : Scalar} (same : a.kind = b.kind) :
    (a.compare b).Answers (a.isNaN = true ∨ b.isNaN = true) := by
  cases a with
  | bool x =>
    cases b with
    | bool y => exact answers_ofOrdering _
    | _ => cases same
  | char x =>
    cases b with
    | char y => exact answers_ofOrdering _
    | _ => cases same
  | int k x =>
    cases b with
    | int l y =>
      cases same
      rw [compare_int]
      exact answers_ofOrdering _
    | _ => cases same
  | float k x =>
    cases b with
    | float l y =>
      cases same
      rw [compare_float]
      exact answers_ofPresent fun none => none.imp isNaN_of_rank isNaN_of_rank
    | _ => cases same

end Scalar

namespace Universe

variable {u : Universe} {h : Heap}

/-! ### Canonical forms -/

/-- The tag of the values of a type, other than null. -/
def tagOf? (u : Universe) (t : TypeId) : Option Value.Tag :=
  match (u.desc t).kind with
  | .scalar k => some (.scalar k)
  | .struct _ => some (.object t)
  | .bytes => some .buffer
  | .reference k => some (.reference k)
  | .descriptor => some .descriptor
  | .blackBox _ => none

/-- A monomorphic type has no comparer. -/
lemma Monomorphic.unruled {t : TypeId} (mono : u.Monomorphic t) : u.ownComparer? t = none := by
  rw [ownComparer?, Option.isNone_iff_eq_none.1 (mono.silent t (.self t))]
  rfl

/-- The fields of a monomorphic struct declare monomorphic types. -/
lemma Monomorphic.declared {t : TypeId} {l : Layout} (mono : u.Monomorphic t)
    (hl : u.layout? t = some l) : ∀ f ∈ l.fields, ∃ s, f.type = some s ∧ u.Monomorphic s := by
  intro f hf
  obtain ⟨s, hs⟩ := Option.isSome_iff_exists.1 (mono.typed t l (.self t) hl f hf)
  have involved : ∀ r, u.Involves s r → u.Involves t r := fun r => .field hl hf hs
  exact ⟨s, hs, fun r hr => mono.silent r (involved r hr), fun r hr => mono.known r (involved r hr),
    fun r k hr => mono.typed r k (involved r hr)⟩

/-- A value is null, or it has the tag that its type asks for. -/
lemma tag_of_exactlyOf {t : TypeId} (mono : u.Monomorphic t) {v : Value} (hv : u.ExactlyOf t v) :
    v.tag = .null ∨ u.tagOf? t = some v.tag := by
  obtain ⟨accepted, _⟩ := isWellTyped_iff.1 hv.typed
  have exact' := hv.exact
  unfold accepts at accepted
  unfold tagOf?
  cases hk : (u.desc t).kind with
  | blackBox n =>
    have known := mono.known t (.self t)
    rw [hk] at known
    cases known
  | scalar k =>
    rw [hk] at accepted
    cases v with
    | scalar s =>
      cases of_decide_eq_true accepted
      exact .inr rfl
    | _ => cases accepted
  | reference k =>
    rw [hk] at accepted
    cases v with
    | null => exact .inl rfl
    | reference l a =>
      cases of_decide_eq_true accepted
      exact .inr rfl
    | _ => cases accepted
  | struct l =>
    rw [hk] at accepted
    cases v with
    | null => exact .inl rfl
    | object s vs a =>
      cases of_decide_eq_true exact'
      exact .inr rfl
    | _ => cases accepted
  | _ =>
    rw [hk] at accepted
    cases v <;> first | exact .inl rfl | exact .inr rfl | cases accepted

/-- Two values of one type have one tag, unless one of them is null. -/
lemma tags_of_exactlyOf {t : TypeId} (mono : u.Monomorphic t) {x y : Value}
    (hx : u.ExactlyOf t x) (hy : u.ExactlyOf t y) :
    x.tag = .null ∨ y.tag = .null ∨ x.tag = y.tag := by
  rcases tag_of_exactlyOf mono hx with null | tx
  · exact .inl null
  · rcases tag_of_exactlyOf mono hy with null | ty
    · exact .inr (.inl null)
    · exact .inr (.inr (Option.some.inj (tx.symm.trans ty)))

/-- Fields that declare monomorphic types hold values exactly of them, if their values are exact. -/
lemma fieldExact_of_fits {fs : List Field} {vs : List Value}
    (declared : ∀ f ∈ fs, ∃ s, f.type = some s ∧ u.Monomorphic s)
    (held : List.Forall₂ u.Fits fs vs) (inner : u.allExact fs vs = true) :
    List.Forall₂ u.FieldExact fs vs := by
  induction held with
  | nil => exact .nil
  | @cons f v fs vs fits rest ih =>
    obtain ⟨⟨s, hs, mono⟩, declared⟩ := List.forall_mem_cons.1 declared
    rw [allExact, Bool.and_eq_true_iff, Bool.and_eq_true_iff, Option.all_eq_true] at inner
    obtain ⟨⟨exact, whole⟩, inner⟩ := inner
    have typed := isWellTyped_iff.2 ⟨fits.accepted s hs, fits.sound⟩
    exact .cons ⟨s, hs, mono, typed, exact s hs, whole⟩ (ih declared inner)

/-- The values of an object are those of its fields. -/
lemma fieldExact_of_object {t : TypeId} {l : Layout} (mono : u.Monomorphic t)
    (hl : u.layout? t = some l) {vs : List Value} {a : Option Tracker}
    (hv : u.ExactlyOf t (.object t vs a)) : List.Forall₂ u.FieldExact l.fields vs := by
  obtain ⟨l', hl', held⟩ := isSound_object.1 (isWellTyped_iff.1 hv.typed).2
  cases hl.symm.trans hl'
  have inner := hv.inner
  rw [holdsExact, hl] at inner
  exact fieldExact_of_fits (mono.declared hl) held inner

/-! ### Comparing values of one type -/

/-- As values of a monomorphic type they are compared by their structure. -/
lemma verdictAs_of_exactlyOf {s : TypeId} (mono : u.Monomorphic s) {x y : Value}
    (hx : u.ExactlyOf s x) (hy : u.ExactlyOf s y) (whole first : Unit → Verdict) :
    u.verdictAs h s x y whole first = whole () := by
  rw [verdictAs, (isWellTyped_iff.1 hx.typed).1, (isWellTyped_iff.1 hy.typed).1, mono.unruled]
  rfl

/-- So are the values of a field of such a type. -/
lemma fieldVerdict_of_exactlyOf {s : TypeId} (mono : u.Monomorphic s) {x y : Value}
    (hx : u.ExactlyOf s x) (hy : u.ExactlyOf s y) (whole first : Unit → Verdict) :
    u.fieldVerdict h (some s) x y whole first = whole () := by
  unfold fieldVerdict
  rw [Option.bind_some, mono.unruled]
  cases x with
  | object t xs a =>
    cases of_decide_eq_true hx.exact
    exact verdictAs_of_exactlyOf mono hx hy whole first
  | _ => rfl

/-- The first values decide, and where they are equal the others do. -/
lemma compareFields_of_exactlyOf {f : Field} {s : TypeId} (hs : f.type = some s)
    (mono : u.Monomorphic s) {x y : Value} (hx : u.ExactlyOf s x) (hy : u.ExactlyOf s y)
    (declared : List Field) (xs ys : List Value) :
    u.compareFields h (f :: declared) (x :: xs) (y :: ys) =
      (u.compare h x y).andThen (u.compareFields h declared xs ys) := by
  rw [compareFields, List.head?_cons, Option.bind_some, hs, fieldVerdict_of_exactlyOf mono hx hy]
  cases u.compare h x y <;> rfl

/-- Beside null every other value has an order. -/
lemma answers_of_tags {p : Prop} {x y : Value}
    (tags : x.tag = .null ∨ y.tag = .null ∨ x.tag = y.tag)
    (alike : x.tag = y.tag → (u.compare h x y).Answers p) : (u.compare h x y).Answers p := by
  by_cases same : x.tag = y.tag
  · exact alike same
  · left
    rcases tags with xNull | yNull | eq
    · have ne : y.tag ≠ .null := fun yNull => same (xNull.trans yNull.symm)
      rw [TellsTags.eq_null xNull, (tellsTags_compare u h).first y ne]
      rfl
    · have ne : x.tag ≠ .null := fun xNull => same (xNull.trans yNull.symm)
      rw [compare_of_tag_ne ne same, if_pos yNull]
      rfl
    · exact absurd eq same

/-- Values of one tag have an order if they are no objects, unless one of them has none. -/
lemma answers_leaf {x y : Value} (leaf : x.isObject = false) (same : x.tag = y.tag) :
    (u.compare h x y).Answers (x.lacksOrder h = true ∨ y.lacksOrder h = true) := by
  cases x with
  | null =>
    rw [TellsTags.eq_null same.symm, (tellsTags_compare u h).null]
    exact .inl rfl
  | scalar a =>
    cases y with
    | scalar b =>
      rw [compare]
      exact Scalar.answers_compare (Value.Tag.scalar.inj same)
    | _ => cases same
  | buffer a =>
    cases y with
    | buffer b =>
      rw [compare_buffer]
      exact answers_ofPresent (Or.imp Option.isNone_iff_eq_none.2 Option.isNone_iff_eq_none.2)
    | _ => cases same
  | reference k a =>
    cases y with
    | reference l b =>
      cases same
      rw [compare, if_pos rfl]
      exact answers_ofOrdering _
    | _ => cases same
  | descriptor s =>
    cases y with
    | descriptor t =>
      rw [compare_descriptor]
      exact answers_ofOrdering _
    | _ => cases same
  | object t xs a => cases leaf

mutual

/-- Two values of one monomorphic type have an order, unless something in them has none. -/
lemma answers_compare : (x : Value) → ∀ {y : Value} {t : TypeId}, u.Monomorphic t →
    u.ExactlyOf t x → u.ExactlyOf t y →
      (u.compare h x y).Answers (x.lacksOrder h = true ∨ y.lacksOrder h = true)
  | .null, _, _, mono, hx, hy
  | .scalar _, _, _, mono, hx, hy
  | .buffer _, _, _, mono, hx, hy
  | .reference _ _, _, _, mono, hx, hy
  | .descriptor _, _, _, mono, hx, hy =>
    answers_of_tags (tags_of_exactlyOf mono hx hy) (answers_leaf rfl)
  | .object s xs a, y, t, mono, hx, hy =>
    answers_of_tags (tags_of_exactlyOf mono hx hy) fun same => by
      cases y with
      | object s' ys b =>
        cases same
        obtain rfl : s = t := of_decide_eq_true hx.exact
        obtain ⟨l, hl, _⟩ := isSound_object.1 (isWellTyped_iff.1 hx.typed).2
        rw [compare_object hl]
        exact answers_compareFields xs (fieldExact_of_object mono hl hx)
          (fieldExact_of_object mono hl hy)
      | _ => cases same

/-- The same field by field, by induction on the values of the first object. -/
lemma answers_compareFields : (xs : List Value) → ∀ {declared : List Field} {ys : List Value},
    List.Forall₂ u.FieldExact declared xs → List.Forall₂ u.FieldExact declared ys →
      (u.compareFields h declared xs ys).Answers
        (Value.anyLacksOrder h xs = true ∨ Value.anyLacksOrder h ys = true)
  | [], declared, ys, hxs, hys => by
    cases hxs
    cases hys
    rw [compareFields]
    exact .inl rfl
  | x :: xs, f :: declared, y :: ys, .cons hx hxs, .cons hy hys => by
    obtain ⟨s, hs, mono, hx⟩ := hx
    obtain ⟨s', hs', _, hy⟩ := hy
    cases hs.symm.trans hs'
    have first := answers_compare x mono hx hy
    have rest := answers_compareFields xs hxs hys
    rw [compareFields_of_exactlyOf hs mono hx hy, Value.anyLacksOrder, Value.anyLacksOrder,
      Bool.or_eq_true_iff, Bool.or_eq_true_iff]
    exact (first.mono (Or.imp .inl .inl)).andThen (rest.mono (Or.imp .inr .inr))

end

/-- Objects of one type are compared by their structure, if there are no hooks. -/
lemma compareTyped_of_exactlyOf {t : TypeId} (mono : u.Monomorphic t) {xs ys : List Value}
    {a b : Option Tracker} (hx : u.ExactlyOf t (.object t xs a))
    (hy : u.ExactlyOf t (.object t ys b)) {c : Context} (hc : ∀ s, c.type? = some s → s = t) :
    u.compareTyped h c (some (.object t xs a)) (some (.object t ys b)) =
      u.compare h (.object t xs a) (.object t ys b) := by
  have acceptedX := (isWellTyped_iff.1 hx.typed).1
  have acceptedY := (isWellTyped_iff.1 hy.typed).1
  have inside : (c.type?.any fun s =>
      u.isOutside s (.object t xs a) || u.isOutside s (.object t ys b)) = false := by
    cases hs : c.type? with
    | none => rfl
    | some s =>
      cases hc s hs
      rw [Option.any_some, isOutside, isOutside, acceptedX, acceptedY]
      rfl
  rw [compareTyped, inside]
  show (if t = t then u.compareAs h t _ _ else _) = _
  rw [if_pos rfl]
  exact verdictAs_of_exactlyOf mono hx hy _ _

/-- Two well-typed objects of a monomorphic type can be compared: the verdict is never that they are
of different types, or that only a test was at hand, and it is `invalid` only if there is something
in one of them that has no order. -/
theorem compareTyped_answers {t : TypeId} (mono : u.Monomorphic t) {xs ys : List Value}
    {a b : Option Tracker} (hx : u.isWellTyped t (.object t xs a) = true)
    (hy : u.isWellTyped t (.object t ys b) = true)
    (exactX : u.holdsExact (.object t xs a) = true) (exactY : u.holdsExact (.object t ys b) = true)
    {c : Context} (hc : ∀ s, c.type? = some s → s = t) :
    let v := u.compareTyped h c (some (.object t xs a)) (some (.object t ys b))
    v ≠ .mismatch ∧ v ≠ .lossy ∧
    (v = .invalid → (Value.object t xs a).lacksOrder h = true ∨
      (Value.object t ys b).lacksOrder h = true) ∧
    (v ≠ .invalid → v = .less ∨ v = .equal ∨ v = .greater) := by
  intro v
  have isX : u.ExactlyOf t (.object t xs a) := ⟨hx, decide_eq_true rfl, exactX⟩
  have isY : u.ExactlyOf t (.object t ys b) := ⟨hy, decide_eq_true rfl, exactY⟩
  have same : v = u.compare h _ _ := compareTyped_of_exactlyOf mono isX isY hc
  rw [same]
  exact (answers_compare _ mono isX isY).cases

/-- Types are monomorphic if they are silent and not opaque, and their fields are of such types. -/
lemma monomorphic_of_all (ts : List TypeId) (all : (ts.all fun t =>
      u.isSilent t && !(u.desc t).kind.isOpaque &&
        (u.layout? t).all fun l => l.fields.all (·.type.any (· ∈ ts))) = true)
    {t : TypeId} (ht : t ∈ ts) : u.Monomorphic t := by
  have each : ∀ s ∈ ts, u.isSilent s = true ∧ (u.desc s).kind.isOpaque = false ∧
      ∀ l, u.layout? s = some l → ∀ f ∈ l.fields, ∃ r, f.type = some r ∧ r ∈ ts := by
    intro s hs
    simpa [and_assoc, Option.all_eq_true, Option.any_eq_true] using List.all_eq_true.1 all s hs
  have among : ∀ s, u.Involves t s → s ∈ ts := by
    intro s hs
    induction hs with
    | self => exact ht
    | field hl hf hr _ ih =>
      obtain ⟨r, hr', mem⟩ := (each _ ht).2.2 _ hl _ hf
      cases hr.symm.trans hr'
      exact ih mem
  constructor
  case silent => exact fun s hs => (each s (among s hs)).1
  case known => exact fun s hs => (each s (among s hs)).2.1
  case typed =>
    intro s l hs hl f hf
    obtain ⟨r, hr, _⟩ := (each s (among s hs)).2.2 l hl f hf
    exact Option.isSome_iff_exists.2 ⟨r, hr⟩

/-- Types with two more structs: a reading has a number and bytes, and a pair has two readings. -/
def withReadings : Universe :=
  let reading : Declaration :=
    { name := "Reading"
      shape :=
        .struct [⟨"number", .typed 13, false, none⟩, ⟨"raw", .typed 14, false, none⟩] none false }
  let pair : Declaration :=
    { name := "Pair"
      shape :=
        .struct [⟨"left", .typed 19, false, none⟩, ⟨"right", .typed 19, false, none⟩] none false }
  match (builtin.declare {} reading).bind fun (_, u) => u.declare {} pair with
  | some (_, u) => u
  | none => builtin

/-- The type of the pairs is monomorphic. -/
lemma monomorphic_pair : withReadings.Monomorphic 20 :=
  monomorphic_of_all [13, 14, 19, 20] rfl (by decide)

/-- A reading of a number, with the bytes it was taken from or null. -/
def reading (number : BitVec 64) (raw : Value) : Value :=
  .object 19 [.scalar (.float .double number), raw] none

/-- A pair of which there is only one reading. -/
def single (reading : Value) : Value :=
  .object 20 [reading, .null] none

/-- Two numbers are in order, and one that is not a number has no order beside them. The bytes of a
released buffer have none beside themselves, but they come after null. -/
theorem compareTyped_answers_readings :
    let verdict x y := withReadings.compareTyped {} (.ofType 20) (some x) (some y)
    let one := single (reading 0x3FF0000000000000 .null)
    let two := single (reading 0x4000000000000000 .null)
    let nan := single (reading 0x7FF8000000000000 .null)
    let released := single (reading 0x3FF0000000000000 (.buffer .dangling))
    withReadings.Monomorphic 20 ∧
      verdict one two = .less ∧ verdict one released = .less ∧
      (verdict nan one = .invalid ∧ nan.lacksOrder {} = true) ∧
      (verdict released released = .invalid ∧ released.lacksOrder {} = true) := by
  intro verdict one two nan released
  have hc : ∀ s, (Context.ofType 20).type? = some s → s = 20 := by
    intro s hs
    cases hs
    rfl
  have nanInvalid : verdict nan one = .invalid := by decide +kernel
  have releasedInvalid : verdict released released = .invalid := by decide +kernel
  have typedOne : withReadings.isWellTyped 20 one = true := by decide +kernel
  have typedNan : withReadings.isWellTyped 20 nan = true := by decide +kernel
  have typedReleased : withReadings.isWellTyped 20 released = true := by decide +kernel
  obtain ⟨_, _, nanReason, _⟩ :=
    compareTyped_answers (h := {}) monomorphic_pair typedNan typedOne rfl rfl hc
  obtain ⟨_, _, releasedReason, _⟩ :=
    compareTyped_answers (h := {}) monomorphic_pair typedReleased typedReleased rfl rfl hc
  refine ⟨monomorphic_pair, by decide +kernel, by decide +kernel, ⟨nanInvalid, ?_⟩,
    releasedInvalid, ?_⟩
  · exact (nanReason nanInvalid).resolve_right nofun
  · exact (releasedReason releasedInvalid).elim id id

end Universe

end Metaobject
