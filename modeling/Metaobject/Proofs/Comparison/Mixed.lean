import Metaobject.Comparison.Operands
import Metaobject.Hook.Stock
import Metaobject.Proofs.Comparison.WeakOrder
import Metaobject.Proofs.Universe.HookFree

/-!
# Comparison through a base type

A sequence of objects of a struct type and of its subtypes is sorted through the struct type. Two
objects of one subtype are then judged by that subtype, and all others by the struct type, so the
three verdicts on three operands may come from different judges. `Universe.Coherent` says what the
judges have to agree on. `Universe.lawful_compareTyped_iff` is that judges that are lawful by
themselves are lawful together exactly if they are coherent, and they are if the struct type leaves
the matter to the structural comparison, or if the subtypes say what the struct type would say.
-/

namespace Metaobject

/-- What sorting and searching want of a comparison of values with `P`: exchanging the operands
reflects the verdict, "less" carries over, and equal operands may stand for each other. -/
structure Lawful (P : Value → Prop) (verdict : Value → Value → Verdict) : Prop where
  reflected : ∀ x y, P x → P y → verdict x y = (verdict y x).invert
  less : ∀ x y z, P x → P y → P z → verdict x y = .less → verdict y z = .less →
    verdict x z = .less
  equal : ∀ x y z, P x → P y → P z → verdict x y = .equal → verdict x z = verdict y z

namespace Lawful

variable {P Q : Value → Prop} {verdict verdict' : Value → Value → Verdict}

/-- Equal operands may stand for each other on the right as well. -/
lemma equal_right (lawful : Lawful P verdict) {x y z : Value} (hx : P x) (hy : P y) (hz : P z)
    (same : verdict x y = .equal) : verdict z x = verdict z y := by
  rw [lawful.reflected z x hz hx, lawful.reflected z y hz hy, lawful.equal x y z hx hy hz same]

lemma mono (lawful : Lawful P verdict) (sub : ∀ x, Q x → P x) : Lawful Q verdict where
  reflected x y hx hy := lawful.reflected x y (sub x hx) (sub y hy)
  less x y z hx hy hz := lawful.less x y z (sub x hx) (sub y hy) (sub z hz)
  equal x y z hx hy hz := lawful.equal x y z (sub x hx) (sub y hy) (sub z hz)

/-- A verdict that is the same on the values is as lawful. -/
lemma congr (lawful : Lawful P verdict) (same : ∀ x y, P x → P y → verdict' x y = verdict x y) :
    Lawful P verdict' where
  reflected x y hx hy := by
    rw [same x y hx hy, same y x hy hx]
    exact lawful.reflected x y hx hy
  less x y z hx hy hz := by
    rw [same x y hx hy, same y z hy hz, same x z hx hz]
    exact lawful.less x y z hx hy hz
  equal x y z hx hy hz := by
    rw [same x y hx hy, same x z hx hz, same y z hy hz]
    exact lawful.equal x y z hx hy hz

/-- Verdicts that are chained and turn around are lawful. -/
lemma of_chained (reflected : ∀ x y, P x → P y → verdict x y = (verdict y x).invert)
    (chained : ∀ x y z, P x → P y → P z →
      Verdict.Chained (verdict x y) (verdict y z) (verdict x z)) : Lawful P verdict where
  reflected := reflected
  less x y z hx hy hz := (chained x y z hx hy hz).less
  equal x y z hx hy hz := (chained x y z hx hy hz).left

/-- Lawful verdicts on three values are chained. -/
lemma chained (lawful : Lawful P verdict) {x y z : Value} (hx : P x) (hy : P y) (hz : P z) :
    Verdict.Chained (verdict x y) (verdict y z) (verdict x z) where
  less := lawful.less x y z hx hy hz
  left := lawful.equal x y z hx hy hz
  right same := (lawful.equal_right hy hz hx same).symm

end Lawful

namespace Universe

/-- The type that a value has in the context of a type. -/
def typeIn (t : TypeId) (x : Value) : TypeId :=
  (carriedType? x).getD t

/-- Two values of one proper subtype, and a third value that is not of that subtype. -/
structure Apart (t : TypeId) (P : Value → Prop) (s : TypeId) (x y z : Value) : Prop where
  first : P x ∧ typeIn t x = s
  second : P y ∧ typeIn t y = s
  third : P z ∧ typeIn t z ≠ s
  proper : s ≠ t

/-- What the subtypes say of two of their own values goes together with what `t` says of each of
them and a third value. -/
structure Coherent (u : Universe) (h : Heap) (t : TypeId) (P : Value → Prop) : Prop where
  before : ∀ {s x y z}, Apart t P s x y z → u.compareAs h s x y = .less →
    u.compareAs h t y z = .less → u.compareAs h t x z = .less
  after : ∀ {s x y z}, Apart t P s x y z → u.compareAs h t z x = .less →
    u.compareAs h s x y = .less → u.compareAs h t z y = .less
  between : ∀ {s x y z}, Apart t P s x y z → u.compareAs h t x z = .less →
    u.compareAs h t z y = .less → u.compareAs h s x y = .less
  beside : ∀ {s x y z}, Apart t P s x y z → u.compareAs h s x y = .equal →
    u.compareAs h t x z = u.compareAs h t y z
  through : ∀ {s x y z}, Apart t P s x y z → u.compareAs h t x z = .equal →
    u.compareAs h s x y = u.compareAs h t z y

/-- Every value with `P` is one that the struct type `t` accepts, and objects are of struct
types. -/
structure Admitted (u : Universe) (t : TypeId) (P : Value → Prop) : Prop where
  accepted : ∀ x, P x → u.accepts t x = true
  structs : ∀ s vs a, P (.object s vs a) → (u.layout? s).isSome = true

variable {u : Universe} {h : Heap} {t : TypeId} {P : Value → Prop}

/-- Through a struct type only null and objects are compared. -/
lemma accepted_cases {l : Layout} (hl : u.layout? t = some l) {x : Value}
    (accepted : u.accepts t x = true) : x = .null ∨ ∃ s vs a, x = .object s vs a := by
  unfold accepts at accepted
  rw [kind_of_layout? hl] at accepted
  cases x with
  | null => exact .inl rfl
  | object s vs a => exact .inr ⟨s, vs, a, rfl⟩
  | _ => cases accepted

/-- Two values of one type are judged by that type, and others by `t`. -/
lemma compareTyped_eq_compareAs (admitted : u.Admitted t P) {x y : Value} (hx : P x) (hy : P y) :
    u.compareTyped h (.ofType t) (some x) (some y) =
      if typeIn t x = typeIn t y then u.compareAs h (typeIn t x) x y else u.compareAs h t x y := by
  have inside : ((Context.ofType t).type?.any fun t => u.isOutside t x || u.isOutside t y) =
      false := by
    show (u.isOutside t x || u.isOutside t y) = false
    rw [isOutside, isOutside, admitted.accepted x hx, admitted.accepted y hy]
    simp
  have carried : ∀ z : Value, (carriedType? z).or (Context.ofType t).type? = some (typeIn t z) := by
    intro z
    rw [typeIn]
    cases carriedType? z <;> rfl
  rw [compareTyped, inside, carried x, carried y]
  rfl

/-- A type accepts the values that have it. -/
lemma accepts_typeIn {l : Layout} (hl : u.layout? t = some l) (admitted : u.Admitted t P)
    {x : Value} (hx : P x) : u.accepts (typeIn t x) x = true := by
  rcases accepted_cases hl (admitted.accepted x hx) with rfl | ⟨s, vs, a, rfl⟩
  · exact admitted.accepted _ hx
  · obtain ⟨l', hl'⟩ := Option.isSome_iff_exists.1 (admitted.structs s vs a hx)
    exact accepts_self hl' vs a

/-- The verdict of a type is that of its own comparer, or else the structural one. -/
lemma compareAs_of_accepted {s : TypeId} {x y : Value} (hx : u.accepts s x = true)
    (hy : u.accepts s y = true) :
    u.compareAs h s x y = (u.ownComparer? s).elim (u.compare h x y) fun c =>
      (ValueComparer.own c).compare u h (some x) (some y) := by
  unfold compareAs verdictAs
  rw [hx, hy]
  cases u.ownComparer? s <;> rfl

/-- The comparison through `t` where both values are there. -/
abbrev judge (u : Universe) (h : Heap) (t : TypeId) (x y : Value) : Verdict :=
  (ValueComparer.typed (.ofType t)).compare u h (some x) (some y)

/-- Values of different types are judged by `t`. -/
lemma judge_of_ne (admitted : u.Admitted t P) {x y : Value} (hx : P x) (hy : P y)
    (other : typeIn t x = typeIn t y → typeIn t x = t) :
    u.judge h t x y = u.compareAs h t x y := by
  refine (compareTyped_eq_compareAs admitted hx hy).trans ?_
  split
  · rename_i same
    rw [other same]
  · rfl

/-- Values of one type are judged by that type. -/
lemma judge_of_eq (admitted : u.Admitted t P) {s : TypeId} {x y : Value}
    (hx : P x ∧ typeIn t x = s) (hy : P y ∧ typeIn t y = s) :
    u.judge h t x y = u.compareAs h s x y := by
  refine (compareTyped_eq_compareAs admitted hx.1 hy.1).trans ?_
  rw [if_pos (hx.2.trans hy.2.symm), hx.2]

namespace Apart

variable {s : TypeId} {x y z : Value}

/-- The two values of the subtype are on a par. -/
lemma swap (apart : Apart t P s x y z) : Apart t P s y x z :=
  ⟨apart.second, apart.first, apart.third, apart.proper⟩

/-- The third value is compared with the others through `t`, from either side. -/
lemma judge_third (apart : Apart t P s x y z) (admitted : u.Admitted t P) :
    u.judge h t x z = u.compareAs h t x z ∧ u.judge h t z x = u.compareAs h t z x := by
  have ne : typeIn t x ≠ typeIn t z := fun same => apart.third.2 (same ▸ apart.first.2)
  exact ⟨judge_of_ne admitted apart.first.1 apart.third.1 fun same => absurd same ne,
    judge_of_ne admitted apart.third.1 apart.first.1 fun same => absurd same.symm ne⟩

end Apart

/-- Lawful judges are coherent. -/
lemma coherent_of_lawful (admitted : u.Admitted t P) (lawful : Lawful P (u.judge h t)) :
    u.Coherent h t P := by
  have inner : ∀ {s x y z}, Apart t P s x y z → u.judge h t x y = u.compareAs h s x y :=
    fun apart => judge_of_eq admitted apart.first apart.second
  constructor
  case before =>
    intro s x y z apart
    rw [← inner apart, ← (apart.judge_third admitted).1, ← (apart.swap.judge_third admitted).1]
    exact lawful.less x y z apart.first.1 apart.second.1 apart.third.1
  case after =>
    intro s x y z apart
    rw [← inner apart, ← (apart.judge_third admitted).2, ← (apart.swap.judge_third admitted).2]
    exact lawful.less z x y apart.third.1 apart.first.1 apart.second.1
  case between =>
    intro s x y z apart
    rw [← inner apart, ← (apart.judge_third admitted).1, ← (apart.swap.judge_third admitted).2]
    exact lawful.less x z y apart.first.1 apart.third.1 apart.second.1
  case beside =>
    intro s x y z apart
    rw [← inner apart, ← (apart.judge_third admitted).1, ← (apart.swap.judge_third admitted).1]
    exact lawful.equal x y z apart.first.1 apart.second.1 apart.third.1
  case through =>
    intro s x y z apart
    rw [← inner apart, ← (apart.judge_third admitted).1, ← (apart.swap.judge_third admitted).2]
    exact lawful.equal x z y apart.first.1 apart.third.1 apart.second.1

/-- Three values are all judged by `t`, or all by the one type that they have, or two of them by a
proper subtype that the third one does not have. -/
lemma arranged {x y z : Value} (hx : P x) (hy : P y) (hz : P z) :
    ((typeIn t x = typeIn t y → typeIn t x = t) ∧ (typeIn t y = typeIn t z → typeIn t y = t) ∧
      (typeIn t x = typeIn t z → typeIn t x = t)) ∨
    (typeIn t y = typeIn t x ∧ typeIn t z = typeIn t x) ∨
    Apart t P (typeIn t x) x y z ∨ Apart t P (typeIn t y) y z x ∨ Apart t P (typeIn t x) x z y := by
  by_cases xy : typeIn t x = typeIn t y
  · by_cases yz : typeIn t y = typeIn t z
    · exact .inr (.inl ⟨xy.symm, (xy.trans yz).symm⟩)
    · by_cases xt : typeIn t x = t
      · exact .inl ⟨fun _ => xt, fun _ => xy ▸ xt, fun _ => xt⟩
      · have third : typeIn t z ≠ typeIn t x := fun same => yz (xy ▸ same.symm)
        exact .inr (.inr (.inl ⟨⟨hx, rfl⟩, ⟨hy, xy.symm⟩, ⟨hz, third⟩, xt⟩))
  · by_cases yz : typeIn t y = typeIn t z
    · by_cases yt : typeIn t y = t
      · exact .inl ⟨fun same => absurd same xy, fun _ => yt, fun same =>
          absurd (same.trans yz.symm) xy⟩
      · exact .inr (.inr (.inr (.inl ⟨⟨hy, rfl⟩, ⟨hz, yz.symm⟩, ⟨hx, xy⟩, yt⟩)))
    · by_cases xz : typeIn t x = typeIn t z
      · by_cases xt : typeIn t x = t
        · exact .inl ⟨fun _ => xt, fun same => absurd same yz, fun _ => xt⟩
        · exact .inr (.inr (.inr (.inr
            ⟨⟨hx, rfl⟩, ⟨hz, xz.symm⟩, ⟨hy, fun same => xy same.symm⟩, xt⟩)))
      · exact .inl ⟨fun same => absurd same xy, fun same => absurd same yz,
          fun same => absurd same xz⟩

/-- Judges that are lawful by themselves and coherent are lawful together. -/
lemma lawful_of_coherent (admitted : u.Admitted t P) (base : Lawful P (u.compareAs h t))
    (inner : ∀ x, P x →
      Lawful (fun y => P y ∧ typeIn t y = typeIn t x) (u.compareAs h (typeIn t x)))
    (coherent : u.Coherent h t P) : Lawful P (u.judge h t) where
  reflected x y hx hy := by
    by_cases same : typeIn t x = typeIn t y
    · rw [judge_of_eq admitted ⟨hx, rfl⟩ ⟨hy, same.symm⟩,
        judge_of_eq admitted ⟨hy, same.symm⟩ ⟨hx, rfl⟩]
      exact (inner x hx).reflected x y ⟨hx, rfl⟩ ⟨hy, same.symm⟩
    · rw [judge_of_ne admitted hx hy fun eq => absurd eq same,
        judge_of_ne admitted hy hx fun eq => absurd eq.symm same]
      exact base.reflected x y hx hy
  less x y z hx hy hz := by
    rcases arranged (t := t) hx hy hz with ⟨xy, yz, xz⟩ | ⟨hy', hz'⟩ | apart | apart | apart
    · rw [judge_of_ne admitted hx hy xy, judge_of_ne admitted hy hz yz,
        judge_of_ne admitted hx hz xz]
      exact base.less x y z hx hy hz
    · rw [judge_of_eq admitted ⟨hx, rfl⟩ ⟨hy, hy'⟩, judge_of_eq admitted ⟨hy, hy'⟩ ⟨hz, hz'⟩,
        judge_of_eq admitted ⟨hx, rfl⟩ ⟨hz, hz'⟩]
      exact (inner x hx).less x y z ⟨hx, rfl⟩ ⟨hy, hy'⟩ ⟨hz, hz'⟩
    · rw [judge_of_eq admitted apart.first apart.second, (apart.judge_third admitted).1,
        (apart.swap.judge_third admitted).1]
      exact coherent.before apart
    · rw [judge_of_eq admitted apart.first apart.second, (apart.judge_third admitted).2,
        (apart.swap.judge_third admitted).2]
      exact coherent.after apart
    · rw [judge_of_eq admitted apart.first apart.second, (apart.judge_third admitted).1,
        (apart.swap.judge_third admitted).2]
      exact coherent.between apart
  equal x y z hx hy hz := by
    rcases arranged (t := t) hx hy hz with ⟨xy, yz, xz⟩ | ⟨hy', hz'⟩ | apart | apart | apart
    · rw [judge_of_ne admitted hx hy xy, judge_of_ne admitted hy hz yz,
        judge_of_ne admitted hx hz xz]
      exact base.equal x y z hx hy hz
    · rw [judge_of_eq admitted ⟨hx, rfl⟩ ⟨hy, hy'⟩, judge_of_eq admitted ⟨hy, hy'⟩ ⟨hz, hz'⟩,
        judge_of_eq admitted ⟨hx, rfl⟩ ⟨hz, hz'⟩]
      exact (inner x hx).equal x y z ⟨hx, rfl⟩ ⟨hy, hy'⟩ ⟨hz, hz'⟩
    · rw [judge_of_eq admitted apart.first apart.second, (apart.judge_third admitted).1,
        (apart.swap.judge_third admitted).1]
      exact coherent.beside apart
    · rw [judge_of_eq admitted apart.first apart.second, (apart.judge_third admitted).2,
        (apart.swap.judge_third admitted).2, base.reflected x y hx hy]
      intro same
      -- the verdict that the third value enters into is known from the other side
      have same' : u.compareAs h t y x = .equal := by
        rw [← Verdict.invert_invert (u.compareAs h t y x), same]
        rfl
      exact (coherent.through apart same').symm
    · rw [judge_of_eq admitted apart.first apart.second, (apart.judge_third admitted).1,
        (apart.swap.judge_third admitted).2]
      exact coherent.through apart

/-! ### A base type without a comparer -/

/-- Values of different tags are told apart alike from both sides. -/
lemma compare_reflected_of_tag_ne {x y : Value} (ne : x.tag ≠ y.tag) :
    u.compare h x y = (u.compare h y x).invert := by
  have tells := tellsTags_compare u h
  by_cases xNull : x.tag = .null
  · rw [TellsTags.eq_null xNull] at ne ⊢
    rw [tells.first y ne.symm, compare_of_tag_ne ne.symm ne.symm]
    rfl
  · by_cases yNull : y.tag = .null
    · rw [TellsTags.eq_null yNull] at ne ⊢
      rw [tells.first x xNull, compare_of_tag_ne xNull ne]
      rfl
    · rw [compare_of_tag_ne xNull ne, compare_of_tag_ne yNull ne.symm, if_neg xNull, if_neg yNull]
      rfl

/-- The verdict of the types on values of one tag, and the structural one on others. -/
def tagVerdict (u : Universe) (h : Heap) (t : TypeId) (x y : Value) : Verdict :=
  if x.tag = y.tag ∧ x.tag ≠ .null then u.judge h t x y else u.compare h x y

/-- The verdict by sorts tells sorts apart. -/
lemma tellsTags_tagVerdict (u : Universe) (h : Heap) (t : TypeId) :
    TellsTags (u.tagVerdict h t) where
  null := (tellsTags_compare u h).null
  first y ne := by
    rw [tagVerdict, if_neg fun both => both.2 rfl]
    exact (tellsTags_compare u h).first y ne
  ne x y null ne := by
    rw [tagVerdict, if_neg fun both => ne both.1]
    exact (tellsTags_compare u h).ne x y null ne
  same x y x' y' null hx hy ne := by
    rw [tagVerdict, tagVerdict, if_neg fun both => ne both.1,
      if_neg fun both => ne (hx.trans (both.1.trans hy.symm))]
    exact (tellsTags_compare u h).same x y x' y' null hx hy ne

/-- Values with one tag have one type, and where two values of one type have different tags that
type is `t`. -/
lemma typeIn_of_tag {l : Layout} (hl : u.layout? t = some l) (admitted : u.Admitted t P)
    {x y : Value} (hx : P x) (hy : P y) :
    (x.tag = y.tag → typeIn t x = typeIn t y) ∧
      (x.tag ≠ y.tag ∨ x.tag = .null → typeIn t x = typeIn t y → typeIn t x = t) := by
  rcases accepted_cases hl (admitted.accepted x hx) with rfl | ⟨s, vs, a, rfl⟩
  · exact ⟨fun same => (TellsTags.eq_null same.symm) ▸ rfl, fun _ _ => rfl⟩
  · rcases accepted_cases hl (admitted.accepted y hy) with rfl | ⟨s', ws, b, rfl⟩
    · exact ⟨nofun, fun _ same => same⟩
    · constructor
      · intro same
        cases same
        rfl
      · rintro (ne | null) same
        · exact absurd (congrArg Value.Tag.object same) ne
        · cases null

/-- Where `t` has no comparer, mixed values are told apart by their types. -/
lemma judge_eq_tagVerdict {l : Layout} (hl : u.layout? t = some l) (admitted : u.Admitted t P)
    (unruled : u.ownComparer? t = none) {x y : Value} (hx : P x) (hy : P y) :
    u.judge h t x y = u.tagVerdict h t x y := by
  rw [tagVerdict]
  split
  · rfl
  · rename_i mixed
    -- values of one type have one tag, but for null, which is taken for a value of `t`
    have other : x.tag ≠ y.tag ∨ x.tag = .null := by
      by_cases same : x.tag = y.tag
      · exact .inr (by_contra fun null => mixed ⟨same, null⟩)
      · exact .inl same
    rw [judge_of_ne admitted hx hy ((typeIn_of_tag hl admitted hx hy).2 other),
      compareAs_of_accepted (admitted.accepted x hx) (admitted.accepted y hy), unruled]
    rfl

/-- Without a comparer of the base the verdict is lawful if it is on the values of each type. -/
lemma lawful_of_unruled {l : Layout} (hl : u.layout? t = some l) (admitted : u.Admitted t P)
    (unruled : u.ownComparer? t = none)
    (inner : ∀ x, P x →
      Lawful (fun y => P y ∧ typeIn t y = typeIn t x) (u.compareAs h (typeIn t x))) :
    Lawful P (u.judge h t) := by
  have typed : ∀ {x y : Value}, P x → P y → x.tag = y.tag → typeIn t y = typeIn t x :=
    fun hx hy same => ((typeIn_of_tag hl admitted hx hy).1 same).symm
  refine Lawful.congr (.of_chained ?_ ?_ : Lawful P (u.tagVerdict h t))
    fun x y hx hy => judge_eq_tagVerdict hl admitted unruled hx hy
  · intro x y hx hy
    rw [tagVerdict, tagVerdict]
    by_cases same : x.tag = y.tag
    · by_cases null : x.tag = .null
      · rw [TellsTags.eq_null null, TellsTags.eq_null (same.symm.trans null), if_neg fun both =>
          both.2 rfl, (tellsTags_compare u h).null]
        rfl
      · have hy' := typed hx hy same
        rw [if_pos ⟨same, null⟩, if_pos ⟨same.symm, same ▸ null⟩,
          judge_of_eq admitted ⟨hx, rfl⟩ ⟨hy, hy'⟩, judge_of_eq admitted ⟨hy, hy'⟩ ⟨hx, rfl⟩]
        exact (inner x hx).reflected x y ⟨hx, rfl⟩ ⟨hy, hy'⟩
    · rw [if_neg fun both => same both.1, if_neg fun both => same both.1.symm]
      exact compare_reflected_of_tag_ne same
  · intro x y z hx hy hz
    refine (tellsTags_tagVerdict u h t).chained x y z fun null xy yz => ?_
    have hy' := typed hx hy xy
    have hz' := typed hx hz (xy.trans yz)
    rw [tagVerdict, tagVerdict, tagVerdict, if_pos ⟨xy, null⟩, if_pos ⟨yz, xy ▸ null⟩,
      if_pos ⟨xy.trans yz, null⟩, judge_of_eq admitted ⟨hx, rfl⟩ ⟨hy, hy'⟩,
      judge_of_eq admitted ⟨hy, hy'⟩ ⟨hz, hz'⟩, judge_of_eq admitted ⟨hx, rfl⟩ ⟨hz, hz'⟩]
    exact (inner x hx).chained ⟨hx, rfl⟩ ⟨hy, hy'⟩ ⟨hz, hz'⟩

/-! ### Any base type -/

/-- What a value accepted by a struct type is in its context is a subtype of it. -/
lemma subtype_typeIn {l : Layout} (hl : u.layout? t = some l) (admitted : u.Admitted t P)
    {x : Value} (hx : P x) : (u.subtype? (typeIn t x) t).isSome = true := by
  have accepted := admitted.accepted x hx
  rcases accepted_cases hl accepted with rfl | ⟨s, vs, a, rfl⟩
  · exact u.subtype?_self t
  · rwa [accepts_struct hl] at accepted

/-- Where `t` and its subtypes compare their own values lawfully, by comparers of their own or
structurally, the comparison through `t` is lawful exactly if they are coherent. It is if `t` has no
comparer of its own, or if every subtype says of its own values what `t` says of them. -/
theorem lawful_compareTyped_iff {l : Layout} (hl : u.layout? t = some l) (admitted : u.Admitted t P)
    (own : ∀ s c, (u.subtype? s t).isSome = true → u.ownComparer? s = some c →
      Lawful P fun x y => (ValueComparer.own c).compare u h (some x) (some y))
    (structural : ∀ s, (u.subtype? s t).isSome = true → u.ownComparer? s = none →
      Lawful (fun x => P x ∧ typeIn t x = s) (u.compare h)) :
    (Lawful P (u.judge h t) ↔ u.Coherent h t P) ∧
    (u.ownComparer? t = none → Lawful P (u.judge h t)) ∧
    ((∀ x y, P x → P y → typeIn t x = typeIn t y →
      u.compareAs h (typeIn t x) x y = u.compareAs h t x y) → Lawful P (u.judge h t)) := by
  have inner : ∀ x, P x →
      Lawful (fun y => P y ∧ typeIn t y = typeIn t x) (u.compareAs h (typeIn t x)) := by
    intro x hx
    have accepted : ∀ {y : Value}, P y ∧ typeIn t y = typeIn t x →
        u.accepts (typeIn t x) y = true := fun hy => hy.2 ▸ accepts_typeIn hl admitted hy.1
    have sub := subtype_typeIn hl admitted hx
    cases hc : u.ownComparer? (typeIn t x) with
    | none =>
      refine (structural _ sub hc).congr fun y z hy hz => ?_
      rw [compareAs_of_accepted (accepted hy) (accepted hz), hc]
      rfl
    | some c =>
      refine ((own _ c sub hc).mono fun y hy => hy.1).congr fun y z hy hz => ?_
      rw [compareAs_of_accepted (accepted hy) (accepted hz), hc]
      rfl
  have base : ∀ c, u.ownComparer? t = some c → Lawful P (u.compareAs h t) := by
    intro c hc
    refine (own t c (u.subtype?_self t) hc).congr fun x y hx hy => ?_
    rw [compareAs_of_accepted (admitted.accepted x hx) (admitted.accepted y hy), hc]
    rfl
  have unruled := lawful_of_unruled (h := h) hl admitted
  cases hc : u.ownComparer? t with
  | none =>
    have lawful := unruled hc inner
    exact ⟨⟨coherent_of_lawful admitted, fun _ => lawful⟩, fun _ => lawful, fun _ => lawful⟩
  | some c =>
    refine ⟨⟨coherent_of_lawful admitted, lawful_of_coherent admitted (base c hc) inner⟩, nofun,
      fun agree => ?_⟩
    refine (base c hc).congr fun x y hx hy => ?_
    by_cases same : typeIn t x = typeIn t y
    · rw [judge_of_eq admitted ⟨hx, rfl⟩ ⟨hy, same.symm⟩]
      exact agree x y hx hy same
    · exact judge_of_ne admitted hx hy fun eq => absurd eq same

/-! ### A struct and a subtype of it -/

/-- Types with two more structs: one with a flag, and one that extends it, each with or without a
comparer. -/
def withSubtype (own sub : Option OwnComparer) : Universe :=
  let flagged : Declaration :=
    { name := "Flagged", shape := .struct [⟨"flag", .typed 0, false, none⟩] none false
      behavior := some { comparer := own } }
  let special : Declaration :=
    { name := "Special", shape := .struct [] (some 19) false
      behavior := some { comparer := sub } }
  match (builtin.declare {} flagged).bind fun (_, u) => u.declare {} special with
  | some (_, u) => u
  | none => builtin

/-- An object with a flag. -/
def flagged (t : TypeId) (flag : Bool) : Value :=
  .object t [.scalar (.bool flag)] none

variable {own sub : Option OwnComparer}

/-- The special struct is a subtype of the flagged one. -/
lemma subtype?_withSubtype : ((withSubtype own sub).subtype? 20 19).isSome = true := by
  unfold subtype?
  exact subtype?_self _ 19

/-- A value with a flag is accepted by the flagged struct. -/
lemma accepts_flagged {t : TypeId} (ht : t = 19 ∨ t = 20) (flag : Bool) :
    (withSubtype own sub).accepts 19 (flagged t flag) = true := by
  obtain rfl | rfl := ht
  · exact accepts_self rfl _ _
  · exact (accepts_struct rfl _).trans subtype?_withSubtype

/-- And it is accepted by its own type. -/
lemma accepts_flagged_self {t : TypeId} (ht : t = 19 ∨ t = 20) (flag : Bool) :
    (withSubtype own sub).accepts t (flagged t flag) = true := by
  obtain rfl | rfl := ht <;> exact accepts_self rfl _ _

/-- The values with a flag, of either type. -/
def IsFlagged (x : Value) : Prop :=
  ∃ t flag, (t = 19 ∨ t = 20) ∧ x = flagged t flag

/-- Values with a flag may be compared through the flagged struct. -/
lemma admitted_withSubtype : (withSubtype own sub).Admitted 19 IsFlagged where
  accepted := by
    rintro _ ⟨t, flag, ht, rfl⟩
    exact accepts_flagged ht flag
  structs := by
    rintro s vs a ⟨t, flag, rfl | rfl, same⟩
    · cases same
      rfl
    · cases same
      rfl

/-- A comparison that looks at the flags only is lawful. -/
lemma lawful_of_flags {verdict : Value → Value → Verdict}
    (flags : ∀ s t a b, verdict (flagged s a) (flagged t b) = (Scalar.bool a).compare (.bool b)) :
    Lawful IsFlagged verdict := by
  refine .of_chained ?_ ?_
  · rintro _ _ ⟨s, a, _, rfl⟩ ⟨t, b, _, rfl⟩
    rw [flags, flags]
    cases a <;> cases b <;> rfl
  · rintro _ _ _ ⟨s, a, _, rfl⟩ ⟨t, b, _, rfl⟩ ⟨r, c, _, rfl⟩
    rw [flags, flags, flags]
    exact Scalar.chained_compare rfl rfl

/-- The other types are those that are always there. -/
lemma desc_withSubtype (t : TypeId) :
    t = 19 ∨ t = 20 ∨ (withSubtype own sub).desc t = builtin.desc t := by
  have made : (withSubtype own sub).descriptors = (builtin.descriptors.push _).push _ := rfl
  rw [desc]
  rw [made, Descriptor.among_push, Descriptor.among_push]
  split
  · rename_i special
    exact .inr (.inl special)
  · split
    · rename_i flagged
      exact .inl flagged
    · exact .inr (.inr rfl)

/-- No other type has a comparer. -/
lemma ownComparer?_withSubtype {c : OwnComparer} {t : TypeId}
    (hc : (withSubtype own none).ownComparer? t = some c) : own = some c := by
  unfold ownComparer? at hc
  rcases @desc_withSubtype own none t with rfl | rfl | known
  · exact hc
  · cases hc
  · rw [known, builtin_hookFree t] at hc
    cases hc

/-- A struct that compares first fields agrees with a subtype that compares all of the only one. -/
theorem lawful_compareTyped_flagged :
    let u := withSubtype (some (.byFirstField 19)) none
    u.ownComparer? 19 = some (.byFirstField 19) ∧ u.ownComparer? 20 = none ∧
      u.Admitted 19 IsFlagged ∧ Lawful IsFlagged (u.judge {} 19) := by
  intro u
  have first : Lawful IsFlagged fun x y =>
      (ValueComparer.own (.byFirstField 19)).compare u {} (some x) (some y) := by
    apply lawful_of_flags
    intro s t a b
    cases a <;> cases b <;> rfl
  have whole : ∀ t a b, (t = 19 ∨ t = 20) →
      u.compare {} (flagged t a) (flagged t b) = (Scalar.bool a).compare (.bool b) := by
    rintro t a b (rfl | rfl) <;> cases a <;> cases b <;> rfl
  have iff := lawful_compareTyped_iff (u := u) (h := {}) (t := 19) rfl admitted_withSubtype ?_ ?_
  · refine ⟨rfl, rfl, admitted_withSubtype, iff.2.2 ?_⟩
    rintro _ _ ⟨s, a, hs, rfl⟩ ⟨t, b, ht, rfl⟩ same
    obtain rfl : s = t := same
    have alike := whole s a b hs
    rw [compareAs_of_accepted (s := 19) (accepts_flagged hs a) (accepts_flagged hs b)]
    show u.compareAs {} s _ _ = _
    rw [compareAs_of_accepted (accepts_flagged_self hs a) (accepts_flagged_self hs b)]
    obtain rfl | rfl := hs
    · rfl
    · exact alike
  · intro s c _ hc
    cases ownComparer?_withSubtype hc
    exact first
  · intro s _ _
    refine (first.mono fun x hx => hx.1).congr ?_
    rintro _ _ ⟨⟨t, a, ht, rfl⟩, rfl⟩ ⟨⟨t', b, _, rfl⟩, same⟩
    obtain rfl : t' = t := same
    exact whole t' a b ht

/-- A struct that finds everything equal is lawful, and its subtype has no comparer. Through the
struct an object of its own is equal to two objects of the subtype, one of which is less. -/
theorem mixed_not_lawful :
    let u := withSubtype (some .allEqual) none
    (∀ s c, u.ownComparer? s = some c →
      Lawful (fun _ => True) fun x y => (ValueComparer.own c).compare u {} (some x) (some y)) ∧
    (∀ t flag, t = 19 ∨ t = 20 → u.accepts 19 (flagged t flag) = true) ∧
    u.judge {} 19 (flagged 19 false) (flagged 20 false) = .equal ∧
    u.judge {} 19 (flagged 19 false) (flagged 20 true) = .equal ∧
    u.judge {} 19 (flagged 20 false) (flagged 20 true) = .less ∧
    ¬ Lawful IsFlagged (u.judge {} 19) := by
  intro u
  have is : ∀ t flag, t = 19 ∨ t = 20 → IsFlagged (flagged t flag) :=
    fun t flag ht => ⟨t, flag, ht, rfl⟩
  have mixed : ∀ flag, u.judge {} 19 (flagged 19 false) (flagged 20 flag) = .equal := by
    intro flag
    rw [judge_of_ne admitted_withSubtype (is 19 false (.inl rfl)) (is 20 flag (.inr rfl)) nofun,
      compareAs_of_accepted (accepts_flagged (.inl rfl) _) (accepts_flagged (.inr rfl) _)]
    rfl
  have less : u.judge {} 19 (flagged 20 false) (flagged 20 true) = .less := by
    rw [judge_of_eq (s := 20) admitted_withSubtype ⟨is 20 false (.inr rfl), rfl⟩
      ⟨is 20 true (.inr rfl), rfl⟩, compareAs_of_accepted
      (accepts_flagged_self (.inr rfl) false) (accepts_flagged_self (.inr rfl) true)]
    rfl
  refine ⟨fun s c hc => ?_, fun t flag ht => accepts_flagged ht flag, mixed false, mixed true, less,
    fun lawful => ?_⟩
  · cases ownComparer?_withSubtype hc
    exact ⟨fun _ _ _ _ => rfl, fun _ _ _ _ _ _ less _ => less, fun _ _ _ _ _ _ _ => rfl⟩
  · -- what the one object is equal to would have to compare alike
    have reflected := lawful.equal (flagged 19 false) (flagged 20 false) (flagged 20 true)
      (is 19 false (.inl rfl)) (is 20 false (.inr rfl)) (is 20 true (.inr rfl)) (mixed false)
    rw [mixed true, less] at reflected
    cases reflected

end Universe

end Metaobject
