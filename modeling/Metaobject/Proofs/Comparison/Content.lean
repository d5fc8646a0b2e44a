import Metaobject.Proofs.Comparison.WeakOrder
import Metaobject.Proofs.Lifecycle.Assembly
import Metaobject.Proofs.Universe.HookFree

/-!
# Values of one content

Two values agree if they are alike at every depth: objects of the same types, buffers with the same
bytes, and the same value everywhere else. What nobody but a comparer of a type could tell apart
agrees, so agreeing values stand for each other in the structural comparison, they are both zero or
both not, and the same types accept them.
-/

namespace Metaobject

/-- The values have the same content, as the buffers read in a heap. -/
inductive Value.Agrees (h : Heap) : Value → Value → Prop where
  | same {v : Value} (plain : v.isObject = false) : Agrees h v v
  | bytes {a b : Handle} {bytes : Bytes} (left : h.read a = some bytes)
    (right : h.read b = some bytes) : Agrees h (.buffer a) (.buffer b)
  | object {t : TypeId} {vs ws : List Value} {a b : Option Tracker}
    (fields : List.Forall₂ (Agrees h) vs ws) (tracked : a.isSome = b.isSome) :
    Agrees h (.object t vs a) (.object t ws b)

namespace Value

variable {h h' : Heap} {v w x : Value}

/-- What holds of plain values, and of an object if it holds of the values of its fields, holds of all
values. -/
@[elab_as_elim]
lemma objectInduction {P : Value → Prop}
    (object : ∀ t vs a, (∀ v ∈ vs, P v) → P (.object t vs a))
    (plain : ∀ v, v.isObject = false → P v) (v : Value) : P v := by
  cases v with
  | object t vs a =>
    refine object t vs a fun w mem => ?_
    have := List.sizeOf_lt_of_mem mem
    exact objectInduction object plain w
  | _ => exact plain _ rfl

namespace Agrees

/-- Induction along the fields of two values that agree. -/
@[elab_as_elim]
lemma inductionOn {P : (v w : Value) → v.Agrees h w → Prop} (agrees : v.Agrees h w)
    (same : ∀ v plain, P v v (.same plain))
    (bytes : ∀ (a b : Handle) (bytes : Bytes) (left : h.read a = some bytes)
      (right : h.read b = some bytes), P (.buffer a) (.buffer b) (.bytes left right))
    (object : ∀ (t : TypeId) (vs ws : List Value) (a b : Option Tracker)
      (fields : List.Forall₂ (fun v w => ∃ agrees : v.Agrees h w, P v w agrees) vs ws)
      (tracked : a.isSome = b.isSome),
      P (.object t vs a) (.object t ws b) (.object (fields.imp fun _ _ both => both.1) tracked)) :
    P v w agrees :=
  @Agrees.rec h P
    (fun vs ws _ => List.Forall₂ (fun v w => ∃ agrees : Agrees h v w, P v w agrees) vs ws)
    (fun plain => same _ plain) (fun left right => bytes _ _ _ left right)
    (fun _ tracked fields => object _ _ _ _ _ fields tracked) .nil
    (fun agrees _ first rest => .cons ⟨agrees, first⟩ rest) v w agrees

lemma refl (h : Heap) (v : Value) : v.Agrees h v := by
  induction v using objectInduction with
  | object t vs a ih => exact .object (List.forall₂_same.2 ih) rfl
  | plain v plain => exact .same plain

lemma symm (agrees : v.Agrees h w) : w.Agrees h v := by
  induction agrees using inductionOn with
  | same v plain => exact .same plain
  | bytes a b bytes left right => exact .bytes right left
  | object t vs ws a b fields tracked =>
    refine .object (List.Forall₂.flip ?_) tracked.symm
    exact fields.imp fun _ _ both => both.2

/-! ### What agrees with a value -/

/-- A value without objects and buffers only agrees with itself. -/
lemma eq_of_plain (plain : v.isObject = false) (other : v.handle? = none)
    (agrees : v.Agrees h w) : w = v := by
  cases agrees with
  | same => rfl
  | bytes => cases other
  | object => cases plain

/-- With a buffer only a buffer of the same bytes agrees. -/
lemma buffer_inv {a : Handle} (agrees : (Value.buffer a).Agrees h w) :
    ∃ b, w = .buffer b ∧ h.read b = h.read a := by
  cases agrees with
  | same => exact ⟨a, rfl, rfl⟩
  | bytes left right => exact ⟨_, rfl, right.trans left.symm⟩

/-- With an object only one of its type agrees, field by field. -/
lemma object_inv {t : TypeId} {vs : List Value} {a : Option Tracker}
    (agrees : (Value.object t vs a).Agrees h w) :
    ∃ ws b, w = .object t ws b ∧ List.Forall₂ (Agrees h) vs ws ∧ a.isSome = b.isSome := by
  cases agrees with
  | same plain => cases plain
  | object fields tracked => exact ⟨_, _, rfl, fields, tracked⟩

lemma trans (first : v.Agrees h w) (second : w.Agrees h x) : v.Agrees h x := by
  induction first using inductionOn generalizing x with
  | same => exact second
  | bytes a b bytes left right =>
    obtain ⟨c, rfl, reads⟩ := second.buffer_inv
    exact .bytes left (reads.trans right)
  | object t vs ws a b fields tracked =>
    obtain ⟨xs, c, rfl, fields', tracked'⟩ := second.object_inv
    refine .object ?_ (tracked.trans tracked')
    clear second
    induction fields generalizing xs with
    | nil =>
      cases fields'
      exact .nil
    | cons first _ ih =>
      cases fields' with
      | cons second rest => exact .cons (first.2 second) (ih _ rest)

/-- Values that agree have the same sort. -/
lemma tag_eq (agrees : v.Agrees h w) : v.tag = w.tag := by
  cases agrees <;> rfl

/-- Values that agree are alike, so the same types accept them. -/
lemma alike (agrees : v.Agrees h w) : v.Alike w := by
  cases agrees with
  | same => exact .refl v
  | bytes => exact .buffer _ _
  | object => exact .object ..

/-- Values that agree are zero together. -/
lemma isZero_eq (agrees : v.Agrees h w) : w.isZero = v.isZero := by
  induction agrees using inductionOn with
  | same => rfl
  | bytes => rfl
  | object t vs ws a b fields =>
    rw [isZero, isZero]
    induction fields with
    | nil => rfl
    | cons first _ ih => rw [allZero, allZero, first.2, ih]

/-- What agrees goes on to agree while no buffer changes. -/
lemma later (agrees : v.Agrees h w) (later : h.Extends h') : v.Agrees h' w := by
  induction agrees using inductionOn with
  | same v plain => exact .same plain
  | bytes a b bytes left right => exact .bytes (later.read left) (later.read right)
  | object t vs ws a b fields tracked =>
    exact .object (fields.imp fun _ _ both => both.2) tracked

end Agrees

/-- A raw copy agrees with its source, also where that has buffers that were released. -/
lemma agrees_rawCopy (h : Heap) (v : Value) : v.Agrees h v.rawCopy := by
  induction v using objectInduction with
  | object t vs a ih =>
    rw [rawCopy, rawCopies_eq_map]
    refine .object ?_ Option.isSome_map.symm
    exact List.forall₂_map_right_iff.2 (List.forall₂_same.2 ih)
  | plain v plain =>
    cases v with
    | object => cases plain
    | _ => exact .same rfl

end Value

open Value

/-- Where a verdict tells sorts apart only values of one sort have to be looked at. -/
lemma TellsTags.congr {verdict : Value → Value → Verdict} (tells : TellsTags verdict)
    {x x' y y' : Value} (hx : x.tag = x'.tag) (hy : y.tag = y'.tag)
    (alike : x.tag ≠ .null → x.tag = y.tag → verdict x y = verdict x' y') :
    verdict x y = verdict x' y' := by
  by_cases null : x.tag = .null
  · rw [TellsTags.eq_null null, TellsTags.eq_null (hx.symm.trans null)]
    by_cases null' : y.tag = .null
    · rw [TellsTags.eq_null null', TellsTags.eq_null (hy.symm.trans null')]
    · rw [tells.first y null', tells.first y' (hy ▸ null')]
  · by_cases xy : x.tag = y.tag
    · exact alike null xy
    · exact tells.same x y x' y' null hx hy xy

namespace Universe

variable {u : Universe} {h : Heap}

/-! ### Values without comparers -/

/-- To be without comparers is asked of each value by itself. -/
lemma allUnruled_iff {vs : List Value} :
    u.allUnruled vs = true ↔ ∀ v ∈ vs, u.isUnruled v = true := by
  induction vs with
  | nil => exact ⟨fun _ _ => nofun, fun _ => rfl⟩
  | cons v vs ih => rw [allUnruled, Bool.and_eq_true_iff, ih, List.forall_mem_cons]

/-- So is to be without hooks. -/
lemma areHookless_iff {vs : List Value} :
    u.areHookless vs = true ↔ ∀ v ∈ vs, u.isHookless v = true := by
  induction vs with
  | nil => exact ⟨fun _ _ => nofun, fun _ => rfl⟩
  | cons v vs ih => rw [areHookless_cons, ih, List.forall_mem_cons]

/-- A silent type has no comparer. -/
lemma ownComparer?_of_isSilent {t : TypeId} (silent : u.isSilent t = true) :
    u.ownComparer? t = none := by
  rw [ownComparer?, Option.isNone_iff_eq_none.1 silent]
  rfl

/-- Values without hooks have no comparers. -/
lemma isUnruled_of_isHookless {v : Value} (hookless : u.isHookless v = true) :
    u.isUnruled v = true := by
  induction v using objectInduction with
  | object t vs a ih =>
    rw [isHookless, Bool.and_eq_true_iff, Bool.and_eq_true_iff, List.all_eq_true] at hookless
    obtain ⟨⟨silent, declared⟩, all⟩ := hookless
    rw [isUnruled, Bool.and_eq_true_iff, Bool.and_eq_true_iff]
    refine ⟨⟨?_, ?_⟩, allUnruled_iff.2 fun v hv => ih v hv (areHookless_iff.1 all v hv)⟩
    · rw [ownComparer?_of_isSilent silent]
      rfl
    · cases hl : u.layout? t with
      | none => rfl
      | some l =>
        rw [hl] at declared
        refine List.all_eq_true.2 fun f hf => ?_
        cases hs : f.type with
        | none => rfl
        | some s =>
          have silent := (Option.all_eq_true ..).1 (declared f hf) s hs
          rw [Option.bind_some, ownComparer?_of_isSilent silent]
          rfl
  | plain v plain =>
    cases v with
    | object => cases plain
    | _ => rfl

/-- Values that agree are without comparers together. -/
lemma isUnruled_congr {v w : Value} (agrees : v.Agrees h w) : u.isUnruled w = u.isUnruled v := by
  induction agrees using Agrees.inductionOn with
  | same => rfl
  | bytes => rfl
  | object t vs ws a b fields =>
    have same : u.allUnruled ws = u.allUnruled vs := by
      induction fields with
      | nil => rfl
      | cons first _ ih => rw [allUnruled, allUnruled, first.2, ih]
    rw [isUnruled, isUnruled, same]

/-! ### The structural comparison -/

/-- The verdict on field values only depends on what they agree with. -/
lemma plainVerdict_congr {x x' y y' : Value} (hx : x.Agrees h x') (hy : y.Agrees h y')
    (whole : u.compare h x y = u.compare h x' y') :
    u.plainVerdict h x y = u.plainVerdict h x' y' := by
  have left := accepts_of_tag_eq (u := u) hx.tag_eq
  have right := accepts_of_tag_eq (u := u) hy.tag_eq
  cases hx with
  | same =>
    unfold plainVerdict
    simp only [right, whole]
  | bytes => exact whole
  | object =>
    unfold plainVerdict
    simp only [left, right, whole]

/-- Fields without comparers are compared alike if their values are. -/
lemma compareFields_congr {xs xs' ys ys' : List Value} {declared : List Field}
    (bare : u.areBare declared = true) (unruled : u.allUnruled xs = true)
    (hxs : List.Forall₂ (fun x x' => x.Agrees h x' ∧ ∀ {y y'}, u.isUnruled x = true →
      y.Agrees h y' → u.compare h x y = u.compare h x' y') xs xs')
    (hys : List.Forall₂ (Agrees h) ys ys') :
    u.compareFields h declared xs ys = u.compareFields h declared xs' ys' := by
  induction hxs generalizing declared ys ys' with
  | nil =>
    cases hys with
    | nil => rfl
    | cons => rw [compareFields, compareFields]
  | cons hx _ ih =>
    obtain ⟨first, rest⟩ := Bool.and_eq_true_iff.1 unruled
    cases hys with
    | nil => rw [compareFields, compareFields]
    | cons hy hys =>
      have first' := (isUnruled_congr hx.1).trans first
      rw [compareFields_cons bare first, compareFields_cons bare first',
        plainVerdict_congr hx.1 hy (hx.2 first hy), ih (bare_tail bare) rest hys]

/-- Agreeing values stand for each other on both sides of a comparison, whatever the verdict is. -/
lemma compare_congr {x x' y y' : Value} (unruled : u.isUnruled x = true) (hx : x.Agrees h x')
    (hy : y.Agrees h y') : u.compare h x y = u.compare h x' y' := by
  induction hx using Agrees.inductionOn generalizing y y' with
  | same x plain =>
    refine (tellsTags_compare u h).congr rfl hy.tag_eq fun _ alike => ?_
    cases hy with
    | same => rfl
    | bytes left right =>
      cases x with
      | buffer a => rw [compare_buffer, compare_buffer, left, right]
      | _ => cases alike
    | object =>
      cases x with
      | object => cases plain
      | _ => cases alike
  | bytes a a' bytes left right =>
    refine (tellsTags_compare u h).congr rfl hy.tag_eq fun _ alike => ?_
    cases y with
    | buffer b =>
      obtain ⟨b', rfl, reads⟩ := hy.buffer_inv
      rw [compare_buffer, compare_buffer, left, right, reads]
    | _ => cases alike
  | object t xs xs' a a' fields =>
    refine (tellsTags_compare u h).congr rfl hy.tag_eq fun _ alike => ?_
    cases y with
    | object s ys b =>
      cases alike
      obtain ⟨ys', b', rfl, fields', _⟩ := hy.object_inv
      cases hl : u.layout? t with
      | none => rw [compare, compare, if_pos rfl, if_pos rfl, hl]
      | some l =>
        obtain ⟨bare, all⟩ := unruled_object unruled
        rw [compare_object hl, compare_object hl]
        have each := fields.imp fun _ _ ⟨agrees, same⟩ => And.intro agrees @same
        exact compareFields_congr (bare l hl) all each fields'
    | _ => cases alike

end Universe

end Metaobject
