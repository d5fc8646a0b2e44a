import Mathlib.Data.List.Forall2
import Metaobject.Proofs.Universe.Shape

/-!
# Well-typed values

A value is sound if every object in it is of a struct type, with one value per field, and every
field that declares a type holds a value that this type accepts. It is well typed for a type if it
is sound and the type accepts it. An object counts for what it is: where it is declared with the
type of its base, or with no type at all, it is still sound as an object of its own type.

What a field holds may be replaced by what is `Alike`, and where no scalar is expected by null.
-/

namespace Metaobject

/-- Values of one kind; objects of one type. -/
inductive Value.Alike : Value → Value → Prop where
  | refl (v : Value) : Alike v v
  | buffer (ref ref' : Handle) : Alike (.buffer ref) (.buffer ref')
  | object (t : TypeId) (vs ws : List Value) (a b : Option Tracker) :
    Alike (.object t vs a) (.object t ws b)

/-- A raw copy is alike. -/
lemma Value.alike_rawCopy (v : Value) : v.Alike v.rawCopy := by
  cases v with
  | object t vs a =>
    rw [rawCopy]
    exact .object t vs _ a _
  | _ => exact .refl _

namespace Universe

mutual

/-- Every object in the value is of a struct type, whose fields hold its values. -/
def isSound (u : Universe) : Value → Bool
  | .object type values _ => (u.layout? type).any fun l => holdAll u l.fields values
  | _ => true

/-- There is one value per field, each accepted by the declared type, if any. -/
def holdAll (u : Universe) : List Field → List Value → Bool
  | [], [] => true
  | f :: fs, v :: vs => f.type.all (u.accepts · v) && isSound u v && holdAll u fs vs
  | _, _ => false

end

/-- The type accepts the value, and everything in it is where it may be. -/
def isWellTyped (u : Universe) (t : TypeId) (v : Value) : Bool :=
  u.accepts t v && u.isSound v

/-- The field may hold the value. -/
structure Fits (u : Universe) (f : Field) (v : Value) : Prop where
  accepted : ∀ t, f.type = some t → u.accepts t v = true
  sound : u.isSound v = true

variable {u : Universe}

/-- A value is well typed if its type accepts it and it is sound. -/
lemma isWellTyped_iff {t : TypeId} {v : Value} :
    u.isWellTyped t v = true ↔ u.accepts t v = true ∧ u.isSound v = true :=
  Bool.and_eq_true_iff

/-- Fields hold values if each of them fits. -/
lemma holdAll_iff_forall₂ {fs : List Field} {vs : List Value} :
    u.holdAll fs vs = true ↔ List.Forall₂ u.Fits fs vs := by
  induction fs generalizing vs with
  | nil =>
    cases vs with
    | nil => exact ⟨fun _ => .nil, fun _ => rfl⟩
    | cons v vs => exact ⟨nofun, nofun⟩
  | cons f fs ih =>
    cases vs with
    | nil => exact ⟨nofun, nofun⟩
    | cons v vs =>
      rw [holdAll, Bool.and_eq_true_iff, Bool.and_eq_true_iff, Option.all_eq_true, ih,
        List.forall₂_cons]
      constructor
      · rintro ⟨⟨accepted, sound⟩, rest⟩
        exact ⟨⟨accepted, sound⟩, rest⟩
      · rintro ⟨⟨accepted, sound⟩, rest⟩
        exact ⟨⟨accepted, sound⟩, rest⟩

/-- The values of a sound object are those of the fields of its type. -/
lemma isSound_object {t : TypeId} {vs : List Value} {a : Option Tracker} :
    u.isSound (.object t vs a) = true ↔
      ∃ l, u.layout? t = some l ∧ List.Forall₂ u.Fits l.fields vs := by
  rw [isSound, Option.any_eq_true]
  refine exists_congr fun l => and_congr_right fun _ => holdAll_iff_forall₂

/-! ### What a type accepts -/

/-- Types do not tell alike values apart. -/
lemma accepts_alike {v w : Value} (alike : v.Alike w) (t : TypeId) :
    u.accepts t v = u.accepts t w := by
  cases alike with
  | refl => rfl
  | buffer => unfold accepts; cases (u.desc t).kind <;> rfl
  | object => unfold accepts; cases (u.desc t).kind <;> rfl

/-- A type that accepts an object accepts null. -/
lemma accepts_null {t s : TypeId} {vs : List Value} {a : Option Tracker}
    (accepted : u.accepts t (.object s vs a) = true) : u.accepts t .null = true := by
  unfold accepts at accepted ⊢
  cases hk : (u.desc t).kind with
  | scalar k =>
    rw [hk] at accepted
    cases accepted
  | _ => rfl

/-- A struct type accepts its own objects. -/
lemma accepts_self {t : TypeId} {l : Layout} (hl : u.layout? t = some l) (vs : List Value)
    (a : Option Tracker) : u.accepts t (.object t vs a) = true :=
  (accepts_struct hl _).trans (u.subtype?_self t)

/-- A sound object is well typed for its own type. -/
lemma isWellTyped_self {t : TypeId} {vs : List Value} {a : Option Tracker}
    (sound : u.isSound (.object t vs a) = true) : u.isWellTyped t (.object t vs a) = true := by
  obtain ⟨l, hl, _⟩ := isSound_object.1 sound
  exact isWellTyped_iff.2 ⟨accepts_self hl vs a, sound⟩

/-- A field may hold whatever is sound and alike to what it may hold. -/
lemma Fits.alike {f : Field} {v w : Value} (fits : u.Fits f v) (alike : v.Alike w)
    (sound : u.isSound w = true) : u.Fits f w := by
  refine ⟨fun t ht => ?_, sound⟩
  rw [← accepts_alike alike t]
  exact fits.accepted t ht

/-- A field that may hold an object may hold null instead. -/
lemma Fits.null {f : Field} {t : TypeId} {vs : List Value} {a : Option Tracker}
    (fits : u.Fits f (.object t vs a)) : u.Fits f .null :=
  ⟨fun s hs => accepts_null (fits.accepted s hs), rfl⟩

mutual

/-- The raw copy of a sound value is sound. -/
lemma isSound_rawCopy : (v : Value) → u.isSound v = true → u.isSound v.rawCopy = true
  | .object t vs a, sound => by
    obtain ⟨l, hl, held⟩ := isSound_object.1 sound
    rw [Value.rawCopy]
    exact isSound_object.2 ⟨l, hl, fits_rawCopies vs held⟩
  | .null, _ | .scalar _, _ | .buffer _, _ | .reference _ _, _ | .descriptor _, _ => rfl

/-- Raw copies fit where the values do. -/
lemma fits_rawCopies : (vs : List Value) → {fs : List Field} → List.Forall₂ u.Fits fs vs →
    List.Forall₂ u.Fits fs (Value.rawCopies vs)
  | [], _, held => held
  | v :: vs, _, held => by
    rw [Value.rawCopies]
    cases held with
    | cons fits rest =>
      have sound := isSound_rawCopy v fits.sound
      exact .cons (fits.alike v.alike_rawCopy sound) (fits_rawCopies vs rest)

end

/-- The raw copy of a well-typed value is well typed. -/
lemma isWellTyped_rawCopy {t : TypeId} {v : Value} (typed : u.isWellTyped t v = true) :
    u.isWellTyped t v.rawCopy = true := by
  obtain ⟨accepted, sound⟩ := isWellTyped_iff.1 typed
  refine isWellTyped_iff.2 ⟨?_, isSound_rawCopy v sound⟩
  rw [← accepts_alike v.alike_rawCopy t]
  exact accepted

/-- The zero of a scalar kind is well typed. -/
lemma isWellTyped_zero {t : TypeId} {k : ScalarKind} (hk : (u.desc t).kind = .scalar k) :
    u.isWellTyped t (.scalar k.zero) = true := by
  refine isWellTyped_iff.2 ⟨?_, rfl⟩
  unfold accepts
  rw [hk]
  exact decide_eq_true (Scalar.kind_zero k)

/-- A reference to nowhere is well typed. -/
lemma isWellTyped_nowhere {t : TypeId} {k : RefKind} (hk : (u.desc t).kind = .reference k) :
    u.isWellTyped t (.reference k 0) = true := by
  refine isWellTyped_iff.2 ⟨?_, rfl⟩
  unfold accepts
  rw [hk]
  exact decide_eq_true rfl

/-- The zero of a type is well typed. -/
theorem isWellTyped_zeroOf (u : Universe) (t : TypeId) : u.isWellTyped t (u.zeroOf t) = true := by
  refine zeroOf_induction (P := fun t v => u.isWellTyped t v = true) (fun t plain => ?_)
    (fun t l hl inside => ?_) t
  · cases hk : (u.desc t).kind with
    | scalar k => exact isWellTyped_zero hk
    | reference k => exact isWellTyped_nowhere hk
    | struct l => cases (layout?_of_kind hk).symm.trans plain
    | _ =>
      refine isWellTyped_iff.2 ⟨?_, rfl⟩
      unfold accepts
      rw [hk]
      rfl
  · refine isWellTyped_self (isSound_object.2 ⟨l, hl, ?_⟩)
    rw [List.forall₂_map_right_iff, List.forall₂_same]
    intro f hf
    cases hft : f.type with
    | none => exact ⟨fun s hs => (by cases hft.symm.trans hs), rfl⟩
    | some ft =>
      obtain ⟨accepted, sound⟩ := isWellTyped_iff.1 (inside f hf ft hft)
      refine ⟨fun s hs => ?_, sound⟩
      cases hft.symm.trans hs
      exact accepted

/-! ### Fields by their position -/

/-- A field is numbered by its position. -/
lemma index_numberedFrom {fs : List Field} {n i : Nat} {f : Field}
    (hf : (Layout.numberedFrom n fs)[i]? = some f) : f.index = n + i := by
  induction fs generalizing n i with
  | nil => cases hf
  | cons g fs ih =>
    cases i with
    | zero =>
      cases hf
      rfl
    | succ i =>
      have := ih hf
      omega

/-- The index of a field of a type is its position. -/
lemma index_of_getElem? {t : TypeId} {l : Layout} (hl : u.layout? t = some l) {i : Nat} {f : Field}
    (hf : l.fields[i]? = some f) : f.index = i := by
  obtain ⟨own, tracked, built⟩ := u.layered t l (kind_of_layout? hl)
  rw [built] at hf
  exact (index_numberedFrom hf).trans (Nat.zero_add i)

/-- A field of a type is found at its index. -/
lemma getElem?_index {t : TypeId} {l : Layout} (hl : u.layout? t = some l) {f : Field}
    (hf : f ∈ l.fields) : l.fields[f.index]? = some f := by
  obtain ⟨i, hi⟩ := List.mem_iff_getElem?.1 hf
  rwa [index_of_getElem? hl hi]

/-- The value at a position is one that the field there may hold. -/
lemma fits_of_getElem? {fs : List Field} {vs : List Value} (held : List.Forall₂ u.Fits fs vs)
    {i : Nat} {f : Field} {v : Value} (hf : fs[i]? = some f) (hv : vs[i]? = some v) :
    u.Fits f v := by
  induction held generalizing i with
  | nil => cases hf
  | cons fits _ ih =>
    cases i with
    | zero =>
      cases hf
      cases hv
      exact fits
    | succ i => exact ih hf hv

/-- A value may be put where the field may hold it. -/
lemma forall₂_set {fs : List Field} {vs : List Value} (held : List.Forall₂ u.Fits fs vs) {i : Nat}
    {v : Value} (fits : ∀ f, fs[i]? = some f → u.Fits f v) :
    List.Forall₂ u.Fits fs (vs.set i v) := by
  induction held generalizing i with
  | nil => exact .nil
  | cons fit rest ih =>
    cases i with
    | zero => exact .cons (fits _ rfl) rest
    | succ i => exact .cons fit (ih fits)

end Universe

end Metaobject
