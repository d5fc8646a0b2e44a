import Metaobject.Proofs.Storage.Embedded
import Metaobject.Proofs.Universe.Shape
import Metaobject.Session.Basic

/-!
# Formed values

A value is formed if every object in it is of a struct type, has one value per field, and carries a
tracker if its type is tracked and only then. This is what nobody checks again once an object is
there: it holds of what makes objects, and neither their fields nor their trackers can be added or
taken away.

Types are only ever added, so what is formed stays formed.
-/

namespace Metaobject

namespace Universe

/-- The type is a struct with that many fields, and it is tracked or not. -/
def HasForm (u : Universe) (t : TypeId) (n : Nat) (tracked : Bool) : Prop :=
  ∃ l, u.layout? t = some l ∧ l.fields.length = n ∧ l.tracked = tracked

mutual

/-- Every object in the value has the form that its type asks for. -/
def isFormed (u : Universe) : Value → Bool
  | .object type fields tracker =>
    (u.layout? type).any (fun l => l.fields.length = fields.length && l.tracked = tracker.isSome) &&
      allFormed u fields
  | _ => true

/-- The same for the values of an object. -/
def allFormed (u : Universe) : List Value → Bool
  | [] => true
  | v :: vs => isFormed u v && allFormed u vs

end

/-- Every struct type of the one is the same struct type of the other. -/
def Extends (u u' : Universe) : Prop :=
  ∀ t l, u.layout? t = some l → u'.layout? t = some l

variable {u u' : Universe}

/-- To be formed is asked of each value by itself. -/
lemma allFormed_iff {vs : List Value} :
    u.allFormed vs = true ↔ ∀ v ∈ vs, u.isFormed v = true := by
  induction vs with
  | nil => exact ⟨fun _ v hv => (List.not_mem_nil hv).elim, fun _ => rfl⟩
  | cons v vs ih => rw [allFormed, Bool.and_eq_true_iff, ih, List.forall_mem_cons]

/-- An object is formed if it has its form and its values are formed. -/
lemma isFormed_object {t : TypeId} {vs : List Value} {a : Option Tracker} :
    u.isFormed (.object t vs a) = true ↔
      u.HasForm t vs.length a.isSome ∧ ∀ v ∈ vs, u.isFormed v = true := by
  rw [isFormed, Bool.and_eq_true_iff, allFormed_iff, Option.any_eq_true]
  refine and_congr_left fun _ => exists_congr fun l => and_congr_right fun _ => ?_
  rw [Bool.and_eq_true_iff, decide_eq_true_iff, decide_eq_true_iff]

/-- Other values and another tracker leave an object formed, if there are as many as before. -/
lemma isFormed_object_of {t : TypeId} {vs ws : List Value} {a b : Option Tracker}
    (formed : u.isFormed (.object t vs a) = true) (len : ws.length = vs.length)
    (tracker : b.isSome = a.isSome) (all : ∀ w ∈ ws, u.isFormed w = true) :
    u.isFormed (.object t ws b) = true := by
  obtain ⟨form, _⟩ := isFormed_object.1 formed
  refine isFormed_object.2 ⟨?_, all⟩
  rw [len, tracker]
  exact form

/-- Another tracker in the place of the tracker leaves an object formed. -/
lemma isFormed_retrack {t : TypeId} {vs : List Value} {a b : Option Tracker}
    (formed : u.isFormed (.object t vs a) = true) (tracker : b.isSome = a.isSome) :
    u.isFormed (.object t vs b) = true :=
  isFormed_object_of formed rfl tracker (isFormed_object.1 formed).2

/-- Two formed objects of one type have the same number of fields. -/
lemma length_eq_of_isFormed {t : TypeId} {vs ws : List Value} {a b : Option Tracker}
    (first : u.isFormed (.object t vs a) = true) (second : u.isFormed (.object t ws b) = true) :
    vs.length = ws.length := by
  obtain ⟨⟨l, hl, len, _⟩, _⟩ := isFormed_object.1 first
  obtain ⟨⟨l', hl', len', _⟩, _⟩ := isFormed_object.1 second
  cases hl.symm.trans hl'
  exact len.symm.trans len'

/-! ### What is inside -/

/-- One formed value in the place of another leaves an object formed. -/
lemma isFormed_set {t : TypeId} {vs : List Value} {a : Option Tracker} {w : Value} (i : Nat)
    (formed : u.isFormed (.object t vs a) = true) (hw : u.isFormed w = true) :
    u.isFormed (.object t (vs.set i w) a) = true := by
  refine isFormed_object_of formed List.length_set rfl fun x hx => ?_
  rcases List.mem_or_eq_of_mem_set hx with old | rfl
  · exact (isFormed_object.1 formed).2 x old
  · exact hw

/-- A field of an object may change into what is formed as long as it was. -/
lemma isFormed_modify {t : TypeId} {vs : List Value} {a : Option Tracker} {f : Value → Value}
    (i : Nat) (formed : u.isFormed (.object t vs a) = true)
    (keeps : ∀ v, u.isFormed v = true → u.isFormed (f v) = true) :
    u.isFormed (.object t (vs.modify i f) a) = true := by
  have all := (isFormed_object.1 formed).2
  cases hv : vs[i]? with
  | none =>
    rw [List.modify_eq_self (List.getElem?_eq_none_iff.1 hv)]
    exact formed
  | some v =>
    rw [List.modify_eq_set, hv]
    exact isFormed_set i formed (keeps v (all v (List.mem_of_getElem? hv)))

/-- What is at the end of a path in a formed value is formed. -/
lemma isFormed_at? {path : List Nat} {v w : Value} (formed : u.isFormed v = true)
    (hw : v.at? path = some w) : u.isFormed w = true := by
  induction path generalizing v with
  | nil =>
    cases hw
    exact formed
  | cons i is ih =>
    cases v with
    | object t vs a =>
      obtain ⟨x, hx, hw⟩ := Option.bind_eq_some_iff.1 hw
      exact ih ((isFormed_object.1 formed).2 x (List.mem_of_getElem? hx)) hw
    | _ => cases hw

/-- A formed value may be put at the end of a path. -/
lemma isFormed_putAt {w : Value} (hw : u.isFormed w = true) (path : List Nat) :
    ∀ v, u.isFormed v = true → u.isFormed (w.putAt path v) = true := by
  induction path with
  | nil => exact fun v _ => hw
  | cons i is ih =>
    intro v formed
    cases v with
    | object t vs a => exact isFormed_modify i formed ih
    | _ => rfl

/-- A tracker may be put in the place of the tracker at the end of a path. -/
lemma isFormed_withTrackerAt (tr : Tracker) (path : List Nat) :
    ∀ v, u.isFormed v = true → u.isFormed (v.withTrackerAt tr path) = true := by
  induction path with
  | nil =>
    intro v formed
    cases v with
    | object t vs a =>
      cases a with
      | none => exact formed
      | some b => exact isFormed_retrack formed rfl
    | _ => rfl
  | cons i is ih =>
    intro v formed
    cases v with
    | object t vs a => exact isFormed_modify i formed ih
    | _ => rfl

/-- A value that is taken off the heap stays formed. -/
lemma isFormed_offHeap {v : Value} (formed : u.isFormed v = true) :
    u.isFormed v.offHeap = true := by
  cases v with
  | object t vs a =>
    cases a with
    | none => exact formed
    | some b => exact isFormed_retrack formed rfl
  | _ => rfl

/-! ### Copies, zeros, new objects -/

mutual

/-- The raw copy of a formed value is formed. -/
lemma isFormed_rawCopy : (v : Value) → u.isFormed v = true → u.isFormed v.rawCopy = true
  | .object t vs a, formed => by
    have all := allFormed_iff.2 (isFormed_object.1 formed).2
    rw [Value.rawCopy]
    refine isFormed_object_of formed ?_ Option.isSome_map
      (allFormed_iff.1 (allFormed_rawCopies vs all))
    rw [Value.rawCopies_eq_map, List.length_map]
  | .null, _ | .scalar _, _ | .buffer _, _ | .reference _ _, _ | .descriptor _, _ => rfl

/-- The same for the values of an object. -/
lemma allFormed_rawCopies : (vs : List Value) → u.allFormed vs = true →
    u.allFormed (Value.rawCopies vs) = true
  | [], _ => rfl
  | v :: vs, all => by
    obtain ⟨first, rest⟩ := Bool.and_eq_true_iff.1 all
    exact Bool.and_eq_true_iff.2 ⟨isFormed_rawCopy v first, allFormed_rawCopies vs rest⟩

end

/-- Zeros are formed. -/
lemma isFormed_zeroOf (u : Universe) (t : TypeId) : u.isFormed (u.zeroOf t) = true := by
  refine zeroOf_forall (P := (u.isFormed · = true)) (fun k => ?_) (fun t l vs hl len inside => ?_) t
  · cases k <;> rfl
  · refine isFormed_object.2 ⟨⟨l, hl, len.symm, ?_⟩, inside⟩
    cases l.tracked <;> rfl

/-- What is put together from formed values is formed, as they are counted. -/
lemma isFormed_instantiate {t : TypeId} {vs : List Value} {v : Value}
    (all : ∀ w ∈ vs, u.isFormed w = true) (hv : u.instantiate t vs = .ok v) :
    u.isFormed v = true := by
  unfold instantiate at hv
  split at hv
  · cases hv
  · rename_i l hl
    split at hv
    · rename_i len
      cases hv
      refine isFormed_object.2 ⟨⟨l, hl, len.symm, ?_⟩, all⟩
      cases l.tracked <;> rfl
    · cases hv

/-! ### More types -/

lemma Extends.refl (u : Universe) : u.Extends u :=
  fun _ _ => id

lemma Extends.trans {u'' : Universe} (first : u.Extends u') (second : u'.Extends u'') :
    u.Extends u'' :=
  fun t l hl => second t l (first t l hl)

/-- A type with a layout is one of those made. -/
lemma lt_size_of_layout? {t : TypeId} {l : Layout} (hl : u.layout? t = some l) : t < u.size := by
  refine Nat.lt_of_not_le fun late => ?_
  have unknown : u.descriptors[t]? = none := Array.getElem?_eq_none late
  rw [layout?, desc, Descriptor.among, unknown] at hl
  cases hl

/-- The new type is the next one, and it is as described; the others are what they were. -/
lemma declare_eq {h : Heap} {c : Declaration} {t : TypeId} (made : u.declare h c = some (t, u')) :
    t = u.size ∧ (∀ r ∈ c.shape.mentions, r < u.size) ∧
      ∀ s, u'.desc s = if s = u.size then u.describe h c else u.desc s := by
  unfold declare at made
  split at made
  · rename_i mentions
    cases made
    exact ⟨rfl, mentions, fun s => Descriptor.among_push _ _ s⟩
  · cases made

/-- A new type leaves the others alone. -/
lemma extends_declare {h : Heap} {c : Declaration} {t : TypeId}
    (made : u.declare h c = some (t, u')) : u.Extends u' := by
  obtain ⟨rfl, _, desc⟩ := declare_eq made
  intro s l hl
  rw [layout?, desc, if_neg (Nat.ne_of_lt (lt_size_of_layout? hl))]
  exact hl

/-- Nothing but the canonical instance of one type is different. -/
lemma setCanonical_eq {t : TypeId} {v : Value} (set : u.setCanonical t v = some u') (s : TypeId) :
    (u'.desc s).kind = (u.desc s).kind ∧ (u'.desc s).behavior = (u.desc s).behavior ∧
      ∀ w, (u'.desc s).canonical = some w → w = v ∨ (u.desc s).canonical = some w := by
  unfold setCanonical at set
  split at set
  · cases set
  · cases set
    unfold desc Descriptor.among
    rw [Array.getElem?_modify]
    split
    · cases u.descriptors[s]? with
      | none => exact ⟨rfl, rfl, nofun⟩
      | some e =>
        refine ⟨rfl, rfl, fun w hw => ?_⟩
        cases hw
        exact .inl rfl
    · exact ⟨rfl, rfl, fun w hw => .inr hw⟩

/-- A canonical instance changes no layout. -/
lemma layout?_setCanonical {t : TypeId} {v : Value} (set : u.setCanonical t v = some u')
    (s : TypeId) : u'.layout? s = u.layout? s := by
  rw [layout?, (setCanonical_eq set s).1, layout?]

/-- So no struct type is lost by it. -/
lemma extends_setCanonical {t : TypeId} {v : Value} (set : u.setCanonical t v = some u') :
    u.Extends u' := by
  intro s l hl
  rw [layout?_setCanonical set s]
  exact hl

mutual

/-- A value that is formed stays formed with more types. -/
lemma Extends.isFormed (more : u.Extends u') : (v : Value) → u.isFormed v = true →
    u'.isFormed v = true
  | .object t vs a, formed => by
    obtain ⟨⟨l, hl, form⟩, all⟩ := isFormed_object.1 formed
    have all' := more.allFormed vs (allFormed_iff.2 all)
    exact isFormed_object.2 ⟨⟨l, more t l hl, form⟩, allFormed_iff.1 all'⟩
  | .null, _ | .scalar _, _ | .buffer _, _ | .reference _ _, _ | .descriptor _, _ => rfl

/-- The same for the values of an object. -/
lemma Extends.allFormed (more : u.Extends u') : (vs : List Value) → u.allFormed vs = true →
    u'.allFormed vs = true
  | [], _ => rfl
  | v :: vs, all => by
    obtain ⟨first, rest⟩ := Bool.and_eq_true_iff.1 all
    exact Bool.and_eq_true_iff.2 ⟨more.isFormed v first, more.allFormed vs rest⟩

end

end Universe

end Metaobject
