import Metaobject.Proofs.Lifecycle.Disposal
import Metaobject.Proofs.Storage.Liveness
import Metaobject.Proofs.Storage.World
import Metaobject.Proofs.Universe.HookFree
import Metaobject.Proofs.Universe.WellTyped

/-!
# What freeing a value comes to

Unless the type of an object decides for itself, freeing is complete: every tracker in the tree
gives up what it lists, at every depth and whatever the fields say, and what is left is a function
of the value alone, `Universe.left`. `Universe.disposes_free` is that statement for every value that
nothing stops, and `Universe.free_clears` draws the conclusions for well-typed values.
-/

namespace Metaobject

open Metaobject.Action

variable {base : Heap} {held : List BufferId} {o : Outside}

/-- The action comes to the answer, and on the way it gives up the buffers, in order. -/
structure Disposes {α : Type} (bs : List BufferId) (a : Action α) (x : α) : Prop where
  answer : ∀ h, (a.run h).1 = x
  givesUp : GivesUp bs (do let _ ← a)

namespace Disposes

variable {α β : Type} {bs bs' : List BufferId} {a : Action α} {x : α}

lemma pure (x : α) : Disposes [] (pure x) x :=
  ⟨fun _ => rfl, .nothing⟩

/-- What two actions give up they give up one after the other. -/
lemma bind {f : α → Action β} {y : β} (first : Disposes bs a x) (second : Disposes bs' (f x) y) :
    Disposes (bs ++ bs') (a >>= f) y := by
  constructor
  · intro h
    show ((f (a.run h).1).run (a.run h).2).1 = y
    rw [first.answer h]
    exact second.answer _
  · have both := first.givesUp.bind second.givesUp
    intro base held o h ledger
    show _ ∧ ((f (a.run h).1).run (a.run h).2).2.returned = _ ∧ _
    rw [first.answer h]
    show Ledger base held o ((f (a.run h).1).run (a.run h).2).2 ∧ _ ∧
      ((f (a.run h).1).run (a.run h).2).2.due? = _
    rw [first.answer h]
    exact both base held o h ledger

/-- What is done with the answer is of no concern to buffers. -/
lemma map {f : α → Action β} {y : β} (first : Disposes bs a x) (second : Disposes [] (f x) y) :
    Disposes bs (a >>= f) y := by
  have both := first.bind second
  rwa [List.append_nil] at both

/-- An action that gives up buffers disposes of them. -/
lemma of_givesUp {a : Action Unit} (gives : GivesUp bs a) : Disposes bs a () :=
  ⟨fun _ => rfl, gives⟩

end Disposes

/-- A release disposes of what the tracker lists. -/
lemma Tracker.disposes_release (t : Tracker) :
    Disposes t.buffers t.release (t.onHeap, t.released) :=
  ⟨t.run_release, t.givesUp_release⟩

namespace Universe

/-- A type's own say in how its values are freed. -/
def freeHook? (u : Universe) (t : TypeId) : Option (Value → FreeAnswer) :=
  (u.desc t).behavior.bind (·.free)

/-- What a type says when a value is to be freed. -/
def freeAnswer (u : Universe) (t : TypeId) (v : Value) : FreeAnswer :=
  (u.freeHook? t).elim .decline fun hook => hook v

/-- What is left of a value that is no object. -/
def leftPlain (u : Universe) (t : TypeId) (v : Value) : Value :=
  match u.freeAnswer t v with
  | .clear => .null
  | _ => v

/-- What is left of an object whose fields were freed. -/
def leftObject (type : TypeId) (fields : List Value) : Option Tracker → Value
  | none => .object type fields none
  | some t => if t.onHeap then .null else .object type fields (some t.released)

mutual

/-- What is left of a value that was freed, its objects having no say in it. -/
def left (u : Universe) (t : TypeId) : Value → Value
  | .object type fields tracker =>
    leftObject type (leftFields u ((u.layout? type).elim [] (·.fields)) fields) tracker
  | v => u.leftPlain t v

/-- What is left of the values of fields. -/
def leftFields (u : Universe) (declared : List Field) : List Value → List Value
  | [] => []
  | v :: vs => (freedThrough declared.head? v).elim v (left u · v) :: leftFields u declared.tail vs

end

mutual

/-- No object in the value is of a type that has a say in how it is freed. -/
def leavesFreeing (u : Universe) : Value → Bool
  | .object type fields _ => (u.freeHook? type).isNone && allLeaveFreeing u fields
  | _ => true

/-- The same for the values of an object. -/
def allLeaveFreeing (u : Universe) : List Value → Bool
  | [] => true
  | v :: vs => leavesFreeing u v && allLeaveFreeing u vs

end

mutual

/-- No type that a value is freed through has a say in it: neither the types of the objects in it
nor the declared types of marked fields, through which other values are freed. -/
def isFreedUnasked (u : Universe) : Value → Bool
  | .object type fields _ =>
    (u.freeHook? type).isNone && areFreedUnasked u ((u.layout? type).elim [] (·.fields)) fields
  | _ => true

/-- No type that the values of the declared fields are freed through has a say in it. -/
def areFreedUnasked (u : Universe) (declared : List Field) : List Value → Bool
  | [] => true
  | v :: vs =>
    (freedThrough declared.head? v).all (fun t => (u.freeHook? t).isNone) && isFreedUnasked u v &&
      areFreedUnasked u declared.tail vs

end

mutual

/-- Nothing stops the value from being freed throughout: what is in its fields may be freed through
their types, and no object has a say in it. -/
def isFreeable (u : Universe) : Value → Bool
  | .object type fields _ =>
    (u.layout? type).isSome && (u.freeHook? type).isNone &&
      areFreeable u ((u.layout? type).elim [] (·.fields)) fields
  | _ => true

/-- The same for the values of the declared fields. -/
def areFreeable (u : Universe) (declared : List Field) : List Value → Bool
  | [] => true
  | v :: vs =>
    (freedThrough declared.head? v).all (u.accepts · v) && isFreeable u v &&
      areFreeable u declared.tail vs

end

variable {u : Universe}

/-- An object is freeable if its type has a layout and no hook, and its fields are freeable. -/
lemma isFreeable_object {type : TypeId} {fields : List Value} {tracker : Option Tracker} :
    u.isFreeable (.object type fields tracker) = true ↔
      ∃ l, u.layout? type = some l ∧ u.freeHook? type = none ∧
        u.areFreeable l.fields fields = true := by
  rw [isFreeable]
  cases u.layout? type <;> simp

/-- Where no type has hooks only the fields count. -/
lemma HookFree.isFreeable_object (hooks : u.HookFree) {type : TypeId} {l : Layout}
    (hl : u.layout? type = some l) {fields : List Value} {tracker : Option Tracker} :
    u.isFreeable (.object type fields tracker) = true ↔ u.areFreeable l.fields fields = true := by
  have hook : u.freeHook? type = none := by
    rw [freeHook?, hooks type]
    rfl
  rw [Universe.isFreeable_object]
  refine ⟨?_, fun able => ⟨l, hl, hook, able⟩⟩
  rintro ⟨l', hl', _, able⟩
  cases hl.symm.trans hl'
  exact able

/-- The first field has to be freeable through its type, and so have the others. -/
lemma areFreeable_cons {declared : List Field} {v : Value} {vs : List Value} :
    u.areFreeable declared (v :: vs) = true ↔
      (∀ t, freedThrough declared.head? v = some t → u.accepts t v = true) ∧
        u.isFreeable v = true ∧ u.areFreeable declared.tail vs = true := by
  rw [areFreeable, Bool.and_eq_true_iff, Bool.and_eq_true_iff, Option.all_eq_true, and_assoc]

/-- A field of a well-typed object may be freed through its type. -/
lemma Fits.freedThrough {f : Field} {v : Value} (fits : u.Fits f v) {t : TypeId}
    (ht : freedThrough (some f) v = some t) : u.accepts t v = true := by
  have declared : ((Option.some f).filter (·.recurse)).bind (·.type) = some t →
      u.accepts t v = true := by
    intro named
    obtain ⟨g, hg, ht⟩ := Option.bind_eq_some_iff.1 named
    obtain ⟨same, _⟩ := Option.filter_eq_some_iff.1 hg
    cases same
    exact fits.accepted t ht
  cases v with
  | null => cases ht
  | object type fields tracker =>
    cases ht
    exact (isWellTyped_iff.1 (isWellTyped_self fits.sound)).1
  | _ => exact declared ht

mutual

/-- A sound value is freeable if its objects have no say in it. -/
lemma isFreeable_of_isSound : (v : Value) → u.isSound v = true → u.leavesFreeing v = true →
    u.isFreeable v = true
  | .object type fields tracker, sound, leaves => by
    obtain ⟨l, hl, held⟩ := isSound_object.1 sound
    rw [leavesFreeing, Bool.and_eq_true_iff, Option.isNone_iff_eq_none] at leaves
    exact isFreeable_object.2 ⟨l, hl, leaves.1, areFreeable_of_fits fields held leaves.2⟩
  | .null, _, _ | .scalar _, _, _ | .buffer _, _, _ | .reference _ _, _, _
  | .descriptor _, _, _ => rfl

/-- Fields with values that fit are freeable if no object in them has a say. -/
lemma areFreeable_of_fits : (vs : List Value) → {fs : List Field} → List.Forall₂ u.Fits fs vs →
    u.allLeaveFreeing vs = true → u.areFreeable fs vs = true
  | [], _, _, _ => rfl
  | v :: vs, _, held, leaves => by
    rw [allLeaveFreeing, Bool.and_eq_true_iff] at leaves
    cases held with
    | cons fits rest =>
      refine areFreeable_cons.2 ⟨fun t ht => fits.freedThrough ht, ?_, ?_⟩
      · exact isFreeable_of_isSound v fits.sound leaves.1
      · exact areFreeable_of_fits vs rest leaves.2

end

mutual

/-- No object in a value without hooks has a say in how it is freed. -/
lemma leavesFreeing_of_isHookless : (v : Value) → u.isHookless v = true → u.leavesFreeing v = true
  | .object t vs _, hookless => by
    rw [isHookless, Bool.and_eq_true_iff, Bool.and_eq_true_iff] at hookless
    obtain ⟨⟨silent, _⟩, inside⟩ := hookless
    rw [leavesFreeing, freeHook?, Option.isNone_iff_eq_none.1 silent,
      allLeaveFreeing_of_areHookless vs inside]
    rfl
  | .null, _ | .scalar _, _ | .buffer _, _ | .reference _ _, _ | .descriptor _, _ => rfl

/-- Types without hooks have no say in it. -/
lemma allLeaveFreeing_of_areHookless : (vs : List Value) → u.areHookless vs = true →
    u.allLeaveFreeing vs = true
  | [], _ => rfl
  | v :: vs, hookless => by
    obtain ⟨first, rest⟩ := areHookless_cons.1 hookless
    rw [allLeaveFreeing, leavesFreeing_of_isHookless v first, allLeaveFreeing_of_areHookless vs rest]
    rfl

end

mutual

/-- Where no type has a say, no object has one. -/
lemma leavesFreeing_of_isFreedUnasked : (v : Value) → u.isFreedUnasked v = true →
    u.leavesFreeing v = true
  | .object t vs _, unasked => by
    rw [isFreedUnasked, Bool.and_eq_true_iff] at unasked
    rw [leavesFreeing, unasked.1, allLeaveFreeing_of_areFreedUnasked vs unasked.2]
    rfl
  | .null, _ | .scalar _, _ | .buffer _, _ | .reference _ _, _ | .descriptor _, _ => rfl

/-- Where no type is asked no object has a say. -/
lemma allLeaveFreeing_of_areFreedUnasked : (vs : List Value) → {declared : List Field} →
    u.areFreedUnasked declared vs = true → u.allLeaveFreeing vs = true
  | [], _, _ => rfl
  | v :: vs, _, unasked => by
    rw [areFreedUnasked, Bool.and_eq_true_iff, Bool.and_eq_true_iff] at unasked
    rw [allLeaveFreeing, leavesFreeing_of_isFreedUnasked v unasked.1.2,
      allLeaveFreeing_of_areFreedUnasked vs unasked.2]
    rfl

end

/-! ### What is left -/

/-- What is no object is cleared or left as it is. -/
lemma leftPlain_cases (u : Universe) (t : TypeId) (v : Value) :
    u.leftPlain t v = .null ∨ u.leftPlain t v = v := by
  rw [leftPlain]
  split
  · exact .inl rfl
  · exact .inr rfl

/-- Null stays null. -/
lemma leftPlain_null (u : Universe) (t : TypeId) : u.leftPlain t .null = .null :=
  (u.leftPlain_cases t .null).elim id id

/-- An object is null afterwards if it lives on the heap, and else what its fields are. -/
lemma leftObject_cases (type : TypeId) (fields : List Value) (tracker : Option Tracker) :
    ((∃ t, tracker = some t ∧ t.onHeap = true) ∧ leftObject type fields tracker = .null) ∨
      (¬ (∃ t, tracker = some t ∧ t.onHeap = true) ∧
        leftObject type fields tracker = .object type fields (tracker.map (·.released))) := by
  cases tracker with
  | none => exact .inr ⟨by simp, rfl⟩
  | some t =>
    rw [leftObject]
    split
    · rename_i onHeap
      exact .inl ⟨⟨t, rfl, onHeap⟩, rfl⟩
    · rename_i offHeap
      exact .inr ⟨by simpa using offHeap, rfl⟩

/-- A value is null afterwards, or it is what it was. -/
lemma alike_left (u : Universe) (t : TypeId) (v : Value) :
    u.left t v = .null ∨ v.Alike (u.left t v) := by
  cases v with
  | object type fields tracker =>
    rw [left]
    rcases leftObject_cases type
      (u.leftFields ((u.layout? type).elim [] (·.fields)) fields) tracker with ⟨_, null⟩ | ⟨_, kept⟩
    · exact .inl null
    · rw [kept]
      exact .inr (.object ..)
  | _ =>
    simp only [left]
    refine (u.leftPlain_cases t _).imp_right fun same => ?_
    rw [same]
    exact .refl _

/-- Alike values are freed through the same type. -/
lemma freedThrough_alike {v w : Value} (alike : v.Alike w) (f : Option Field) :
    freedThrough f w = freedThrough f v := by
  cases alike <;> rfl

mutual

/-- Freeing what is left leaves it as it is. -/
lemma left_left : (v : Value) → ∀ t, u.left t (u.left t v) = u.left t v
  | .object type fields tracker, t => by
    rw [left]
    rcases leftObject_cases type
      (u.leftFields ((u.layout? type).elim [] (·.fields)) fields) tracker with ⟨_, null⟩ | ⟨_, kept⟩
    · rw [null]
      simp only [left]
      exact u.leftPlain_null t
    · rw [kept, left, leftFields_leftFields fields]
      cases tracker <;> rfl
  | .null, t | .scalar _, t | .buffer _, t | .reference _ _, t | .descriptor _, t => by
    simp only [left]
    rcases u.leftPlain_cases t _ with null | same
    · rw [null]
      simp only [left]
      exact u.leftPlain_null t
    · rw [same]
      simp only [left]
      exact same

/-- Freeing the fields once more changes nothing. -/
lemma leftFields_leftFields : (vs : List Value) → ∀ declared : List Field,
    u.leftFields declared (u.leftFields declared vs) = u.leftFields declared vs
  | [], _ => rfl
  | v :: vs, declared => by
    rw [leftFields, leftFields, leftFields_leftFields vs]
    congr 1
    cases through : freedThrough declared.head? v with
    | none =>
      rw [Option.elim_none, through]
      rfl
    | some t =>
      rw [Option.elim_some]
      rcases u.alike_left t v with null | alike
      · rw [null]
        rfl
      · rw [freedThrough_alike alike, through]
        exact left_left v t

end

mutual

/-- What is left may be freed again. -/
lemma isFreeable_left : (v : Value) → u.isFreeable v = true → ∀ t, u.isFreeable (u.left t v) = true
  | .object type fields tracker, able, t => by
    obtain ⟨l, hl, hook, inside⟩ := isFreeable_object.1 able
    rw [left, hl, Option.elim_some]
    rcases leftObject_cases type (u.leftFields l.fields fields) tracker with ⟨_, null⟩ | ⟨_, kept⟩
    · rw [null]
      rfl
    · rw [kept]
      exact isFreeable_object.2 ⟨l, hl, hook, areFreeable_leftFields fields inside⟩
  | .null, able, t | .scalar _, able, t | .buffer _, able, t | .reference _ _, able, t
  | .descriptor _, able, t => by
    simp only [left]
    rcases u.leftPlain_cases t _ with null | same
    · rw [null]
      rfl
    · rw [same]
      exact able

/-- What is left in the fields is as freeable as before. -/
lemma areFreeable_leftFields : (vs : List Value) → {declared : List Field} →
    u.areFreeable declared vs = true → u.areFreeable declared (u.leftFields declared vs) = true
  | [], _, _ => rfl
  | v :: vs, declared, able => by
    obtain ⟨accepted, able, rest⟩ := areFreeable_cons.1 able
    rw [leftFields]
    cases through : freedThrough declared.head? v with
    | none =>
      refine areFreeable_cons.2 ⟨?_, able, areFreeable_leftFields vs rest⟩
      rwa [Option.elim_none]
    | some t =>
      refine areFreeable_cons.2 ⟨fun s hs => ?_, isFreeable_left v able t,
        areFreeable_leftFields vs rest⟩
      rw [Option.elim_some] at hs ⊢
      rcases u.alike_left t v with null | alike
      · rw [null] at hs
        cases hs
      · rw [freedThrough_alike alike] at hs
        rw [← accepts_alike alike]
        exact accepted s hs

end

mutual

/-- A raw copy may be freed if and only if the source may. -/
lemma isFreeable_rawCopy : (v : Value) → u.isFreeable v.rawCopy = u.isFreeable v
  | .object t vs a => by
    rw [Value.rawCopy, isFreeable, isFreeable, areFreeable_rawCopies vs]
  | .null | .scalar _ | .buffer _ | .reference _ _ | .descriptor _ => rfl

/-- Raw copies are as freeable as the values. -/
lemma areFreeable_rawCopies : (vs : List Value) → {declared : List Field} →
    u.areFreeable declared (Value.rawCopies vs) = u.areFreeable declared vs
  | [], _ => rfl
  | v :: vs, declared => by
    have accepted : (u.accepts · v.rawCopy) = (u.accepts · v) :=
      funext fun t => (accepts_alike v.alike_rawCopy t).symm
    rw [Value.rawCopies, areFreeable, areFreeable, freedThrough_alike v.alike_rawCopy, accepted,
      isFreeable_rawCopy v, areFreeable_rawCopies vs]

end

mutual

/-- Every tracker that is left is empty, and says that its object does not live on the heap. -/
lemma emptied_left : (v : Value) → ∀ t path tr, Value.trackerAt? path (u.left t v) = some tr →
    tr.buffers = [] ∧ tr.onHeap = false
  | .object type fields tracker, t, path, tr, found => by
    rw [left] at found
    rcases leftObject_cases type
      (u.leftFields ((u.layout? type).elim [] (·.fields)) fields) tracker with ⟨_, null⟩ | ⟨_, kept⟩
    · rw [null] at found
      cases path <;> cases found
    · rw [kept] at found
      cases path with
      | nil =>
        obtain ⟨t', _, rfl⟩ := Option.map_eq_some_iff.1 found
        exact ⟨rfl, rfl⟩
      | cons i is =>
        obtain ⟨w, hw, found⟩ := Option.bind_eq_some_iff.1 found
        exact emptied_leftFields fields _ w (List.mem_of_getElem? hw) is tr found
  | .null, t, path, tr, found | .scalar _, t, path, tr, found | .buffer _, t, path, tr, found
  | .reference _ _, t, path, tr, found | .descriptor _, t, path, tr, found => by
    simp only [left] at found
    rcases u.leftPlain_cases t _ with null | same
    · rw [null] at found
      cases path <;> cases found
    · rw [same] at found
      cases path <;> cases found

/-- No tracker in what is left of the fields lists anything. -/
lemma emptied_leftFields : (vs : List Value) → ∀ declared, ∀ w ∈ u.leftFields declared vs,
    ∀ path tr, Value.trackerAt? path w = some tr → tr.buffers = [] ∧ tr.onHeap = false
  | [], _, _, hw, _, _, _ => by cases hw
  | v :: vs, declared, w, hw, path, tr, found => by
    rw [leftFields] at hw
    obtain rfl | hw := List.mem_cons.1 hw
    · cases through : freedThrough declared.head? v with
      | some t =>
        rw [through] at found
        exact emptied_left v t path tr found
      | none =>
        -- what is not freed at all is no object
        rw [through] at found
        cases v with
        | object => cases through
        | _ => cases path <;> cases found
    · exact emptied_leftFields vs _ w hw path tr found

end

/-- What is left owns nothing. -/
lemma owned_left (u : Universe) (t : TypeId) (v : Value) : (u.left t v).owned = [] := by
  refine List.eq_nil_iff_forall_not_mem.2 fun b hb => ?_
  obtain ⟨path, tr, found, hb⟩ := (Value.mem_owned_iff _).1 hb
  rw [(emptied_left v t path tr found).1] at hb
  cases hb

/-- Nor does what is left in the fields. -/
lemma ownedByAll_leftFields (u : Universe) (declared : List Field) (vs : List Value) :
    Value.ownedByAll (u.leftFields declared vs) = [] := by
  refine List.eq_nil_iff_forall_not_mem.2 fun b hb => ?_
  obtain ⟨i, is, tr, found, hb⟩ := (Value.mem_ownedByAll_iff _).1 hb
  obtain ⟨w, hw, found⟩ := Option.bind_eq_some_iff.1 found
  rw [(emptied_leftFields vs declared w (List.mem_of_getElem? hw) is tr found).1] at hb
  cases hb

/-! ### What happens on the way -/

/-- To ask a hook about a release gives nothing up. -/
lemma disposes_consultFree (u : Universe) (t : TypeId) (v : Value) :
    Disposes [] (u.consultFree t v) (u.freeAnswer t v) := by
  rw [consultFree, freeAnswer, freeHook?]
  cases (u.desc t).behavior.bind (·.free) with
  | none => exact .pure _
  | some hook =>
    constructor
    · exact fun _ => rfl
    · intro base held o h ledger
      have step := step_emit (.hook t .free) h
      exact ⟨ledger.quiet step, step.returned, step.due?⟩

/-- To free what is no object gives nothing up. -/
lemma disposes_freePlain {t : TypeId} {v : Value} (accepted : u.accepts t v = true) :
    Disposes [] (u.freePlain t v) (u.leftPlain t v, none) := by
  rw [freePlain, if_pos accepted]
  refine (u.disposes_consultFree t v).map ?_
  rw [leftPlain]
  cases u.freeAnswer t v <;> exact .pure _

/-- An object on the heap is dropped in the end, when there is nothing more to give up. -/
lemma disposes_finishFree (type : TypeId) {fields : List Value} (own : Value.ownedByAll fields = [])
    (tracker : Option Tracker) :
    Disposes (tracker.elim [] (·.buffers)) (finishFree type fields tracker)
      (leftObject type fields tracker) := by
  cases tracker with
  | none => exact .pure _
  | some t =>
    rw [finishFree, leftObject]
    refine t.disposes_release.map ?_
    dsimp only
    split
    · have drop := Value.givesUp_drop (.object type fields (some t.released))
      rw [Value.owned, own] at drop
      exact (Disposes.of_givesUp drop).map (.pure _)
    · exact .pure _

mutual

/-- Freeing a value that nothing stops gives up all that it owns. -/
lemma disposes_free : (v : Value) → u.isFreeable v = true → ∀ t, u.accepts t v = true →
    Disposes v.owned (u.free t v) (u.left t v, none)
  | .object type fields tracker, able, t, accepted => by
    obtain ⟨l, hl, hook, inside⟩ := isFreeable_object.1 able
    have declines : u.freeAnswer type (.object type fields tracker) = .decline := by
      rw [freeAnswer, hook]
      rfl
    rw [free, if_pos accepted, left, hl, Option.elim_some]
    refine (u.disposes_consultFree type _).bind ?_
    rw [declines]
    refine (disposes_freeFields fields l.fields inside).bind ?_
    exact (disposes_finishFree type (u.ownedByAll_leftFields l.fields fields) tracker).map (.pure _)
  | .null, _, t, _ => by
    simp only [free, left, u.leftPlain_null]
    exact .pure _
  | .scalar _, _, t, accepted | .buffer _, _, t, accepted | .reference _ _, _, t, accepted
  | .descriptor _, _, t, accepted => by
    simp only [free, left]
    exact disposes_freePlain accepted

/-- Freeing the fields gives up what they own, in order. -/
lemma disposes_freeFields : (vs : List Value) → ∀ declared, u.areFreeable declared vs = true →
    Disposes (Value.ownedByAll vs) (u.freeFields declared vs) (u.leftFields declared vs, none)
  | [], _, _ => by
    rw [freeFields]
    exact .pure _
  | v :: vs, declared, able => by
    obtain ⟨accepted, able, rest⟩ := areFreeable_cons.1 able
    have others := disposes_freeFields vs declared.tail rest
    rw [freeFields, leftFields, Value.ownedByAll]
    cases through : freedThrough declared.head? v with
    | none =>
      have own : v.owned = [] := by
        cases v with
        | object => cases through
        | _ => rfl
      rw [own]
      exact others.map (.pure _)
    | some t =>
      exact (disposes_free v able t (accepted t through)).bind (others.map (.pure _))

end

/-- What is left may be freed again, and nothing happens. -/
lemma disposes_left {t : TypeId} {v : Value} (able : u.isFreeable v = true)
    (accepted : u.accepts t v = true) :
    Disposes [] (u.free t (u.left t v)) (u.left t v, none) := by
  rcases u.alike_left t v with null | alike
  · rw [null, free]
    exact .pure _
  · have again := disposes_free (u.left t v) (isFreeable_left v able t) t
      ((accepts_alike alike t).symm.trans accepted)
    rwa [owned_left, left_left] at again

/-- What freeing a value comes to: the value that is left, no violation, and a heap. -/
structure Cleared (u : Universe) (t : TypeId) (v : Value) (h : Heap)
    (r : (Value × Option Violation) × Heap) : Prop where
  /-- Nothing stops it. -/
  finished : r.1.2 = none
  /-- The buffers of the value are those that the trackers in its tree list, at every depth. -/
  listed : ∀ b, b ∈ v.owned ↔ ∃ path tr, v.trackerAt? path = some tr ∧ b ∈ tr.buffers
  /-- None of them is listed twice, and each has a block. -/
  once : v.owned.Nodup ∧ ∀ b ∈ v.owned, (h.due? b).isSome = true
  /-- What goes back are the blocks of these buffers, in order, and nothing else. -/
  returned : r.2.returned = h.returned ++ v.owned.filterMap h.due?
  /-- These buffers are dead, and every other one is as it was. -/
  dead : ∀ b ∈ v.owned, h.isLive (.to b) = true ∧ r.2.isLive (.to b) = false
  others : ∀ ref, (∀ b ∈ v.owned, ref ≠ .to b) → r.2.read ref = h.read ref
  /-- Every tracker that is left is empty and off the heap. -/
  emptied : ∀ path tr, r.1.1.trackerAt? path = some tr → tr.buffers = [] ∧ tr.onHeap = false
  /-- Only objects that live on the heap become null. -/
  nulled : v ≠ .null →
    (r.1.1 = .null ↔ ∃ tr, v.trackerAt? [] = some tr ∧ tr.onHeap = true)
  kept : r.1.1 ≠ .null → v.Alike r.1.1
  plain : v.isObject = false → r.1.1 = v
  /-- Freeing what is left leaves it as it is, and no buffer is concerned. -/
  again : ((u.free t r.1.1).run r.2).1 = (r.1.1, none) ∧
    ((u.free t r.1.1).run r.2).2.returned = r.2.returned ∧
    ∀ ref, ((u.free t r.1.1).run r.2).2.read ref = r.2.read ref

/-- What is left of a non-null value whose type has no say is null if the value is an object on the
heap. -/
lemma left_eq_null_iff {t : TypeId} {v : Value} (silent : u.freeHook? t = none)
    (present : v ≠ .null) :
    u.left t v = .null ↔ ∃ tr, v.trackerAt? [] = some tr ∧ tr.onHeap = true := by
  cases v with
  | null => exact absurd rfl present
  | object type fields tracker =>
    rw [left]
    rcases leftObject_cases type
      (u.leftFields ((u.layout? type).elim [] (·.fields)) fields) tracker with
      ⟨onHeap, null⟩ | ⟨offHeap, kept⟩
    · exact ⟨fun _ => onHeap, fun _ => null⟩
    · rw [kept]
      exact ⟨nofun, fun onHeap => absurd onHeap offHeap⟩
  | _ =>
    simp [left, leftPlain, freeAnswer, silent, Value.trackerAt?]

/-- Where no type has a say in it, freeing is complete and exact, and doing it twice is doing it
once. -/
theorem free_clears (u : Universe) {t : TypeId} {v : Value} {h : Heap}
    (silent : u.freeHook? t = none) (unasked : u.isFreedUnasked v = true)
    (typed : u.isWellTyped t v = true) (ledger : Ledger base (v.owned ++ held) o h)
    (closed : ∀ b ∈ v.owned, b ∉ o.readings) : u.Cleared t v h ((u.free t v).run h) := by
  obtain ⟨accepted, sound⟩ := isWellTyped_iff.1 typed
  have able := isFreeable_of_isSound v sound (leavesFreeing_of_isFreedUnasked v unasked)
  obtain ⟨answer, gives⟩ := disposes_free v able t accepted
  obtain ⟨after, returned, due⟩ := gives base held o h ledger
  obtain ⟨answer', gives'⟩ := disposes_left able accepted
  obtain ⟨after', returned', due'⟩ := gives' base held o _ after
  rw [List.filter_eq_self.2 fun b hb => decide_eq_true (closed b hb)] at returned
  have remains : ((u.free t v).run h).1.1 = u.left t v := congrArg Prod.fst (answer h)
  constructor
  case finished => exact congrArg Prod.snd (answer h)
  case listed => exact fun b => Value.mem_owned_iff v
  case once =>
    refine ⟨ledger.nodup.sublist (List.sublist_append_left ..), fun b hb => ?_⟩
    obtain ⟨c, _, live, _⟩ := ledger.cell_of_mem (List.mem_append_left held hb)
    rw [Heap.due?, Heap.getElem?_of_cell? live]
    rfl
  case returned => exact returned
  case dead =>
    intro b hb
    refine ⟨?_, ledger.dead_of_given_up after hb (closed b hb)⟩
    have listed := List.mem_append_left held hb
    exact (ledger.isLive_iff (ledger.since_of_mem listed)).2 (.inl listed)
  case others =>
    exact fun ref other => ledger.read_eq after due other
  case emptied =>
    rw [remains]
    exact emptied_left v t
  case nulled =>
    rw [remains]
    exact left_eq_null_iff silent
  case kept =>
    rw [remains]
    exact (u.alike_left t v).resolve_left
  case plain =>
    intro plain
    rw [remains]
    cases v with
    | object => cases plain
    | _ => simp [left, leftPlain, freeAnswer, silent]
  case again =>
    rw [remains]
    refine ⟨answer' _, returned'.trans (List.append_nil _), fun ref => ?_⟩
    have same : Ledger base ([] ++ held) o _ := after
    exact same.read_eq after' due' (List.forall_mem_nil _)

/-- Types with two more structs: a leaf with a tracker, which may have a say in how it is freed, and
a tree that holds anything. -/
def withLeaf (free : Option (Value → FreeAnswer)) : Universe :=
  let leaf : Declaration :=
    { name := "Leaf", shape := .struct [⟨"data", .typed 14, false, none⟩] none true
      behavior := free.map fun hook => { free := some hook } }
  let tree : Declaration :=
    { name := "Tree", shape := .struct [⟨"leaf", .untyped 8, false, none⟩] none false }
  match (builtin.declare {} leaf).bind fun (_, u) => u.declare {} tree with
  | some (_, u) => u
  | none => builtin

/-- A tree with a leaf on the heap, whose tracker lists a buffer. -/
def tree : Value :=
  .object 20 [.object 19 [.buffer (.to 0)] (some
    { onHeap := true, buffers := [0], capacity := 4 })] none

/-- How the tree comes about. -/
def planted : World :=
  (World.start #[]).run [.place (.object 20 [.object 19 [.buffer (.to 0)] (some {})] none),
    .mark [0, 0] true, .make [97], .track [0, 0] 0]

/-- A tree with a leaf is well typed, whatever hook leaves have. -/
lemma isWellTyped_tree (free : Option (Value → FreeAnswer)) :
    (withLeaf free).isWellTyped 20 tree = true :=
  isWellTyped_self rfl

/-- A tree whose leaf owns a buffer is cleared, and the leaf with it. -/
theorem free_clears_tree :
    (withLeaf none).freeHook? 20 = none ∧ (withLeaf none).isFreedUnasked tree = true ∧
      (withLeaf none).isWellTyped 20 tree = true ∧
      (withLeaf none).Cleared 20 tree planted.heap
        (((withLeaf none).free 20 tree).run planted.heap) := by
  have ledger : Ledger (World.start #[]).heap (tree.owned ++ []) {} planted.heap :=
    (World.sound_run #[] _ : World.Sound #[] planted).ledger
  refine ⟨rfl, rfl, isWellTyped_tree none, ?_⟩
  exact free_clears (withLeaf none) rfl rfl (isWellTyped_tree none) ledger (by decide)

/-- A type without any say frees a tree, and a leaf that its own type keeps keeps its buffer. -/
theorem free_keeps :
    let u := withLeaf (some fun _ => .keep)
    (u.desc 20).behavior.isNone = true ∧ u.isWellTyped 20 tree = true ∧
      Ledger (World.start #[]).heap tree.owned {} planted.heap ∧ tree.owned = [0] ∧
      ((u.free 20 tree).run planted.heap).2.isLive (.to 0) = true ∧
      ((u.free 20 tree).run planted.heap).2.returned = [] := by
  intro u
  have ledger := (World.sound_run #[] _ : World.Sound #[] planted).ledger
  have leaf : ∀ fields tracker, u.free 19 (.object 19 fields tracker) = do
      emit (.hook 19 .free)
      return (.object 19 fields tracker, none) := by
    intro fields tracker
    rw [free, if_pos (accepts_self rfl _ _)]
    rfl
  have run : u.free 20 tree = do
      emit (.hook 19 .free)
      return (tree, none) := by
    rw [tree, free, if_pos (accepts_self rfl _ _), freeFields]
    simp only [freedThrough]
    rw [leaf]
    rfl
  rw [run]
  exact ⟨rfl, isWellTyped_tree _, ledger, rfl, rfl, rfl⟩

end Universe

end Metaobject
