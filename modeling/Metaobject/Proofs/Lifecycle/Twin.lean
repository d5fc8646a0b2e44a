import Metaobject.Proofs.Lifecycle.Clearance
import Metaobject.Proofs.Lifecycle.Supply
import Metaobject.Proofs.Storage.Transfer

/-!
# What a duplicate is

Where no type has a say in it, a duplicate depends on its source alone, apart from the numbers of
its new buffers, which are given out in depth-first order. `Universe.transfersOf` are the buffers
that are copied and `Universe.twin` is the duplicate, its buffers being numbered from some number
on.

The laws here say what is at a path in a twin: a new buffer, listed by the tracker of the object
around it, if every field on the way is marked and that object has a tracker
(`Universe.isCopiedAt`), and otherwise what is there in the source.
-/

namespace Metaobject

/-- What a field holds in the copy of an object: a new buffer for a buffer, if there is a
tracker. -/
def twinPart (tracked : Bool) (n : BufferId) (inside : Value) : Value → Value
  | .buffer ref => if tracked then .buffer (.to n) else .buffer ref
  | _ => inside

/-- The buffers that are copied for a field of an object, given those inside of its value. -/
def partTransfers (tracked : Option (Option Manager)) (inside : List Transfer) :
    Value → List Transfer
  | .buffer ref => (tracked.map fun m => { source := ref, manager := m }).toList
  | _ => inside

namespace Tracker

/-- Buffers that are listed one by one come last, in order. -/
lemma buffers_foldl_push (bs : List BufferId) (t : Tracker) :
    (bs.foldl push t).buffers = t.buffers ++ bs := by
  induction bs generalizing t with
  | nil => exact (List.append_nil _).symm
  | cons b bs ih => rw [List.foldl_cons, ih, buffers_push, List.append_assoc, List.singleton_append]

/-- Listing buffers keeps what is deferred. -/
lemma setup_foldl_push (bs : List BufferId) (t : Tracker) : (bs.foldl push t).setup = t.setup := by
  induction bs generalizing t with
  | nil => rfl
  | cons b bs ih => rw [List.foldl_cons, ih, setup_push]

/-- Listing buffers keeps the manager. -/
lemma manager_foldl_push (bs : List BufferId) (t : Tracker) :
    (bs.foldl push t).manager = t.manager := by
  induction bs generalizing t with
  | nil => rfl
  | cons b bs ih => rw [List.foldl_cons, ih, manager_push]

end Tracker

namespace Universe

mutual

/-- The buffers that a duplication copies, in depth-first order. -/
def transfersOf (u : Universe) (recursive : Bool) : Value → List Transfer
  | .object type values tracker =>
    fieldTransfers u recursive (tracker.map (·.manager)) ((u.layout? type).elim [] (·.fields)) values
  | _ => []

/-- The buffers that are copied for the fields of an object; `tracked` tells of its tracker. -/
def fieldTransfers (u : Universe) (recursive : Bool) (tracked : Option (Option Manager))
    (declared : List Field) : List Value → List Transfer
  | [] => []
  | v :: vs =>
    match declared with
    | [] => []
    | f :: fs =>
      (if recursive && f.recurse then partTransfers tracked (transfersOf u true v) v
        else []).map (·.under f) ++ fieldTransfers u recursive tracked fs vs

end

/-- The buffers that are copied for one field. -/
def transfersAt (u : Universe) (recursive : Bool) (tracked : Option (Option Manager)) (f : Field)
    (v : Value) : List Transfer :=
  if recursive && f.recurse then partTransfers tracked (u.transfersOf true v) v else []

/-- The new buffer that the tracker of an object lists for one field. -/
def listedAt (recursive : Bool) (tracked : Option (Option Manager)) (n : BufferId) (f : Field) :
    Value → List BufferId
  | .buffer _ => if recursive && f.recurse && tracked.isSome then [n] else []
  | _ => []

/-- The new buffers that the tracker of an object lists. -/
def listedFor (u : Universe) (recursive : Bool) (tracked : Option (Option Manager)) :
    BufferId → List Field → List Value → List BufferId
  | n, f :: fs, v :: vs =>
    listedAt recursive tracked n f v ++
      listedFor u recursive tracked (n + (u.transfersAt recursive tracked f v).length) fs vs
  | _, _, _ => []

mutual

/-- The duplicate of a value, its new buffers being numbered from `n` on. -/
def twin (u : Universe) (recursive : Bool) (n : BufferId) : Value → Value
  | .object type values tracker =>
    let fields := (u.layout? type).elim [] (·.fields)
    finish type (twins u recursive (tracker.map (·.manager)) n fields values)
      (tracker.map fun t => (u.listedFor recursive (some t.manager) n fields values).foldl
        Tracker.push { manager := t.manager })
  | v => v

/-- The same for the values of fields. -/
def twins (u : Universe) (recursive : Bool) (tracked : Option (Option Manager)) (n : BufferId)
    (declared : List Field) : List Value → List Value
  | [] => []
  | v :: vs =>
    match declared with
    | [] => []
    | f :: fs =>
      (if recursive && f.recurse then twinPart tracked.isSome n (twin u true n v) v
        else v.rawCopy) ::
        twins u recursive tracked (n + (u.transfersAt recursive tracked f v).length) fs vs

end

/-- The duplicate of the value of one field. -/
def twinAt (u : Universe) (recursive : Bool) (tracked : Option (Option Manager)) (n : BufferId)
    (f : Field) (v : Value) : Value :=
  if recursive && f.recurse then twinPart tracked.isSome n (u.twin true n v) v else v.rawCopy

variable {u : Universe} {recursive : Bool} {tracked : Option (Option Manager)} {n : BufferId}

/-- What is needed for the fields is needed for the first one and then for the others. -/
lemma fieldTransfers_cons (f : Field) (fs : List Field) (v : Value) (vs : List Value) :
    u.fieldTransfers recursive tracked (f :: fs) (v :: vs) =
      (u.transfersAt recursive tracked f v).map (·.under f) ++
        u.fieldTransfers recursive tracked fs vs := by
  rw [fieldTransfers, transfersAt]

/-- The twins of the others begin where the first one ends. -/
lemma twins_cons (f : Field) (fs : List Field) (v : Value) (vs : List Value) :
    u.twins recursive tracked n (f :: fs) (v :: vs) =
      u.twinAt recursive tracked n f v ::
        u.twins recursive tracked (n + (u.transfersAt recursive tracked f v).length) fs vs := by
  rw [twins, twinAt]

/-- The number of buffers that are copied for the fields before a position. -/
def offsetAt (u : Universe) (recursive : Bool) (tracked : Option (Option Manager)) (i : Nat)
    (fs : List Field) (vs : List Value) : Nat :=
  (u.fieldTransfers recursive tracked (fs.take i) (vs.take i)).length

/-- So does the offset of each of the others. -/
lemma offsetAt_cons (i : Nat) (f : Field) (fs : List Field) (v : Value) (vs : List Value) :
    u.offsetAt recursive tracked (i + 1) (f :: fs) (v :: vs) =
      (u.transfersAt recursive tracked f v).length + u.offsetAt recursive tracked i fs vs := by
  rw [offsetAt, List.take_succ_cons, List.take_succ_cons, fieldTransfers_cons, List.length_append,
    List.length_map, offsetAt]

/-- What the twin of an object has at a position. -/
lemma getElem?_twins {i : Nat} {f : Field} {v : Value} :
    ∀ {fs : List Field} {vs : List Value} {n : BufferId}, fs[i]? = some f → vs[i]? = some v →
      (u.twins recursive tracked n fs vs)[i]? =
        some (u.twinAt recursive tracked (n + u.offsetAt recursive tracked i fs vs) f v) := by
  induction i with
  | zero =>
    rintro (_ | ⟨f, fs⟩) (_ | ⟨v, vs⟩) n ⟨⟩ ⟨⟩
    rw [twins_cons]
    rfl
  | succ i ih =>
    rintro (_ | ⟨g, fs⟩) (_ | ⟨w, vs⟩) n hf hv
    · cases hf
    · cases hf
    · cases hv
    · rw [twins_cons, List.getElem?_cons_succ, ih hf hv, offsetAt_cons, Nat.add_assoc]

/-- The buffers that are copied for a position come after those of the positions before. -/
lemma getElem?_fieldTransfers {i k : Nat} {f : Field} {v : Value} {t : Transfer} :
    ∀ {fs : List Field} {vs : List Value}, fs[i]? = some f → vs[i]? = some v →
      (u.transfersAt recursive tracked f v)[k]? = some t →
      (u.fieldTransfers recursive tracked fs vs)[u.offsetAt recursive tracked i fs vs + k]? =
        some (t.under f) := by
  induction i with
  | zero =>
    rintro (_ | ⟨f, fs⟩) (_ | ⟨v, vs⟩) ⟨⟩ ⟨⟩ ht
    have lt : k < (u.transfersAt recursive tracked f v).length := (List.getElem?_eq_some_iff.1 ht).1
    have start : u.offsetAt recursive tracked 0 (f :: fs) (v :: vs) = 0 := by
      rw [offsetAt, List.take_zero, List.take_zero, fieldTransfers]
      rfl
    rw [fieldTransfers_cons, start, Nat.zero_add,
      List.getElem?_append_left (by rwa [List.length_map]), List.getElem?_map, ht]
    rfl
  | succ i ih =>
    rintro (_ | ⟨g, fs⟩) (_ | ⟨w, vs⟩) hf hv ht
    · cases hf
    · cases hf
    · cases hv
    · rw [fieldTransfers_cons, offsetAt_cons, List.getElem?_append_right
        (by rw [List.length_map]; omega), List.length_map, Nat.add_assoc, Nat.add_sub_cancel_left]
      exact ih hf hv ht

/-- The tracker of an object lists a new buffer for a position if there is a buffer to be copied. -/
lemma mem_listedFor_iff {b : BufferId} :
    ∀ {fs : List Field} {vs : List Value} {n : BufferId},
      b ∈ u.listedFor recursive tracked n fs vs ↔ ∃ i f v, fs[i]? = some f ∧ vs[i]? = some v ∧
        b ∈ listedAt recursive tracked (n + u.offsetAt recursive tracked i fs vs) f v
  | [], vs, n => by
    rw [listedFor]
    · exact ⟨nofun, fun ⟨i, f, v, hf, _⟩ => by cases hf⟩
    · exact nofun
  | f :: fs, [], n => by
    rw [listedFor]
    · exact ⟨nofun, fun ⟨i, f, v, _, hv, _⟩ => by cases hv⟩
    · exact nofun
  | f :: fs, v :: vs, n => by
    rw [listedFor, List.mem_append, mem_listedFor_iff]
    constructor
    · rintro (first | ⟨i, g, w, hg, hw, hb⟩)
      · exact ⟨0, f, v, rfl, rfl, first⟩
      · refine ⟨i + 1, g, w, hg, hw, ?_⟩
        rwa [offsetAt_cons, ← Nat.add_assoc]
    · rintro ⟨_ | i, g, w, hg, hw, hb⟩
      · cases hg
        cases hw
        exact .inl hb
      · refine .inr ⟨i, g, w, hg, hw, ?_⟩
        rwa [offsetAt_cons, ← Nat.add_assoc] at hb

/-- What is at a position of the twin of an object is the twin of what is there in the source. -/
lemma exists_of_getElem?_twins {i : Nat} {w : Value} :
    ∀ {fs : List Field} {vs : List Value} {n : BufferId},
      (u.twins recursive tracked n fs vs)[i]? = some w → ∃ f v, fs[i]? = some f ∧ vs[i]? = some v ∧
        w = u.twinAt recursive tracked (n + u.offsetAt recursive tracked i fs vs) f v
  | [], [], _, hw => by
    rw [twins] at hw
    cases hw
  | [], _ :: _, _, hw => by
    rw [twins] at hw
    cases hw
  | _ :: _, [], _, hw => by
    rw [twins] at hw
    cases hw
  | f :: fs, v :: vs, n, hw => by
    rw [twins_cons] at hw
    cases i with
    | zero =>
      cases hw
      exact ⟨f, v, rfl, rfl, rfl⟩
    | succ i =>
      obtain ⟨g, x, hg, hx, rfl⟩ := exists_of_getElem?_twins hw
      refine ⟨g, x, hg, hx, ?_⟩
      rw [offsetAt_cons, Nat.add_assoc]

/-! ### Objects -/

/-- The twin of an object has twins of its fields, and a new tracker that lists what is copied for
them. -/
lemma twin_object (type : TypeId) (vs : List Value) (a : Option Tracker) :
    u.twin recursive n (.object type vs a) =
      .object type (u.twins recursive (a.map (·.manager)) n ((u.layout? type).elim [] (·.fields)) vs)
        (a.map fun t => { (u.listedFor recursive (some t.manager) n
          ((u.layout? type).elim [] (·.fields)) vs).foldl Tracker.push { manager := t.manager } with
            onHeap := true }) := by
  rw [twin, finish, Option.map_map]
  rfl

/-- What is no object is its own twin. -/
lemma twin_plain {v : Value} (plain : v.isObject = false) (recursive : Bool) (n : BufferId) :
    u.twin recursive n v = v := by
  cases v with
  | object => cases plain
  | _ => simp only [twin]

/-- A twin is of the kind of its source. -/
lemma alike_twin (v : Value) (recursive : Bool) (n : BufferId) :
    v.Alike (u.twin recursive n v) := by
  cases v with
  | object type vs a =>
    rw [twin_object]
    exact .object ..
  | _ =>
    rw [twin_plain rfl]
    exact .refl _

/-- A field has a raw copy, a twin, or a new buffer that the tracker of the object lists. -/
lemma twinAt_cases (u : Universe) (recursive : Bool) (tracked : Option (Option Manager))
    (n : BufferId) (f : Field) (v : Value) :
    (recursive && f.recurse) = false ∧ u.twinAt recursive tracked n f v = v.rawCopy ∧
        u.transfersAt recursive tracked f v = [] ∧ listedAt recursive tracked n f v = [] ∨
      (recursive && f.recurse) = true ∧ (v.handle? = none ∨ tracked = none) ∧
        u.twinAt recursive tracked n f v = u.twin true n v ∧
        u.transfersAt recursive tracked f v = u.transfersOf true v ∧
        listedAt recursive tracked n f v = [] ∨
      (recursive && f.recurse) = true ∧ ∃ ref m, v = .buffer ref ∧ tracked = some m ∧
        u.twinAt recursive tracked n f v = .buffer (.to n) ∧
        u.transfersAt recursive tracked f v = [{ source := ref, manager := m }] ∧
        listedAt recursive tracked n f v = [n] := by
  rw [twinAt, transfersAt]
  cases deep : recursive && f.recurse with
  | false =>
    refine .inl ⟨rfl, rfl, rfl, ?_⟩
    cases v with
    | buffer ref => rw [listedAt, deep]; rfl
    | _ => rfl
  | true =>
    refine .inr ?_
    cases v with
    | buffer ref =>
      rw [listedAt, deep]
      cases tracked with
      | none =>
        refine .inl ⟨rfl, .inr rfl, ?_, ?_, rfl⟩
        · exact (twin_plain rfl true n).symm
        · simp only [transfersOf]
          rfl
      | some m => exact .inr ⟨rfl, ref, m, rfl, rfl, rfl, rfl, rfl⟩
    | _ => exact .inl ⟨rfl, .inl rfl, rfl, rfl, rfl⟩

/-! ### Along a path -/

/-- All the fields on the way are marked. -/
def isMarked (u : Universe) : List Nat → Value → Bool
  | [], _ => true
  | i :: path, .object type vs _ =>
    ((u.layout? type).bind (·.fields[i]?)).any (·.recurse) && (vs[i]?).any (isMarked u path ·)
  | _ :: _, _ => false

/-- A buffer at the end of the path is copied: the duplication is a recursive one, all the fields on
the way are marked, and the object around it has a tracker. -/
def isCopiedAt (u : Universe) (recursive : Bool) (path : List Nat) (v : Value) : Bool :=
  recursive && u.isMarked path v && (v.trackerAt? path.dropLast).isSome

/-- The first field on the way is marked, and so is the way on from it. -/
lemma isMarked_cons {i : Nat} {path : List Nat} {type : TypeId} {l : Layout}
    (hl : u.layout? type = some l) {vs : List Value} {a : Option Tracker} {f : Field} {v : Value}
    (hf : l.fields[i]? = some f) (hv : vs[i]? = some v) :
    u.isMarked (i :: path) (.object type vs a) = (f.recurse && u.isMarked path v) := by
  rw [isMarked, hl, Option.bind_some, hf, hv, Option.any_some, Option.any_some]

/-- One field further down the question is the same, if that field is marked. -/
lemma isCopiedAt_cons {i : Nat} {path : List Nat} (deeper : path ≠ []) {type : TypeId} {l : Layout}
    (hl : u.layout? type = some l) {vs : List Value} {a : Option Tracker} {f : Field} {v : Value}
    (hf : l.fields[i]? = some f) (hv : vs[i]? = some v) :
    u.isCopiedAt recursive (i :: path) (.object type vs a) =
      (recursive && f.recurse && u.isCopiedAt true path v) := by
  have around : (Value.object type vs a).trackerAt? (i :: path).dropLast =
      v.trackerAt? path.dropLast := by
    rw [List.dropLast_cons_of_ne_nil deeper]
    show (vs[i]?).bind _ = _
    rw [hv, Option.bind_some]
  rw [isCopiedAt, isCopiedAt, isMarked_cons hl hf hv, around, Bool.true_and]
  simp only [Bool.and_assoc]

/-- In a field of the object itself the buffer is copied if it is marked and there is a tracker. -/
lemma isCopiedAt_singleton {i : Nat} {type : TypeId} {l : Layout} (hl : u.layout? type = some l)
    {vs : List Value} {a : Option Tracker} {f : Field} {v : Value} (hf : l.fields[i]? = some f)
    (hv : vs[i]? = some v) :
    u.isCopiedAt recursive [i] (.object type vs a) = (recursive && f.recurse && a.isSome) := by
  rw [isCopiedAt, isMarked_cons hl hf hv]
  cases recursive <;> cases f.recurse <;> cases a <;> rfl

/-- Beyond a field that is not marked nothing is copied. -/
lemma isCopiedAt_of_flat {i : Nat} {path : List Nat} {type : TypeId} {l : Layout}
    (hl : u.layout? type = some l) {vs : List Value} {a : Option Tracker} {f : Field} {v : Value}
    (hf : l.fields[i]? = some f) (hv : vs[i]? = some v) (flat : (recursive && f.recurse) = false) :
    u.isCopiedAt recursive (i :: path) (.object type vs a) = false := by
  rw [isCopiedAt, isMarked_cons hl hf hv, ← Bool.and_assoc, flat]
  rfl

/-- What is in a twin is in its source, and of the same kind. -/
lemma exists_at?_of_twin {path : List Nat} {v y : Value}
    (hy : (u.twin recursive n v).at? path = some y) : ∃ x, v.at? path = some x ∧ x.Alike y := by
  induction path generalizing v recursive n with
  | nil =>
    cases hy
    exact ⟨v, rfl, alike_twin v recursive n⟩
  | cons i path ih =>
    cases v with
    | object type vs a =>
      rw [twin_object] at hy
      obtain ⟨w, hw, hy⟩ := Option.bind_eq_some_iff.1 hy
      obtain ⟨f, v, hf, hv, rfl⟩ := exists_of_getElem?_twins hw
      suffices ∃ x, v.at? path = some x ∧ x.Alike y by
        obtain ⟨x, hx, alike⟩ := this
        exact ⟨x, Option.bind_eq_some_iff.2 ⟨v, hv, hx⟩, alike⟩
      rcases u.twinAt_cases recursive (a.map (·.manager)) _ f v with
        ⟨_, copy, _⟩ | ⟨_, _, copy, _⟩ | ⟨_, ref, m, rfl, _, copy, _⟩
      · rw [copy, Value.at?_rawCopy] at hy
        obtain ⟨x, hx, rfl⟩ := Option.map_eq_some_iff.1 hy
        exact ⟨x, hx, x.alike_rawCopy⟩
      · rw [copy] at hy
        exact ih hy
      · rw [copy] at hy
        cases path with
        | nil =>
          cases hy
          exact ⟨_, rfl, .buffer ..⟩
        | cons => cases hy
    | _ =>
      rw [twin_plain rfl] at hy
      cases hy

/-- A value of a sound object is in a field. -/
lemma exists_field_of_getElem? {fs : List Field} {vs : List Value}
    (held : List.Forall₂ u.Fits fs vs) {i : Nat} {v : Value} (hv : vs[i]? = some v) :
    ∃ f, fs[i]? = some f ∧ u.isSound v = true := by
  have lt : i < fs.length := by
    rw [held.length_eq]
    exact (List.getElem?_eq_some_iff.1 hv).1
  exact ⟨fs[i], List.getElem?_eq_getElem lt,
    (fits_of_getElem? held (List.getElem?_eq_getElem lt) hv).sound⟩

/-- A buffer that is not copied is shared. -/
lemma at?_twin_of_shared {path : List Nat} {v : Value} (sound : u.isSound v = true) {ref : Handle}
    (found : v.at? path = some (.buffer ref)) (shared : u.isCopiedAt recursive path v = false) :
    (u.twin recursive n v).at? path = some (.buffer ref) := by
  induction path generalizing v recursive n with
  | nil =>
    cases found
    rw [twin_plain rfl]
    rfl
  | cons i path ih =>
    cases v with
    | object type vs a =>
      obtain ⟨l, hl, held⟩ := isSound_object.1 sound
      obtain ⟨v, hi, hv⟩ := Option.bind_eq_some_iff.1 found
      obtain ⟨f, hf, sound⟩ := exists_field_of_getElem? held hi
      rw [twin_object, hl]
      refine Option.bind_eq_some_iff.2 ⟨_, getElem?_twins hf hi, ?_⟩
      rcases u.twinAt_cases recursive (a.map (·.manager)) _ f v with
        ⟨_, copy, _⟩ | ⟨deep, other, copy, _⟩ | ⟨deep, ref', m, rfl, tracked, copy, _⟩
      · rw [copy, Value.at?_rawCopy, hv]
        rfl
      · rw [copy]
        by_cases last : path = []
        · subst last
          cases hv
          rw [twin_plain rfl]
          rfl
        · rw [isCopiedAt_cons last hl hf hi, deep, Bool.true_and] at shared
          exact ih sound hv shared
      · -- a buffer in a marked field of an object with a tracker is copied
        obtain ⟨t, rfl, _⟩ := Option.map_eq_some_iff.1 tracked
        cases path with
        | nil =>
          rw [isCopiedAt_singleton hl hf hi, deep] at shared
          cases shared
        | cons => cases hv
    | _ => cases found

/-- A buffer that is copied is a new one, and the tracker of the object around it lists it. -/
lemma at?_twin_of_copied {path : List Nat} {v : Value} (sound : u.isSound v = true) {ref : Handle}
    (found : v.at? path = some (.buffer ref)) (copied : u.isCopiedAt recursive path v = true) :
    ∃ k t tr, (u.transfersOf recursive v)[k]? = some t ∧ t.source = ref ∧
      (u.twin recursive n v).at? path = some (.buffer (.to (n + k))) ∧
      (u.twin recursive n v).trackerAt? path.dropLast = some tr ∧ n + k ∈ tr.buffers := by
  induction path generalizing v recursive n with
  | nil =>
    cases found
    cases recursive <;> cases copied
  | cons i path ih =>
    cases v with
    | object type vs a =>
      obtain ⟨l, hl, held⟩ := isSound_object.1 sound
      obtain ⟨v, hi, hv⟩ := Option.bind_eq_some_iff.1 found
      obtain ⟨f, hf, sound⟩ := exists_field_of_getElem? held hi
      have place := @getElem?_twins u recursive (a.map (·.manager)) i f v l.fields vs n hf hi
      rw [twin_object, transfersOf, hl, Option.elim_some]
      rcases u.twinAt_cases recursive (a.map (·.manager))
        (n + u.offsetAt recursive (a.map (·.manager)) i l.fields vs) f v with
        ⟨flat, _⟩ | ⟨deep, other, copy, transfers, _⟩ |
          ⟨deep, ref', m, rfl, tracked, copy, transfers, listed⟩
      · rw [isCopiedAt_of_flat hl hf hi flat] at copied
        cases copied
      · by_cases last : path = []
        · -- here the buffer is in the object itself, which has no tracker then
          subst last
          cases hv
          rw [isCopiedAt_singleton hl hf hi, Option.map_eq_none_iff.1 (other.resolve_left nofun),
            Option.isSome_none, Bool.and_false] at copied
          cases copied
        · rw [isCopiedAt_cons last hl hf hi, deep, Bool.true_and] at copied
          obtain ⟨k, t, tr, ht, source, there, around, mem⟩ := ih sound hv copied
            (n := n + u.offsetAt recursive (a.map (·.manager)) i l.fields vs)
          rw [← transfers] at ht
          rw [← copy] at there around
          rw [Nat.add_assoc] at there mem
          refine ⟨_, t.under f, tr, getElem?_fieldTransfers hf hi ht, source, ?_, ?_, mem⟩
          · exact Option.bind_eq_some_iff.2 ⟨_, place, there⟩
          · rw [List.dropLast_cons_of_ne_nil last]
            exact Option.bind_eq_some_iff.2 ⟨_, place, around⟩
      · cases path with
        | nil =>
          cases hv
          obtain ⟨t, rfl, rfl⟩ := Option.map_eq_some_iff.1 tracked
          rw [Option.map_some] at place copy transfers listed ⊢
          have first : (u.transfersAt recursive (some t.manager) f (.buffer ref))[0]? =
              some { source := ref, manager := t.manager } := by
            rw [transfers]
            rfl
          refine ⟨_, _, _, getElem?_fieldTransfers hf hi first, rfl, ?_, rfl, ?_⟩
          · refine Option.bind_eq_some_iff.2 ⟨_, place, ?_⟩
            rw [copy]
            rfl
          · show _ ∈ (List.foldl _ _ _ : Tracker).buffers
            rw [Tracker.buffers_foldl_push]
            refine List.mem_append_right _ (mem_listedFor_iff.2 ⟨i, f, _, hf, hi, ?_⟩)
            rw [listed]
            exact List.mem_singleton_self _
        | cons => cases hv
    | _ => cases found

/-- A tracker in a twin lists a buffer only for a copy that was made for a field of its object. -/
lemma at?_twin_of_listed {parent : List Nat} {v : Value} (sound : u.isSound v = true) {tr : Tracker}
    (around : (u.twin recursive n v).trackerAt? parent = some tr) {b : BufferId}
    (hb : b ∈ tr.buffers) :
    ∃ i ref, v.at? (parent ++ [i]) = some (.buffer ref) ∧
      u.isCopiedAt recursive (parent ++ [i]) v = true ∧
      (u.twin recursive n v).at? (parent ++ [i]) = some (.buffer (.to b)) := by
  induction parent generalizing v recursive n with
  | nil =>
    cases v with
    | object type vs a =>
      obtain ⟨l, hl, held⟩ := isSound_object.1 sound
      rw [twin_object, hl, Option.elim_some] at around ⊢
      obtain ⟨t, rfl, rfl⟩ := Option.map_eq_some_iff.1 around
      change b ∈ (List.foldl _ _ _ : Tracker).buffers at hb
      rw [Tracker.buffers_foldl_push] at hb
      obtain ⟨i, f, v, hf, hi, hb⟩ := mem_listedFor_iff.1 hb
      have place := @getElem?_twins u recursive (some t.manager) i f v l.fields vs n hf hi
      rcases u.twinAt_cases recursive (some t.manager)
        (n + u.offsetAt recursive (some t.manager) i l.fields vs) f v with
        ⟨_, _, _, listed⟩ | ⟨_, _, _, _, listed⟩ | ⟨deep, ref, m, rfl, _, copy, _, listed⟩
      · rw [listed] at hb
        cases hb
      · rw [listed] at hb
        cases hb
      · rw [listed] at hb
        cases List.mem_singleton.1 hb
        refine ⟨i, ref, Option.bind_eq_some_iff.2 ⟨_, hi, rfl⟩, ?_,
          Option.bind_eq_some_iff.2 ⟨_, place, congrArg some copy⟩⟩
        rw [List.nil_append, isCopiedAt_singleton hl hf hi, deep]
        rfl
    | _ =>
      rw [twin_plain rfl] at around
      cases around
  | cons j parent ih =>
    cases v with
    | object type vs a =>
      obtain ⟨l, hl, held⟩ := isSound_object.1 sound
      rw [twin_object, hl, Option.elim_some] at around ⊢
      obtain ⟨w, hw, around⟩ := Option.bind_eq_some_iff.1 around
      obtain ⟨f, v, hf, hj, rfl⟩ := exists_of_getElem?_twins hw
      rcases u.twinAt_cases recursive (a.map (·.manager))
        (n + u.offsetAt recursive (a.map (·.manager)) j l.fields vs) f v with
        ⟨_, copy, _⟩ | ⟨deep, _, copy, _⟩ | ⟨_, ref, m, rfl, _, copy, _⟩
      · rw [copy, Value.trackerAt?_rawCopy] at around
        obtain ⟨t, _, rfl⟩ := Option.map_eq_some_iff.1 around
        cases hb
      · rw [copy] at around hw
        obtain ⟨i, ref, there, copied, made⟩ :=
          ih (fits_of_getElem? held hf hj).sound around
        refine ⟨i, ref, Option.bind_eq_some_iff.2 ⟨v, hj, there⟩, ?_,
          Option.bind_eq_some_iff.2 ⟨_, hw, made⟩⟩
        rw [List.cons_append, isCopiedAt_cons (List.concat_ne_nil i parent) hl hf hj,
          deep, copied]
        rfl
      · rw [copy] at around
        cases parent <;> cases around
    | _ =>
      rw [twin_plain rfl] at around
      cases around

/-- A twin has a tracker where its source has one, bound to the same manager. -/
lemma trackerAt?_twin {path : List Nat} {v : Value} (sound : u.isSound v = true) :
    ((u.twin recursive n v).trackerAt? path).map (·.manager) =
      (v.trackerAt? path).map (·.manager) := by
  induction path generalizing v recursive n with
  | nil =>
    cases v with
    | object type vs a =>
      rw [twin_object]
      show (a.map _).map _ = a.map _
      rw [Option.map_map]
      exact congrArg (a.map ·) (funext fun t => Tracker.manager_foldl_push ..)
    | _ => rw [twin_plain rfl]
  | cons i path ih =>
    cases v with
    | object type vs a =>
      obtain ⟨l, hl, held⟩ := isSound_object.1 sound
      rw [twin_object, hl, Option.elim_some]
      show ((_ : Option Value).bind _).map _ = ((vs[i]?).bind _).map _
      cases hi : vs[i]? with
      | none =>
        have none : (u.twins recursive (a.map (·.manager)) n l.fields vs)[i]? = none := by
          rw [Option.eq_none_iff_forall_not_mem]
          intro w hw
          obtain ⟨f, v, _, hv, _⟩ := exists_of_getElem?_twins hw
          cases hi.symm.trans hv
        rw [none]
      | some v =>
        obtain ⟨f, hf, sound⟩ := exists_field_of_getElem? held hi
        rw [getElem?_twins hf hi, Option.bind_some, Option.bind_some]
        rcases u.twinAt_cases recursive (a.map (·.manager)) _ f v with
          ⟨_, copy, _⟩ | ⟨_, _, copy, _⟩ | ⟨_, ref, m, rfl, _, copy, _⟩
        · rw [copy, Value.trackerAt?_rawCopy, Option.map_map]
          rfl
        · rw [copy]
          exact ih sound
        · rw [copy]
          cases path <;> rfl
    | _ => rw [twin_plain rfl]

/-! ### What a twin owns -/

/-- Without a tracker nothing is listed. -/
lemma listedFor_untracked (recursive : Bool) (n : BufferId) (fs : List Field) (vs : List Value) :
    u.listedFor recursive none n fs vs = [] := by
  refine List.eq_nil_iff_forall_not_mem.2 fun b hb => ?_
  obtain ⟨i, f, v, _, _, hb⟩ := mem_listedFor_iff.1 hb
  cases v with
  | buffer ref =>
    rw [listedAt, Option.isSome_none, Bool.and_false] at hb
    cases hb
  | _ => cases hb

/-- A raw copy owns nothing. -/
lemma owned_rawCopy (v : Value) : v.rawCopy.owned = [] := by
  refine List.eq_nil_iff_forall_not_mem.2 fun b hb => ?_
  obtain ⟨path, t, ht, hb⟩ := (Value.mem_owned_iff _).1 hb
  rw [Value.trackerAt?_rawCopy] at ht
  obtain ⟨t', _, rfl⟩ := Option.map_eq_some_iff.1 ht
  cases hb

mutual

/-- A twin owns the new buffers, each of them once. -/
lemma owned_twin : (v : Value) → ∀ (recursive : Bool) (n : BufferId),
    (u.twin recursive n v).owned.Perm (List.range' n (u.transfersOf recursive v).length)
  | .object type vs a, recursive, n => by
    have fields := owned_twins vs recursive (a.map (·.manager)) n
      ((u.layout? type).elim [] (·.fields))
    rw [twin_object, transfersOf, Value.owned]
    cases a with
    | none =>
      rw [Option.map_none] at fields ⊢
      rwa [listedFor_untracked] at fields
    | some t =>
      show (_ ++ (List.foldl _ _ _ : Tracker).buffers).Perm _
      rw [Tracker.buffers_foldl_push]
      exact fields
  | .null, _, _ | .scalar _, _, _ | .buffer _, _, _ | .reference _ _, _, _
  | .descriptor _, _, _ => by
    simp only [twin, transfersOf]
    rfl

/-- The same for the fields of an object, together with what its tracker lists. -/
lemma owned_twins : (vs : List Value) → ∀ (recursive : Bool) (tracked : Option (Option Manager))
    (n : BufferId) (fs : List Field),
    (Value.ownedByAll (u.twins recursive tracked n fs vs) ++
      u.listedFor recursive tracked n fs vs).Perm
      (List.range' n (u.fieldTransfers recursive tracked fs vs).length)
  | [], _, _, _, fs => by
    cases fs <;> rw [twins, listedFor, fieldTransfers] <;> first | rfl | exact nofun
  | v :: vs, recursive, tracked, n, [] => by
    rw [twins, listedFor, fieldTransfers]
    · rfl
    · exact nofun
  | v :: vs, recursive, tracked, n, f :: fs => by
    have first : ((u.twinAt recursive tracked n f v).owned ++ listedAt recursive tracked n f v).Perm
        (List.range' n (u.transfersAt recursive tracked f v).length) := by
      rcases u.twinAt_cases recursive tracked n f v with
        ⟨_, copy, transfers, listed⟩ | ⟨_, _, copy, transfers, listed⟩ |
          ⟨_, ref, m, rfl, _, copy, transfers, listed⟩
      · rw [copy, transfers, listed, owned_rawCopy]
        rfl
      · rw [copy, transfers, listed, List.append_nil]
        exact owned_twin v true n
      · rw [copy, transfers, listed]
        rfl
    have rest := owned_twins vs recursive tracked
      (n + (u.transfersAt recursive tracked f v).length) fs
    rw [twins_cons, listedFor, fieldTransfers_cons, Value.ownedByAll, List.length_append,
      List.length_map, ← List.range'_append_1]
    refine .trans ?_ (first.append rest)
    simp only [List.append_assoc]
    refine List.Perm.append_left _ ?_
    rw [← List.append_assoc, ← List.append_assoc]
    exact List.perm_append_comm.append_right _

end

/-! ### Freeing a twin -/

/-- The twin of a field value is alike. -/
lemma alike_twinAt (u : Universe) (recursive : Bool) (tracked : Option (Option Manager))
    (n : BufferId) (f : Field) (v : Value) : v.Alike (u.twinAt recursive tracked n f v) := by
  rcases u.twinAt_cases recursive tracked n f v with
    ⟨_, copy, _⟩ | ⟨_, _, copy, _⟩ | ⟨_, ref, m, rfl, _, copy, _⟩
  · rw [copy]
    exact v.alike_rawCopy
  · rw [copy]
    exact alike_twin v true n
  · rw [copy]
    exact .buffer ..

/-- What is in a field of a duplicate may be freed if the value and its twins may. -/
lemma isFreeable_twinAt {v : Value} (able : u.isFreeable v = true)
    (twins : ∀ n, u.isFreeable (u.twin true n v) = true) (recursive : Bool)
    (tracked : Option (Option Manager)) (n : BufferId) (f : Field) :
    u.isFreeable (u.twinAt recursive tracked n f v) = true := by
  rcases u.twinAt_cases recursive tracked n f v with
    ⟨_, copy, _⟩ | ⟨_, _, copy, _⟩ | ⟨_, ref, m, rfl, _, copy, _⟩
  · rw [copy, isFreeable_rawCopy]
    exact able
  · rw [copy]
    exact twins n
  · rw [copy]
    rfl

mutual

/-- A twin may be freed if its source may. -/
lemma isFreeable_twin : (v : Value) → u.isFreeable v = true → ∀ (recursive : Bool) (n : BufferId),
    u.isFreeable (u.twin recursive n v) = true
  | .object type vs a, able, recursive, n => by
    obtain ⟨l, hl, hook, inside⟩ := isFreeable_object.1 able
    rw [twin_object, hl]
    exact isFreeable_object.2 ⟨l, hl, hook, areFreeable_twins vs inside recursive _ n⟩
  | .null, able, _, _ | .scalar _, able, _, _ | .buffer _, able, _, _ | .reference _ _, able, _, _
  | .descriptor _, able, _, _ => by
    simp only [twin]
    exact able

/-- The twins of fields are as freeable as the fields. -/
lemma areFreeable_twins : (vs : List Value) → {fs : List Field} → u.areFreeable fs vs = true →
    ∀ (recursive : Bool) (tracked : Option (Option Manager)) (n : BufferId),
      u.areFreeable fs (u.twins recursive tracked n fs vs) = true
  | [], _, able, _, _, _ => by rwa [twins]
  | v :: vs, [], _, _, _, _ => by
    rw [twins]
    rfl
  | v :: vs, f :: fs, able, recursive, tracked, n => by
    obtain ⟨accepted, able, rest⟩ := areFreeable_cons.1 able
    have alike := u.alike_twinAt recursive tracked n f v
    rw [twins_cons]
    refine areFreeable_cons.2 ⟨fun t ht => ?_, ?_, areFreeable_twins vs rest recursive tracked _⟩
    · rw [freedThrough_alike alike] at ht
      rw [← accepts_alike alike]
      exact accepted t ht
    · exact isFreeable_twinAt able (isFreeable_twin v able true) recursive tracked n f

end

end Universe

end Metaobject
