import Mathlib.Tactic.Lemma
import Metaobject.Session.Basic

/-!
# Trackers inside values

A tracker is reached by a path of field indexes, in a value or in a list of values. The laws here
are those of replacing a tracker where it is: what is found there and elsewhere afterwards, and
which buffers the value then owns.
-/

namespace Metaobject

namespace Value

/-- The tracker of the object at the end of a path of field indexes. -/
def trackerAt? : List Nat → Value → Option Tracker
  | [], .object _ _ t => t
  | i :: is, .object _ fields _ => (fields[i]?).bind (trackerAt? is)
  | _, _ => none

/-- The value with another tracker at the end of a path. -/
def withTrackerAt (t : Tracker) : List Nat → Value → Value
  | [], .object type fields (some _) => .object type fields (some t)
  | i :: is, .object type fields own => .object type (fields.modify i (withTrackerAt t is)) own
  | _, v => v

/-- The same in a list of values, where a path begins with a position. -/
def trackerIn? : List Nat → List Value → Option Tracker
  | [], _ => none
  | i :: is, vs => (vs[i]?).bind (trackerAt? is)

/-- The same in a list of values. -/
def withTrackerIn (t : Tracker) : List Nat → List Value → List Value
  | [], vs => vs
  | i :: is, vs => vs.modify i (withTrackerAt t is)

/-- A tracker that stands alone is an object of nothing else. -/
def standalone (t : Tracker) : Value :=
  .object 0 [] (some t)

/-- Two paths one after the other are one path. -/
lemma at?_append (p q : List Nat) (v : Value) : v.at? (p ++ q) = (v.at? p).bind (at? q) := by
  induction p generalizing v with
  | nil => rfl
  | cons i p ih =>
    cases v with
    | object type vs a =>
      rw [List.cons_append, at?, at?, Option.bind_assoc]
      exact congrArg _ (funext ih)
    | _ => rfl

/-- A tracker is that of the value at the end of the path. -/
lemma trackerAt?_eq_bind (path : List Nat) (v : Value) :
    v.trackerAt? path = (v.at? path).bind (trackerAt? []) := by
  induction path generalizing v with
  | nil => rfl
  | cons i path ih =>
    cases v with
    | object type vs a =>
      rw [trackerAt?, at?, Option.bind_assoc]
      exact congrArg _ (funext ih)
    | _ => rfl

/-- The same for the tracker at the end. -/
lemma trackerAt?_append (p q : List Nat) (v : Value) :
    v.trackerAt? (p ++ q) = (v.at? p).bind (trackerAt? q) := by
  rw [trackerAt?_eq_bind, at?_append, Option.bind_assoc]
  exact congrArg _ (funext fun w => (trackerAt?_eq_bind q w).symm)

/-- All trackers in the tree of the value have `P`. -/
def Trackers (P : Tracker → Prop) (v : Value) : Prop :=
  ∀ path t, trackerAt? path v = some t → P t

section Trackers

variable {P : Tracker → Prop}

/-- All trackers are so if those in the fields are and the object's own is. -/
lemma trackers_object {type : TypeId} {vs : List Value} {a : Option Tracker} :
    (object type vs a).Trackers P ↔ (∀ v ∈ vs, v.Trackers P) ∧ ∀ t, a = some t → P t := by
  constructor
  · intro all
    refine ⟨fun v hv path t ht => ?_, fun t ht => all [] t ht⟩
    obtain ⟨i, hi⟩ := List.mem_iff_getElem?.1 hv
    exact all (i :: path) t (Option.bind_eq_some_iff.2 ⟨v, hi, ht⟩)
  · rintro ⟨inside, own⟩ (_ | ⟨i, is⟩) t ht
    · exact own t ht
    · obtain ⟨v, hv, ht⟩ := Option.bind_eq_some_iff.1 ht
      exact inside v (List.mem_of_getElem? hv) is t ht

/-- In a list of values every tracker is in one of them. -/
lemma forall_trackerIn? {vs : List Value} :
    (∀ path t, trackerIn? path vs = some t → P t) ↔ ∀ v ∈ vs, v.Trackers P := by
  constructor
  · intro all v hv path t ht
    obtain ⟨i, hi⟩ := List.mem_iff_getElem?.1 hv
    exact all (i :: path) t (Option.bind_eq_some_iff.2 ⟨v, hi, ht⟩)
  · rintro all (_ | ⟨i, is⟩) t ht
    · cases ht
    · obtain ⟨v, hv, ht⟩ := Option.bind_eq_some_iff.1 ht
      exact all v (List.mem_of_getElem? hv) is t ht

/-- What is no object has no trackers. -/
lemma trackers_of_plain {v : Value} (plain : v.isObject = false) : v.Trackers P := by
  intro path t ht
  cases v with
  | object => cases plain
  | _ => cases path <;> cases ht

/-- The trackers at the end of a path are among those of the value. -/
lemma Trackers.at? {path : List Nat} {v x : Value} (all : v.Trackers P)
    (hx : v.at? path = some x) : x.Trackers P := by
  intro rest t ht
  refine all (path ++ rest) t ?_
  rw [trackerAt?_append, hx]
  exact ht

/-- Another value in one place leaves what holds of all. -/
lemma forall_mem_modify {p : Value → Prop} {vs : List Value} (all : ∀ v ∈ vs, p v) (i : Nat)
    {f : Value → Value} (keeps : ∀ v, p v → p (f v)) : ∀ v ∈ vs.modify i f, p v := by
  intro w hw
  obtain ⟨j, hj⟩ := List.mem_iff_getElem?.1 hw
  rw [List.getElem?_modify] at hj
  obtain ⟨v, hv, same⟩ := Option.map_eq_some_iff.1 hj
  have old := all v (List.mem_of_getElem? hv)
  split at same
  · exact same ▸ keeps v old
  · exact same ▸ old

/-- With all its trackers so a value may be put at the end of a path. -/
lemma Trackers.putAt (path : List Nat) {v y : Value} (all : v.Trackers P) (hy : y.Trackers P) :
    (y.putAt path v).Trackers P := by
  induction path generalizing v with
  | nil => exact hy
  | cons i is ih =>
    cases v with
    | object type vs a =>
      obtain ⟨inside, own⟩ := trackers_object.1 all
      exact trackers_object.2 ⟨forall_mem_modify inside i fun v hv => ih hv, own⟩
    | _ => exact all

end Trackers

/-- What lists of values own is owned one after the other. -/
lemma ownedByAll_append (vs ws : List Value) :
    ownedByAll (vs ++ ws) = ownedByAll vs ++ ownedByAll ws := by
  rw [ownedByAll_eq_flatMap, ownedByAll_eq_flatMap, ownedByAll_eq_flatMap, List.flatMap_append]

variable {t t' t'' : Tracker}

/-- In a list only the trackers of the value at the beginning of the path are concerned. -/
lemma trackerIn?_modify {i : Nat} {is : List Nat} {vs : List Value}
    (law : ∀ v, vs[i]? = some v → ∀ js,
      trackerAt? js (withTrackerAt t' is v) = if js = is then some t' else trackerAt? js v)
    (present : (vs[i]?).isSome) (path : List Nat) :
    trackerIn? path (vs.modify i (withTrackerAt t' is)) =
      if path = i :: is then some t' else trackerIn? path vs := by
  cases path with
  | nil => rfl
  | cons j js =>
    obtain ⟨v, hv⟩ := Option.isSome_iff_exists.1 present
    rw [trackerIn?, trackerIn?]
    by_cases ne : i = j
    · subst ne
      rw [List.getElem?_modify_eq, hv]
      show trackerAt? js (withTrackerAt t' is v) = _
      rw [law v hv js]
      simp
    · have other : ¬ (j :: js = i :: is) := by
        rintro ⟨⟩
        exact ne rfl
      rw [List.getElem?_modify_ne _ _ ne, if_neg other]

/-- A tracker that was put somewhere is found there, and everywhere else what was there before. -/
lemma trackerAt?_withTrackerAt {path : List Nat} {v : Value} (ht : trackerAt? path v = some t)
    (path' : List Nat) :
    trackerAt? path' (withTrackerAt t' path v) =
      if path' = path then some t' else trackerAt? path' v := by
  induction path generalizing v path' with
  | nil =>
    cases v with
    | object type fields own =>
      cases ht
      cases path' <;> rfl
    | _ => cases ht
  | cons i is ih =>
    cases v with
    | object type fields own =>
      obtain ⟨v, hv, ht⟩ := Option.bind_eq_some_iff.1 ht
      cases path' with
      | nil => rfl
      | cons j js =>
        refine trackerIn?_modify (fun w hw js => ?_) (hv ▸ rfl) (j :: js)
        rw [hv] at hw
        cases hw
        exact ih ht js
    | _ => cases ht

/-- Another tracker is at the end of its path, and nowhere else. -/
lemma trackerIn?_withTrackerIn {path : List Nat} {vs : List Value}
    (ht : trackerIn? path vs = some t) (path' : List Nat) :
    trackerIn? path' (withTrackerIn t' path vs) =
      if path' = path then some t' else trackerIn? path' vs := by
  cases path with
  | nil => cases ht
  | cons i is =>
    obtain ⟨v, hv, ht⟩ := Option.bind_eq_some_iff.1 ht
    refine trackerIn?_modify (fun w hw js => ?_) (hv ▸ rfl) path'
    rw [hv] at hw
    cases hw
    exact trackerAt?_withTrackerAt ht js

/-- Of two trackers that were put into one place the second one counts. -/
lemma withTrackerAt_withTrackerAt (path : List Nat) (v : Value) :
    withTrackerAt t'' path (withTrackerAt t' path v) = withTrackerAt t'' path v := by
  induction path generalizing v with
  | nil =>
    cases v with
    | object type fields own => cases own <;> rfl
    | _ => rfl
  | cons i is ih =>
    cases v with
    | object type fields own =>
      show object type ((fields.modify i _).modify i _) own = _
      rw [List.modify_modify_eq]
      exact congrArg (object type · own) (congrArg (fields.modify i) (funext ih))
    | _ => rfl

/-- The last tracker to be put there is there. -/
lemma withTrackerIn_withTrackerIn (path : List Nat) (vs : List Value) :
    withTrackerIn t'' path (withTrackerIn t' path vs) = withTrackerIn t'' path vs := by
  cases path with
  | nil => rfl
  | cons i is =>
    show (vs.modify i _).modify i _ = _
    rw [List.modify_modify_eq]
    exact congrArg (vs.modify i) (funext fun v => withTrackerAt_withTrackerAt is v)

/-- A change that leaves the value leaves the list. -/
lemma modify_eq_self {f : Value → Value} {i : Nat} {vs : List Value} {v : Value}
    (hv : vs[i]? = some v) (same : f v = v) : vs.modify i f = vs := by
  apply List.ext_getElem?
  intro j
  by_cases ne : i = j
  · subst ne
    rw [List.getElem?_modify_eq, hv]
    exact congrArg some same
  · rw [List.getElem?_modify_ne _ _ ne]

/-- Putting a tracker where it is changes nothing. -/
lemma withTrackerAt_self {path : List Nat} {v : Value} (ht : trackerAt? path v = some t) :
    withTrackerAt t path v = v := by
  induction path generalizing v with
  | nil =>
    cases v with
    | object type fields own =>
      cases ht
      rfl
    | _ => cases ht
  | cons i is ih =>
    cases v with
    | object type fields own =>
      obtain ⟨v, hv, ht⟩ := Option.bind_eq_some_iff.1 ht
      exact congrArg (object type · own) (modify_eq_self hv (ih ht))
    | _ => cases ht

/-- A tracker may be put where it is. -/
lemma withTrackerIn_self {path : List Nat} {vs : List Value} (ht : trackerIn? path vs = some t) :
    withTrackerIn t path vs = vs := by
  cases path with
  | nil => rfl
  | cons i is =>
    obtain ⟨v, hv, ht⟩ := Option.bind_eq_some_iff.1 ht
    exact modify_eq_self hv (withTrackerAt_self ht)

/-- What some values own beside what one of them owns through one of its trackers. -/
lemma ownedByAll_perm_modify {bs rest : List BufferId} {i : Nat} {vs : List Value} {v : Value}
    (hv : vs[i]? = some v) (own : v.owned.Perm (bs ++ rest)) :
    ∃ rest', (ownedByAll vs).Perm (bs ++ rest') ∧
      ∀ (f : Value → Value) (bs' : List BufferId), (f v).owned.Perm (bs' ++ rest) →
        (ownedByAll (vs.modify i f)).Perm (bs' ++ rest') := by
  induction vs generalizing i with
  | nil => cases hv
  | cons w vs ih =>
    cases i with
    | zero =>
      cases hv
      refine ⟨rest ++ ownedByAll vs, ?_, ?_⟩
      · rw [← List.append_assoc]
        exact own.append_right _
      · intro f bs' own'
        rw [← List.append_assoc]
        exact own'.append_right _
    | succ i =>
      obtain ⟨rest', before, after⟩ := ih hv
      refine ⟨w.owned ++ rest', ?_, ?_⟩
      · exact (before.append_left _).trans (List.perm_append_comm_assoc ..)
      · intro f bs' own'
        exact ((after f bs' own').append_left _).trans (List.perm_append_comm_assoc ..)

/-- What a value owns beside what it owns through one of its trackers. -/
lemma owned_perm_withTrackerAt {path : List Nat} {v : Value} (ht : trackerAt? path v = some t) :
    ∃ rest, v.owned.Perm (t.buffers ++ rest) ∧
      ∀ t' : Tracker, (withTrackerAt t' path v).owned.Perm (t'.buffers ++ rest) := by
  induction path generalizing v with
  | nil =>
    cases v with
    | object type fields own =>
      cases ht
      exact ⟨ownedByAll fields, List.perm_append_comm, fun t' => List.perm_append_comm⟩
    | _ => cases ht
  | cons i is ih =>
    cases v with
    | object type fields own =>
      obtain ⟨v, hv, ht⟩ := Option.bind_eq_some_iff.1 ht
      obtain ⟨rest, before, after⟩ := ih ht
      obtain ⟨rest', befores, afters⟩ := ownedByAll_perm_modify hv before
      refine ⟨rest' ++ own.elim [] (·.buffers), ?_, fun t' => ?_⟩
      · rw [← List.append_assoc]
        exact befores.append_right _
      · rw [← List.append_assoc]
        exact (afters _ t'.buffers (after t')).append_right _
    | _ => cases ht

/-- Beside the buffers of one tracker the others are the same, whatever that one lists. -/
lemma ownedByAll_perm_withTrackerIn {path : List Nat} {vs : List Value}
    (ht : trackerIn? path vs = some t) :
    ∃ rest, (ownedByAll vs).Perm (t.buffers ++ rest) ∧
      ∀ t' : Tracker, (ownedByAll (withTrackerIn t' path vs)).Perm (t'.buffers ++ rest) := by
  cases path with
  | nil => cases ht
  | cons i is =>
    obtain ⟨v, hv, ht⟩ := Option.bind_eq_some_iff.1 ht
    obtain ⟨rest, before, after⟩ := owned_perm_withTrackerAt ht
    obtain ⟨rest', befores, afters⟩ := ownedByAll_perm_modify hv before
    exact ⟨rest', befores, fun t' => afters _ t'.buffers (after t')⟩

mutual

/-- A value owns what the trackers inside it list. -/
lemma mem_owned_iff {b : BufferId} : (v : Value) →
    (b ∈ v.owned ↔ ∃ path t, trackerAt? path v = some t ∧ b ∈ t.buffers)
  | .object type fields own => by
    have inside := mem_ownedByAll_iff (b := b) fields
    rw [owned, List.mem_append, inside]
    constructor
    · rintro (⟨i, is, t, ht, hb⟩ | hb)
      · exact ⟨i :: is, t, ht, hb⟩
      · cases own with
        | none => cases hb
        | some t => exact ⟨[], t, rfl, hb⟩
    · rintro ⟨path, t, ht, hb⟩
      cases path with
      | nil =>
        cases ht
        exact .inr hb
      | cons i is => exact .inl ⟨i, is, t, ht, hb⟩
  | .null | .scalar _ | .buffer _ | .reference _ _ | .descriptor _ => by
    constructor
    · intro hb
      cases hb
    · rintro ⟨path, t, ht, _⟩
      cases path <;> cases ht

/-- A buffer is owned if some tracker in the values lists it. -/
lemma mem_ownedByAll_iff {b : BufferId} : (vs : List Value) →
    (b ∈ ownedByAll vs ↔ ∃ i is t, trackerIn? (i :: is) vs = some t ∧ b ∈ t.buffers)
  | [] => by
    constructor
    · intro hb
      cases hb
    · rintro ⟨i, is, t, ht, _⟩
      cases ht
  | v :: vs => by
    rw [ownedByAll, List.mem_append, mem_owned_iff v, mem_ownedByAll_iff vs]
    constructor
    · rintro (⟨path, t, ht, hb⟩ | ⟨i, is, t, ht, hb⟩)
      · exact ⟨0, path, t, ht, hb⟩
      · exact ⟨i + 1, is, t, ht, hb⟩
    · rintro ⟨_ | i, is, t, ht, hb⟩
      · exact .inl ⟨is, t, ht, hb⟩
      · exact .inr ⟨i, is, t, ht, hb⟩

end

end Value

end Metaobject
