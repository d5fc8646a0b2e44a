import Metaobject.Proofs.Lifecycle.Passage
import Metaobject.Proofs.Program

/-!
# Making and editing values

All that a program does to its values is to make them, `Program.Maker`, and to edit them where they
are, `Program.Edit`. Both keep the books: what a maker takes goes into the value or is dropped, and
what an edit takes goes into the value at the end of its path or is dropped. Both keep to every
regime that any manager may be asked under. The hooks of the types may do anything, except for
building values that own buffers.
-/

namespace Metaobject

open Metaobject.Action

variable {M : Regime} {base : Heap} {held : List BufferId} {o : Outside}

/-! ### Values in places -/

namespace Value

/-- What a value owns beside what is owned at the end of a path. -/
lemma owned_perm_putAt {path : List Nat} {v x : Value} (hx : v.at? path = some x) :
    ∃ rest, v.owned.Perm (x.owned ++ rest) ∧
      ∀ y : Value, (y.putAt path v).owned.Perm (y.owned ++ rest) := by
  induction path generalizing v with
  | nil =>
    cases hx
    refine ⟨[], ?_, fun y => ?_⟩
    · rw [List.append_nil]
    · rw [List.append_nil]
      exact .refl _
  | cons i is ih =>
    cases v with
    | object type fields own =>
      obtain ⟨v, hv, hx⟩ := Option.bind_eq_some_iff.1 hx
      obtain ⟨rest, before, after⟩ := ih hx
      obtain ⟨rest', befores, afters⟩ := ownedByAll_perm_modify hv before
      refine ⟨rest' ++ own.elim [] (·.buffers), ?_, fun y => ?_⟩
      · rw [← List.append_assoc]
        exact befores.append_right _
      · rw [← List.append_assoc]
        exact (afters _ y.owned (after y)).append_right _
    | _ => cases hx

/-- A value in the place of another one in a list. -/
lemma ownedByAll_perm_set {vs : List Value} {i : Nat} (lt : i < vs.length) (v : Value) :
    (vs[i].owned ++ ownedByAll (vs.set i v)).Perm (ownedByAll vs ++ v.owned) := by
  have whole : vs[i].owned.Perm (vs[i].owned ++ []) := by rw [List.append_nil]
  obtain ⟨rest, before, after⟩ := ownedByAll_perm_modify (List.getElem?_eq_getElem lt) whole
  have placed := after (fun _ => v) v.owned (by rw [List.append_nil])
  rw [List.modify_eq_set] at placed
  have removed := before.append_right v.owned
  refine ((List.Perm.append_left _ placed).trans ?_).trans removed.symm
  rw [List.append_assoc]
  exact List.perm_append_comm.append_left _

/-- Off the heap a value owns what it owns on it. -/
lemma owned_offHeap (v : Value) : v.offHeap.owned = v.owned := by
  cases v with
  | object type vs a => cases a <;> rfl
  | _ => rfl

/-- What is at the end of a path is within the regime. -/
lemma Within.at? {h : Heap} {path : List Nat} {v x : Value} (within : v.Within M h)
    (hx : v.at? path = some x) : x.Within M h :=
  Trackers.at? within hx

/-- A value within the regime may be put at the end of a path. -/
lemma Within.putAt {h : Heap} (path : List Nat) {v y : Value} (within : v.Within M h)
    (hy : y.Within M h) : (y.putAt path v).Within M h :=
  Trackers.putAt path within hy

end Value

namespace Universe

variable {u : Universe}

/-! ### The books -/

/-- What a field held before is dropped. -/
lemma ledger_replaceField (type : TypeId) {vs : List Value} (a : Option Tracker) {i : Nat}
    (lt : i < vs.length) (v : Value) :
    Action.Triple (Ledger base ((Value.object type vs a).owned ++ (v.owned ++ held)) o)
      (replaceField type vs a i v) (fun w => Ledger base (w.owned ++ held) o) := by
  refine .bind (((Value.givesUp_dropAll _).triple).strengthen fun h ledger => ?_) fun _ =>
    .pure fun h => id
  refine ledger.perm (List.perm_iff_count.2 fun b => ?_)
  have moved := (Value.ownedByAll_perm_set lt v).count_eq b
  rw [List.getElem?_eq_getElem lt, Option.toList_some]
  simp only [Value.owned, Value.ownedByAll, List.count_append, List.count_nil] at moved ⊢
  omega

/-- A value that is not taken is dropped. -/
lemma ledger_dropped {α : Type} (w v : Value) {f : Unit → Action α} {Q : α → Heap → Prop}
    (rest : Action.Triple (Ledger base (w.owned ++ held) o) (f ()) Q) :
    Action.Triple (Ledger base (w.owned ++ (v.owned ++ held)) o) (v.drop >>= f) Q := by
  refine .bind ((v.givesUp_drop.triple).strengthen fun h ledger => ?_) fun _ => rest
  exact ledger.perm (List.perm_append_comm_assoc ..)

/-- What is written is owned by the object afterwards, and what was there goes. -/
lemma ledger_writeAt (i : Nat) (v w : Value) :
    Action.Triple (Ledger base (w.owned ++ (v.owned ++ held)) o) (writeAt i v w)
      (fun r => Ledger base (r.owned ++ held) o) := by
  cases w with
  | object type vs a =>
    rw [writeAt]
    split
    · rename_i lt
      exact ledger_replaceField type a lt v
    · exact ledger_dropped _ v (.pure fun h => id)
  | _ => exact ledger_dropped _ v (.pure fun h => id)

/-- A field that is found is one of the fields. -/
lemma indexIn?_lt {type : TypeId} {vs : List Value} {name : String} {i : Nat}
    (found : u.indexIn? type vs name = some i) : i < vs.length :=
  of_decide_eq_true (Option.filter_eq_some_iff.1 found).2

/-- A write by name keeps the books, whether it is refused or not. -/
lemma ledger_writeField (u : Universe) (name : String) (v w : Value) :
    Action.Triple (Ledger base (w.owned ++ (v.owned ++ held)) o) (u.writeField name v w)
      (fun r => Ledger base (r.1.owned ++ held) o) := by
  cases w with
  | object type vs a =>
    rw [writeField]
    split
    · exact ledger_dropped _ v (.pure fun h => id)
    · rename_i i found
      split
      · exact ledger_dropped _ v (.pure fun h => id)
      · exact .bind (ledger_replaceField type a (indexIn?_lt found) v) fun _ => .pure fun h => id
  | _ => exact ledger_dropped _ v (.pure fun h => id)

/-- So do new bytes for a field. -/
lemma ledger_writeBytes (u : Universe) (name : String) (bytes : Bytes) (w : Value) :
    Action.Triple (Ledger base (w.owned ++ held) o) (u.writeBytes name bytes w)
      (fun r => Ledger base (r.1.owned ++ held) o) := by
  cases w with
  | object type vs a =>
    rw [writeBytes]
    split
    · exact .pure fun h => id
    · rename_i i found
      split
      · exact .pure fun h => id
      · exact .pure fun h => id
      · rename_i t _
        -- the list that the tracker adds to has to stand first
        have turn : ∀ t : Tracker, ((Value.object type vs (some t)).owned ++ held).Perm
            (t.buffers ++ (Value.ownedByAll vs ++ held)) := fun t =>
          owned_object_perm type vs (some t) held
        have copies : Action.Triple (Ledger base ((Value.object type vs (some t)).owned ++ held) o)
            (t.allocateCopy bytes) fun r =>
              Ledger base ((Value.object type vs (some r.2)).owned ++ held) o := by
          intro h ledger
          exact (t.ledger_allocateWith bytes.length (fun _ => bytes) h
            (ledger.perm (turn t))).1.perm (turn _).symm
        refine .bind copies ?_
        rintro ⟨_ | ref, t'⟩
        · exact .pure fun h => id
        · refine .bind ((ledger_replaceField type (some t') (indexIn?_lt found)
            (.buffer ref)).strengthen fun h => id) fun _ => .pure fun h => id
  | _ => exact .pure fun h => id

/-- A construction in place keeps the books. -/
lemma ledger_constructAt (builds : u.Builds (·.owned = [])) (depth : Nat) (t : TypeId) (v : Value)
    (c : Template) :
    Action.Triple (Ledger base (v.owned ++ held) o) (u.constructAt depth t v c)
      (fun r => Ledger base (r.1.owned ++ held) o) := by
  rw [constructAt]
  split
  · rename_i null
    have none : v.owned = [] := by
      cases v with
      | null => rfl
      | _ => cases null
    have reports : Action.Triple (Ledger base held o) (u.constructReporting depth t c)
        fun r => Owes base held o r.1 := by
      rw [constructReporting]
      refine .bind (ledger_construct builds depth t c held) fun r => ?_
      split
      · exact .pure fun h => id
      · exact .pure fun h => id
    refine .bind (reports.strengthen fun h ledger => ?_) ?_
    · rw [none] at ledger
      exact ledger
    · rintro ⟨_ | w, message⟩
      · refine .pure fun h ledger => ?_
        rw [none]
        exact ledger
      · refine .pure fun h ledger => ?_
        rw [Value.owned_offHeap]
        exact ledger
  · exact .pure fun h => id

/-- So does a duplication over a target. -/
lemma ledger_duplicateOver (builds : u.Builds (·.owned = [])) (t : TypeId) (target source : Value)
    (recursive : Bool) :
    Action.Triple (Ledger base (target.owned ++ held) o)
      (u.duplicateOver t target source recursive)
      (fun r => Ledger base (r.1.owned ++ held) o) := by
  rw [duplicateOver]
  refine .bind (ledger_duplicate builds source t recursive _) ?_
  rintro (fault | v)
  · exact .pure fun h => id
  · have turned : ∀ rest : Value, ∀ h, Ledger base (rest.owned ++ (v.owned ++ held)) o h →
        Ledger base (rest.owned ++ (v.offHeap.owned ++ held)) o h := by
      intro rest h ledger
      rw [Value.owned_offHeap]
      exact ledger
    refine .bind ((u.ledger_free t target).strengthen fun h ledger =>
      turned target h (ledger.perm (List.perm_append_comm_assoc ..))) ?_
    rintro ⟨rest, _ | violation⟩
    · exact .bind (rest.givesUp_drop.triple) fun _ => .pure fun h => id
    · exact ledger_dropped rest _ (.pure fun h => id)

/-! ### Any manager may be asked -/

/-- If any manager may be asked, constructions may start from anything. -/
lemma sources_of_all (all : ∀ m, M.asks m) (builds : u.Builds (·.owned = [])) :
    u.Sources M fun _ => True where
  builds := builds.imp fun _ own => Value.bare_of_owned all own
  inside _ _ _ _ _ _ := trivial
  canonical _ _ _ := trivial
  initial _ v _ _ _ := Value.bare_of_owned all v.owned_rawCopy
  default _ v _ _ := Value.bare_of_owned all v.owned_rawCopy

/-- And every value is managed. -/
lemma managed_of_all (all : ∀ m, M.asks m) (v : Value) : v.Managed M :=
  fun _ t _ => all t.manager

/-- An object that is put together has a new tracker, if it has one. -/
lemma owned_instantiate {t : TypeId} {vs : List Value} {v : Value}
    (made : u.instantiate t vs = .ok v) : v.owned = Value.ownedByAll vs := by
  unfold instantiate at made
  split at made
  · cases made
  · split at made
    · cases made
      rw [Value.owned]
      split <;> exact List.append_nil _
    · cases made

/-- What is put together from values within the regime is within it. -/
lemma within_instantiate (all : ∀ m, M.asks m) {t : TypeId} {vs : List Value} {v : Value}
    (made : u.instantiate t vs = .ok v) {h : Heap} (within : ∀ v ∈ vs, v.Within M h) :
    v.Within M h := by
  unfold instantiate at made
  split at made
  · cases made
  · split at made
    · cases made
      refine Value.within_object.2 ⟨within, fun tr htr => ?_⟩
      split at htr
      · cases htr
        exact Tracker.within_new (all none)
      · cases htr
    · cases made

end Universe

namespace Program

variable {u : Universe}

open Universe

/-! ### Makers -/

namespace Maker

/-- What a maker takes goes into what it makes, or it is dropped. -/
lemma ledger_run (builds : u.Builds (·.owned = [])) (m : Maker) :
    Attempt.Triple (Ledger base (Value.ownedByAll m.takes ++ held) o) (m.run u)
      (Owes base held o) := by
  have nothing : ∀ v : Value, v.owned = [] →
      Attempt.Triple (Ledger base held o) (pure v) (Owes base held o) := by
    intro v own
    refine .pure fun h ledger => ?_
    rw [Owes, HandsOn, own]
    exact ledger
  cases m with
  | plain v other =>
    refine nothing v ?_
    cases v with
    | object => cases other
    | _ => rfl
  | zero t => exact nothing _ (u.owned_zeroOf t)
  | assemble t fields =>
    rw [run]
    split
    · rename_i v made
      refine .pure fun h ledger => ?_
      rw [Owes, HandsOn, owned_instantiate made]
      exact ledger
    · exact .lift (Value.givesUp_dropAll fields).triple fun _ => .refuse fun h => id
  | copy source => exact nothing _ source.owned_rawCopy
  | construct depth t c => exact ledger_construct builds depth t c held
  | constructStruct depth t c =>
    exact u.ledger_constructStruct (ledger_construct builds depth) t c held
  | duplicate t source recursive => exact ledger_duplicate builds source t recursive held
  | duplicateObject t fields tracker recursive =>
    exact ledger_duplicateObject builds t fields tracker recursive held

/-- A value that was made owns what went into it. -/
lemma owned_subset_run (u : Universe) (m : Maker) :
    (m.run u).Yields fun v => Value.ownedByAll m.takes ⊆ v.owned := by
  cases m with
  | assemble t fields =>
    rw [run]
    split
    · rename_i v made
      refine .pure ?_
      rw [owned_instantiate made]
      exact List.Subset.refl _
    · exact .lift fun _ => .refuse
  | _ => exact fun h v _ => List.nil_subset _

/-- A value is made within the regime if any manager may be asked. -/
lemma passes_run (all : ∀ m, M.asks m) (builds : u.Builds (·.owned = [])) (m : Maker) :
    (m.run u).Passes M (fun h => ∀ v ∈ m.takes, v.Within M h) (Arrives M) := by
  have sources := sources_of_all all builds
  have nothing : ∀ v : Value, v.owned = [] →
      Attempt.Passes M (fun _ => True) (pure v) (Arrives M) := fun v own =>
    .pure fun h _ => arrives_ok (Value.bare_of_owned all own h)
  cases m with
  | plain v other => exact .pure fun h _ => arrives_ok (Value.bare_of_plain other h)
  | zero t => exact (nothing _ (u.owned_zeroOf t)).strengthen fun _ _ => trivial
  | assemble t fields =>
    rw [run]
    split
    · rename_i v made
      exact .pure fun h within => arrives_ok (within_instantiate all made within)
    · exact .lift (Value.passes_dropAll fields) fun _ => .refuse fun h _ => arrives_error _ h
  | copy source => exact (nothing _ source.owned_rawCopy).strengthen fun _ _ => trivial
  | construct depth t c =>
    exact (supplied_construct sources depth t c fun _ _ => trivial).strengthen fun h _ => all _
  | constructStruct depth t c =>
    exact (passes_constructStruct sources (supplied_construct sources depth) t
      fun _ _ => trivial).strengthen fun h _ => all _
  | duplicate t source recursive =>
    exact (passes_duplicate sources.builds source (managed_of_all all source) t
      recursive).strengthen fun _ _ => trivial
  | duplicateObject t fields tracker recursive =>
    exact (passes_duplicateObject sources.builds t (managed_of_all all _)
      recursive).strengthen fun _ _ => trivial

end Maker

/-! ### Edits -/

namespace Edit

/-- What an edit takes goes into the value that it is done to, or it is dropped. -/
lemma ledger_run (builds : u.Builds (·.owned = [])) {e : Edit} {x : Value} :
    Action.Triple (Ledger base (x.owned ++ (Value.ownedByAll e.takes ++ held)) o) (e.run u x)
      (fun y => Ledger base (y.owned ++ held) o) := by
  have single : ∀ (v : Value) (h : Heap),
      Ledger base (x.owned ++ (Value.ownedByAll [v] ++ held)) o h →
      Ledger base (x.owned ++ (v.owned ++ held)) o h := by
    intro v h ledger
    rwa [Value.ownedByAll, Value.ownedByAll, List.append_nil] at ledger
  cases e with
  | constructAt depth t c =>
    exact .bind (ledger_constructAt builds depth t x c) fun _ => .pure fun h => id
  | writeField name v =>
    exact .bind ((u.ledger_writeField name v x).strengthen (single v)) fun _ => .pure fun h => id
  | writeAt index v => exact (ledger_writeAt index v x).strengthen (single v)
  | writeBytes name bytes =>
    exact .bind (u.ledger_writeBytes name bytes x) fun _ => .pure fun h => id
  | free t => exact .bind (u.ledger_free t x) fun _ => .pure fun h => id
  | freeObject => exact .bind (u.ledger_freeObject x) fun _ => .pure fun h => id
  | duplicateOver t source recursive =>
    exact .bind (ledger_duplicateOver builds t x source recursive) fun _ => .pure fun h => id

/-- And it is edited within it. -/
lemma passes_run (all : ∀ m, M.asks m) (builds : u.Builds (·.owned = [])) (e : Edit)
    (x : Value) :
    (e.run u x).Passes M (fun h => x.Within M h ∧ ∀ v ∈ e.takes, v.Within M h)
      fun y h => y.Within M h := by
  have sources := sources_of_all all builds
  cases e with
  | constructAt depth t c =>
    refine .bind ((passes_constructAt sources depth t x fun _ _ => trivial).strengthen
      fun h within => ⟨all _, within.1⟩) fun _ => .pure fun h => id
  | writeField name v =>
    refine .bind ((u.passes_writeField name v x).strengthen fun h within => ?_) fun _ =>
      .pure fun h => id
    exact ⟨within.1, within.2 v (List.mem_singleton_self v)⟩
  | writeAt index v =>
    refine (passes_writeAt index v x).strengthen fun h within => ?_
    exact ⟨within.1, within.2 v (List.mem_singleton_self v)⟩
  | writeBytes name bytes =>
    exact .bind ((u.passes_writeBytes name bytes x).strengthen fun h => And.left) fun _ =>
      .pure fun h => id
  | free t =>
    exact .bind ((u.passes_free t x).strengthen fun h => And.left) fun _ => .pure fun h => id
  | freeObject =>
    exact .bind ((u.passes_freeObject x).strengthen fun h => And.left) fun _ => .pure fun h => id
  | duplicateOver t source recursive =>
    exact .bind ((passes_duplicateOver sources.builds t (managed_of_all all source) x
      recursive).strengthen fun h => And.left) fun _ => .pure fun h => id

/-- The object owns what is written into one of its fields. -/
lemma owned_subset_replaceField (type : TypeId) {vs : List Value} (a : Option Tracker) {i : Nat}
    (lt : i < vs.length) (v : Value) :
    (replaceField type vs a i v).Yields fun w => v.owned ⊆ w.owned := by
  refine .andThen fun _ => .pure fun b hb => List.mem_append_left _ ?_
  rw [Value.ownedByAll_eq_flatMap]
  exact List.mem_flatMap.2 ⟨v, List.mem_of_getElem? (List.getElem?_set_self lt), hb⟩

/-- What an edit takes and does not refuse is owned by the value that it was done to. -/
lemma owned_subset_run {e : Edit} {x : Value} {h : Heap} (taken : e.refuses u x h = false) :
    Value.ownedByAll e.takes ⊆ ((e.run u x).run h).1.owned := by
  have single : ∀ v : Value, Value.ownedByAll [v] = v.owned := fun v => List.append_nil _
  cases e with
  | writeField name v =>
    rw [takes, single]
    have fits : (u.writeField name v x).Yields fun r =>
        r.2.isSome = false → v.owned ⊆ r.1.owned := by
      have refused : ∀ (w : Value) (e : AccessError),
          (Option.some e).isSome = false → v.owned ⊆ w.owned := by
        intro w e taken
        cases taken
      cases x with
      | object type vs a =>
        rw [Universe.writeField]
        split
        · exact .andThen fun _ => .pure (refused _ _)
        · rename_i i found
          split
          · exact .andThen fun _ => .pure (refused _ _)
          · exact .bind (owned_subset_replaceField type a (indexIn?_lt found) v) fun w more =>
              .pure fun _ => more
      | _ => exact .andThen fun _ => .pure (refused _ _)
    exact fits h taken
  | writeAt index v =>
    rw [takes, single]
    cases x with
    | object type vs a =>
      have lt : index < vs.length := by
        rw [refuses, Value.fields?, Option.bind_some, Option.isNone_eq_false_iff] at taken
        obtain ⟨old, there⟩ := Option.isSome_iff_exists.1 taken
        exact (List.getElem?_eq_some_iff.1 there).1
      rw [run, Universe.writeAt, if_pos lt]
      exact owned_subset_replaceField type a lt v h
    | _ => cases taken
  | _ => exact List.nil_subset _

end Edit

end Program

end Metaobject
