import Metaobject.Proofs.Lifecycle.Abandonment
import Metaobject.Proofs.Lifecycle.Frame
import Metaobject.Proofs.Lifecycle.Soundness

/-!
# Hooks that come in pairs

A type that looks after a resource has a hook that frees it and a hook that duplicates it, and it
counts on being asked at both ends. When an object is freed, the type that is responsible for the
value of a marked field always is asked. When the object is duplicated, it is asked unless the value
is a buffer and the object has a tracker: then the copy's tracker adopts the buffer, and nobody is
asked. `Universe.hooks_pair` says so, and that a type that is asked decides the field of the copy.
-/

namespace Metaobject

open Metaobject.Action Attempt

variable {α β : Type}

namespace Heap

/-- Whatever is done when a value is given up or copied is recorded after what was recorded
before. -/
lemma frame_records : Frame (Records fun _ => True) where
  toLasting := lasting_records _
  emit _ := records_emit trivial
  disown := records_disown fun _ _ => trivial

variable {h h' h'' : Heap} {e : Event}

/-- What is recorded afterwards leaves the first event the first. -/
lemma Opens.later (opens : h.Opens h' e) (later : h'.Records (fun _ => True) h'') :
    h.Opens h'' e := by
  obtain ⟨es, first⟩ := opens
  obtain ⟨es', second, _⟩ := later
  exact ⟨es ++ es', by rw [second, first, List.append_assoc, List.cons_append]⟩

/-- What records no hook does not open with one. -/
lemma Records.not_opens (quiet : h.Records (fun e => e.isHook = false) h')
    (hook : e.isHook = true) : ¬ h.Opens h' e := by
  rintro ⟨es, opens⟩
  obtain ⟨es', trace, none⟩ := quiet
  have same : es' = e :: es := List.append_cancel_left (trace.symm.trans opens)
  have silent : e.isHook = false := none e (same ▸ List.mem_cons_self)
  rw [hook] at silent
  cases silent

end Heap

namespace Action

/-- What is recorded first stays first. -/
lemma opens_bind {a : Action α} {f : α → Action β} {h : Heap} {e : Event}
    (first : h.Opens (a.run h).2 e) (rest : ∀ x, (f x).Keeps (Heap.Records fun _ => True)) :
    h.Opens ((a >>= f).run h).2 e :=
  first.later (rest _ _)

/-- An action that cannot fail comes first, and its first event with it. -/
lemma opens_lift {a : Action α} {f : α → Attempt β} {h : Heap} {e : Event}
    (first : h.Opens (a.run h).2 e) (rest : ∀ x, (f x).Keeps (Heap.Records fun _ => True)) :
    h.Opens ((liftM a >>= f : Attempt β).run.run h).2 e :=
  first.later (rest _ _)

/-- An event that is recorded is the first one. -/
lemma opens_emit (e : Event) (h : Heap) : h.Opens ((emit e).run h).2 e :=
  ⟨[], Array.toList_push⟩

end Action

/-- A tracker that adopts a buffer lets the trace grow only. -/
lemma Tracker.records_adopt_any (t : Tracker) (ref : Handle) :
    Attempt.Keeps (Heap.Records fun _ => True) (t.adopt ref) :=
  t.records_adopt (fun _ _ => trivial) ref

namespace Universe

variable {u : Universe}

/-! ### Who is asked -/

/-- A type's own say in how its values are duplicated. -/
def duplicateHook? (u : Universe) (t : TypeId) :
    Option (String → Value → Bool → DuplicateAnswer) :=
  (u.desc t).behavior.bind (·.duplicate)

/-- The type that is responsible for the value of a field: for an object it is the object's own,
for any other value the one that the field declares. -/
def responsible? (f : Field) : Value → Option TypeId
  | .object type _ _ => some type
  | _ => f.type

/-- The duplicate that a type decides on for a value, unless it leaves that to the general
algorithm. -/
def decided? (u : Universe) (v : Value) : DuplicateAnswer → Option (Attempt Value)
  | .built w => some (return w)
  | .failed e => some (Attempt.refuse e)
  | .byLayout recursive =>
    match v with
    | .object type vs a => some (u.duplicateObject type vs a recursive)
    | _ => none
  | .decline => none

/-- The value is a buffer, and the tracker of the object around it is to own a copy of it. -/
def IsAdopted (a : Option Tracker) (v : Value) : Prop :=
  a.isSome = true ∧ v.handle?.isSome = true

/-- The field at the position of an object is marked, its value is there and is one that the field
may hold, and `r` is responsible for it. -/
structure MarkedAt (u : Universe) (l : Layout) (vs : List Value) (i : Nat) (f : Field) (v : Value)
    (r : TypeId) : Prop where
  field : l.fields[i]? = some f
  value : vs[i]? = some v
  marked : f.recurse = true
  present : v.isNull = false
  accepted : ∀ t, f.type = some t → u.accepts t v = true
  responsible : responsible? f v = some r

/-- The type accepts the value, and if that is an object it is one of this very type. -/
structure LooksAfter (u : Universe) (r : TypeId) (v : Value) : Prop where
  present : v.isNull = false
  accepted : u.accepts r v = true
  own : ∀ s vs a, v = .object s vs a → s = r

/-- A type that a field is marked with looks after the value there. -/
lemma MarkedAt.looksAfter {type : TypeId} {l : Layout} {vs : List Value} {a : Option Tracker}
    {i : Nat} {f : Field} {v : Value} {r : TypeId} (holds : u.MarkedAt l vs i f v r)
    (formed : u.isFormed (.object type vs a) = true) : u.LooksAfter r v := by
  have inside := (isFormed_object.1 formed).2 v (List.mem_of_getElem? holds.value)
  have responsible := holds.responsible
  refine ⟨holds.present, ?_, ?_⟩
  · cases v with
    | object s ws b =>
      cases responsible
      obtain ⟨⟨l', hl', _⟩, _⟩ := isFormed_object.1 inside
      exact accepts_self hl' ws b
    | _ => exact holds.accepted r responsible
  · rintro s ws b rfl
    cases responsible
    rfl

/-! ### Freeing -/

/-- Frees the value of a field, if it is freed at all. -/
def freeAt (u : Universe) (f : Option Field) (v : Value) : Action (Value × Option Violation) :=
  match freedThrough f v with
  | none => return (v, none)
  | some t => u.free t v

/-- The value of a marked field is freed through the type that is responsible for it. -/
lemma freeAt_of_responsible {f : Field} {v : Value} {r : TypeId} (marked : f.recurse = true)
    (present : v.isNull = false) (responsible : responsible? f v = some r) :
    u.freeAt (some f) v = u.free r v := by
  have through : freedThrough (some f) v = some r := by
    cases v with
    | null => cases present
    | object => exact responsible
    | _ => rw [freedThrough_of_recurse rfl rfl marked]; exact responsible
  rw [freeAt, through]

/-- The first field is freed, and then the others, if nothing stops it. -/
lemma freeFields_cons (declared : List Field) (v : Value) (vs : List Value) :
    u.freeFields declared (v :: vs) = do
      match ← u.freeAt declared.head? v with
      | (v, some e) => return (v :: vs, some e)
      | (v, none) =>
        let (vs, e) ← u.freeFields declared.tail vs
        return (v :: vs, e) := by
  rw [freeFields, freeAt]
  cases freedThrough declared.head? v <;> rfl

/-- After the first field the others are freed. -/
lemma run_freeFields_cons {declared : List Field} {v w : Value} {k k' : Heap}
    (first : (u.freeAt declared.head? v).run k = ((w, none), k')) (vs : List Value) :
    (u.freeFields declared (v :: vs)).run k =
      ((w :: ((u.freeFields declared.tail vs).run k').1.1,
        ((u.freeFields declared.tail vs).run k').1.2),
        ((u.freeFields declared.tail vs).run k').2) := by
  rw [freeFields_cons, StateT.run_bind, first]
  rfl

/-- What stops the first field stops the rest. -/
lemma run_freeFields_stopped {declared : List Field} {v w : Value} {violation : Violation}
    {k k' : Heap} (first : (u.freeAt declared.head? v).run k = ((w, some violation), k'))
    (vs : List Value) :
    (u.freeFields declared (v :: vs)).run k = ((w :: vs, some violation), k') := by
  rw [freeFields_cons, StateT.run_bind, first]
  rfl

/-- Fields are freed one after the other. -/
lemma run_freeFields_drop {k₁ : Heap} (i : Nat) :
    ∀ (vs : List Value) (declared : List Field) {k : Heap} {rest : List Value},
      (u.freeFields declared (vs.take i)).run k = ((rest, none), k₁) →
      ((u.freeFields declared vs).run k).2 =
        ((u.freeFields (declared.drop i) (vs.drop i)).run k₁).2 := by
  induction i with
  | zero =>
    intro vs declared k rest ran
    rw [List.take_zero, freeFields] at ran
    cases ran
    rfl
  | succ i ih =>
    intro vs declared k rest ran
    cases vs with
    | nil =>
      rw [List.take_nil, freeFields] at ran
      cases ran
      rw [List.drop_nil, freeFields, freeFields]
    | cons v vs =>
      rw [List.take_succ_cons] at ran
      rw [List.drop_succ_cons, ← List.drop_tail]
      rcases first : (u.freeAt declared.head? v).run k with ⟨⟨w, _ | violation⟩, k'⟩
      · rcases after : (u.freeFields declared.tail (vs.take i)).run k' with ⟨⟨ws, e⟩, k''⟩
        rw [run_freeFields_cons first, after] at ran
        cases ran
        rw [run_freeFields_cons first]
        exact ih vs declared.tail after
      · rw [run_freeFields_stopped first] at ran
        cases ran

/-- What comes after the first field is recorded after it. -/
lemma records_freeFields_cons (f : Field) (fs : List Field) (v : Value) (vs : List Value)
    (k : Heap) : ((u.freeAt (some f) v).run k).2.Records (fun _ => True)
      ((u.freeFields (f :: fs) (v :: vs)).run k).2 := by
  rcases first : (u.freeAt (some f) v).run k with ⟨⟨w, _ | violation⟩, k'⟩
  · rw [run_freeFields_cons first]
    exact u.framed_freeFields Heap.frame_records fs vs k'
  · rw [run_freeFields_stopped first]
    exact Heap.frame_records.refl k'

/-- The tracker of an object is released after its fields are freed. -/
lemma records_freeObject {type : TypeId} {l : Layout} (hl : u.layout? type = some l)
    (vs : List Value) (a : Option Tracker) (k : Heap) :
    ((u.freeFields l.fields vs).run k).2.Records (fun _ => True)
      ((u.freeObject (.object type vs a)).run k).2 := by
  rw [freeObject, hl, Option.elim_some, StateT.run_bind]
  rcases (u.freeFields l.fields vs).run k with ⟨⟨ws, _ | violation⟩, k'⟩
  · exact framed_finishFree Heap.frame_records type ws a k'
  · exact Heap.frame_records.refl k'

/-- First of all the hook for releases is asked. -/
lemma opens_consultFree {t : TypeId} {hook : Value → FreeAnswer} (has : u.freeHook? t = some hook)
    (v : Value) (h : Heap) : h.Opens ((u.consultFree t v).run h).2 (.hook t .free) := by
  rw [freeHook?] at has
  rw [consultFree, has]
  exact opens_emit _ h

/-- A value is freed by asking its type first. -/
lemma opens_free {r : TypeId} {v : Value} (after : u.LooksAfter r v) {hook : Value → FreeAnswer}
    (has : u.freeHook? r = some hook) (h : Heap) :
    h.Opens ((u.free r v).run h).2 (.hook r .free) := by
  have asked := fun v => opens_consultFree has v h
  obtain ⟨present, accepted, own⟩ := after
  cases v with
  | null => cases present
  | object s vs a =>
    obtain rfl := own s vs a rfl
    have fields := u.framed_freeFields Heap.frame_records ((u.layout? s).elim [] (·.fields)) vs
    rw [free, if_pos accepted]
    refine opens_bind (asked _) fun answer => ?_
    cases answer with
    | keep => exact Heap.frame_records.pure _
    | clear =>
      exact Heap.frame_records.bind (Value.framed_drop Heap.frame_records _) fun _ =>
        Heap.frame_records.pure _
    | decline => exact framed_freeByLayout Heap.frame_records a fields
    | byLayout => exact framed_freeByLayout Heap.frame_records a fields
  | _ =>
    simp only [free]
    rw [freePlain, if_pos accepted]
    refine opens_bind (asked _) fun answer => ?_
    cases answer <;> exact Heap.frame_records.pure _

/-! ### Duplication -/

/-- Copies the value of a field for an object with the given tracker, in a recursive duplication. -/
def copyAt (u : Universe) (f : Field) (a : Option Tracker) (v : Value) :
    Attempt (Value × Option Tracker) :=
  duplicateInto (fun t => u.duplicate t true v) f.recurse f.type a v

/-- Copies the values of fields one after the other. -/
def copyEach (u : Universe) :
    List (Field × Value) → Option Tracker → Attempt (List Value × Option Tracker)
  | [], a => return ([], a)
  | (f, v) :: rest, a => do
    let (w, a) ← u.copyAt f a v
    let (ws, a) ← copyEach u rest a
    return (w :: ws, a)

/-- A copy's tracker is there if the source's is. -/
lemma yields_copyAt (f : Field) (a : Option Tracker) (v : Value) :
    (u.copyAt f a v).Yields fun r => r.2.isSome = a.isSome := by
  have any : ∀ {α : Type} (a : Attempt α), a.Yields fun _ => True := fun _ _ _ _ => trivial
  unfold copyAt duplicateInto
  split
  · split
    · exact .bind (any _) fun _ _ => .pure rfl
    · exact .bind (any _) fun _ _ => .pure rfl
    · exact .pure rfl
    · exact .bind (any _) fun _ _ => .pure rfl
    · exact .pure rfl
  · exact .pure rfl

/-- Copying field by field leaves the values one by one, and the tracker if there was one. -/
lemma yields_copyEach (fields : List (Field × Value)) (a : Option Tracker) :
    (u.copyEach fields a).Yields fun r =>
      r.1.length = fields.length ∧ r.2.isSome = a.isSome := by
  induction fields generalizing a with
  | nil => exact .pure ⟨rfl, rfl⟩
  | cons g fields ih =>
    refine .bind (yields_copyAt g.1 a g.2) ?_
    rintro ⟨w, b⟩ first
    refine .bind (ih b) ?_
    rintro ⟨ws, c⟩ ⟨len, rest⟩
    exact .pure ⟨congrArg (· + 1) len, rest.trans first⟩

/-- An object is duplicated field by field. -/
lemma run_duplicateFields_append (type : TypeId) (fs : List Field) (vs : List Value) {h₁ : Heap}
    {b : Option Tracker} (fields : List (Field × Value)) :
    ∀ (built : List Value) {ws : List Value} {a : Option Tracker} {h : Heap},
      (u.copyEach fields a).run.run h = (.ok (ws, b), h₁) →
      (u.duplicateFields type true (fields.map (·.1) ++ fs) built a
        (fields.map (·.2) ++ vs)).run.run h =
      (u.duplicateFields type true fs (built ++ ws) b vs).run.run h₁ := by
  induction fields with
  | nil =>
    intro built ws a h ran
    cases ran
    rw [List.append_nil]
    rfl
  | cons g fields ih =>
    intro built ws a h ran
    obtain ⟨f, v⟩ := g
    obtain ⟨⟨w, c⟩, h', first, ran⟩ := bind_ok ran
    obtain ⟨⟨ws', d⟩, h'', rest, ran⟩ := bind_ok ran
    cases ran
    rw [List.map_cons, List.map_cons, List.cons_append, List.cons_append, duplicateFields,
      run_outcome]
    rw [copyAt] at first
    rw [Bool.true_and, first]
    refine (ih _ rest).trans ?_
    rw [List.append_assoc, List.singleton_append]

/-- What is built already is in the copy. -/
lemma yields_duplicateFields (type : TypeId) (recursive : Bool) (vs : List Value) :
    ∀ (fs : List Field) (built : List Value) (a : Option Tracker),
      (u.duplicateFields type recursive fs built a vs).Yields fun x =>
        ∃ rest, x.fields? = some (built ++ rest) := by
  have done : ∀ (built : List Value) (a : Option Tracker),
      ∃ rest, (finish type built a).fields? = some (built ++ rest) :=
    fun built a => ⟨[], congrArg some (List.append_nil built).symm⟩
  induction vs with
  | nil =>
    intro fs built a
    rw [duplicateFields]
    exact .pure (done built a)
  | cons v vs ih =>
    intro fs built a
    cases fs with
    | nil =>
      rw [duplicateFields]
      exact .pure (done built a)
    | cons f fs =>
      rw [duplicateFields]
      refine .outcome (fun _ _ _ => trivial) fun r _ =>
        u.yields_settle type f built a _ fun w b _ => ?_
      refine (ih fs (built ++ [w]) b).weaken ?_
      rintro x ⟨rest, hx⟩
      exact ⟨w :: rest, by rw [hx, List.append_assoc, List.singleton_append]⟩

/-- The fault that is reported when a field could not be copied: the failure of the field, unless
the partial object is kept from being given up. -/
def reported (u : Universe) (partialObject : Value) (f : Field) (h : Heap) : Fault → Fault
  | .refused e =>
    ((u.abandon partialObject).run h).1.elim (.refused (.field f.index f.name e)) .violated
  | fault => fault

/-- The fault of a field is reported with what becomes of the partial object. -/
lemma run_settle_error (type : TypeId) (f : Field) (built : List Value) (a : Option Tracker)
    (next : List Value → Option Tracker → Attempt Value) (fault : Fault) (h : Heap) :
    ((u.settle type f built a (return ()) next (.error fault)).run.run h).1 =
      .error (u.reported (.object type built a) f h fault) := by
  cases fault with
  | refused e =>
    have unchanged : ((return () : Action Unit).run h).2 = h := rfl
    rw [settle, run_lift, run_lift, unchanged, reported]
    generalize (u.abandon (.object type built a)).run h = r
    obtain ⟨_ | violation, h'⟩ := r
    · rfl
    · rfl
  | violated violation => rfl
  | tooDeep => rfl

/-- First of all the hook for duplications is asked. -/
lemma opens_consultDuplicate {t : TypeId} {hook : String → Value → Bool → DuplicateAnswer}
    (has : u.duplicateHook? t = some hook) (v : Value) (recursive : Bool) (h : Heap) :
    h.Opens ((u.consultDuplicate t v recursive).run h).2 (.hook t (.duplicate recursive)) := by
  rw [duplicateHook?] at has
  rw [consultDuplicate, has]
  exact opens_emit _ h

/-- The duplicate that the general algorithm makes. -/
def duplicateGenerally (u : Universe) (recursive : Bool) : Value → Attempt Value
  | .object type vs a => u.duplicateObject type vs a recursive
  | v => return v.rawCopy

/-- A type is asked for a duplicate first, and the general algorithm is for what it leaves to it. -/
lemma duplicate_of_looksAfter {r : TypeId} {v : Value} (after : u.LooksAfter r v)
    (recursive : Bool) :
    u.duplicate r recursive v = liftM (u.consultDuplicate r v recursive) >>= fun answer =>
      (u.decided? v answer).getD (u.duplicateGenerally recursive v) := by
  obtain ⟨_, accepted, own⟩ := after
  cases v with
  | object s vs a =>
    obtain rfl := own s vs a rfl
    rw [duplicate, if_pos accepted]
    refine bind_congr fun answer => ?_
    cases answer <;> rfl
  | _ =>
    simp only [duplicate]
    rw [duplicatePlain, if_pos accepted]
    refine bind_congr fun answer => ?_
    cases answer <;> rfl

/-- A type that looks after a value and has a hook is asked about it first. -/
lemma opens_duplicate {r : TypeId} {v : Value} (after : u.LooksAfter r v)
    {hook : String → Value → Bool → DuplicateAnswer} (has : u.duplicateHook? r = some hook)
    (recursive : Bool) (h : Heap) :
    h.Opens ((u.duplicate r recursive v).run.run h).2 (.hook r (.duplicate recursive)) := by
  have general : ∀ type vs a recursive,
      (u.duplicateObject type vs a recursive).Keeps (Heap.Records fun _ => True) :=
    u.framed_duplicateObject Heap.frame_records Tracker.records_adopt_any
  rw [duplicate_of_looksAfter after]
  refine opens_lift (opens_consultDuplicate has v recursive h) fun answer => ?_
  cases answer with
  | built w => exact Heap.frame_records.ok w
  | failed e => exact Heap.frame_records.refuse e
  | byLayout | decline =>
    cases v with
    | object type vs a => exact general type vs a _
    | _ => exact Heap.frame_records.ok _

/-- A type that decides on a duplicate gets its way. -/
lemma run_duplicate_decided {r : TypeId} {v : Value} (after : u.LooksAfter r v)
    {hook : String → Value → Bool → DuplicateAnswer} (has : u.duplicateHook? r = some hook)
    {recursive : Bool} {made : Attempt Value}
    (decides : u.decided? v (hook (u.name r) v recursive) = some made) (h : Heap) :
    (u.duplicate r recursive v).run.run h =
      made.run.run ((emit (.hook r (.duplicate recursive))).run h).2 := by
  rw [duplicateHook?] at has
  rw [duplicate_of_looksAfter after, run_lift, consultDuplicate, has]
  show ((u.decided? v (hook (u.name r) v recursive)).getD _).run.run _ = _
  rw [decides]
  rfl

/-- The value of a marked field is copied through the type that is responsible for it, unless it is
a buffer that is adopted. -/
lemma run_copyAt {f : Field} {v : Value} {r : TypeId} {a : Option Tracker}
    (marked : f.recurse = true) (present : v.isNull = false)
    (responsible : responsible? f v = some r) (free : ¬ IsAdopted a v) (h : Heap) :
    (u.copyAt f a v).run.run h =
      (((u.duplicate r true v).run.run h).1.map (·, a), ((u.duplicate r true v).run.run h).2) := by
  have through : u.copyAt f a v = do return (← u.duplicate r true v, a) := by
    unfold copyAt duplicateInto
    rw [if_pos marked]
    cases v with
    | null => cases present
    | object =>
      cases responsible
      rfl
    | buffer ref =>
      cases a with
      | none => rw [show f.type = some r from responsible]
      | some tr => exact absurd ⟨rfl, rfl⟩ free
    | _ => rw [show f.type = some r from responsible]
  rw [through, ExceptT.run_bind, StateT.run_bind]
  rcases (u.duplicate r true v).run.run h with ⟨fault | w, h'⟩
  · rfl
  · rfl

/-- For a buffer that is adopted nobody is asked. -/
lemma quiet_copyAt {f : Field} {v : Value} {a : Option Tracker} (marked : f.recurse = true)
    (adopted : IsAdopted a v) :
    Attempt.Keeps (Heap.Records fun e => e.isHook = false) (u.copyAt f a v) := by
  have quiet := Heap.lasting_records fun e => e.isHook = false
  obtain ⟨tracked, buffer⟩ := adopted
  obtain ⟨tr, rfl⟩ := Option.isSome_iff_exists.1 tracked
  unfold copyAt duplicateInto
  rw [if_pos marked]
  cases v with
  | buffer ref =>
    exact quiet.attempt (tr.records_adopt (fun _ same => same) ref) fun _ => quiet.ok _
  | _ => cases buffer

/-- When a field is copied, the type that is responsible for its value is asked unless the value is
adopted. -/
lemma opens_copyAt_iff {f : Field} {v : Value} {r : TypeId} {a : Option Tracker}
    (after : u.LooksAfter r v) (marked : f.recurse = true) (responsible : responsible? f v = some r)
    {hook : String → Value → Bool → DuplicateAnswer} (has : u.duplicateHook? r = some hook)
    (h : Heap) : h.Opens ((u.copyAt f a v).run.run h).2 (.hook r (.duplicate true)) ↔
      ¬ IsAdopted a v := by
  refine ⟨fun opens adopted => (quiet_copyAt marked adopted h).not_opens rfl opens, fun free => ?_⟩
  rw [run_copyAt marked after.present responsible free]
  exact opens_duplicate after has true h

/-- The copy of the field is what the type decides on. -/
lemma run_copyAt_decided {f : Field} {v : Value} {r : TypeId} {a : Option Tracker}
    (after : u.LooksAfter r v) (marked : f.recurse = true) (responsible : responsible? f v = some r)
    (free : ¬ IsAdopted a v) {hook : String → Value → Bool → DuplicateAnswer}
    (has : u.duplicateHook? r = some hook) {made : Attempt Value}
    (decides : u.decided? v (hook (u.name r) v true) = some made) {h h' : Heap}
    {outcome : Except Fault Value}
    (ran : made.run.run ((emit (.hook r (.duplicate true))).run h).2 = (outcome, h')) :
    (u.copyAt f a v).run.run h = (outcome.map (·, a), h') := by
  rw [run_copyAt marked after.present responsible free, run_duplicate_decided after has decides,
    ran]

/-! ### Both ends -/

/-- The object is freed as far as the field at the position: the values before it are freed. -/
def FreedTo (u : Universe) (l : Layout) (vs : List Value) (i : Nat) (k k₁ : Heap) : Prop :=
  ∃ rest, (u.freeFields l.fields (vs.take i)).run k = ((rest, none), k₁)

/-- The object is duplicated as far as the field at the position: the values before it are copied,
for an object that is to have a tracker of its own. -/
def CopiedTo (u : Universe) (l : Layout) (vs : List Value) (a : Option Tracker) (i : Nat) (h : Heap)
    (ws : List Value) (b : Option Tracker) (h₁ : Heap) : Prop :=
  (u.copyEach ((l.fields.zip vs).take i) (a.map fun t => { manager := t.manager })).run.run h =
    (.ok (ws, b), h₁)

variable {type : TypeId} {l : Layout} {vs ws : List Value} {a b : Option Tracker} {i : Nat}
  {f : Field} {v : Value} {r : TypeId} {h h₁ k k₁ : Heap}

/-- As many values were copied as fields came before. -/
lemma CopiedTo.length_eq (came : u.CopiedTo l vs a i h ws b h₁) (len : vs.length = l.fields.length)
    (hv : vs[i]? = some v) : ws.length = i := by
  obtain ⟨lt, _⟩ := List.getElem?_eq_some_iff.1 hv
  have counted := (yields_copyEach _ _ h (ws, b) (congrArg Prod.fst came)).1
  rw [List.length_take, List.length_zip, ← len, Nat.min_self,
    Nat.min_eq_left (Nat.le_of_lt lt)] at counted
  exact counted

/-- A copy has a tracker if the source has one. -/
lemma CopiedTo.tracked (came : u.CopiedTo l vs a i h ws b h₁) : b.isSome = a.isSome := by
  have kept := (yields_copyEach _ _ h (ws, b) (congrArg Prod.fst came)).2
  rwa [Option.isSome_map] at kept

/-- The rest of a duplication is to copy the field and to go on with the next ones. -/
lemma CopiedTo.run_duplicateObject (came : u.CopiedTo l vs a i h ws b h₁)
    (hl : u.layout? type = some l) (len : vs.length = l.fields.length)
    (hf : l.fields[i]? = some f) (hv : vs[i]? = some v) :
    (u.duplicateObject type vs a true).run.run h =
      (u.settle type f ws b (return ())
        (fun built b => u.duplicateFields type true (l.fields.drop (i + 1)) built b
          (vs.drop (i + 1)))
        ((u.copyAt f b v).run.run h₁).1).run.run ((u.copyAt f b v).run.run h₁).2 := by
  have found : u.fieldsFor type vs = .ok l.fields := by
    rw [fieldsFor, hl]
    exact if_pos len
  have fields : l.fields = ((l.fields.zip vs).take i).map (·.1) ++ f :: l.fields.drop (i + 1) := by
    obtain ⟨lt, rfl⟩ := List.getElem?_eq_some_iff.1 hf
    rw [List.map_take, List.map_fst_zip (Nat.le_of_eq len.symm), ← List.drop_eq_getElem_cons lt,
      List.take_append_drop]
  have values : vs = ((l.fields.zip vs).take i).map (·.2) ++ v :: vs.drop (i + 1) := by
    obtain ⟨lt, rfl⟩ := List.getElem?_eq_some_iff.1 hv
    rw [List.map_take, List.map_snd_zip (Nat.le_of_eq len), ← List.drop_eq_getElem_cons lt,
      List.take_append_drop]
  have split := run_duplicateFields_append type (f :: l.fields.drop (i + 1)) (v :: vs.drop (i + 1))
    _ [] came
  rw [← fields, ← values] at split
  rw [duplicateObject, found]
  refine split.trans ?_
  rw [duplicateFields, run_outcome, Bool.true_and]
  rfl

/-- What comes after a field is recorded after it, at either end. -/
lemma CopiedTo.records (came : u.CopiedTo l vs a i h ws b h₁) (hl : u.layout? type = some l)
    (len : vs.length = l.fields.length) (hf : l.fields[i]? = some f) (hv : vs[i]? = some v) :
    ((u.copyAt f b v).run.run h₁).2.Records (fun _ => True)
      ((u.duplicateObject type vs a true).run.run h).2 := by
  rw [came.run_duplicateObject hl len hf hv]
  refine framed_settle Heap.frame_records type f ws b (Heap.frame_records.pure ())
    (fun built b => ?_) _ _
  exact u.framed_duplicateFields Heap.frame_records Tracker.records_adopt_any type true _ _ built b

/-- What is recorded when the field is freed is part of what is recorded for the object. -/
lemma FreedTo.records (came : u.FreedTo l vs i k k₁) (hl : u.layout? type = some l)
    (hf : l.fields[i]? = some f) (hv : vs[i]? = some v) (a : Option Tracker) :
    ((u.freeAt (some f) v).run k₁).2.Records (fun _ => True)
      ((u.freeObject (.object type vs a)).run k).2 := by
  obtain ⟨rest, ran⟩ := came
  have fields := records_freeFields_cons (u := u) f (l.fields.drop (i + 1)) v (vs.drop (i + 1)) k₁
  obtain ⟨lt, rfl⟩ := List.getElem?_eq_some_iff.1 hf
  obtain ⟨lt', rfl⟩ := List.getElem?_eq_some_iff.1 hv
  rw [← List.drop_eq_getElem_cons, ← List.drop_eq_getElem_cons,
    ← run_freeFields_drop i vs l.fields ran] at fields
  exact Heap.frame_records.trans fields (records_freeObject hl vs a k)

/-- How the type that is responsible for the value of a field is asked when the object is freed and
when it is duplicated, from the moments on at which these come to the field. -/
structure HooksPaired (u : Universe) (type : TypeId) (vs : List Value) (a : Option Tracker)
    (i : Nat) (f : Field) (v : Value) (r : TypeId) (h : Heap) (ws : List Value)
    (b : Option Tracker) (h₁ k k₁ : Heap) : Prop where
  /-- What is done for the field is part of the whole run. -/
  inFreeing : ((u.freeAt (some f) v).run k₁).2.Records (fun _ => True)
    ((u.freeObject (.object type vs a)).run k).2
  inDuplication : ((u.copyAt f b v).run.run h₁).2.Records (fun _ => True)
    ((u.duplicateObject type vs a true).run.run h).2
  /-- When the value is freed the type is asked. -/
  freed : (u.freeHook? r).isSome = true →
    k₁.Opens ((u.freeAt (some f) v).run k₁).2 (.hook r .free)
  /-- When the value is copied the type is asked unless the value is adopted. -/
  copied : (u.duplicateHook? r).isSome = true →
    (h₁.Opens ((u.copyAt f b v).run.run h₁).2 (.hook r (.duplicate true)) ↔ ¬ IsAdopted a v)
  /-- For a value that is adopted no type is asked. -/
  adopted : IsAdopted a v →
    h₁.Records (fun e => e.isHook = false) ((u.copyAt f b v).run.run h₁).2
  /-- A type that makes the duplicate makes the field of the copy. -/
  decidesField : ¬ IsAdopted a v → ∀ hook made w h₂, u.duplicateHook? r = some hook →
    u.decided? v (hook (u.name r) v true) = some made →
    made.run.run ((emit (.hook r (.duplicate true))).run h₁).2 = (.ok w, h₂) →
    ∀ x, ((u.duplicateObject type vs a true).run.run h).1 = .ok x →
      ∃ xs, x.fields? = some xs ∧ xs[i]? = some w
  /-- A type that refuses the duplicate makes the error of the whole. -/
  decidesError : ¬ IsAdopted a v → ∀ hook made fault h₂, u.duplicateHook? r = some hook →
    u.decided? v (hook (u.name r) v true) = some made →
    made.run.run ((emit (.hook r (.duplicate true))).run h₁).2 = (.error fault, h₂) →
    ((u.duplicateObject type vs a true).run.run h).1 =
      .error (u.reported (.object type ws b) f h₂ fault)

/-- The type that is responsible for the value of a marked field is asked when the object is freed,
whatever the value is, and when it is duplicated, unless the value is a buffer and the object has a
tracker. So the two ends agree on whether it is asked if and only if that is not so. Where it is
asked for a duplicate it decides on the field of the copy or on the error. -/
theorem hooks_pair (formed : u.isFormed (.object type vs a) = true) (hl : u.layout? type = some l)
    (holds : u.MarkedAt l vs i f v r) (copying : u.CopiedTo l vs a i h ws b h₁)
    (freeing : u.FreedTo l vs i k k₁) :
    u.HooksPaired type vs a i f v r h ws b h₁ k k₁ ∧
      ((u.freeHook? r).isSome = true → (u.duplicateHook? r).isSome = true →
        ((h₁.Opens ((u.copyAt f b v).run.run h₁).2 (.hook r (.duplicate true)) ↔
            k₁.Opens ((u.freeAt (some f) v).run k₁).2 (.hook r .free)) ↔
          ¬ IsAdopted a v)) := by
  have after := holds.looksAfter formed
  obtain ⟨hf, hv, marked, _, _, responsible⟩ := holds
  have len : vs.length = l.fields.length := by
    obtain ⟨⟨l', hl', len, _⟩, _⟩ := isFormed_object.1 formed
    cases hl.symm.trans hl'
    exact len.symm
  have same : IsAdopted b v ↔ IsAdopted a v := by
    rw [IsAdopted, IsAdopted, copying.tracked]
  have freed : (u.freeHook? r).isSome = true →
      k₁.Opens ((u.freeAt (some f) v).run k₁).2 (.hook r .free) := by
    intro has
    obtain ⟨hook, has⟩ := Option.isSome_iff_exists.1 has
    rw [freeAt_of_responsible marked after.present responsible]
    exact opens_free after has k₁
  have copied : (u.duplicateHook? r).isSome = true →
      (h₁.Opens ((u.copyAt f b v).run.run h₁).2 (.hook r (.duplicate true)) ↔
        ¬ IsAdopted a v) := by
    intro has
    obtain ⟨hook, has⟩ := Option.isSome_iff_exists.1 has
    rw [← same]
    exact opens_copyAt_iff after marked responsible has h₁
  constructor
  · constructor
    case inFreeing => exact freeing.records hl hf hv a
    case inDuplication => exact copying.records hl len hf hv
    case freed => exact freed
    case copied => exact copied
    case adopted => exact fun adopted => quiet_copyAt marked (same.2 adopted) h₁
    case decidesField =>
      intro free hook made w h₂ has decides ran x whole
      have step := run_copyAt_decided after marked responsible (mt same.1 free) has decides ran
      rw [copying.run_duplicateObject hl len hf hv, step] at whole
      obtain ⟨rest, hx⟩ := yields_duplicateFields type true _ _ (ws ++ [w]) b h₂ x whole
      refine ⟨_, hx, ?_⟩
      rw [← copying.length_eq len hv, List.append_assoc, List.singleton_append,
        List.getElem?_append_right (Nat.le_refl _), Nat.sub_self, List.getElem?_cons_zero]
    case decidesError =>
      intro free hook made fault h₂ has decides ran
      have step := run_copyAt_decided after marked responsible (mt same.1 free) has decides ran
      rw [copying.run_duplicateObject hl len hf hv, step]
      exact run_settle_error type f ws b _ fault h₂
  · intro frees copies
    rw [copied copies]
    exact ⟨fun agree => agree.2 (freed frees), fun free => ⟨fun _ => freed frees, fun _ => free⟩⟩

/-- Types with two more: a black box that is kept when it is freed and whose duplicates are null,
and a struct that holds one in a marked field. -/
def withResource (tracked : Bool) : Universe :=
  let resource : Declaration :=
    { name := "Resource"
      shape := .blackBox 8
      behavior := some {
        free := some fun _ => .keep
        duplicate := some fun _ _ _ => .built .null } }
  let holder : Declaration :=
    { name := "Holder", shape := .struct [⟨"data", .typed 19, true, none⟩] none tracked }
  match (builtin.declare {} resource).bind fun (_, u) => u.declare {} holder with
  | some (_, u) => u
  | none => builtin

/-- The field of a holder. -/
def resourceField : Field :=
  { name := "data", index := 0, size := 8, type := some 19, recurse := true }

/-- The layout of a holder. -/
def holderLayout (tracked : Bool) : Layout :=
  { fields := [resourceField], own := 1, base := none, tracked := tracked }

/-- Without a tracker, the resource is asked at both ends. -/
theorem hooks_pair_untracked :
    let u := withResource false
    let l := holderLayout false
    let held : List Value := [.buffer (.to 0)]
    u.isFormed (.object 20 held none) = true ∧
      u.MarkedAt l held 0 resourceField (.buffer (.to 0)) 19 ∧
      ∃ x xs, ((u.duplicateObject 20 held none true).run.run inked).1 = .ok x ∧
        x.fields? = some xs ∧ xs[0]? = some .null := by
  intro u l held
  have formed : u.isFormed (.object 20 held none) = true := rfl
  have layout : u.layout? 20 = some l := rfl
  have holds : u.MarkedAt l held 0 resourceField (.buffer (.to 0)) 19 := by
    refine ⟨rfl, rfl, rfl, rfl, ?_, rfl⟩
    rintro _ ⟨⟩
    rfl
  have copying : u.CopiedTo l held none 0 inked [] none inked := rfl
  have freeing : u.FreedTo l held 0 inked inked := ⟨[], rfl⟩
  have both := (hooks_pair formed layout holds copying freeing).1
  have free : ¬ IsAdopted none (.buffer (.to 0)) := fun adopted => nomatch adopted.1
  obtain ⟨xs, fields, null⟩ := both.decidesField free _ _ .null _ rfl rfl rfl _ rfl
  exact ⟨formed, holds, _, xs, rfl, fields, null⟩

/-- With a tracker, the resource is asked when the holder is freed, and not when it is
duplicated. -/
theorem hooks_unpaired :
    let u := withResource true
    let held : List Value := [.buffer (.to 0)]
    let freed := (u.freeObject (.object 20 held (some {}))).run inked
    let copied := (u.duplicateObject 20 held (some {}) true).run.run inked
    u.isFormed (.object 20 held (some {})) = true ∧
      u.MarkedAt (holderLayout true) held 0 resourceField (.buffer (.to 0)) 19 ∧
      (u.duplicateHook? 19).isSome = true ∧ copied.1.isOk = true ∧
      freed.2.trace.toList.filter (·.isHook) = [.hook 19 .free] ∧
      copied.2.trace.toList.filter (·.isHook) = [] := by
  intro u held freed copied
  refine ⟨rfl, ⟨rfl, rfl, rfl, rfl, ?_, rfl⟩, rfl, rfl, rfl, rfl⟩
  rintro _ ⟨⟩
  rfl

end Universe

end Metaobject
