import Metaobject.Proofs.Lifecycle.Abandonment
import Metaobject.Proofs.Lifecycle.Permanence
import Metaobject.Proofs.Lifecycle.Twin

/-!
# Accounting for copies

An operation that has some buffers to copy is accounted for by them: it succeeds if no transfer gets
stuck, and otherwise it reports the one that is the first to get stuck, under the path to it.
`Universe.accounted_duplicate` says that a duplication is accounted for by the buffers that
`Universe.transfersOf` lists, and that it makes the twin of its source.
-/

namespace Metaobject

open Metaobject.Action Attempt

/-- How an operation ends that starts at `h` and has the buffers of `ts` to copy. What it made is
`good`; where it failed, exactly the transfers before the one that got stuck have made a cell. -/
structure Accounted {α : Type} (h : Heap) (ts : List Transfer) (good : α → Prop)
    (r : Except Fault α × Heap) : Prop where
  served : Transfer.firstStuck ts h = none → ∃ x, r = (.ok x, Transfer.afterAll ts h) ∧ good x
  denied : ∀ s, Transfer.firstStuck ts h = some s →
    r.1 = .error (.refused (s.cause.along s.transfer.path)) ∧
      r.2.due? = (Transfer.afterAll s.before h).due?

namespace Accounted

variable {α β : Type} {h : Heap} {ts : List Transfer} {good good' : α → Prop}

/-- Nothing is to be copied. -/
lemma done {x : α} (hx : good x) : Accounted h [] good (.ok x, h) := by
  refine ⟨fun _ => ⟨x, rfl, hx⟩, fun s stuck => ?_⟩
  cases stuck

lemma weaken {r : Except Fault α × Heap} (accounted : Accounted h ts good r)
    (more : ∀ x, good x → good' x) : Accounted h ts good' r := by
  refine ⟨fun clear => ?_, accounted.denied⟩
  obtain ⟨x, rfl, hx⟩ := accounted.served clear
  exact ⟨x, rfl, more x hx⟩

lemma map {a : Attempt α} {f : α → β} {got : β → Prop}
    (accounted : Accounted h ts good (a.run.run h)) (made : ∀ x, good x → got (f x)) :
    Accounted h ts got ((do return f (← a) : Attempt β).run.run h) := by
  rw [ExceptT.run_bind, StateT.run_bind]
  constructor
  · intro clear
    obtain ⟨x, ran, hx⟩ := accounted.served clear
    rw [ran]
    exact ⟨f x, rfl, made x hx⟩
  · intro s stuck
    obtain ⟨error, due⟩ := accounted.denied s stuck
    rcases ran : a.run.run h with ⟨fault | x, h'⟩
    · rw [ran] at error due
      cases error
      exact ⟨rfl, due⟩
    · rw [ran] at error
      cases error

end Accounted

/-- A buffer is adopted by one transfer. -/
lemma Tracker.accounted_adopt {t : Tracker} (idle : t.setup = none) (ref : Handle) (h : Heap) :
    Accounted h [t.transfer ref]
      (· = (Value.buffer (.to h.cells.size), t.push h.cells.size)) ((t.adopt ref).run.run h) := by
  obtain ⟨granted, denied⟩ := run_adopt idle ref h
  constructor
  · intro clear
    obtain ⟨clear, _⟩ := Transfer.firstStuck_cons_eq_none.1 clear
    exact ⟨_, granted clear, rfl⟩
  · intro s stuck
    rw [Transfer.firstStuck] at stuck
    cases first : (t.transfer ref).stuck? h with
    | none =>
      rw [first] at stuck
      cases stuck
    | some cause =>
      rw [first] at stuck
      cases stuck
      obtain ⟨h', ran, due⟩ := denied cause first
      rw [ran]
      exact ⟨rfl, due⟩

namespace Universe

variable {u : Universe}

/-! ### Field by field -/

/-- A field that could not be built is reported under its index and its name. -/
lemma run_settle_reported {type : TypeId} {l : Layout} (hl : u.layout? type = some l)
    {built : List Value} (able : u.areFreeable l.fields built = true) (f : Field)
    (a : Option Tracker) {note : Action Unit} (keeps : note.KeepsDue)
    (next : List Value → Option Tracker → Attempt Value) (e : BuildError) (h : Heap) :
    ((u.settle type f built a note next (.error (.refused e))).run.run h).1 =
        .error (.refused (.field f.index f.name e)) ∧
      ((u.settle type f built a note next (.error (.refused e))).run.run h).2.due? = h.due? := by
  rw [settle, run_lift, run_lift, abandon_none hl able a]
  exact ⟨rfl, (u.keepsDue_abandon (.object type built a) _).trans (keeps h)⟩

/-- An object is accounted for by its fields, one after the other: those of the field that comes
next, and those of the rest. -/
lemma accounted_settle {type : TypeId} {l : Layout} (hl : u.layout? type = some l)
    {built : List Value} (able : u.areFreeable l.fields built = true) {f : Field}
    {a : Option Tracker} {note : Action Unit} (keeps : note.KeepsDue)
    {next : List Value → Option Tracker → Attempt Value} {h : Heap} {ts us : List Transfer}
    {got : Value × Option Tracker → Prop} {good : Value → Prop}
    {r : Except Fault (Value × Option Tracker) × Heap} (first : Accounted h ts got r)
    (rest : Transfer.firstStuck ts h = none → ∀ v a', got (v, a') →
      Accounted (Transfer.afterAll ts h) us good
        ((next (built ++ [v]) a').run.run (Transfer.afterAll ts h))) :
    Accounted h (ts.map (·.under f) ++ us) good
      ((u.settle type f built a note next r.1).run.run r.2) := by
  have split : Transfer.firstStuck (ts.map (·.under f) ++ us) h =
      ((Transfer.firstStuck ts h).map (·.under f)).or
        ((Transfer.firstStuck us (Transfer.afterAll ts h)).map fun s =>
          { s with before := ts.map (·.under f) ++ s.before }) := by
    rw [Transfer.firstStuck_append, Transfer.firstStuck_map_under, Transfer.afterAll_map_under]
  cases stuck : Transfer.firstStuck ts h with
  | none =>
    obtain ⟨⟨v, a'⟩, rfl, made⟩ := first.served stuck
    have rest := rest stuck v a' made
    rw [stuck, Option.map_none, Option.none_or] at split
    constructor
    · intro clear
      rw [split, Option.map_eq_none_iff] at clear
      rw [Transfer.afterAll_append, Transfer.afterAll_map_under]
      exact rest.served clear
    · intro s hs
      rw [split] at hs
      obtain ⟨later, stuck, rfl⟩ := Option.map_eq_some_iff.1 hs
      rw [Transfer.afterAll_append, Transfer.afterAll_map_under]
      exact rest.denied later stuck
  | some s =>
    obtain ⟨error, due⟩ := first.denied s stuck
    rw [stuck, Option.map_some, Option.some_or] at split
    obtain ⟨reported, kept⟩ :=
      run_settle_reported hl able f a keeps next (s.cause.along s.transfer.path) r.2
    refine ⟨fun clear => ?_, fun s' hs' => ?_⟩
    · cases split.symm.trans clear
    · cases split.symm.trans hs'
      rw [error]
      refine ⟨reported, kept.trans (due.trans ?_)⟩
      show _ = (Transfer.afterAll (s.before.map (·.under f)) h).due?
      rw [Transfer.afterAll_map_under]

/-! ### Duplication -/

/-- The duplication of a value makes its twin. -/
def Twins (u : Universe) (recursive : Bool) (v : Value) (duplicate : TypeId → Attempt Value) :
    Prop :=
  ∀ t, u.accepts t v = true → (v.isObject = false → u.isSilent t = true) → ∀ h,
    Accounted h (u.transfersOf recursive v) (· = u.twin recursive h.cells.size v)
      ((duplicate t).run.run h)

/-- What is no object has nothing inside that would have to be copied. -/
lemma transfersOf_plain {v : Value} (plain : v.isObject = false) (recursive : Bool) :
    u.transfersOf recursive v = [] := by
  cases v with
  | object => cases plain
  | _ => simp only [transfersOf]

/-- What is no object is duplicated to itself. -/
lemma twins_duplicatePlain {v : Value} (plain : v.isObject = false) (recursive : Bool) :
    u.Twins recursive v fun t => u.duplicatePlain t recursive v := by
  intro t accepted silent h
  have same : v.rawCopy = v := by
    cases v with
    | object => cases plain
    | _ => rfl
  dsimp only
  rw [duplicatePlain, if_pos accepted, consultDuplicate_of_isSilent (silent plain),
    transfersOf_plain plain, twin_plain plain]
  exact .done same

/-- What is not a buffer of an object with a tracker is duplicated through its own type, or through
the declared one. -/
lemma accounted_duplicateDeep {f : Field} {v : Value} (fits : u.Fits f v)
    (silent : ∀ s, f.type = some s → u.isSilent s = true) {duplicate : TypeId → Attempt Value}
    (twins : u.Twins true v duplicate) {a : Option Tracker} (other : v.handle? = none ∨ a = none)
    (h : Heap) :
    Accounted h (u.transfersOf true v) (· = (u.twin true h.cells.size v, a))
      ((duplicateInto duplicate true f.type a v).run.run h) := by
  have through : ∀ t, u.accepts t v = true → (v.isObject = false → u.isSilent t = true) →
      Accounted h (u.transfersOf true v) (· = (u.twin true h.cells.size v, a))
        ((do return (← duplicate t, a) : Attempt (Value × Option Tracker)).run.run h) := by
    intro t accepted silent
    refine (twins t accepted silent h).map ?_
    rintro _ rfl
    rfl
  have plain : v.isObject = false → Accounted h (u.transfersOf true v)
      (· = (u.twin true h.cells.size v, a))
        ((f.type.elim (return (v.rawCopy, a)) fun t => do return (← duplicate t, a) :
          Attempt (Value × Option Tracker)).run.run h) := by
    intro plain
    cases ht : f.type with
    | none =>
      rw [transfersOf_plain plain, twin_plain plain]
      refine .done (congrArg (·, a) ?_)
      cases v with
      | object => cases plain
      | _ => rfl
    | some t => exact through t (fits.accepted t ht) fun _ => silent t ht
  unfold duplicateInto
  rw [if_pos rfl]
  cases v with
  | object own vs tr =>
    obtain ⟨l, hl, _⟩ := isSound_object.1 fits.sound
    exact through own (accepts_self hl vs tr) nofun
  | null =>
    rw [transfersOf_plain rfl, twin_plain rfl]
    exact .done rfl
  | buffer ref =>
    obtain rfl := other.resolve_left nofun
    have made := plain rfl
    revert made
    cases f.type <;> exact id
  | _ =>
    have made := plain rfl
    revert made
    cases f.type <;> exact id

/-- What a field of a duplicate comes to, if a duplication of its value makes a twin. -/
lemma accounted_duplicateInto {f : Field} {v : Value} (fits : u.Fits f v)
    (silent : ∀ s, f.type = some s → u.isSilent s = true) {duplicate : TypeId → Attempt Value}
    (twins : u.Twins true v duplicate) (recursive : Bool) {a : Option Tracker} (idle : Idle a)
    (h : Heap) :
    Accounted h (u.transfersAt recursive (a.map (·.manager)) f v)
      (· = (u.twinAt recursive (a.map (·.manager)) h.cells.size f v, a.map fun t =>
        (listedAt recursive (a.map (·.manager)) h.cells.size f v).foldl Tracker.push t))
      ((duplicateInto duplicate (recursive && f.recurse) f.type a v).run.run h) := by
  rcases u.twinAt_cases recursive (a.map (·.manager)) h.cells.size f v with
    ⟨flat, copy, transfers, listed⟩ | ⟨deep, other, copy, transfers, listed⟩ |
      ⟨deep, ref, m, rfl, tracked, copy, transfers, listed⟩
  · rw [copy, transfers, listed, flat]
    refine .done ?_
    simp only [List.foldl_nil, Option.map_id']
  · rw [copy, transfers, listed, deep]
    simp only [List.foldl_nil, Option.map_id']
    exact accounted_duplicateDeep fits silent twins (other.imp_right Option.map_eq_none_iff.1) h
  · obtain ⟨t, rfl, rfl⟩ := Option.map_eq_some_iff.1 tracked
    rw [copy, transfers, listed, deep]
    refine (Tracker.accounted_adopt (idle t rfl) ref h).map ?_
    rintro _ rfl
    rfl

mutual

/-- A duplication is accounted for by the buffers that it has to copy, and makes the twin of its
source. -/
lemma twins_duplicate : (v : Value) → u.isSound v = true → u.isHookless v = true →
    ∀ recursive, u.Twins recursive v fun t => u.duplicate t recursive v
  | .object s vs a, sound, hookless, recursive, t, accepted, _, h => by
    obtain ⟨l, hl, held⟩ := isSound_object.1 sound
    obtain ⟨silent, types, inside⟩ := (isHookless_object hl).1 hookless
    have fields : u.fieldsFor s vs = .ok l.fields := by
      rw [fieldsFor, hl]
      exact if_pos held.length_eq.symm
    dsimp only
    rw [duplicate, if_pos accepted, consultDuplicate_of_isSilent silent, liftM_pure, pure_bind]
    dsimp only
    rw [fields, transfersOf, hl, Option.elim_some]
    dsimp only
    have all := accounted_duplicateFields vs hl recursive [] l.fields []
      (a.map fun tr => { manager := tr.manager }) rfl held types inside .nil (idle_fresh a) h
    have managers : (a.map fun tr => ({ manager := tr.manager } : Tracker)).map (·.manager) =
        a.map (·.manager) := Option.map_map ..
    rw [managers] at all
    refine all.weaken ?_
    rintro _ rfl
    rw [twin, hl, List.nil_append, Option.map_map]
    cases a <;> rfl
  | .null, _, _, recursive, t, accepted, silent, h | .scalar _, _, _, recursive, t, accepted, silent, h
  | .buffer _, _, _, recursive, t, accepted, silent, h
  | .reference _ _, _, _, recursive, t, accepted, silent, h
  | .descriptor _, _, _, recursive, t, accepted, silent, h => by
    simp only [duplicate]
    exact twins_duplicatePlain rfl recursive t accepted silent h

/-- The same for the fields of an object, from whichever field on. -/
lemma accounted_duplicateFields : (vs : List Value) → ∀ {type : TypeId} {l : Layout},
    u.layout? type = some l → ∀ (recursive : Bool) (done fs : List Field) (built : List Value)
      (a : Option Tracker), l.fields = done ++ fs → List.Forall₂ u.Fits fs vs →
      (∀ f ∈ fs, ∀ s, f.type = some s → u.isSilent s = true) → u.areHookless vs = true →
      List.Forall₂ u.Clears done built → Idle a → ∀ h,
      Accounted h (u.fieldTransfers recursive (a.map (·.manager)) fs vs)
        (· = finish type (built ++ u.twins recursive (a.map (·.manager)) h.cells.size fs vs)
          (a.map fun t => (u.listedFor recursive (a.map (·.manager)) h.cells.size fs vs).foldl
            Tracker.push t))
        ((u.duplicateFields type recursive fs built a vs).run.run h)
  | [], type, l, hl, recursive, done, fs, built, a, split, held, types, hookless, clear, idle, h => by
    cases held
    rw [duplicateFields, fieldTransfers]
    refine .done ?_
    rw [twins, listedFor, List.append_nil]
    · simp only [List.foldl_nil, Option.map_id']
    · exact nofun
  | v :: vs, type, l, hl, recursive, done, fs, built, a, split, held, types, hookless, clear, idle,
    h => by
    cases held with
    | @cons f _ fs _ fits rest =>
      obtain ⟨first, others⟩ := areHookless_cons.1 hookless
      obtain ⟨silent, types⟩ := List.forall_mem_cons.1 types
      have able : u.areFreeable l.fields built = true := by
        rw [split]
        exact areFreeable_append clear (f :: fs)
      have made := accounted_duplicateInto fits silent (twins_duplicate v fits.sound first true)
        recursive idle h
      rw [duplicateFields, run_outcome, fieldTransfers_cons]
      refine accounted_settle hl able (.pure ()) made ?_
      rintro served w a' ⟨⟩
      have sourceAble := isFreeable_of_isSound v fits.sound (leavesFreeing_of_isHookless v first)
      have clears : u.Clears f (u.twinAt recursive (a.map (·.manager)) h.cells.size f v) :=
        Clears.alike ⟨fun t ht => fits.freedThrough ht, sourceAble⟩
          (u.alike_twinAt recursive _ _ f v)
          (isFreeable_twinAt sourceAble (isFreeable_twin v sourceAble true) recursive _ _ f)
      have managers : (a.map fun t => (listedAt recursive (a.map (·.manager)) h.cells.size f v).foldl
          Tracker.push t).map (·.manager) = a.map (·.manager) := by
        rw [Option.map_map]
        exact congrArg (a.map ·) (funext fun t => Tracker.manager_foldl_push _ t)
      have stillIdle : Idle (a.map fun t =>
          (listedAt recursive (a.map (·.manager)) h.cells.size f v).foldl Tracker.push t) := by
        intro _ pushed
        obtain ⟨t, ht, rfl⟩ := Option.map_eq_some_iff.1 pushed
        rw [Tracker.setup_foldl_push]
        exact idle t ht
      have all := accounted_duplicateFields vs hl recursive (done ++ [f]) fs
        (built ++ [u.twinAt recursive (a.map (·.manager)) h.cells.size f v]) _
        (by rw [split, List.append_cons done f fs]) rest types others
        (List.rel_append clear (.cons clears .nil)) stillIdle
        (Transfer.afterAll (u.transfersAt recursive (a.map (·.manager)) f v) h)
      rw [managers, Transfer.size_afterAll served] at all
      refine all.weaken ?_
      rintro _ rfl
      rw [twins_cons, listedFor, Option.map_map, List.append_assoc, List.singleton_append]
      exact congrArg (finish type _ <| a.map ·)
        (funext fun t => (List.foldl_append ..).symm)

end

/-- A duplication of a well-typed value without hooks is accounted for by the buffers that it has to
copy, and makes the twin of the value. -/
lemma accounted_duplicate {t : TypeId} {v : Value} (hookless : u.isHookless v = true)
    (silent : v.isObject = false → u.isSilent t = true) (typed : u.isWellTyped t v = true)
    (recursive : Bool) (h : Heap) :
    Accounted h (u.transfersOf recursive v) (· = u.twin recursive h.cells.size v)
      ((u.duplicate t recursive v).run.run h) := by
  obtain ⟨accepted, sound⟩ := isWellTyped_iff.1 typed
  exact twins_duplicate v sound hookless recursive t accepted silent h

end Universe

end Metaobject
