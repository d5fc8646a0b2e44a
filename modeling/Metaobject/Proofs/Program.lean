import Metaobject.Proofs.Lifecycle.Unseen
import Metaobject.Proofs.Universe.Declared

/-!
# Programs

A program declares types, makes values, and works on the values in its hands, at any depth.
`Program.Move` is everything that it may do with these values, failing calls included, and it has no
other way to get at one. `Program.Step` adds what else there is to do: types are declared, and
trackers are made to do something. So an object that exists anywhere, be it in the field of another
object or as a default instance, is what its type was declared to be:
`Program.reachable_represented`.

The hooks that a program declares may be anything that makes formed values of formed values, which
is what these steps do. They are never asked about other values, so it does not matter what they
would do with them.
-/

namespace Metaobject

/-- The hooks make formed values of formed values, now and when there are more types. -/
def Behavior.Honest (b : Behavior) (u : Universe) : Prop :=
  ∀ u', u.Extends u' → b.Forms u'

/-- What a program has: types, the shapes that they were declared with, and values in its hands. -/
structure Program where
  heap : Heap := {}
  types : Universe := .builtin
  declared : Declared := fun _ => none
  store : List Value := []

namespace Program

/-- A value is there by itself: in the hands of the program, as the default instance of a type, or
in the default check of a field. -/
inductive Holds (p : Program) : Value → Prop where
  | stored {v : Value} : v ∈ p.store → p.Holds v
  | preset {t : TypeId} {v : Value} : (p.types.desc t).canonical = some v → p.Holds v
  | checked {t : TypeId} {s : Universe.Shape} {v : Value} :
    p.declared t = some s → v ∈ s.held → p.Holds v

/-- A value exists, be it inside of another one. -/
def Has (p : Program) (v : Value) : Prop :=
  ∃ w path, p.Holds w ∧ w.at? path = some v

/-- A way to come by a value. -/
inductive Maker where
  /-- Null, a scalar, a handle, a reference, a type. -/
  | plain (v : Value) (other : v.isObject = false)
  | zero (t : TypeId)
  /-- An object, into which the given values go. -/
  | assemble (t : TypeId) (fields : List Value)
  | copy (source : Value)
  | construct (depth : Nat) (t : TypeId) (c : Template)
  /-- Without asking the type, which is not held against the initials either. -/
  | constructStruct (depth : Nat) (t : TypeId) (c : Template)
  | duplicate (t : TypeId) (source : Value) (recursive : Bool)
  /-- Without asking the type. -/
  | duplicateObject (t : TypeId) (fields : List Value) (tracker : Option Tracker)
    (recursive : Bool)

namespace Maker

/-- The values that are used up. -/
def takes : Maker → List Value
  | assemble _ fields => fields
  | _ => []

/-- The values that are looked at. -/
def reads : Maker → List Value
  | copy source | duplicate _ source _ => [source]
  | construct _ _ c | constructStruct _ _ c => c.initials.toList
  | duplicateObject t fields tracker _ => [.object t fields tracker]
  | _ => []

/-- Makes a value of what is taken and looked at. -/
def run (u : Universe) : Maker → Attempt Value
  | plain v _ => return v
  | zero t => return u.zeroOf t
  | assemble t fields =>
    match u.instantiate t fields with
    | .ok v => return v
    | .error e => do
      Value.dropAll fields
      Attempt.refuse e
  | copy source => return source.rawCopy
  | construct depth t c => u.construct depth t c
  | constructStruct depth t c => u.constructStruct (u.construct depth) t c
  | duplicate t source recursive => u.duplicate t recursive source
  | duplicateObject t fields tracker recursive => u.duplicateObject t fields tracker recursive

end Maker

/-- What can be done to a value where it is. -/
inductive Edit where
  | constructAt (depth : Nat) (t : TypeId) (c : Template)
  | writeField (name : String) (v : Value)
  | writeAt (index : Nat) (v : Value)
  | writeBytes (name : String) (bytes : Bytes)
  | free (t : TypeId)
  /-- Without asking the type. -/
  | freeObject
  | duplicateOver (t : TypeId) (source : Value) (recursive : Bool)

namespace Edit

/-- The values that are used up. -/
def takes : Edit → List Value
  | writeField _ v | writeAt _ v => [v]
  | _ => []

/-- The values that are looked at. -/
def reads : Edit → List Value
  | constructAt _ _ c => c.initials.toList
  | duplicateOver _ source _ => [source]
  | _ => []

/-- What is there afterwards. -/
def run (u : Universe) (v : Value) : Edit → Action Value
  | constructAt depth t c => return (← u.constructAt depth t v c).1
  | writeField name w => return (← u.writeField name w v).1
  | writeAt index w => Universe.writeAt index w v
  | writeBytes name bytes => return (← u.writeBytes name bytes v).1
  | free t => return (← u.free t v).1
  | freeObject => return (← u.freeObject v).1
  | duplicateOver t source recursive => return (← u.duplicateOver t v source recursive).1

/-- The edit does not put the value that it takes where it belongs. -/
def refuses (u : Universe) (x : Value) (h : Heap) : Edit → Bool
  | writeField name v => ((u.writeField name v x).run h).1.2.isSome
  | writeAt index _ => (x.fields?.bind (·[index]?)).isNone
  | _ => false

end Edit

/-- What a program may do next with the values in its hands, where it may look at those that are
`known`, and what heap and what values it has then. The buffers are those that this may concern:
those of the value that it is done to, and those of values that come to nothing because they could
not be put together or were refused. -/
inductive Move (u : Universe) (known : Value → Prop) (h : Heap) (store : List Value) :
    List BufferId → Heap → List Value → Prop where
  /-- The values are arranged in another way. -/
  | arrange {vs : List Value} : store.Perm vs → Move u known h store [] h vs
  | drop {v : Value} {rest : List Value} : store = v :: rest →
    Move u known h store v.owned (v.drop.run h).2 rest
  /-- A value is made, or it cannot be made. -/
  | make {m : Maker} {rest : List Value} {r : Except Fault Value} {h' : Heap} :
    store = m.takes ++ rest → (∀ v ∈ m.reads, known v) → (m.run u).run.run h = (r, h') →
    Move u known h store (r.toOption.elim (Value.ownedByAll m.takes) fun _ => []) h'
      (r.toOption.toList ++ rest)
  /-- Something is done to a value at the end of a path. -/
  | edit {e : Edit} {v x y : Value} {path : List Nat} {rest : List Value} {h' : Heap} :
    store = e.takes ++ v :: rest → (∀ v ∈ e.reads, known v) → v.at? path = some x →
    (e.run u x).run h = (y, h') →
    Move u known h store (x.owned ++ if e.refuses u x h then Value.ownedByAll e.takes else []) h'
      (y.putAt path v :: rest)
  /-- A value changes place with the one at the end of a path. -/
  | exchange {v x y : Value} {path : List Nat} {rest : List Value} :
    store = x :: v :: rest → v.at? path = some y →
    Move u known h store [] h (y :: x.putAt path v :: rest)

/-- What a program may do next. -/
inductive Step (p : Program) : Program → Prop where
  /-- Something happens to managers, blocks, buffers, or trackers that stand alone. -/
  | elsewhere (h : Heap) : Step p { p with heap := h }
  /-- The tracker of an object has been made to do something. -/
  | tend {t : Tracker} {v x : Value} {path : List Nat} {rest : List Value} :
    p.store = v :: rest → v.at? path = some x →
    Step p { p with store := (x.withTrackerAt t []).putAt path v :: rest }
  /-- Something is done with the values in its hands. -/
  | move {about : List BufferId} {h : Heap} {vs : List Value} :
    Move p.types p.Has p.heap p.store about h vs → Step p { p with heap := h, store := vs }
  /-- A type is declared. The values of its checks and its default instance go into it. -/
  | declare {c : Universe.Declaration} {t : TypeId} {u : Universe} {rest : List Value} :
    p.store = c.shape.held ++ c.canonical.toList ++ rest →
    p.types.declare p.heap c = some (t, u) → (∀ b, c.behavior = some b → b.Honest u) →
    Step p { p with types := u, declared := p.declared.add t c.shape, store := rest }
  /-- A struct is declared, with field values for its default instance. -/
  | declareStruct {c : Universe.Declaration} {fields : List Value} {t : TypeId} {u : Universe}
    {rest : List Value} :
    p.store = c.shape.held ++ c.canonical.toList ++ (fields ++ rest) →
    p.types.declareStruct p.heap c (some fields) = some (.ok (t, u)) →
    (∀ b, c.behavior = some b → b.Honest u) →
    Step p { p with types := u, declared := p.declared.add t c.shape, store := rest }
  /-- A type without a default instance gets one. -/
  | setCanonical {t : TypeId} {v : Value} {u : Universe} {rest : List Value} :
    p.store = v :: rest → p.types.setCanonical t v = some u →
    Step p { p with types := u, store := rest }

/-- What a program can come to. -/
inductive Reachable : Program → Prop where
  | start : Reachable {}
  | step {p p' : Program} : Reachable p → Step p p' → Reachable p'

/-- Every object in the program is formed, hooks keep it so, and the types are as declared. -/
structure Sound (p : Program) : Prop where
  store : ∀ v ∈ p.store, p.types.isFormed v = true
  defaults : p.types.DefaultsFormed
  checks : ∀ t s, p.declared t = some s → ∀ v ∈ s.held, p.types.isFormed v = true
  hooks : ∀ t b, (p.types.desc t).behavior = some b → b.Honest p.types
  faithful : p.declared.Faithful p.types

variable {p p' : Program}

/-- The hooks of a program make formed values. -/
lemma Sound.hooksForm (sound : p.Sound) : p.types.HooksForm :=
  fun t b hb => sound.hooks t b hb _ (.refl _)

/-- What a program has is formed. -/
lemma Sound.isFormed (sound : p.Sound) {v : Value} (there : p.Has v) :
    p.types.isFormed v = true := by
  obtain ⟨w, path, held, inside⟩ := there
  refine Universe.isFormed_at? ?_ inside
  cases held with
  | stored mem => exact sound.store w mem
  | preset canonical => exact sound.defaults _ w canonical
  | checked shape mem => exact sound.checks _ _ shape w mem

/-- The values that checks compare with were formed when they were declared. -/
lemma Sound.checksFormed (sound : p.Sound) : p.types.ChecksFormed := by
  intro t l hl f hf c hc w hw
  obtain ⟨s, shape, declared, held⟩ := sound.faithful.checked hl hf hc
  exact sound.checks s shape declared w (held w hw)

/-- The values in the hands of the program may be any formed ones. -/
lemma Sound.withStore (sound : p.Sound) (h : Heap) {vs : List Value}
    (store : ∀ v ∈ vs, p.types.isFormed v = true) :
    Sound { p with heap := h, store := vs } :=
  { sound with store }

/-! ### Making and editing values -/

section Values

variable {u : Universe}

/-- A template starts from formed values if its initials are. -/
lemma startsFormed_of_mem {c : Template}
    (formed : ∀ v ∈ c.initials.toList, u.isFormed v = true) : u.StartsFormed c := by
  intro v hv
  obtain ⟨given, _⟩ := Option.filter_eq_some_iff.1 hv
  exact formed v (Option.mem_toList.2 given)

/-- What is made of formed values is formed. -/
lemma Maker.formed (hooks : u.HooksForm) (defaults : u.DefaultsFormed) (m : Maker)
    (takes : ∀ v ∈ m.takes, u.isFormed v = true) (reads : ∀ v ∈ m.reads, u.isFormed v = true) :
    (m.run u).Yields fun v => u.isFormed v = true := by
  cases m with
  | plain v other =>
    refine .pure ?_
    cases v with
    | object => cases other
    | _ => rfl
  | zero t => exact .pure (u.isFormed_zeroOf t)
  | assemble t fields =>
    rw [run]
    split
    · rename_i made
      exact .pure (Universe.isFormed_instantiate takes made)
    · exact .lift fun _ => .refuse
  | copy source => exact .pure (Universe.isFormed_rawCopy source (reads source (.head _)))
  | construct depth t c =>
    exact Universe.formed_construct hooks defaults depth t c (startsFormed_of_mem reads)
  | constructStruct depth t c =>
    exact Universe.formed_constructStruct (Universe.formed_construct hooks defaults depth) defaults
      t (startsFormed_of_mem reads)
  | duplicate t source recursive =>
    exact Universe.formed_duplicate hooks source (reads source (.head _)) t recursive
  | duplicateObject t fields tracker recursive =>
    exact Universe.formed_duplicateObject hooks (reads _ (.head _)) recursive

/-- What was formed is formed after it was edited. -/
lemma Edit.formed (hooks : u.HooksForm) (defaults : u.DefaultsFormed) (e : Edit) {v : Value}
    (takes : ∀ v ∈ e.takes, u.isFormed v = true) (reads : ∀ v ∈ e.reads, u.isFormed v = true)
    (formed : u.isFormed v = true) : (e.run u v).Yields fun w => u.isFormed w = true := by
  cases e with
  | constructAt depth t c =>
    have starts := startsFormed_of_mem reads
    exact .bind (Universe.formed_constructAt hooks defaults depth t formed starts)
      fun r hr => .pure hr
  | writeField name w =>
    exact .bind (Universe.formed_writeField name (takes w (.head _)) formed) fun r hr => .pure hr
  | writeAt index w => exact Universe.formed_writeAt index (takes w (.head _)) formed
  | writeBytes name bytes =>
    exact .bind (Universe.formed_writeBytes name bytes formed) fun r hr => .pure hr
  | free t => exact .bind (Universe.formed_free v formed t) fun r hr => .pure hr
  | freeObject => exact .bind (Universe.formed_freeObject formed) fun r hr => .pure hr
  | duplicateOver t source recursive =>
    have source := reads source (.head _)
    exact .bind (Universe.formed_duplicateOver hooks t formed source recursive)
      fun r hr => .pure hr

/-- As long as a program looks at formed values only, what it has in its hands stays formed. -/
lemma Move.formed (hooks : u.HooksForm) (defaults : u.DefaultsFormed) {known : Value → Prop}
    (looks : ∀ v, known v → u.isFormed v = true) {h h' : Heap} {store vs : List Value}
    {about : List BufferId} (move : Move u known h store about h' vs)
    (all : ∀ v ∈ store, u.isFormed v = true) : ∀ v ∈ vs, u.isFormed v = true := by
  cases move with
  | arrange perm => exact fun v hv => all v (perm.mem_iff.2 hv)
  | drop store =>
    rw [store] at all
    exact (List.forall_mem_cons.1 all).2
  | @make m rest r h' store reads made =>
    rw [store] at all
    obtain ⟨takes, rest⟩ := List.forall_mem_append.1 all
    have formed := m.formed hooks defaults takes (fun v hv => looks v (reads v hv)) h
    rw [made] at formed
    refine List.forall_mem_append.2 ⟨fun v hv => ?_, rest⟩
    rcases r with fault | w
    · cases hv
    · cases List.mem_singleton.1 hv
      exact formed v rfl
  | @edit e v x y path rest h' store reads inside edited =>
    rw [store] at all
    obtain ⟨takes, others⟩ := List.forall_mem_append.1 all
    obtain ⟨first, rest⟩ := List.forall_mem_cons.1 others
    have formed := e.formed hooks defaults takes (fun v hv => looks v (reads v hv))
      (Universe.isFormed_at? first inside) h
    rw [edited] at formed
    exact List.forall_mem_cons.2 ⟨Universe.isFormed_putAt formed path v first, rest⟩
  | @exchange v x y path rest store inside =>
    rw [store] at all
    obtain ⟨second, others⟩ := List.forall_mem_cons.1 all
    obtain ⟨first, rest⟩ := List.forall_mem_cons.1 others
    refine List.forall_mem_cons.2 ⟨Universe.isFormed_at? first inside, ?_⟩
    exact List.forall_mem_cons.2 ⟨Universe.isFormed_putAt second path v first, rest⟩

/-- What is made of formed values does not depend on what hooks do with other ones. -/
lemma Maker.run_eq {u' : Universe} (same : u.AgreesOnFormed u') (hooks : u.HooksForm)
    (defaults : u.DefaultsFormed) (checks : u.ChecksFormed) (m : Maker)
    (reads : ∀ v ∈ m.reads, u.isFormed v = true) : m.run u' = m.run u := by
  cases m with
  | plain v other => rfl
  | zero t => rw [run, run, same.zeroOf]
  | assemble t fields => rw [run, run, same.instantiate]
  | copy source => rfl
  | construct depth t c =>
    exact same.construct_eq hooks defaults checks depth t c (startsFormed_of_mem reads)
  | constructStruct depth t c =>
    exact same.constructStruct (Universe.formed_construct hooks defaults depth) defaults checks
      (same.construct_eq hooks defaults checks depth) t (startsFormed_of_mem reads)
  | duplicate t source recursive =>
    exact same.duplicate_eq hooks source (reads source (.head _)) t recursive
  | duplicateObject t fields tracker recursive =>
    exact same.duplicateObject hooks (reads _ (.head _)) recursive

/-- A formed value is edited alike in types that only differ in how their hooks treat other values.
-/
lemma Edit.run_eq {u' : Universe} (same : u.AgreesOnFormed u') (hooks : u.HooksForm)
    (defaults : u.DefaultsFormed) (checks : u.ChecksFormed) (e : Edit) {v : Value}
    (reads : ∀ v ∈ e.reads, u.isFormed v = true) (formed : u.isFormed v = true) :
    e.run u' v = e.run u v := by
  cases e with
  | constructAt depth t c =>
    have starts := startsFormed_of_mem reads
    rw [run, run, same.constructAt hooks defaults checks depth t v starts]
  | writeField name w => rw [run, run, same.writeField]
  | writeAt index w => rfl
  | writeBytes name bytes => rw [run, run, same.writeBytes]
  | free t => rw [run, run, same.free_eq v formed]
  | freeObject =>
    cases v with
    | object t vs a => rw [run, run, same.freeObject t a (Universe.isFormed_object.1 formed).2]
    | _ => rfl
  | duplicateOver t source recursive =>
    have source := reads source (.head _)
    rw [run, run, same.duplicateOver hooks t formed source recursive]

end Values

/-! ### Declaring types -/

/-- A type that is declared takes its default instance and its checks with it. -/
lemma Sound.declare (sound : p.Sound) {c : Universe.Declaration} {t : TypeId} {u : Universe}
    (made : p.types.declare p.heap c = some (t, u))
    (given : ∀ v ∈ c.shape.held ++ c.canonical.toList, p.types.isFormed v = true)
    (honest : ∀ b, c.behavior = some b → b.Honest u) {vs : List Value}
    (store : ∀ v ∈ vs, p.types.isFormed v = true) :
    Sound { p with types := u, declared := p.declared.add t c.shape, store := vs } := by
  have more := Universe.extends_declare made
  have faithful := sound.faithful.declare made
  obtain ⟨rfl, _, desc⟩ := Universe.declare_eq made
  refine ⟨fun v hv => more.isFormed v (store v hv), fun s v hv => ?_, fun s shape hs v hv => ?_,
    fun s b hb => ?_, faithful⟩
  · rw [desc] at hv
    split at hv
    · exact more.isFormed v (given v (List.mem_append_right _ (Option.mem_toList.2 hv)))
    · exact more.isFormed v (sound.defaults s v hv)
  · change p.declared.add p.types.size c.shape s = some shape at hs
    rw [Declared.add] at hs
    split at hs
    · cases hs
      exact more.isFormed v (given v (List.mem_append_left _ hv))
    · exact more.isFormed v (sound.checks s shape hs v hv)
  · rw [desc] at hb
    split at hb
    · exact honest b hb
    · exact fun u' later => sound.hooks s b hb u' (more.trans later)

/-- A formed default leaves the program sound. -/
lemma Sound.setCanonical (sound : p.Sound) {t : TypeId} {v : Value} {u : Universe}
    (set : p.types.setCanonical t v = some u) (given : p.types.isFormed v = true)
    {vs : List Value} (store : ∀ v ∈ vs, p.types.isFormed v = true) :
    Sound { p with types := u, store := vs } := by
  have more := Universe.extends_setCanonical set
  refine ⟨fun v hv => more.isFormed v (store v hv), fun s w hw => ?_, fun s shape hs w hw => ?_,
    fun s b hb => ?_, sound.faithful.setCanonical set⟩
  · rcases (Universe.setCanonical_eq set s).2.2 w hw with rfl | old
    · exact more.isFormed w given
    · exact more.isFormed w (sound.defaults s w old)
  · exact more.isFormed w (sound.checks s shape hs w hw)
  · rw [(Universe.setCanonical_eq set s).2.1] at hb
    exact fun u' later => sound.hooks s b hb u' (more.trans later)

/-- A struct that is declared with a default instance is declared, and then gets it. -/
lemma declareStruct_eq {u u'' : Universe} {h : Heap} {c : Universe.Declaration}
    {fields : List Value} {t : TypeId}
    (made : u.declareStruct h c (some fields) = some (.ok (t, u''))) :
    ∃ u' v, u.declare h c = some (t, u') ∧ u'.instantiate t fields = .ok v ∧
      u'.setCanonical t v = some u'' := by
  obtain ⟨⟨s, u'⟩, declared, made⟩ := Option.bind_eq_some_iff.1 made
  dsimp only at made
  split at made
  · rename_i v instance'
    obtain ⟨u₂, set, eq⟩ := Option.map_eq_some_iff.1 made
    cases eq
    exact ⟨u', v, declared, instance', set⟩
  · cases made

/-- So does a struct that is declared with the values of its default. -/
lemma Sound.declareStruct (sound : p.Sound) {c : Universe.Declaration} {fields : List Value}
    {t : TypeId} {u : Universe}
    (made : p.types.declareStruct p.heap c (some fields) = some (.ok (t, u)))
    (given : ∀ v ∈ c.shape.held ++ c.canonical.toList, p.types.isFormed v = true)
    (honest : ∀ b, c.behavior = some b → b.Honest u)
    (values : ∀ v ∈ fields, p.types.isFormed v = true) {vs : List Value}
    (store : ∀ v ∈ vs, p.types.isFormed v = true) :
    Sound { p with types := u, declared := p.declared.add t c.shape, store := vs } := by
  obtain ⟨u', v, declared, made, set⟩ := declareStruct_eq made
  -- a canonical instance makes no difference to the layouts, so the hooks were honest before
  have back : u.Extends u' := fun s l hl => by rwa [Universe.layout?_setCanonical set] at hl
  have before : ∀ b, c.behavior = some b → b.Honest u' :=
    fun b hb w later => honest b hb w (fun s l hl => later s l (back s l hl))
  have more := Universe.extends_declare declared
  have sound' := sound.declare declared given before store
  have formed := Universe.isFormed_instantiate (fun w hw => more.isFormed w (values w hw)) made
  exact sound'.setCanonical set formed sound'.store

/-! ### Steps and runs -/

/-- Whatever a program does next, it stays sound. -/
lemma Step.sound (step : Step p p') (sound : p.Sound) : p'.Sound := by
  cases step with
  | elsewhere h => exact sound.withStore h sound.store
  | @tend t v x path rest store inside =>
    have all := sound.store
    rw [store] at all
    obtain ⟨first, rest⟩ := List.forall_mem_cons.1 all
    have tended := Universe.isFormed_withTrackerAt t [] x (Universe.isFormed_at? first inside)
    exact sound.withStore p.heap
      (List.forall_mem_cons.2 ⟨Universe.isFormed_putAt tended path v first, rest⟩)
  | move moved =>
    exact sound.withStore _ (moved.formed sound.hooksForm sound.defaults
      (fun v there => sound.isFormed there) sound.store)
  | declare store made honest =>
    have all := sound.store
    rw [store] at all
    obtain ⟨given, rest⟩ := List.forall_mem_append.1 all
    exact sound.declare made given honest rest
  | declareStruct store made honest =>
    have all := sound.store
    rw [store] at all
    obtain ⟨given, others⟩ := List.forall_mem_append.1 all
    obtain ⟨values, rest⟩ := List.forall_mem_append.1 others
    exact sound.declareStruct made given honest values rest
  | setCanonical store set =>
    have all := sound.store
    rw [store] at all
    obtain ⟨given, rest⟩ := List.forall_mem_cons.1 all
    exact sound.setCanonical set given rest

/-- In the beginning there are only types, and none of them has objects. -/
lemma sound_start : Sound {} where
  store _ hv := absurd hv List.not_mem_nil
  defaults t v hv := by
    rcases Universe.zero_of_canonical_builtin hv with ⟨k, _, rfl⟩ | ⟨k, _, rfl⟩
    · rfl
    · rfl
  checks _ _ hs := nomatch hs
  hooks t b hb := by
    rw [Universe.builtin_hookFree t] at hb
    cases hb
  faithful := Declared.faithful_builtin

/-- What can be reached is sound, by induction on the steps. -/
lemma Reachable.sound (reached : Reachable p) : p.Sound := by
  induction reached with
  | start => exact sound_start
  | step _ step sound => exact step.sound sound

/-! ### What objects are -/

/-- What holds of the objects of a program. -/
structure Represented (p : Program) : Prop where
  /-- An object has one value for each field that was declared along the chain of bases of its type,
  and it has a tracker if and only if one was declared there. -/
  object : ∀ t vs a, p.Has (.object t vs a) → ∃ l fs, p.types.layout? t = some l ∧
    p.declared.Fields t fs ∧ List.Forall₂ Field.As l.fields fs ∧ vs.length = fs.length ∧
      (a.isSome = true ↔ p.declared.Tracked t)
  /-- The number of its values never keeps an object from being duplicated. -/
  duplicated : ∀ t vs a recursive h n k, p.Has (.object t vs a) →
    ((p.types.duplicateObject t vs a recursive).run.run h).1 ≠ .error (.refused (.fieldCount n k))
  /-- It never keeps initials of the type from being used, but there may be a default instance of
  another type. -/
  constructed : ∀ depth t c h n k,
    (∀ v, c.initials? = some v → p.Has v ∧ p.types.isExact t v = true) →
    ((p.types.constructStruct (p.types.construct depth) t c).run.run h).1 =
      .error (.refused (.fieldCount n k)) → p.types.Misfit t k
  /-- Other initials are not used, unless a hook has it that way. -/
  initialized : ∀ depth t c h n k, (∀ v, c.initials? = some v → p.Has v) →
    ((p.types.construct depth t c).run.run h).1 = .error (.refused (.fieldCount n k)) →
      p.types.HookRefuses t c (.fieldCount n k) ∨ p.types.Misfit t k
  /-- Objects of one type have equally many values, so their comparison is decided by a pair of
  values or they are equal. -/
  compared : ∀ t xs ys a b h, p.Has (.object t xs a) → p.Has (.object t ys b) →
    xs.length = ys.length ∧ ∃ l, p.types.layout? t = some l ∧
      p.types.compare h (.object t xs a) (.object t ys b) =
        ((p.types.pairVerdicts h l.fields xs ys).find? (· ≠ .equal)).getD .equal
  /-- No hook gets to see an object that is only built in part: what is done does not depend on the
  answers of hooks about values that are not formed. -/
  unseen : ∀ u', p.types.AgreesOnFormed u' →
    (∀ m : Maker, (∀ v ∈ m.reads, p.Has v) → m.run u' = m.run p.types) ∧
      ∀ (e : Edit) v, (∀ w ∈ e.reads, p.Has w) → p.Has v → e.run u' v = e.run p.types v

/-- Whatever a program has done, its objects are what their types were declared to be. -/
theorem reachable_represented (reached : Reachable p) : p.Represented where
  object t vs a there := by
    obtain ⟨⟨l, hl, len, tracked⟩, _⟩ := Universe.isFormed_object.1 (reached.sound.isFormed there)
    obtain ⟨fs, declared, same⟩ := reached.sound.faithful.fields hl
    refine ⟨l, fs, hl, declared, same, len.symm.trans same.length_eq, ?_⟩
    rw [← tracked]
    exact reached.sound.faithful.tracked_iff hl
  duplicated t vs a recursive h n k there refused := by
    have formed := reached.sound.isFormed there
    obtain ⟨i, name, e, eq⟩ :=
      Universe.duplicateObject_refuses formed recursive h (.fieldCount n k) refused
    cases eq
  constructed depth t c h n k starts refused :=
    Universe.constructStruct_refuses reached.sound.defaults t
      (fun v hv => reached.sound.isFormed (starts v hv).1) (fun v hv => (starts v hv).2) h _ refused
      n k rfl
  initialized depth t c h n k starts refused :=
    Universe.construct_refuses reached.sound.defaults depth t
      (fun v hv => reached.sound.isFormed (starts v hv)) h _ refused n k rfl
  compared t xs ys a b h first second := by
    have formed := reached.sound.isFormed first
    have formed' := reached.sound.isFormed second
    exact ⟨Universe.length_eq_of_isFormed formed formed',
      Universe.compare_of_isFormed h formed formed'⟩
  unseen u' same := by
    have sound := reached.sound
    have hooks := sound.hooksForm
    constructor
    · intro m reads
      exact m.run_eq same hooks sound.defaults sound.checksFormed fun v hv =>
        sound.isFormed (reads v hv)
    · intro e v reads there
      exact e.run_eq same hooks sound.defaults sound.checksFormed
        (fun w hw => sound.isFormed (reads w hw)) (sound.isFormed there)

/-! ### A program -/

/-- A tracked struct with one field. -/
def base : Universe.Declaration where
  name := "Base"
  shape := .struct [⟨"id", .typed 0, false, none⟩] none true

/-- A struct with one more field. Its hooks construct it by its layout and duplicate it raw. -/
def derived : Universe.Declaration where
  name := "Derived"
  shape := .struct [⟨"extra", .typed 0, false, none⟩] (some 19) false
  behavior := some {
    construct := some fun _ _ => .byLayout, duplicate := some fun _ v _ => .built v.rawCopy }

/-- The hooks of the derived struct make formed values, in all types that there may be later. -/
lemma honest_derived (u : Universe) : ∀ b, derived.behavior = some b → b.Honest u := by
  intro b hb u' _
  cases hb
  constructor
  · intro hook hhook name c v _ made
    cases hhook
    cases made
  · intro hook hhook name v recursive w formed made
    cases hhook
    cases made
    exact Universe.isFormed_rawCopy v formed

/-- The program with one more type, if that can be declared. -/
def withType (p : Program) (c : Universe.Declaration) : Program :=
  match p.types.declare p.heap c with
  | some (t, u) => { p with types := u, declared := p.declared.add t c.shape }
  | none => p

/-- A type that takes no values with it can be declared at any time. -/
lemma Reachable.withType (reached : Reachable p) {c : Universe.Declaration}
    (free : c.shape.held ++ c.canonical.toList = [])
    (honest : ∀ u b, c.behavior = some b → b.Honest u) : Reachable (p.withType c) := by
  rw [Program.withType]
  split
  · rename_i t u made
    exact reached.step (.declare (by rw [free, List.nil_append]) made (honest u))
  · exact reached

/-- The program with one more value, if that can be made. -/
def withMade (p : Program) (m : Maker) : Program :=
  let (r, h) := (m.run p.types).run.run p.heap
  { p with heap := h, store := r.toOption.toList ++ p.store }

/-- A value that is made of nothing can be made at any time. -/
lemma Reachable.withMade (reached : Reachable p) {m : Maker} (takes : m.takes = [])
    (reads : m.reads = []) : Reachable (p.withMade m) := by
  refine reached.step (.move (.make (m := m) ?_ ?_ rfl))
  · rw [takes, List.nil_append]
  · rw [reads]
    exact fun v hv => absurd hv List.not_mem_nil

/-- Both structs are declared, and an object of each of them is constructed. -/
def family : Program :=
  (((withType {} base).withType derived).withMade (.construct 1 19 {})).withMade
    (.construct 1 20 {})

/-- The family can be reached. -/
lemma reachable_family : Reachable family := by
  have declared := (Reachable.start.withType (c := base) rfl (fun _ _ hb => nomatch hb)).withType
    (c := derived) rfl honest_derived
  exact (declared.withMade (m := .construct 1 19 {}) rfl rfl).withMade
    (m := .construct 1 20 {}) rfl rfl

/-- The tracker of an object that was just constructed. -/
def unused : Tracker where
  manager := some .system
  onHeap := true

/-- It has an object of each struct, made field by field. -/
lemma store_family : family.store =
    [.object 20 [.scalar (.bool false), .scalar (.bool false)] (some unused),
      .object 19 [.scalar (.bool false)] (some unused)] := rfl

/-- The derived struct was not declared with a tracker itself, but its objects have one. -/
theorem reachable_represented_family : Reachable family ∧
    family.Has (.object 20 [.scalar (.bool false), .scalar (.bool false)] (some unused)) ∧
      family.declared.Tracked 20 := by
  have there : family.Has
      (.object 20 [.scalar (.bool false), .scalar (.bool false)] (some unused)) :=
    ⟨_, [], .stored (by rw [store_family]; exact .head _), rfl⟩
  obtain ⟨_, _, _, _, _, _, tracked⟩ :=
    (reachable_represented reachable_family).object _ _ _ there
  exact ⟨reachable_family, there, tracked.1 rfl⟩

/-- Only its own type keeps a construction from using initials of another type: without being asked
it counts the values of a base and finds them too few. -/
theorem constructStruct_refuses_base : ∃ v, Reachable family ∧ family.Has v ∧
    (family.types.desc 20).canonical = none ∧
    ((family.types.constructStruct (family.types.construct 1) 20
      { initials := some v }).run.run family.heap).1 = .error (.refused (.fieldCount 2 1)) := by
  refine ⟨.object 19 [.scalar (.bool false)] (some unused), reachable_family, ?_, rfl, rfl⟩
  exact ⟨_, [], .stored (by rw [store_family]; exact .tail _ (.head _)), rfl⟩

end Program

end Metaobject
