import Metaobject.Proofs.Lifecycle.Assignment
import Metaobject.Proofs.Lifecycle.Failure
import Metaobject.Proofs.Lifecycle.Ownership
import Metaobject.Proofs.Universe.Subtyping

/-!
# Building in place

A value can be built where it is to stay: in a place that is empty, or over a value that is there
already. Either it is built completely and then takes the place, or the place keeps what it has. The
old value, the new one and whatever was built in vain have buffers of their own at the same time, so
the proofs follow one buffer: nothing happens to one that nobody holds (`Unheld.custody`), and one
that its holder gives up is owned no more (`Listed.custody`). `Universe.inPlace_atomic` puts this
together and says what freeing comes to later on: an object stays in its place, since its tracker
does not mark the heap.
-/

namespace Metaobject

open Metaobject.Action

namespace Universe

variable {u : Universe} {h h' h₁ : Heap} {t : TypeId} {v w dest source : Value} {recursive : Bool}

/-! ### In an empty place -/

/-- What building in an empty place comes to. -/
structure FillsPlace (u : Universe) (depth : Nat) (t : TypeId) (c : Template) (h : Heap) :
    Prop where
  /-- The place stays empty if the construction fails. -/
  failed : ∀ w fault message h',
    (u.constructAt depth t .null c).run h = ((w, some fault, message), h') →
    w = .null ∧ (u.construct depth t c).run.run h = (.error fault, h')
  /-- It holds what the construction makes, but as a value that is not on the heap. -/
  made : ∀ w message h', (u.constructAt depth t .null c).run h = ((w, none, message), h') →
    ∃ v, (u.construct depth t c).run.run h = (.ok v, h') ∧ w = v.offHeap

/-- A construction in an empty place leaves its value there, or nothing and its fault. -/
lemma fillsPlace (u : Universe) (depth : Nat) (t : TypeId) (c : Template) (h : Heap) :
    u.FillsPlace depth t c h := by
  obtain ⟨message, reports⟩ := u.run_constructReporting depth t c h
  have run : (u.constructAt depth t .null c).run h =
      match (u.construct depth t c).run.run h with
      | (.ok v, h') => ((v.offHeap, none, message), h')
      | (.error fault, h') => ((.null, some fault, message), h') := by
    rw [constructAt, if_pos (show Value.null.isNull = true from rfl), StateT.run_bind, reports]
    rcases (u.construct depth t c).run.run h with ⟨fault | v, h'⟩
    · rfl
    · rfl
  constructor
  case failed =>
    intro w fault message' h' ran
    rw [run] at ran
    split at ran
    · cases ran
    · rename_i built
      cases ran
      exact ⟨rfl, built⟩
  case made =>
    intro w message' h' ran
    rw [run] at ran
    split at ran
    · rename_i v _ built
      cases ran
      exact ⟨v, built, rfl⟩
    · cases ran

/-! ### Over a value -/

/-- The buffers that were there before are as they were. Only what a hook builds could own one of
them, and it does not if somebody else does. -/
def SparesBuffers (u : Universe) (h h' : Heap) : Prop :=
  ∀ b c, u.Builds (b ∉ ·.owned) → h.cells[b]? = some c → h'.cells[b]? = some c

/-- A duplication has no use for a buffer that was there before: nothing happens to it, and the
duplicate does not own it. -/
lemma unheld_duplicate {b : BufferId} {c : Cell} {r : Except Fault Value}
    (builds : u.Builds (b ∉ ·.owned)) (place : h.cells[b]? = some c)
    (ran : (u.duplicate t recursive source).run.run h = (r, h')) :
    h'.cells[b]? = some c ∧ ∀ v, r = .ok v → b ∉ v.owned := by
  have bears : u.Builds (Bears (Unheld b c)) := by
    refine builds.imp fun v free held h before => ?_
    exact ⟨fun mem => (List.mem_append.1 mem).elim free before.1, before.2⟩
  have unheld := custody_duplicate (Unheld.custody b c) bears source t recursive [] h
    ⟨List.not_mem_nil, place⟩
  rw [ran] at unheld
  cases r with
  | error fault => exact ⟨unheld.2, nofun⟩
  | ok v =>
    refine ⟨unheld.2, ?_⟩
    rintro _ ⟨⟩ mem
    exact unheld.1 (List.mem_append_left [] mem)

/-- The value `dest` has given way, `h` being the heap before and `h'` the one afterwards. -/
structure GivesWay (u : Universe) (t : TypeId) (dest : Value) (h h' : Heap) : Prop where
  /-- It is freed through the type, which nothing stops, and what is left of it is dropped. -/
  freed : ∃ rest h₁, (u.free t dest).run h = ((rest, none), h₁) ∧ (rest.drop.run h₁).2 = h'
  /-- Nothing of what it owned is owned any longer, whatever the hooks have said. -/
  released : ∀ b ∈ dest.owned, ∀ c, h'.cells[b]? = some c → c.owned = false
  /-- Nothing happens to any other buffer. -/
  others : ∀ b c, b ∉ dest.owned → h.cells[b]? = some c → h'.cells[b]? = some c

/-- Freeing a value and dropping what is left of it hands on all its buffers. -/
lemma custody_replaced {I : List BufferId → Heap → Prop} (custody : Custody I)
    {rest : Value} {e : Option Violation} {h₁ : Heap} {held : List BufferId}
    (freed : (u.free t dest).run h = ((rest, e), h₁)) (before : I (dest.owned ++ held) h) :
    I held (rest.drop.run h₁).2 := by
  have after := custody_free custody u t dest h before
  rw [freed] at after
  exact custody.drop rest h₁ after

/-- A value that was freed gives way to the new one, and what it left is dropped. -/
lemma givesWay {rest : Value} {h₁ : Heap} (freed : (u.free t dest).run h = ((rest, none), h₁)) :
    u.GivesWay t dest h (rest.drop.run h₁).2 := by
  constructor
  case freed => exact ⟨rest, h₁, freed, rfl⟩
  case released =>
    intro b hb c hc
    have listed : Listed b (dest.owned ++ []) h := fun _ _ _ => List.mem_append_left [] hb
    by_contra owned
    exact List.not_mem_nil (custody_replaced (Listed.custody b) freed listed c hc
      (eq_true_of_ne_false owned))
  case others =>
    intro b c other place
    have unheld : Unheld b c (dest.owned ++ []) h := by
      rw [List.append_nil]
      exact ⟨other, place⟩
    exact (custody_replaced (Unheld.custody b c) freed unheld).2

/-- What duplicating over a value comes to. -/
structure TakesPlace (u : Universe) (t : TypeId) (dest source : Value) (recursive : Bool)
    (h : Heap) : Prop where
  /-- Where the duplication fails the value that was there stays, and all buffers are as before,
  those that it owns or refers to among them. -/
  refused : ∀ w e h',
    (u.duplicateOver t dest source recursive).run h = ((w, some (.refused e)), h') →
    w = dest ∧ (u.duplicate t recursive source).run.run h = (.error (.refused e), h') ∧
      u.SparesBuffers h h'
  /-- Otherwise the duplicate takes the place once it is complete. Until then, in `h₁`, the value
  that was there is untouched, and none of its buffers is the duplicate's. -/
  made : ∀ w h', (u.duplicateOver t dest source recursive).run h = ((w, none), h') →
    ∃ v h₁, (u.duplicate t recursive source).run.run h = (.ok v, h₁) ∧ w = v.offHeap ∧
      u.SparesBuffers h h₁ ∧
      (∀ b c, u.Builds (b ∉ ·.owned) → h.cells[b]? = some c → b ∉ v.owned) ∧
      u.GivesWay t dest h₁ h'

/-- A duplication over a value fails before anything happens to that value, or a violation stops
that value from being freed, or the duplicate takes the place. -/
lemma duplicateOver_cases (u : Universe) (t : TypeId) (dest source : Value) (recursive : Bool)
    (h : Heap) :
    (∃ fault h₁, (u.duplicate t recursive source).run.run h = (.error fault, h₁) ∧
      (u.duplicateOver t dest source recursive).run h = ((dest, some fault), h₁)) ∨
    ∃ v h₁, (u.duplicate t recursive source).run.run h = (.ok v, h₁) ∧
      ((∃ rest e h₂, (u.free t dest).run h₁ = ((rest, some e), h₂) ∧
        (u.duplicateOver t dest source recursive).run h =
          ((rest, some (.violated e)), (v.offHeap.drop.run h₂).2)) ∨
      ∃ rest h₂, (u.free t dest).run h₁ = ((rest, none), h₂) ∧
        (u.duplicateOver t dest source recursive).run h =
          ((v.offHeap, none), (rest.drop.run h₂).2)) := by
  rcases made : (u.duplicate t recursive source).run.run h with ⟨fault | v, h₁⟩
  · refine .inl ⟨fault, h₁, rfl, ?_⟩
    rw [duplicateOver, StateT.run_bind, made]
    rfl
  · refine .inr ⟨v, h₁, rfl, ?_⟩
    rw [duplicateOver, StateT.run_bind, made]
    show (∃ rest e h₂, _ ∧ (_ : Action (Value × Option Fault)).run h₁ = _) ∨
      ∃ rest h₂, _ ∧ (_ : Action (Value × Option Fault)).run h₁ = _
    rw [StateT.run_bind]
    rcases (u.free t dest).run h₁ with ⟨⟨rest, _ | e⟩, h₂⟩
    · exact .inr ⟨rest, h₂, rfl, rfl⟩
    · exact .inl ⟨rest, e, h₂, rfl, rfl⟩

/-- A duplication takes the place of what could be freed, or leaves that there. -/
lemma takesPlace (u : Universe) (t : TypeId) (dest source : Value) (recursive : Bool) (h : Heap) :
    u.TakesPlace t dest source recursive h := by
  have cases := u.duplicateOver_cases t dest source recursive h
  constructor
  case refused =>
    intro w e h' ran
    rcases cases with ⟨fault, h₁, made, run⟩ | ⟨v, h₁, made, ⟨_, _, _, _, run⟩ | ⟨_, _, _, run⟩⟩
    · cases run.symm.trans ran
      exact ⟨rfl, made, fun b c builds place => (unheld_duplicate builds place made).1⟩
    · cases run.symm.trans ran
    · cases run.symm.trans ran
  case made =>
    intro w h' ran
    rcases cases with ⟨fault, h₁, made, run⟩ | ⟨v, h₁, made, ⟨_, _, _, _, run⟩ | ⟨_, _, freed, run⟩⟩
    · cases run.symm.trans ran
    · cases run.symm.trans ran
    · cases run.symm.trans ran
      refine ⟨v, h₁, made, rfl, ?_, ?_, givesWay freed⟩
      · exact fun b c builds place => (unheld_duplicate builds place made).1
      · exact fun b c builds place => (unheld_duplicate builds place made).2 v rfl

/-! ### Freeing it later -/

/-- Nothing stops a well-typed value from being freed if no type has a say in it. -/
lemma free_unstopped {v : Value} (typed : u.isWellTyped t v = true)
    (unasked : u.isFreedUnasked v = true) (h : Heap) : ((u.free t v).run h).1.2 = none := by
  obtain ⟨accepted, sound⟩ := isWellTyped_iff.1 typed
  have able := isFreeable_of_isSound v sound (leavesFreeing_of_isFreedUnasked v unasked)
  rw [(disposes_free v able t accepted).answer h]

/-- What is left in the place of an object if its type has no say in how it is freed: an object of
the same type, whose tracker is empty unless a violation has stopped the free. -/
def StaysInPlace (u : Universe) (v : Value) (r : Value × Option Violation) : Prop :=
  ∀ s vs tr, v = .object s vs tr → u.freeHook? s = none →
    ∃ ws, r.1 = .object s ws (if r.2.isNone then tr.map (·.released) else tr)

/-- An object that is not on the heap stays in its place when it is freed. -/
lemma staysInPlace (u : Universe) (t : TypeId) (v : Value) :
    (u.free t v.offHeap).Yields (u.StaysInPlace v.offHeap) := by
  intro h s vs tr same silent
  have offHeap : ∀ x, tr = some x → x.onHeap = false := by
    rintro x rfl
    cases v with
    | object s' vs' a =>
      cases a with
      | none => cases same
      | some y =>
        cases same
        rfl
    | _ => cases same
  rw [same, free]
  split
  · have declines : u.consultFree s (.object s vs tr) = pure .decline := by
      rw [consultFree, show (u.desc s).behavior.bind (·.free) = none from silent]
    rw [declines, pure_bind]
    dsimp only
    rw [StateT.run_bind]
    rcases (u.freeFields ((u.layout? s).elim [] (·.fields)) vs).run h with ⟨⟨ws, _ | e⟩, h₁⟩
    · refine ⟨ws, ?_⟩
      cases tr with
      | none => rfl
      | some x =>
        show ((finishFree s ws (some x)).run h₁).1 = _
        have answer := x.run_release h₁
        rw [offHeap x rfl] at answer
        rw [finishFree, StateT.run_bind]
        rcases ran : x.release.run h₁ with ⟨r, h₂⟩
        rw [ran] at answer
        cases answer
        rfl
    · exact ⟨ws, rfl⟩
  · exact ⟨vs, rfl⟩

/-! ### All of it -/

/-- Building in place is atomic. A construction that fails leaves the place empty, and a duplication
that is refused leaves the value that was there and its buffers as they were. One that succeeds
leaves what the operation makes, with only the outermost mark of the heap cleared, and what was
there before has been freed after that was complete. An object that is freed later stays in its
place, unless its type has it otherwise: its tracker is empty then, or a violation has stopped the
free, which does not happen to a well-typed object if no type has a say in how what is in it is
freed. The hooks may be any that decide by their answers. -/
theorem inPlace_atomic (u : Universe) :
    (∀ depth t c h, u.FillsPlace depth t c h) ∧
    (∀ t dest source recursive h, u.TakesPlace t dest source recursive h) ∧
    (∀ (v : Value) (path : List Nat), v.offHeap.trackerAt? path =
      if path = [] then (v.trackerAt? []).map fun tr => { tr with onHeap := false }
      else v.trackerAt? path) ∧
    ∀ (v : Value) (t : TypeId) (h : Heap),
      u.StaysInPlace v.offHeap ((u.free t v.offHeap).run h).1 ∧
      (u.isWellTyped t v.offHeap = true → u.isFreedUnasked v.offHeap = true →
        ((u.free t v.offHeap).run h).1.2 = none) := by
  refine ⟨u.fillsPlace, u.takesPlace, fun v path => v.trackerAt?_offHeap path,
    fun v t h => ⟨?_, ?_⟩⟩
  · exact u.staysInPlace t v h
  · exact fun typed unasked => free_unstopped typed unasked h

/-- A label with a dead buffer is not duplicated over another one: that one stays, and so does its
buffer. -/
theorem inPlace_atomic_label :
    ∃ w e h', (withLabel.duplicateOver 19 label (faded (.scalar (.char 'b'))) true).run
        labelled.heap = ((w, some (.refused e)), h') ∧
      w = label ∧ labelled.heap.isLive (.to 0) = true ∧
      h'.cells[0]? = labelled.heap.cells[0]? := by
  have hooks : withLabel.HookFree := hookFree_of_all rfl
  have ran : ∃ w e h', (withLabel.duplicateOver 19 label (faded (.scalar (.char 'b'))) true).run
      labelled.heap = ((w, some (.refused e)), h') := by
    rw [duplicateOver, faded, duplicate, if_pos (accepts_self rfl _ _)]
    exact ⟨_, _, _, rfl⟩
  obtain ⟨w, e, h', ran⟩ := ran
  obtain ⟨_, takes, _⟩ := inPlace_atomic withLabel
  obtain ⟨same, _, spares⟩ := (takes _ _ _ _ _).refused w e h' ran
  exact ⟨w, e, h', ran, same, rfl, spares 0 _ hooks.builds rfl⟩

/-- Types with a subtype of labels, of which nothing is left when it is freed. -/
def withStamp : Universe :=
  let stamp : Declaration :=
    { name := "Stamp"
      shape := .struct [] (some 19) true
      behavior := some { free := some fun _ => .clear } }
  match withLabel.declare {} stamp with
  | some (_, u) => u
  | none => withLabel

/-- A stamp, which has no data yet. -/
def stamp : Value :=
  .object 20 [.scalar (.char 'a'), .null] (some {})

/-- A stamp is accepted as a label. -/
lemma accepts_stamp : withStamp.accepts 19 stamp = true := by
  refine (accepts_struct rfl _).trans ?_
  show (withStamp.subtype? 20 19).isSome = true
  rw [subtype?]
  show (withStamp.subtype? 19 19).isSome = true
  rw [subtype?_of_isSilent rfl]
  rfl

/-- A label whose mark is no character. -/
def blotted (b : BufferId) (tracker : Tracker) : Value :=
  .object 19 [.scalar (.bool true), .buffer (.to b)] (some tracker)

/-- An object does not always stay in its place with an empty tracker. A stamp decides for itself,
although it is freed through the type of labels, which has no hooks. A label whose mark is no
character is not freed to the end, so its tracker keeps the buffer. -/
theorem inPlace_not_kept :
    ((withStamp.desc 19).behavior.isNone = true ∧
      ∃ h', (withStamp.duplicateOver 19 .null stamp true).run {} = ((stamp, none), h') ∧
        ((withStamp.free 19 stamp).run h').1 = (.null, none)) ∧
    withLabel.HookFree ∧
      ∃ tr h', (withLabel.constructAt 1 19 .null { initials := some (blotted 0 {}) }).run inked =
          ((blotted 1 tr, none, none), h') ∧
        tr.buffers = [1] ∧ h'.isLive (.to 1) = true ∧
        (withLabel.free 19 (blotted 1 tr)).run h' =
          ((blotted 1 tr, some (.freedAs "bool" "char")), h') := by
  have free_stamp : ∀ h, ((withStamp.free 19 stamp).run h).1 = (.null, none) := by
    intro h
    rw [stamp, free, ← stamp, if_pos accepts_stamp]
    rfl
  have free_blotted : ∀ b tr h, (withLabel.free 19 (blotted b tr)).run h =
      ((blotted b tr, some (.freedAs "bool" "char")), h) := by
    intro b tr h
    rw [blotted, free, if_pos (accepts_self rfl _ _)]
    rfl
  refine ⟨⟨rfl, ?_⟩, hookFree_of_all rfl, ?_⟩
  · have made : ∃ h', (withStamp.duplicate 19 true stamp).run.run {} =
        (.ok (.object 20 [.scalar (.char 'a'), .null] (some { onHeap := true })), h') := by
      rw [stamp, duplicate, ← stamp, if_pos accepts_stamp]
      exact ⟨_, rfl⟩
    obtain ⟨h', made⟩ := made
    refine ⟨h', ?_, free_stamp h'⟩
    rw [duplicateOver, StateT.run_bind, made]
    rfl
  · exact ⟨{ manager := some .system, buffers := [1], capacity := 4 }, _, rfl, rfl, rfl,
      free_blotted _ _ _⟩

end Universe

end Metaobject
