import Metaobject.Proofs.Lifecycle.DepthFirst
import Metaobject.Proofs.Lifecycle.Failure
import Metaobject.Proofs.Lifecycle.Levels
import Metaobject.Proofs.Text.Message

/-!
# Which failures there are

On well-typed values a flat duplication never fails. What a recursive duplication or a construction
fails of is a buffer that it has to copy: the first one, in depth-first order, that is dead or for
which no block of its length is to be had. `Universe.failures_characterised` says so, which error is
reported then, which buffers have been copied by then, and what is left in the message.
-/

namespace Metaobject

open Metaobject.Action Transfer

namespace Transfer

/-- What keeps a buffer from being copied. -/
inductive Blocked (x : Transfer) (h : Heap) : BuildError → Prop where
  /-- It has been released. -/
  | released (dead : h.read x.source = none) : Blocked x h .releasedBuffer
  /-- Its manager has no block for it, or one of another length. -/
  | denied {bytes : Bytes} (known : h.read x.source = some bytes)
      (refused : ∀ b, ((allocateZeroed x.manager bytes.length 1).run h).1 = some b →
        b.bytes.length ≠ bytes.length) : Blocked x h (.outOfMemory bytes.length)

/-- None of the buffers that are to be copied is blocked when its turn comes. -/
def Clear (ts : List Transfer) (h : Heap) : Prop :=
  ∀ (k : Nat) (y : Transfer) (e : BuildError), ts[k]? = some y →
    ¬ y.Blocked (afterAll (ts.take k) h) e

/-- Of the buffers that are to be copied the one after those of `before` is the first that cannot
be. -/
structure FirstBlocked (ts : List Transfer) (h : Heap) (before : List Transfer) (x : Transfer)
    (cause : BuildError) : Prop where
  place : ∃ later, ts = before ++ x :: later
  clear : Clear before h
  blocked : x.Blocked (afterAll before h) cause

variable {x : Transfer} {ts : List Transfer} {h h' : Heap} {cause : BuildError}

/-- A transfer is stuck if it is blocked, and for that cause. -/
lemma stuck?_eq_some_iff : x.stuck? h = some cause ↔ x.Blocked h cause := by
  cases known : h.read x.source with
  | none =>
    rw [stuck?_of_dead known]
    constructor
    · rintro ⟨⟩
      exact .released known
    · rintro (_ | ⟨known', _⟩)
      · rfl
      · cases known.symm.trans known'
  | some bytes =>
    have asked : (allocateZeroed x.manager bytes.length 1).run h =
        (((allocateZeroed x.manager bytes.length 1).run h).1, _) := rfl
    rw [stuck?_of_read known asked]
    constructor
    · intro stuck
      split at stuck
      · cases stuck
      · rename_i denied
        cases stuck
        refine .denied known fun b answer right => denied ?_
        rw [answer, Option.any_some]
        exact decide_eq_true right
    · rintro (dead | ⟨known', refused⟩)
      · cases known.symm.trans dead
      · cases known.symm.trans known'
        refine if_neg fun granted => ?_
        obtain ⟨b, answer, right⟩ := (Option.any_eq_true ..).1 granted
        exact refused b answer (of_decide_eq_true right)

/-- No transfer gets stuck if none of them is blocked when its turn comes. -/
lemma firstStuck_eq_none_iff : firstStuck ts h = none ↔ Clear ts h := by
  induction ts generalizing h with
  | nil =>
    refine ⟨fun _ k y e hy => ?_, fun _ => rfl⟩
    cases hy
  | cons t ts ih =>
    rw [firstStuck_cons_eq_none, ih]
    constructor
    · rintro ⟨first, rest⟩ k y e hy blocked
      cases k with
      | zero =>
        cases hy
        cases first.symm.trans (stuck?_eq_some_iff.2 blocked)
      | succ k => exact rest k y e hy blocked
    · intro clear
      refine ⟨?_, fun k y e hy => clear (k + 1) y e hy⟩
      cases first : t.stuck? h with
      | none => rfl
      | some cause => exact absurd (stuck?_eq_some_iff.1 first) (clear 0 t cause rfl)

/-- The first transfer to get stuck is the first one that is blocked. -/
lemma firstStuck_eq_some_iff_firstBlocked {before : List Transfer} :
    firstStuck ts h = some ⟨before, x, cause⟩ ↔ FirstBlocked ts h before x cause := by
  rw [firstStuck_eq_some_iff, firstStuck_eq_none_iff, stuck?_eq_some_iff]
  exact ⟨fun ⟨place, clear, blocked⟩ => ⟨place, clear, blocked⟩,
    fun ⟨place, clear, blocked⟩ => ⟨place, clear, blocked⟩⟩

end Transfer

/-- Between two moments exactly these buffers have been copied: in their order each of them has got
a cell, with a block of its manager that has its bytes. -/
structure Heap.Copied (h : Heap) (ts : List Transfer) (h' : Heap) : Prop where
  old : ∀ b < h.cells.size, h'.due? b = h.due? b
  new : ∀ (k : Nat) (x : Transfer), ts[k]? = some x → ∃ block,
    h'.due? (h.cells.size + k) = some (.of x.manager, block) ∧
      (afterAll (ts.take k) h).read x.source = some block.bytes
  others : ∀ b ≥ h.cells.size + ts.length, h'.due? b = none

/-- Where the same is due as after some transfers, these were made. -/
lemma Heap.copied_of_due {h h' : Heap} {ts : List Transfer} (clear : firstStuck ts h = none)
    (due : h'.due? = (afterAll ts h).due?) : h.Copied ts h' := by
  constructor
  case old =>
    intro b lt
    have place := Array.getElem?_eq_getElem lt
    rw [due, due?, due?, extends_afterAll clear b _ place, place]
  case new =>
    intro k x hx
    obtain ⟨bytes, block, read, same, cell⟩ := cells_afterAll clear hx
    refine ⟨block, ?_, same ▸ read⟩
    rw [due, due?, cell]
    rfl
  case others =>
    intro b le
    rw [due, due?, Array.getElem?_eq_none]
    · rfl
    · rw [size_afterAll clear]
      exact le

/-- How an operation ends that has the buffers of `ts` to copy, in that order. -/
structure Characterised (h : Heap) (ts : List Transfer) (r : Except Fault Value × Heap) : Prop where
  /-- It fails if and only if one of them cannot be copied when its turn comes. -/
  fails : (∃ fault, r.1 = .error fault) ↔
    ∃ (k : Nat) (x : Transfer) (cause : BuildError), ts[k]? = some x ∧
      x.Blocked (afterAll (ts.take k) h) cause
  /-- Then the first of these is reported, with the way to it, and those before it have been
  copied. -/
  reported : ∀ before x cause, FirstBlocked ts h before x cause →
    r.1 = .error (.refused (cause.along x.path)) ∧ h.Copied before r.2
  /-- Otherwise all of them have been copied. -/
  served : ∀ w, r.1 = .ok w → h.Copied ts r.2
  /-- In the meantime nothing happens to a buffer that was there before. -/
  meantime : ∀ k b, Clear (ts.take k) h → b < h.cells.size →
    (afterAll (ts.take k) h).read (.to b) = h.read (.to b)

/-- What is accounted for is characterised by the first transfer that is blocked. -/
lemma Accounted.characterised {h : Heap} {ts : List Transfer} {good : Value → Prop}
    {r : Except Fault Value × Heap} (accounted : Accounted h ts good r) :
    Characterised h ts r := by
  constructor
  case fails =>
    constructor
    · rintro ⟨fault, failed⟩
      by_contra none
      have clear : firstStuck ts h = .none := firstStuck_eq_none_iff.2 fun k y e hy blocked =>
        none ⟨k, y, e, hy, blocked⟩
      obtain ⟨w, rfl, _⟩ := accounted.served clear
      cases failed
    · rintro ⟨k, x, cause, hx, blocked⟩
      cases stuck : firstStuck ts h with
      | none => exact absurd blocked (firstStuck_eq_none_iff.1 stuck k x cause hx)
      | some s => exact ⟨_, (accounted.denied s stuck).1⟩
  case reported =>
    intro before x cause first
    obtain ⟨error, due⟩ := accounted.denied _ (firstStuck_eq_some_iff_firstBlocked.2 first)
    exact ⟨error, Heap.copied_of_due (firstStuck_eq_none_iff.2 first.clear) due⟩
  case served =>
    intro w made
    cases stuck : firstStuck ts h with
    | none =>
      obtain ⟨_, rfl, _⟩ := accounted.served stuck
      exact Heap.copied_of_due stuck rfl
    | some s => cases made.symm.trans (accounted.denied s stuck).1
  case meantime =>
    intro k b clear old
    exact (extends_afterAll (firstStuck_eq_none_iff.2 clear)).read_old old

namespace Universe

variable {u : Universe}

/-- The message of a template is told the error that a construction is refused with. -/
lemma message_constructReporting (depth : Nat) (t : TypeId) {c : Template} {h : Heap}
    {message : Message} (given : c.message = some message) {e : BuildError}
    (failed : ((u.constructReporting depth t c).run h).1.1 = .error (.refused e)) :
    ((u.constructReporting depth t c).run h).1.2 = some (message.set e.message) := by
  rw [constructReporting, StateT.run_bind] at failed ⊢
  generalize (u.construct depth t c).run.run h = r at failed ⊢
  obtain ⟨(e' | violation | _) | v, h'⟩ := r
  · cases failed
    show c.message.map _ = _
    rw [given]
    rfl
  · cases failed
  · cases failed
  · cases failed

/-- On a heap `h`, where no type has hooks and all defaults are well typed: a flat duplication
succeeds; a recursive one, and a construction of a struct that comes to its end, fails exactly of
the first buffer in depth-first order that has to be copied and cannot be; and a failed construction
leaves in the message as much of the wording as the message can hold. -/
theorem failures_characterised (hooks : u.HookFree) (defaults : u.DefaultsTyped) (h : Heap) :
    (∀ t v, u.isWellTyped t v = true → ∃ w, (u.duplicate t false v).run.run h = (.ok w, h)) ∧
    (∀ t v, u.isWellTyped t v = true → ∃ ts, Lists (u.NeedsCopy v) ts ∧
      Characterised h ts ((u.duplicate t true v).run.run h)) ∧
    ∀ depth t c, (u.layout? t).isSome = true →
      (∀ v, c.initials? = some v → u.isExact t v = true ∧ u.isWellTyped t v = true) →
      ∀ r message h', (u.constructReporting depth t c).run h = ((r, message), h') →
        r ≠ .error .tooDeep →
        (∀ m h₁, (u.managerFor t c).run h = (m, h₁) → h₁.cells = h.cells ∧ ∀ d ≥ depth, ∃ ts,
          Lists (fun x => x.path.length ≤ d ∧
            u.NeedsSource m (moment ts h₁) (.of t c true) x) ts ∧ Characterised h₁ ts (r, h')) ∧
        ∀ given e, c.message = some given → r = .error (.refused e) →
          ∃ held, message = some held ∧ held.capacity = given.capacity ∧ held.Holds e.message := by
  refine ⟨?_, ?_, ?_⟩
  · intro t v typed
    have flat := accounted_duplicate (hooks.isHookless v) (fun _ => hooks.isSilent t) typed false h
    rw [transfersOf_flat] at flat
    obtain ⟨w, ran, _⟩ := flat.served rfl
    exact ⟨w, ran⟩
  · intro t v typed
    have deep := accounted_duplicate (hooks.isHookless v) (fun _ => hooks.isSilent t) typed true h
    exact ⟨_, u.lists_transfersOf v, deep.characterised⟩
  · intro depth t c isStruct starts r message h' ran ended
    obtain ⟨_, reports⟩ := u.run_constructReporting depth t c h
    obtain ⟨told, rfl⟩ := Prod.mk.inj (ran.symm.trans reports)
    obtain ⟨rfl, _⟩ := Prod.mk.inj told
    constructor
    · intro m h₁ served
      have cells := u.cells_managerFor t c h
      rw [served] at cells
      refine ⟨cells, fun d le => ?_⟩
      have same := run_construct_of_le le ended
      have made : ∀ v, c.initials? = some v → u.Instance t v := fun v hv =>
        instance_of_isExact hv (starts v hv).2 (starts v hv).1
      have ends := ends_construct hooks defaults d t c h true isStruct made
      rw [served, same] at ends
      exact ⟨_, u.lists_transfersFrom m d h₁ _, (ends.resolve_left ended).characterised⟩
    · intro given e hg failed
      have told := message_constructReporting depth t (h := h) (e := e) hg (by rw [ran]; exact failed)
      rw [ran] at told
      exact ⟨_, told, rfl, given.holds_set e.message⟩

/-- The other types are those that are always there. -/
lemma desc_withPair (t : TypeId) : t = 19 ∨ withPair.desc t = builtin.desc t := by
  have made : withPair.descriptors = builtin.descriptors.push _ := rfl
  rw [desc, made, Descriptor.among_push]
  split
  · rename_i pair
    exact .inl pair
  · exact .inr rfl

/-- The default of a pair is one of its type. -/
lemma defaultsTyped_withPair : withPair.DefaultsTyped := by
  have buffer : ∀ name index b,
      withPair.Fits ⟨name, index, 0, some 14, false, none⟩ (.buffer (.to b)) := by
    refine fun name index b => ⟨fun s hs => ?_, rfl⟩
    cases hs
    rfl
  intro t v hv
  rcases desc_withPair t with rfl | known
  · cases hv
    exact instance_of_forall₂ rfl (.cons (buffer "first" 0 0) (.cons (buffer "second" 1 1) .nil)) _
  · exact instance_of_builtin known hv

/-- The second buffer of a pair is refused, and a message of ten bytes holds what it can of that. -/
theorem failures_characterised_pair :
    let m : Manager := { malloc := some (.custom 0), free := some (.custom 0) }
    let c : Template := { manager := some m, message := some { capacity := 10 } }
    let e : BuildError := .field 1 "second" (.outOfMemory 1)
    withPair.HookFree ∧ withPair.DefaultsTyped ∧
      ∃ held h', (withPair.constructReporting 1 19 c).run scarce =
          ((.error (.refused e), some held), h') ∧
        held.capacity = 10 ∧ held.Holds e.message ∧
        ∃ ts, Lists (fun x => x.path.length ≤ 1 ∧
          withPair.NeedsSource m (moment ts scarce) (.of 19 c true) x) ts ∧
            Characterised scarce ts (.error (.refused e), h') := by
  intro m c e
  have hooks : withPair.HookFree := hookFree_of_all rfl
  have failed : ((withPair.construct 1 19 c).run.run scarce).1 = .error (.refused e) := rfl
  obtain ⟨message, ran⟩ := withPair.run_constructReporting 1 19 c scarce
  rw [failed] at ran
  obtain ⟨failures, told⟩ := (failures_characterised hooks defaultsTyped_withPair scarce).2.2 1 19 c
    rfl nofun _ _ _ ran nofun
  obtain ⟨held, rfl, capacity, holds⟩ := told _ e rfl rfl
  exact ⟨hooks, defaultsTyped_withPair, held, _, ran, capacity, holds,
    (failures m scarce rfl).2 1 (Nat.le_refl 1)⟩

end Universe

end Metaobject
