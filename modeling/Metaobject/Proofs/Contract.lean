import Mathlib.Tactic.Lemma
import Metaobject.Lifecycle.Assembly

/-!
# Contracts

A contract of an action says what holds of its answer and of the heap after it, given what held of
the heap before. `Action.Triple` is that statement and `Attempt.Triple` the same for a computation
that may be kept from an answer; each way of putting computations together has one rule.
-/

namespace Metaobject

variable {α β : Type}

/-- From every heap with `P` the action leads to an answer and a heap with `Q`. -/
def Action.Triple (P : Heap → Prop) (a : Action α) (Q : α → Heap → Prop) : Prop :=
  ∀ h, P h → Q (a.run h).1 (a.run h).2

namespace Action.Triple

variable {P P' : Heap → Prop} {Q Q' : α → Heap → Prop} {R : β → Heap → Prop}

lemma pure {x : α} (hP : ∀ h, P h → Q x h) : Triple P (pure x) Q :=
  hP

/-- The second action starts where the first one ends, whatever that answered. -/
lemma bind {a : Action α} {f : α → Action β} (ha : Triple P a Q)
    (hf : ∀ x, Triple (Q x) (f x) R) : Triple P (a >>= f) R := by
  intro h hP
  exact hf _ _ (ha h hP)

lemma weaken {a : Action α} (ha : Triple P a Q) (hQ : ∀ x h, Q x h → Q' x h) :
    Triple P a Q' := by
  intro h hP
  exact hQ _ _ (ha h hP)

lemma strengthen {a : Action α} (ha : Triple P a Q) (hP : ∀ h, P' h → P h) : Triple P' a Q := by
  intro h hP'
  exact ha h (hP h hP')

/-- A fact that the precondition settles may be taken out of it. -/
lemma of_imp {p : Prop} {a : Action α} (hp : ∀ h, P h → p) (ha : p → Triple P a Q) :
    Triple P a Q := by
  intro h hP
  exact ha (hp h hP) h hP

end Action.Triple

/-- The same for a computation that may be kept from an answer. -/
def Attempt.Triple (P : Heap → Prop) (a : Attempt α) (Q : Except Fault α → Heap → Prop) : Prop :=
  Action.Triple P a.run Q

namespace Attempt.Triple

variable {P : Heap → Prop} {Q Q' : Except Fault α → Heap → Prop}
  {R : Except Fault β → Heap → Prop}

lemma pure {x : α} (hP : ∀ h, P h → Q (.ok x) h) : Triple P (pure x) Q :=
  hP

lemma throw {fault : Fault} (hP : ∀ h, P h → Q (.error fault) h) :
    Triple P (throw fault) Q :=
  hP

lemma refuse {e : BuildError} (hP : ∀ h, P h → Q (.error (.refused e)) h) :
    Triple P (refuse e) Q :=
  hP

/-- What comes first either fails, and that is the end, or has the rest begin. -/
lemma bind {a : Attempt α} {f : α → Attempt β} (ha : Triple P a Q)
    (hok : ∀ x, Triple (Q (.ok x)) (f x) R)
    (herror : ∀ fault h, Q (.error fault) h → R (.error fault) h) : Triple P (a >>= f) R := by
  intro h hP
  have ran := ha h hP
  rw [ExceptT.run_bind, StateT.run_bind]
  rcases e : a.run.run h with ⟨fault | x, h'⟩
  · rw [e] at ran
    exact herror fault h' ran
  · rw [e] at ran
    exact hok x h' ran

/-- An action in an attempt always comes to its end. -/
lemma lift {a : Action α} {Q : α → Heap → Prop} {f : α → Attempt β} (ha : Action.Triple P a Q)
    (hf : ∀ x, Triple (Q x) (f x) R) : Triple P (liftM a >>= f) R := by
  intro h hP
  exact hf _ _ (ha h hP)

/-- What is done with a fault starts where the computation ends. -/
lemma outcome {a : Attempt α} {f : Except Fault α → Attempt β} (ha : Triple P a Q)
    (hf : ∀ r, Triple (Q r) (f r) R) : Triple P (a.outcome >>= f) R := by
  intro h hP
  exact hf _ _ (ha h hP)

lemma get {f : Heap → Attempt β} (hf : ∀ x, Triple (fun h => x = h ∧ P h) (f x) R) :
    Triple P (MonadState.get >>= f) R := by
  intro h hP
  exact hf h h ⟨rfl, hP⟩

lemma strengthen {a : Attempt α} (ha : Triple P a Q) {P' : Heap → Prop} (hP : ∀ h, P' h → P h) :
    Triple P' a Q :=
  Action.Triple.strengthen ha hP

end Attempt.Triple

/-! ### Contracts of the answer alone -/

/-- Whatever the heap, the answer of the action has `P`. -/
def Action.Yields (a : Action α) (P : α → Prop) : Prop :=
  ∀ h, P (a.run h).1

namespace Action.Yields

variable {P : α → Prop} {Q : β → Prop}

lemma pure {x : α} (hP : P x) : Yields (pure x) P :=
  fun _ => hP

/-- The second action may rely on what the first one always answers. -/
lemma bind {a : Action α} {f : α → Action β} (ha : Yields a P)
    (hf : ∀ x, P x → Yields (f x) Q) : Yields (a >>= f) Q := by
  intro h
  exact hf _ (ha h) _

/-- The answer of the first action may be anything. -/
lemma andThen {a : Action α} {f : α → Action β} (hf : ∀ x, Yields (f x) Q) :
    Yields (a >>= f) Q := by
  intro h
  exact hf _ _

end Action.Yields

/-- What is known of the answer anyway may be added to a contract. -/
lemma Action.Triple.known {P : Heap → Prop} {a : Action α} {Q : α → Heap → Prop} {R : α → Prop}
    (ha : Triple P a Q) (yields : a.Yields R) : Triple P a fun x h => R x ∧ Q x h := by
  intro h hP
  exact ⟨yields h, ha h hP⟩

/-- Whatever the heap, the answer has `P`, if there is one. -/
def Attempt.Yields (a : Attempt α) (P : α → Prop) : Prop :=
  Action.Yields a.run fun r => ∀ x, r = .ok x → P x

namespace Attempt.Yields

variable {P P' : α → Prop} {Q : β → Prop}

lemma pure {x : α} (hP : P x) : Yields (pure x) P := by
  intro h y hy
  cases hy
  exact hP

lemma throw {fault : Fault} : Yields (throw fault) P := by
  intro h x hx
  cases hx

lemma refuse {e : BuildError} : Yields (refuse e) P := by
  intro h x hx
  cases hx

/-- What follows may rely on the answer of what comes first, if there is one. -/
lemma bind {a : Attempt α} {f : α → Attempt β} (ha : Yields a P)
    (hf : ∀ x, P x → Yields (f x) Q) : Yields (a >>= f) Q := by
  intro h
  have ran := ha h
  rw [ExceptT.run_bind, StateT.run_bind]
  rcases e : a.run.run h with ⟨fault | x, h'⟩
  · intro y hy
    cases hy
  · rw [e] at ran
    exact hf x (ran x rfl) h'

lemma lift {a : Action α} {f : α → Attempt β} (hf : ∀ x, Yields (f x) Q) :
    Yields (liftM a >>= f) Q := by
  intro h
  exact hf _ _

/-- The same where something is known of the answer of the action. -/
lemma consult {a : Action α} {f : α → Attempt β} (ha : a.Yields P)
    (hf : ∀ x, P x → Yields (f x) Q) : Yields (liftM a >>= f) Q := by
  intro h
  exact hf _ (ha h) _

/-- What is done with a fault may rely on the answer where there is none. -/
lemma outcome {a : Attempt α} {f : Except Fault α → Attempt β} (ha : Yields a P)
    (hf : ∀ r, (∀ x, r = .ok x → P x) → Yields (f r) Q) : Yields (a.outcome >>= f) Q := by
  intro h
  exact hf _ (ha h) _

lemma get {f : Heap → Attempt β} (hf : ∀ x, Yields (f x) Q) : Yields (MonadState.get >>= f) Q := by
  intro h
  exact hf h h

lemma weaken {a : Attempt α} (ha : Yields a P) (hP : ∀ x, P x → P' x) : Yields a P' := by
  intro h x hx
  exact hP x (ha h x hx)

end Attempt.Yields

/-- Whatever the heap, the error has `P`, if the computation is refused with one. -/
def Attempt.Refuses (a : Attempt α) (P : BuildError → Prop) : Prop :=
  Action.Yields a.run fun r => ∀ e, r = .error (.refused e) → P e

namespace Attempt.Refuses

variable {P : BuildError → Prop}

lemma any {a : Attempt α} : Refuses a fun _ => True :=
  fun _ _ _ => trivial

lemma pure {x : α} : Refuses (pure x) P := by
  intro h e he
  cases he

lemma refuse {e : BuildError} (hP : P e) : Refuses (refuse e : Attempt α) P := by
  intro h e' he
  cases he
  exact hP

lemma throw {fault : Fault} (other : ∀ e, fault ≠ .refused e) :
    Refuses (throw fault : Attempt α) P := by
  intro h e he
  exact absurd (Except.error.inj he) (other e)

lemma lift {a : Action α} {f : α → Attempt β} (hf : ∀ x, Refuses (f x) P) :
    Refuses (liftM a >>= f) P := by
  intro h
  exact hf _ _

/-- The same where something is known of the answer of the action. -/
lemma consult {a : Action α} {Q : α → Prop} {f : α → Attempt β} (ha : a.Yields Q)
    (hf : ∀ x, Q x → Refuses (f x) P) : Refuses (liftM a >>= f) P := by
  intro h
  exact hf _ (ha h) _

/-- A refusal may be given for another reason than it came about. -/
lemma outcome {a : Attempt α} {Q : BuildError → Prop} {f : Except Fault α → Attempt β}
    (ha : Refuses a Q) (hf : ∀ r, (∀ e, r = .error (.refused e) → Q e) → Refuses (f r) P) :
    Refuses (a.outcome >>= f) P := by
  intro h
  exact hf _ (ha h) _

lemma get {f : Heap → Attempt β} (hf : ∀ x, Refuses (f x) P) :
    Refuses (MonadState.get >>= f) P := by
  intro h
  exact hf h h

end Attempt.Refuses

/-- Whatever the heap, no violation stops the computation, and the answer has `P`, if there is
one. -/
def Attempt.Returns (a : Attempt α) (P : α → Prop) : Prop :=
  Action.Yields a.run fun r =>
    (∀ x, r = .ok x → P x) ∧ ∀ violation, r ≠ .error (.violated violation)

namespace Attempt.Returns

variable {P P' : α → Prop} {Q : β → Prop}

lemma pure {x : α} (hP : P x) : Returns (pure x) P := by
  intro h
  refine ⟨fun y hy => ?_, nofun⟩
  cases hy
  exact hP

lemma throw {fault : Fault} (other : ∀ violation, fault ≠ .violated violation) :
    Returns (throw fault) P := by
  intro h
  exact ⟨nofun, fun violation stopped => other violation (Except.error.inj stopped)⟩

lemma refuse {e : BuildError} : Returns (refuse e) P :=
  throw nofun

lemma tooDeep : Returns (MonadExcept.throw .tooDeep) P :=
  throw nofun

/-- What follows may rely on the answer of what comes first, and is not stopped either. -/
lemma bind {a : Attempt α} {f : α → Attempt β} (ha : Returns a P)
    (hf : ∀ x, P x → Returns (f x) Q) : Returns (a >>= f) Q := by
  intro h
  obtain ⟨yields, spared⟩ := ha h
  rw [ExceptT.run_bind, StateT.run_bind]
  rcases e : a.run.run h with ⟨fault | x, h'⟩
  · rw [e] at spared
    exact ⟨nofun, fun violation stopped =>
      spared violation (congrArg Except.error (Except.error.inj stopped))⟩
  · rw [e] at yields
    exact hf x (yields x rfl) h'

lemma lift {a : Action α} {f : α → Attempt β} (hf : ∀ x, Returns (f x) Q) :
    Returns (liftM a >>= f) Q := by
  intro h
  exact hf _ _

/-- The same where something is known of the answer of the action. -/
lemma consult {a : Action α} {f : α → Attempt β} (ha : a.Yields P)
    (hf : ∀ x, P x → Returns (f x) Q) : Returns (liftM a >>= f) Q := by
  intro h
  exact hf _ (ha h) _

/-- What is done with a fault may rely on its being no violation. -/
lemma outcome {a : Attempt α} {f : Except Fault α → Attempt β} (ha : Returns a P)
    (hf : ∀ r, (∀ x, r = .ok x → P x) → (∀ violation, r ≠ .error (.violated violation)) →
      Returns (f r) Q) : Returns (a.outcome >>= f) Q := by
  intro h
  exact hf _ (ha h).1 (ha h).2 _

lemma get {f : Heap → Attempt β} (hf : ∀ x, Returns (f x) Q) :
    Returns (MonadState.get >>= f) Q := by
  intro h
  exact hf h h

lemma weaken {a : Attempt α} (ha : Returns a P) (hP : ∀ x, P x → P' x) : Returns a P' := by
  intro h
  exact ⟨fun x hx => hP x ((ha h).1 x hx), (ha h).2⟩

end Attempt.Returns

end Metaobject
