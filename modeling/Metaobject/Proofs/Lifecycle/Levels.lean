import Metaobject.Proofs.Lifecycle.Assembly

/-!
# More levels change nothing

A construction that came to its end with some number of levels comes to the same end with more of
them, on the same heap: `Universe.run_construct_of_le`.
-/

namespace Metaobject

open Attempt

variable {α β : Type}

/-- Where the first computation does not go too deep, the second one does the same. -/
def Attempt.Settles (a b : Attempt α) : Prop :=
  ∀ h, (a.run.run h).1 ≠ .error .tooDeep → b.run.run h = a.run.run h

namespace Attempt.Settles

lemma refl (a : Attempt α) : Settles a a :=
  fun _ _ => rfl

/-- One after the other two computations settle if each of them does. -/
lemma bind {a b : Attempt α} {f g : α → Attempt β} (first : Settles a b)
    (rest : ∀ x, Settles (f x) (g x)) : Settles (a >>= f) (b >>= g) := by
  intro h
  have same := first h
  rw [ExceptT.run_bind, StateT.run_bind, ExceptT.run_bind, StateT.run_bind]
  generalize a.run.run h = r at same ⊢
  obtain ⟨fault | x, h'⟩ := r
  · intro ended
    rw [same fun deep => ended (congrArg Except.error (Except.error.inj deep))]
    rfl
  · intro ended
    rw [same nofun]
    exact rest x h' ended

lemma lift {a : Action α} {f g : α → Attempt β} (rest : ∀ x, Settles (f x) (g x)) :
    Settles (liftM a >>= f) (liftM a >>= g) :=
  fun _ => rest _ _

lemma get {f g : Heap → Attempt β} (rest : ∀ x, Settles (f x) (g x)) :
    Settles (MonadState.get >>= f) (MonadState.get >>= g) :=
  fun h => rest h h

/-- Whoever looks at the outcome goes too deep himself if that is what it is. -/
lemma outcome {a b : Attempt α} {f g : Except Fault α → Attempt β} (first : Settles a b)
    (passed : ∀ h, ((f (.error .tooDeep)).run.run h).1 = .error .tooDeep)
    (rest : ∀ r, Settles (f r) (g r)) : Settles (a.outcome >>= f) (b.outcome >>= g) := by
  intro h
  rw [run_outcome, run_outcome]
  intro ended
  rw [first h fun deep => ended (by rw [deep]; exact passed _)]
  exact rest _ _ ended

end Attempt.Settles

namespace Universe

variable {u : Universe} {nested nested' : TypeId → Template → Attempt Value}

/-- After a field the rest settles, and so does a fault, which is passed on. -/
lemma settles_settle (t : TypeId) (f : Field) (built : List Value) (a : Option Tracker)
    (note : Action Unit) {next next' : List Value → Option Tracker → Attempt Value}
    (rest : ∀ built a, Settles (next built a) (next' built a))
    (r : Except Fault (Value × Option Tracker)) :
    Settles (u.settle t f built a note next r) (u.settle t f built a note next' r) := by
  rcases r with (e | violation | _) | ⟨v, a'⟩
  · exact .refl _
  · exact .refl _
  · exact .refl _
  · exact rest (built ++ [v]) a'

/-- The value of a field settles, if the constructions below do. -/
lemma settles_made (below : ∀ t c, Settles (nested t c) (nested' t c)) (c : Template) (m : Manager)
    (initials canonical : Option (List Value)) (h : Heap) (f : Field) (a : Option Tracker) :
    Settles (u.made nested c m initials canonical h f a)
      (u.made nested' c m initials canonical h f a) := by
  rw [made, made]
  split
  · rename_i v _
    cases v with
    | object s vs tr => exact .bind (below _ _) fun _ => .refl _
    | _ => exact .refl _
  · refine .bind ?_ fun _ => .refl _
    rw [defaultFor, defaultFor]
    split
    · exact .refl _
    · split
      · exact below _ _
      · exact .refl _

/-- So do the values of all fields. -/
lemma settles_constructFields (below : ∀ t c, Settles (nested t c) (nested' t c)) (t : TypeId)
    (c : Template) (m : Manager) (initials canonical : Option (List Value)) (fs : List Field) :
    ∀ built a, Settles (u.constructFields nested t c m initials canonical fs built a)
      (u.constructFields nested' t c m initials canonical fs built a) := by
  induction fs with
  | nil => exact fun _ _ => .refl _
  | cons f fs ih =>
    intro built a
    rw [constructFields_cons, constructFields_cons]
    refine .get fun h => .outcome ?_ (fun _ => rfl) fun r => settles_settle t f built a _ ih r
    exact settles_made below c m initials canonical h f a

/-- So does a structure. -/
lemma settles_constructStruct (below : ∀ t c, Settles (nested t c) (nested' t c)) (t : TypeId)
    (c : Template) : Settles (u.constructStruct nested t c) (u.constructStruct nested' t c) := by
  rw [constructStruct, constructStruct]
  split
  · exact .refl _
  · refine .lift fun m => ?_
    dsimp only
    split
    · exact .refl _
    · exact settles_constructFields below t c m _ _ _ _ _

/-- And so does a value of any type. -/
lemma settles_constructWith (below : ∀ t c, Settles (nested t c) (nested' t c)) (t : TypeId)
    (c : Template) : Settles (u.constructWith nested t c) (u.constructWith nested' t c) := by
  rw [constructWith, constructWith]
  split
  · exact .refl _
  · refine .lift fun answer => ?_
    split
    · exact .refl _
    · exact .refl _
    · exact settles_constructStruct below t c
    · split
      · exact settles_constructStruct below t c
      · exact .refl _
      · exact .refl _

/-- One level more settles a construction, by induction on the depth. -/
lemma settles_construct (depth : Nat) : ∀ t c,
    Settles (u.construct depth t c) (u.construct (depth + 1) t c) := by
  induction depth with
  | zero => exact fun t c h ended => absurd rfl ended
  | succ depth ih =>
    intro t c
    rw [construct, construct]
    exact .outcome (settles_constructWith ih t c) (fun _ => rfl) fun _ => .refl _

/-- A construction that came to its end does so with more levels, and in the same way. -/
lemma run_construct_of_le {depth d : Nat} (le : depth ≤ d) {t : TypeId} {c : Template} {h : Heap}
    (ended : ((u.construct depth t c).run.run h).1 ≠ .error .tooDeep) :
    (u.construct d t c).run.run h = (u.construct depth t c).run.run h := by
  induction le with
  | refl => rfl
  | step _ ih =>
    rw [← ih]
    refine settles_construct _ t c h ?_
    rwa [ih]

end Universe

end Metaobject
