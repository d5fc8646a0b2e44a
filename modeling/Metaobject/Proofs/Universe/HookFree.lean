import Mathlib.Tactic.Lemma
import Metaobject.Comparison.Structural

/-!
# Types without hooks

Where no type has hooks nothing but the layouts and the kinds of the types counts. For what is done
with one value it is enough that none of the types in it has any.
-/

namespace Metaobject

namespace Universe

/-- No type has hooks. -/
def HookFree (u : Universe) : Prop :=
  ∀ t, (u.desc t).behavior = none

variable {u : Universe}

/-- It is enough to look at the types that were made. -/
lemma hookFree_of_all (all : u.descriptors.toList.all (·.behavior.isNone) = true) : u.HookFree := by
  intro t
  unfold desc Descriptor.among
  cases ht : u.descriptors[t]? with
  | none => rfl
  | some d =>
    have mem := (Array.mem_of_getElem? ht).val
    exact Option.isNone_iff_eq_none.1 (List.all_eq_true.1 all d mem)

/-- The types that are always there have no hooks. -/
lemma builtin_hookFree : builtin.HookFree :=
  hookFree_of_all rfl

/-! ### Values -/

/-- The type has no hooks. -/
def isSilent (u : Universe) (t : TypeId) : Bool :=
  (u.desc t).behavior.isNone

mutual

/-- The types of the objects in the value have no hooks, nor do the types of their fields. -/
def isHookless (u : Universe) : Value → Bool
  | .object type values _ =>
    u.isSilent type && ((u.layout? type).elim [] (·.fields)).all (·.type.all u.isSilent) &&
      areHookless u values
  | _ => true

/-- The same for the values of an object. -/
def areHookless (u : Universe) : List Value → Bool
  | [] => true
  | v :: vs => isHookless u v && areHookless u vs

end

/-- An object is without hooks if its type, the types of its fields and its values are. -/
lemma isHookless_object {t : TypeId} {l : Layout} (hl : u.layout? t = some l) {vs : List Value}
    {a : Option Tracker} : u.isHookless (.object t vs a) = true ↔
      u.isSilent t = true ∧ (∀ f ∈ l.fields, ∀ s, f.type = some s → u.isSilent s = true) ∧
        u.areHookless vs = true := by
  rw [isHookless, hl, Option.elim_some, Bool.and_eq_true_iff, Bool.and_eq_true_iff,
    List.all_eq_true, and_assoc]
  simp only [Option.all_eq_true]

/-- Values are without hooks if each of them is. -/
lemma areHookless_cons {v : Value} {vs : List Value} : u.areHookless (v :: vs) = true ↔
    u.isHookless v = true ∧ u.areHookless vs = true :=
  Bool.and_eq_true_iff

/-- Without hooks every type is silent. -/
lemma HookFree.isSilent (free : u.HookFree) (t : TypeId) : u.isSilent t = true := by
  rw [Universe.isSilent, free t]
  rfl

mutual

/-- And every value is without them. -/
lemma HookFree.isHookless (free : u.HookFree) : (v : Value) → u.isHookless v = true
  | .object t vs _ => by
    have fields : ∀ f : Field, f.type.all u.isSilent = true := fun f =>
      (Option.all_eq_true ..).2 fun s _ => free.isSilent s
    rw [Universe.isHookless, free.isSilent t, free.areHookless vs,
      List.all_eq_true.2 fun f _ => fields f]
    rfl
  | .null | .scalar _ | .buffer _ | .reference _ _ | .descriptor _ => rfl

/-- So are the values of an object. -/
lemma HookFree.areHookless (free : u.HookFree) : (vs : List Value) → u.areHookless vs = true
  | [] => rfl
  | v :: vs => areHookless_cons.2 ⟨free.isHookless v, free.areHookless vs⟩

end

end Universe

end Metaobject
