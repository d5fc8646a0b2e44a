import Metaobject.Lifecycle.Construction
import Metaobject.Lifecycle.Duplication
import Metaobject.Proofs.Contract
import Metaobject.Proofs.Universe.HookFree

/-!
# Consulting the types

Where no type has hooks the general algorithms do everything. Where types have hooks it matters what
these build. What is not built by a hook is copied from the initials or from the default instance of
the type.
-/

namespace Metaobject

/-- What the fields of a value have, those of a value that may be missing have as well. -/
lemma Value.forall_fields? {o : Option Value} {P : List Value → Prop}
    (inside : ∀ v vs, o = some v → v.fields? = some vs → P vs) :
    ∀ vs, o.bind (·.fields?) = some vs → P vs := by
  intro vs hvs
  obtain ⟨v, hv, fields⟩ := Option.bind_eq_some_iff.1 hvs
  exact inside v vs hv fields

namespace Universe

variable {u : Universe}

/-- Without hooks nobody has a say in a construction. -/
lemma HookFree.consultConstruct (free : u.HookFree) (t : TypeId) (c : Template) :
    u.consultConstruct t c = pure .decline := by
  rw [Universe.consultConstruct, free t]
  rfl

/-- Without hooks nobody has a say in a release. -/
lemma HookFree.consultFree (free : u.HookFree) (t : TypeId) (v : Value) :
    u.consultFree t v = pure .decline := by
  rw [Universe.consultFree, free t]
  rfl

/-- Without hooks nobody has a say in a duplication. -/
lemma HookFree.consultDuplicate (free : u.HookFree) (t : TypeId) (v : Value) (recursive : Bool) :
    u.consultDuplicate t v recursive = pure .decline := by
  rw [Universe.consultDuplicate, free t]
  rfl

/-- A type without hooks leaves duplicates to the general algorithm. -/
lemma consultDuplicate_of_isSilent {t : TypeId} (silent : u.isSilent t = true) (v : Value)
    (recursive : Bool) : u.consultDuplicate t v recursive = pure .decline := by
  rw [consultDuplicate, Option.isNone_iff_eq_none.1 silent]
  rfl

/-- Whatever the hooks of the types build has `P`. -/
structure Builds (u : Universe) (P : Value → Prop) : Prop where
  construct : ∀ t b hook, (u.desc t).behavior = some b → b.construct = some hook → ∀ name c v,
    hook name c = .built v → P v
  duplicate : ∀ t b hook, (u.desc t).behavior = some b → b.duplicate = some hook →
    ∀ name v recursive w, hook name v recursive = .built w → P w

variable {P Q : Value → Prop}

/-- Without hooks they build nothing. -/
lemma HookFree.builds (free : u.HookFree) : u.Builds P where
  construct t _ _ hb := nomatch (free t).symm.trans hb
  duplicate t _ _ hb := nomatch (free t).symm.trans hb

lemma Builds.imp (builds : u.Builds P) (more : ∀ v, P v → Q v) : u.Builds Q where
  construct t b hook hb hhook name c v answered :=
    more v (builds.construct t b hook hb hhook name c v answered)
  duplicate t b hook hb hhook name v recursive w answered :=
    more w (builds.duplicate t b hook hb hhook name v recursive w answered)

/-- What the hook for constructions builds has `P`. -/
lemma Builds.consultConstruct (builds : u.Builds P) (t : TypeId) (c : Template) :
    (u.consultConstruct t c).Yields fun answer => ∀ v, answer = .built v → P v := by
  rw [Universe.consultConstruct]
  split
  · exact .pure fun v answered => by cases answered
  · rename_i hook asked
    obtain ⟨b, hb, hhook⟩ := Option.bind_eq_some_iff.1 asked
    exact .andThen fun _ => .pure fun v answered =>
      builds.construct t b hook hb hhook _ c v answered

/-- So has what the hook for duplications builds. -/
lemma Builds.consultDuplicate (builds : u.Builds P) (t : TypeId) (v : Value) (recursive : Bool) :
    (u.consultDuplicate t v recursive).Yields fun answer => ∀ w, answer = .built w → P w := by
  rw [Universe.consultDuplicate]
  split
  · exact .pure fun w answered => by cases answered
  · rename_i hook asked
    obtain ⟨b, hb, hhook⟩ := Option.bind_eq_some_iff.1 asked
    exact .andThen fun _ => .pure fun w answered =>
      builds.duplicate t b hook hb hhook _ v recursive w answered

/-! ### Sources of a construction -/

/-- A construction gets past the look at its initials if they are of exactly its type. -/
lemma filter_initials?_eq_none {t : TypeId} {c : Template} :
    c.initials?.filter (!u.isExact t ·) = none ↔
      ∀ v, c.initials? = some v → u.isExact t v = true := by
  simp only [Option.filter_eq_none_iff, Bool.not_eq_true, Bool.not_eq_false']

section

variable {h : Heap} {c : Template} {initials canonical : Option (List Value)} {f : Field}
  {v : Value}

/-- What a field is copied from stands in its place among the initials or in the default. -/
lemma getElem?_of_sourceOf (source : u.sourceOf h c initials canonical f = some v) :
    (∃ vs, initials = some vs ∧ vs[f.index]? = some v) ∨
      ∃ vs, canonical = some vs ∧ vs[f.index]? = some v := by
  rcases Option.or_eq_some_iff.1 source with first | ⟨_, second⟩
  · exact .inl (Option.bind_eq_some_iff.1 (Option.filter_eq_some_iff.1 first).1)
  · exact .inr (Option.bind_eq_some_iff.1 (Option.filter_eq_some_iff.1 second).1)

/-- What all initials and all defaults have, whatever a field is copied from has. -/
lemma forall_sourceOf {P : Value → Prop} (starts : ∀ vs, initials = some vs → ∀ w ∈ vs, P w)
    (presets : ∀ vs, canonical = some vs → ∀ w ∈ vs, P w)
    (source : u.sourceOf h c initials canonical f = some v) : P v := by
  rcases getElem?_of_sourceOf source with ⟨vs, hvs, hv⟩ | ⟨vs, hvs, hv⟩
  · exact starts vs hvs v (List.mem_of_getElem? hv)
  · exact presets vs hvs v (List.mem_of_getElem? hv)

end

/-- What is made one level down with every answer is made by the construction. -/
lemma yields_construct_succ {depth : Nat} {t : TypeId} {c : Template} {P : Value → Prop}
    (made : (u.constructWith (u.construct depth) t c).Yields P) :
    (u.construct (depth + 1) t c).Yields P := by
  rw [construct]
  refine .outcome made fun r made => ?_
  rcases r with (e | violation | _) | v
  · exact .lift fun _ => .throw
  · exact .throw
  · exact .throw
  · exact .pure (made v rfl)

end Universe

end Metaobject
