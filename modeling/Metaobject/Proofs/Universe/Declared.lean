import Mathlib.Data.List.Forall2
import Mathlib.Logic.Relation
import Metaobject.Proofs.Universe.Formed

/-!
# What was declared

A descriptor has the layout of a struct ready to use: the list of all fields, those of the bases
included, and a flag for the tracker. What was said when the types were declared is kept here, and a
layout is `Faithful` to it: the fields are those of the declarations along the chain of bases, and
there is a tracker if one was asked for anywhere on that chain.
-/

namespace Metaobject

open Universe

/-- The shapes that types were declared with. Types that are always there were not declared. -/
abbrev Declared := TypeId → Option Shape

namespace Declared

/-- A struct was declared. -/
def IsStruct (d : Declared) (t : TypeId) : Prop :=
  ∃ own base tracked, d t = some (.struct own base tracked)

/-- A struct was declared on top of a base. -/
def Base (d : Declared) (t b : TypeId) : Prop :=
  ∃ own tracked, d t = some (.struct own (some b) tracked)

/-- The type, or some struct on its chain of bases, was declared with a tracker. -/
def Tracked (d : Declared) (t : TypeId) : Prop :=
  ∃ s, Relation.ReflTransGen d.Base t s ∧ ∃ own base, d s = some (.struct own base true)

/-- All fields of a struct: its own, then those of its base if that is a struct. -/
inductive Fields (d : Declared) : TypeId → List FieldDecl → Prop where
  | root {t own tracked} : d t = some (.struct own none tracked) → Fields d t own
  | onOther {t own b tracked} : d t = some (.struct own (some b) tracked) → ¬ d.IsStruct b →
    Fields d t own
  | onStruct {t own b tracked inherited} : d t = some (.struct own (some b) tracked) →
    Fields d b inherited → Fields d t (own ++ inherited)

/-- One more type was declared. -/
def add (d : Declared) (t : TypeId) (s : Shape) : Declared :=
  fun r => if r = t then some s else d r

end Declared

/-- A field is as it was declared. -/
structure Field.As (f : Field) (d : FieldDecl) : Prop where
  name : f.name = d.name
  type : f.type = d.mentions
  recurse : f.recurse = d.recurse
  check : f.check = d.check

/-- Every layout extends that of the base by the fields that were declared, and nothing but a
declared struct has a layout. -/
structure Declared.Faithful (d : Declared) (u : Universe) : Prop where
  struct : ∀ t own base tracked, d t = some (.struct own base tracked) →
    ∃ fs, List.Forall₂ Field.As fs own ∧
      u.layout? t = some (.extend fs base (base.bind u.layout?) tracked)
  other : ∀ t, ¬ d.IsStruct t → u.layout? t = none

namespace Declared

variable {d : Declared} {u u' : Universe}

/-! ### Reading a layout -/

/-- Numbering leaves fields as they are declared. -/
lemma as_numberedFrom {fs : List Field} {ds : List FieldDecl} (same : List.Forall₂ Field.As fs ds) :
    ∀ n, List.Forall₂ Field.As (Layout.numberedFrom n fs) ds := by
  induction same with
  | nil => exact fun _ => .nil
  | cons first _ ih =>
    exact fun n => .cons ⟨first.name, first.type, first.recurse, first.check⟩ (ih _)

/-- A type with a layout was declared as a struct. -/
lemma Faithful.isStruct (faithful : d.Faithful u) {t : TypeId} {l : Layout}
    (hl : u.layout? t = some l) : d.IsStruct t := by
  by_contra other
  cases (faithful.other t other).symm.trans hl

/-- A type without a layout was not. -/
lemma Faithful.not_isStruct (faithful : d.Faithful u) {t : TypeId} (ht : u.layout? t = none) :
    ¬ d.IsStruct t := by
  rintro ⟨own, base, tracked, hd⟩
  obtain ⟨_, _, layout⟩ := faithful.struct t own base tracked hd
  cases ht.symm.trans layout

/-- The layout of a declared struct is that of its declaration, on top of a base made earlier. -/
lemma Faithful.layout (faithful : d.Faithful u) {t : TypeId} {l : Layout}
    (hl : u.layout? t = some l) :
    ∃ own base tracked fs, d t = some (.struct own base tracked) ∧ List.Forall₂ Field.As fs own ∧
      l = .extend fs base (base.bind u.layout?) tracked ∧ ∀ b, base = some b → b < t := by
  obtain ⟨own, base, tracked, hd⟩ := faithful.isStruct hl
  obtain ⟨fs, same, layout⟩ := faithful.struct t own base tracked hd
  cases hl.symm.trans layout
  refine ⟨own, base, tracked, fs, hd, same, rfl, fun b hb => u.base_lt ?_⟩
  rw [base?, layout, Option.bind_some]
  exact hb

/-- A tracker was asked for by the type itself or on the chain above it. -/
lemma tracked_iff {t : TypeId} {own : List FieldDecl} {base : Option TypeId} {tracked : Bool}
    (hd : d t = some (.struct own base tracked)) :
    d.Tracked t ↔ tracked = true ∨ ∃ b, base = some b ∧ d.Tracked b := by
  constructor
  · rintro ⟨s, chain, own', base', hs⟩
    rcases chain.cases_head with rfl | ⟨b, ⟨_, _, hb⟩, above⟩
    · cases hd.symm.trans hs
      exact .inl rfl
    · cases hd.symm.trans hb
      exact .inr ⟨b, rfl, s, above, own', base', hs⟩
  · rintro (rfl | ⟨b, rfl, s, above, asked⟩)
    · exact ⟨t, .refl, own, base, hd⟩
    · exact ⟨s, .head ⟨own, tracked, hd⟩ above, asked⟩

/-- A type that is tracked is a struct. -/
lemma Tracked.isStruct {t : TypeId} (h : d.Tracked t) : d.IsStruct t := by
  obtain ⟨s, chain, own, base, hs⟩ := h
  rcases chain.cases_head with rfl | ⟨b, ⟨own', tracked, hb⟩, _⟩
  · exact ⟨own, base, true, hs⟩
  · exact ⟨own', some b, tracked, hb⟩

/-- The flag in a layout is set if a tracker was asked for along the chain of bases. -/
lemma Faithful.tracked_iff (faithful : d.Faithful u) {t : TypeId} {l : Layout}
    (hl : u.layout? t = some l) : l.tracked = true ↔ d.Tracked t := by
  -- bases were made earlier, so the induction follows the chain
  induction t using Nat.strongRecOn generalizing l with
  | ind t ih =>
    obtain ⟨own, base, tracked, fs, hd, _, rfl, earlier⟩ := faithful.layout hl
    rw [Declared.tracked_iff hd, Layout.extend, Bool.or_eq_true_iff]
    refine or_congr_right ?_
    cases base with
    | none =>
      constructor
      · intro flag
        cases flag
      · rintro ⟨_, above, _⟩
        cases above
    | some b =>
      rw [Option.bind_some]
      cases hb : u.layout? b with
      | none =>
        constructor
        · intro flag
          cases flag
        · rintro ⟨_, ⟨⟩, above⟩
          exact absurd above.isStruct (faithful.not_isStruct hb)
      | some lb =>
        have above := ih b (earlier b rfl) hb
        constructor
        · exact fun flag => ⟨b, rfl, above.1 flag⟩
        · rintro ⟨_, ⟨⟩, asked⟩
          exact above.2 asked

/-- The fields in a layout are those that were declared along the chain of bases. -/
lemma Faithful.fields (faithful : d.Faithful u) {t : TypeId} {l : Layout}
    (hl : u.layout? t = some l) : ∃ ds, d.Fields t ds ∧ List.Forall₂ Field.As l.fields ds := by
  induction t using Nat.strongRecOn generalizing l with
  | ind t ih =>
    obtain ⟨own, base, tracked, fs, hd, same, rfl, earlier⟩ := faithful.layout hl
    cases base with
    | none =>
      refine ⟨own, .root hd, as_numberedFrom ?_ 0⟩
      rw [Option.bind_none, Option.elim_none, List.append_nil]
      exact same
    | some b =>
      rw [Option.bind_some]
      cases hb : u.layout? b with
      | none =>
        refine ⟨own, .onOther hd (faithful.not_isStruct hb), as_numberedFrom ?_ 0⟩
        rw [Option.elim_none, List.append_nil]
        exact same
      | some lb =>
        obtain ⟨inherited, declared, above⟩ := ih b (earlier b rfl) hb
        refine ⟨own ++ inherited, .onStruct hd declared, as_numberedFrom ?_ 0⟩
        exact List.rel_append same above

/-- A field was declared with the struct that it is inherited from. -/
lemma Fields.declared {t : TypeId} {ds : List FieldDecl} (fields : d.Fields t ds) :
    ∀ f ∈ ds, ∃ s own base tracked, d s = some (.struct own base tracked) ∧ f ∈ own := by
  induction fields with
  | root hd => exact fun f hf => ⟨_, _, _, _, hd, hf⟩
  | onOther hd _ => exact fun f hf => ⟨_, _, _, _, hd, hf⟩
  | onStruct hd _ ih =>
    intro f hf
    rcases List.mem_append.1 hf with own | inherited
    · exact ⟨_, _, _, _, hd, own⟩
    · exact ih f inherited

/-- What the check of a field compares with was there when the field was declared. -/
lemma Faithful.checked (faithful : d.Faithful u) {t : TypeId} {l : Layout}
    (hl : u.layout? t = some l) {f : Field} (hf : f ∈ l.fields) {c : DefaultCheck}
    (hc : f.check = some c) : ∃ s shape, d s = some shape ∧ ∀ w ∈ c.held, w ∈ shape.held := by
  obtain ⟨ds, fields, same⟩ := faithful.fields hl
  obtain ⟨i, hi, rfl⟩ := List.getElem_of_mem hf
  have hi' : i < ds.length := same.length_eq ▸ hi
  have as : Field.As l.fields[i] ds[i] := same.get hi hi'
  obtain ⟨s, own, base, tracked, hd, mem⟩ := fields.declared _ (List.getElem_mem hi')
  refine ⟨s, _, hd, fun w hw => List.mem_flatMap.2 ⟨_, mem, ?_⟩⟩
  rw [FieldDecl.held, ← as.check, hc]
  exact hw

/-! ### Making types -/

/-- To begin with no structs are declared, and there are none. -/
lemma faithful_builtin : Faithful (fun _ => none) builtin where
  struct _ _ _ _ hd := nomatch hd
  other t _ := layout?_builtin t

/-- What is declared is what is made. -/
lemma Faithful.declare (faithful : d.Faithful u) {h : Heap} {c : Declaration} {t : TypeId}
    (made : u.declare h c = some (t, u')) : (d.add t c.shape).Faithful u' := by
  obtain ⟨rfl, mentions, desc⟩ := declare_eq made
  have new : u'.layout? u.size = (u.kindOf h c.shape).layout? := by
    rw [layout?, desc, if_pos rfl, describe]
  have old : ∀ {s}, s ≠ u.size → u'.layout? s = u.layout? s := fun other => by
    rw [layout?, desc, if_neg other, layout?]
  -- a base is older than the new type, so its layout is what it was
  have inherited : ∀ {base : Option TypeId}, (∀ b, base = some b → b < u.size) →
      base.bind u'.layout? = base.bind u.layout? := by
    rintro (_ | b) earlier
    · rfl
    · exact old (Nat.ne_of_lt (earlier b rfl))
  constructor
  · intro s own base tracked hs
    by_cases eq : s = u.size
    · subst eq
      rw [add, if_pos rfl] at hs
      rw [Option.some.inj hs] at new mentions
      rw [inherited fun b hb => mentions b (by rw [Shape.mentions, hb]; exact List.mem_cons_self)]
      refine ⟨own.map (u.field h), ?_, new⟩
      rw [List.forall₂_map_left_iff, List.forall₂_same]
      exact fun f _ => ⟨rfl, rfl, rfl, rfl⟩
    · rw [add, if_neg eq] at hs
      obtain ⟨fs, same, layout⟩ := faithful.struct s own base tracked hs
      rw [inherited fun b hb => ?_]
      · exact ⟨fs, same, (old eq).trans layout⟩
      · have below : b < s := u.base_lt (by rw [base?, layout]; exact hb)
        exact Nat.lt_trans below (lt_size_of_layout? layout)
  · intro s other
    by_cases eq : s = u.size
    · subst eq
      rw [new]
      cases hs : c.shape with
      | struct own base tracked =>
        exact absurd ⟨own, base, tracked, by rw [add, if_pos rfl, hs]⟩ other
      | _ => rfl
    · rw [old eq]
      refine faithful.other s ?_
      rintro ⟨own, base, tracked, hs⟩
      apply other
      rw [IsStruct, add, if_neg eq]
      exact ⟨own, base, tracked, hs⟩

/-- A default changes no declaration. -/
lemma Faithful.setCanonical (faithful : d.Faithful u) {t : TypeId} {v : Value}
    (set : u.setCanonical t v = some u') : d.Faithful u' := by
  have same : u'.layout? = u.layout? := funext (layout?_setCanonical set)
  constructor
  · rw [same]
    exact faithful.struct
  · rw [same]
    exact faithful.other

end Declared

end Metaobject
