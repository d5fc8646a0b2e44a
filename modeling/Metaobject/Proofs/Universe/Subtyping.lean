import Mathlib.Algebra.GroupWithZero.Nat
import Mathlib.Logic.Relation
import Metaobject.Proofs.Universe.HookFree
import Metaobject.Proofs.Universe.WellTyped

/-!
# The order of types

A type descends from the types on its chain of bases, and from itself. Where no type on the chain
has hooks, being a subtype is just that, and so it is an order (`subtype?_eq_some_iff`,
`subtype?_antisymm`). The chain is followed anew with every question, while the layout of a struct
was put together once, when the type was made. `extends_of_descends` says that they agree: the
layout of a struct goes on where that of a struct above it ends, and what lies between is what the
types between declared.
-/

namespace Metaobject

/-- The same field, further back in the layout. -/
def Field.shift (f : Field) (n : Nat) : Field :=
  { f with index := f.index + n }

namespace Layout

/-- The sizes of the fields add up to a byte count, so that nothing is cut off from their sum. -/
def Fits (l : Layout) : Prop :=
  (l.fields.map (·.size)).sum < countLimit

/-- The fields of one layout are some fields and then those of another one. -/
structure Extends (l m : Layout) (first : List Field) : Prop where
  fields : l.fields = numberedFrom 0 first ++ m.fields.map (·.shift first.length)
  /-- The sizes are added as byte counts are. -/
  size : l.size = ((first.map (·.size)).sum + m.size) % countLimit
  /-- Where the sum of the one fits that of the other one does, and they are added as numbers are. -/
  exact : l.Fits → m.Fits ∧ l.size = (first.map (·.size)).sum + m.size
  tracked : m.tracked = true → l.tracked = true

/-! ### Numbering -/

/-- Numbering neither adds fields nor takes any away. -/
lemma length_numberedFrom (fs : List Field) (n : Nat) : (numberedFrom n fs).length = fs.length := by
  induction fs generalizing n with
  | nil => rfl
  | cons f fs ih => exact congrArg (· + 1) (ih (n + 1))

/-- The fields that come later are numbered from where the first ones end. -/
lemma numberedFrom_append (fs gs : List Field) (n : Nat) :
    numberedFrom n (fs ++ gs) = numberedFrom n fs ++ numberedFrom (n + fs.length) gs := by
  induction fs generalizing n with
  | nil => rfl
  | cons f fs ih =>
    rw [List.cons_append, numberedFrom, numberedFrom, ih, List.length_cons, List.cons_append,
      Nat.add_right_comm, Nat.add_assoc]

/-- Only the last numbering counts. -/
lemma numberedFrom_numberedFrom (fs : List Field) (n m : Nat) :
    numberedFrom n (numberedFrom m fs) = numberedFrom n fs := by
  induction fs generalizing n m with
  | nil => rfl
  | cons f fs ih => rw [numberedFrom, numberedFrom, ih, numberedFrom]

/-- Numbering from further on shifts the fields. -/
lemma numberedFrom_add (fs : List Field) (n m : Nat) :
    numberedFrom (n + m) fs = (numberedFrom n fs).map (·.shift m) := by
  induction fs generalizing n with
  | nil => rfl
  | cons f fs ih => rw [numberedFrom, numberedFrom, List.map_cons, ← ih, Nat.add_right_comm]; rfl

/-- It makes no difference whether the sum is cut off at every field or in the end. -/
lemma foldl_size (fs : List Field) (n : Nat) :
    fs.foldl (fun n f => (n + f.size) % countLimit) (n % countLimit) =
      (n + (fs.map (·.size)).sum) % countLimit := by
  induction fs generalizing n with
  | nil => rfl
  | cons f fs ih =>
    rw [List.foldl_cons, Nat.mod_add_mod, ih, List.map_cons, List.sum_cons, Nat.add_assoc]

/-- The size of a layout is the sum of the sizes of its fields, as a machine word. -/
lemma size_eq (l : Layout) : l.size = (l.fields.map (·.size)).sum % countLimit := by
  have folded := foldl_size l.fields 0
  rwa [Nat.zero_add] at folded

/-- In a layout that fits it is the sum itself. -/
lemma Fits.size_eq {l : Layout} (fits : l.Fits) : l.size = (l.fields.map (·.size)).sum := by
  rw [Layout.size_eq, Nat.mod_eq_of_lt fits]

/-- Numbering leaves the sizes. -/
lemma map_size_numberedFrom (fs : List Field) (n : Nat) :
    (numberedFrom n fs).map (·.size) = fs.map (·.size) := by
  induction fs generalizing n with
  | nil => rfl
  | cons f fs ih => rw [numberedFrom, List.map_cons, ih, List.map_cons]

/-- So does shifting the positions. -/
lemma map_size_shift (fs : List Field) (n : Nat) :
    (fs.map (·.shift n)).map (·.size) = fs.map (·.size) := by
  rw [List.map_map]
  rfl

/-- The sizes of the fields are those of the first ones and those of the others. -/
lemma sum_of_fields {l m : Layout} {first : List Field}
    (fields : l.fields = numberedFrom 0 first ++ m.fields.map (·.shift first.length)) :
    (l.fields.map (·.size)).sum = (first.map (·.size)).sum + (m.fields.map (·.size)).sum := by
  rw [fields, List.map_append, List.sum_append, map_size_numberedFrom, map_size_shift]

/-- The fields decide on the sizes. -/
lemma extends_of_fields {l m : Layout} {first : List Field}
    (fields : l.fields = numberedFrom 0 first ++ m.fields.map (·.shift first.length))
    (tracked : m.tracked = true → l.tracked = true) : l.Extends m first where
  fields := fields
  size := by
    rw [size_eq, size_eq, sum_of_fields fields, Nat.add_mod_mod]
  exact fits := by
    have sum := sum_of_fields fields
    have upper : m.Fits := by
      rw [Fits, sum] at fits
      exact Nat.lt_of_le_of_lt (Nat.le_add_left ..) fits
    exact ⟨upper, by rw [fits.size_eq, upper.size_eq, sum]⟩
  tracked := tracked

/-- A layout extends itself by nothing. -/
lemma extends_refl (m : Layout) : m.Extends m [] :=
  extends_of_fields (List.map_id m.fields).symm id

lemma Extends.trans {l m k : Layout} {first second : List Field} (lower : l.Extends m first)
    (upper : m.Extends k second) : l.Extends k (first ++ second) := by
  refine extends_of_fields ?_ (lower.tracked ∘ upper.tracked)
  rw [lower.fields, upper.fields, List.map_append, ← numberedFrom_add, numberedFrom_append,
    List.append_assoc, List.map_map, List.length_append]
  congr 2
  refine List.map_congr_left fun f _ => ?_
  rw [Function.comp_apply, Field.shift, Field.shift, Field.shift, Nat.add_assoc,
    Nat.add_comm second.length]

end Layout

namespace Universe

/-- The second type is on the chain of bases that begins with the first one. -/
def Descends (u : Universe) : TypeId → TypeId → Prop :=
  Relation.ReflTransGen fun t b => u.base? t = some b

/-- No type on the chain of bases has hooks. -/
def IsPlain (u : Universe) (t : TypeId) : Prop :=
  ∀ s, u.Descends t s → u.isSilent s = true

/-- The fields that the types below `s` declared, along the chain of bases that begins with `t`. -/
inductive DeclaredBelow (u : Universe) (s : TypeId) : TypeId → List Field → Prop where
  | here : DeclaredBelow u s s []
  | next {t b l fs} : u.layout? t = some l → l.base = some b → DeclaredBelow u s b fs →
    DeclaredBelow u s t (l.fields.take l.own ++ fs)

variable {u : Universe} {a b c : TypeId}

/-! ### The chain of bases -/

/-- A base comes earlier, or is the type itself. -/
lemma Descends.le (h : u.Descends a b) : b ≤ a := by
  induction h with
  | refl => exact Nat.le_refl _
  | tail _ last ih => exact Nat.le_trans (Nat.le_of_lt (u.base_lt last)) ih

/-- Without hooks every type is plain. -/
lemma HookFree.isPlain (free : u.HookFree) (t : TypeId) : u.IsPlain t :=
  fun s _ => free.isSilent s

/-- A plain type has no say about its supertypes. -/
lemma IsPlain.isSilent (plain : u.IsPlain a) : u.isSilent a = true :=
  plain a .refl

/-- Nor have the types that it descends from. -/
lemma IsPlain.above (plain : u.IsPlain a) (h : u.Descends a b) : u.IsPlain b :=
  fun s hs => plain s (h.trans hs)

/-- Where the type itself has no hooks, a subtype is the type itself or its base is one. -/
lemma subtype?_of_isSilent (silent : u.isSilent a = true) (b : TypeId) :
    u.subtype? a b = if a = b then some b else (u.base? a).bind (u.subtype? · b) := by
  have none := Option.isNone_iff_eq_none.1 silent
  rw [subtype?, none]
  dsimp only [Option.bind_none]
  split
  · rfl
  · split
    · rename_i base
      rw [base, Option.bind_some]
    · rename_i base
      rw [base, Option.bind_none]

/-- Without hooks the subtypes of a type are those that descend from it. -/
theorem subtype?_eq_some_iff (plain : u.IsPlain a) (w : TypeId) :
    u.subtype? a b = some w ↔ u.Descends a b ∧ w = b := by
  induction a using Nat.strongRecOn with
  | ind a ih =>
    rw [subtype?_of_isSilent plain.isSilent]
    by_cases eq : a = b
    · subst eq
      rw [if_pos rfl, Option.some.injEq]
      exact ⟨fun h => ⟨.refl, h.symm⟩, fun h => h.2.symm⟩
    · rw [if_neg eq]
      constructor
      · intro found
        obtain ⟨base, hbase, above⟩ := Option.bind_eq_some_iff.1 found
        have plain' := plain.above (.single hbase)
        obtain ⟨chain, rfl⟩ := (ih base (u.base_lt hbase) plain').1 above
        exact ⟨.head hbase chain, rfl⟩
      · rintro ⟨chain, rfl⟩
        rcases chain.cases_head with same | ⟨base, hbase, chain⟩
        · exact absurd same eq
        · have plain' := plain.above (.single hbase)
          rw [hbase, Option.bind_some]
          exact (ih base (u.base_lt hbase) plain').2 ⟨chain, rfl⟩

/-- A plain type is a subtype of those that it descends from. -/
lemma isSome_subtype?_iff (plain : u.IsPlain a) :
    (u.subtype? a b).isSome = true ↔ u.Descends a b := by
  rw [Option.isSome_iff_exists]
  constructor
  · rintro ⟨w, found⟩
    exact ((subtype?_eq_some_iff plain w).1 found).1
  · exact fun chain => ⟨b, (subtype?_eq_some_iff plain b).2 ⟨chain, rfl⟩⟩

/-- Without hooks a type is asked whether it is a supertype by asking the other one. -/
lemma supertype?_eq_subtype? (plain : u.IsPlain a) (silent : u.isSilent b = true) :
    u.supertype? b a = u.subtype? a b := by
  have none := Option.isNone_iff_eq_none.1 silent
  rw [supertype?, none]
  dsimp only [Option.bind_none]
  cases found : u.subtype? a b with
  | none => rfl
  | some w =>
    obtain ⟨_, rfl⟩ := (subtype?_eq_some_iff plain w).1 found
    rfl

/-- To be a subtype is transitive for plain types. -/
lemma subtype?_trans (plain : u.IsPlain a) (lower : (u.subtype? a b).isSome = true)
    (upper : (u.subtype? b c).isSome = true) : (u.subtype? a c).isSome = true := by
  have chain := (isSome_subtype?_iff plain).1 lower
  have above := (isSome_subtype?_iff (plain.above chain)).1 upper
  exact (isSome_subtype?_iff plain).2 (chain.trans above)

/-- A base was made earlier, so two types cannot descend from each other. -/
lemma subtype?_antisymm (plain : u.IsPlain a) (lower : (u.subtype? a b).isSome = true)
    (upper : (u.subtype? b a).isSome = true) : a = b := by
  have chain := (isSome_subtype?_iff plain).1 lower
  have back := (isSome_subtype?_iff (plain.above chain)).1 upper
  exact Nat.le_antisymm back.le chain.le

/-- A struct type accepts whatever a struct type below it accepts. -/
lemma accepts_of_subtype {l m : Layout} (hl : u.layout? a = some l) (hm : u.layout? b = some m)
    (below : (u.subtype? a b).isSome = true) {v : Value}
    (plain : ∀ t fields tracker, v = .object t fields tracker → u.IsPlain t)
    (accepted : u.accepts a v = true) : u.accepts b v = true := by
  rw [accepts_struct hl] at accepted
  rw [accepts_struct hm]
  cases v with
  | null => rfl
  | object t fields tracker => exact subtype?_trans (plain t fields tracker rfl) accepted below
  | _ => cases accepted

/-! ### The layout -/

/-- The layout of a struct goes on with that of its base, if that is a struct. -/
lemma extends_base {l m : Layout} (hl : u.layout? a = some l) (base : l.base = some b)
    (hm : u.layout? b = some m) : l.Extends m (l.fields.take l.own) := by
  obtain ⟨own, tracked, built⟩ := u.layered a l (kind_of_layout? hl)
  have inherited : (l.base.bind fun b => (u.desc b).kind.layout?) = some m := by
    rw [base, Option.bind_some]
    exact hm
  obtain ⟨own', _, built'⟩ := u.layered b m (kind_of_layout? hm)
  have built : l = .extend own l.base (some m) tracked := inherited ▸ built
  have fields : l.fields = Layout.numberedFrom 0 own ++ m.fields.map (·.shift own.length) := by
    rw [built, Layout.extend, Option.elim_some, Layout.numberedFrom_append,
      Layout.numberedFrom_add]
    rw [built', Layout.extend, Layout.numberedFrom_numberedFrom]
  have len : (Layout.numberedFrom 0 own).length = l.own := by
    rw [Layout.length_numberedFrom, built]
    rfl
  have first : l.fields.take l.own = Layout.numberedFrom 0 own := by
    rw [fields, ← len, List.take_left]
  refine Layout.extends_of_fields ?_ fun flag => ?_
  · rw [first, Layout.numberedFrom_numberedFrom, Layout.length_numberedFrom]
    exact fields
  · rw [built, Layout.extend, Option.any_some, flag, Bool.or_true]

/-- The layout of a struct is what was declared below another struct on its chain of bases, and then
the layout of that one. -/
lemma extends_of_descends {l m : Layout} (chain : u.Descends a b) (hl : u.layout? a = some l)
    (hm : u.layout? b = some m) : ∃ fs, u.DeclaredBelow b a fs ∧ l.Extends m fs := by
  induction chain using Relation.ReflTransGen.head_induction_on generalizing l with
  | refl =>
    cases hl.symm.trans hm
    exact ⟨[], .here, m.extends_refl⟩
  | @head t base hbase chain ih =>
    have base_eq : l.base = some base := by
      rw [base?, hl, Option.bind_some] at hbase
      exact hbase
    -- the next type on the chain is a struct, as it is the last one or has a base itself
    obtain ⟨k, hk⟩ : ∃ k, u.layout? base = some k := by
      rcases chain.cases_head with rfl | ⟨next, hnext, _⟩
      · exact ⟨m, hm⟩
      · obtain ⟨k, hk, _⟩ := Option.bind_eq_some_iff.1 hnext
        exact ⟨k, hk⟩
    obtain ⟨fs, below, upper⟩ := ih hk
    exact ⟨_, .next hl base_eq below, (extends_base hl base_eq hk).trans upper⟩

/-! ### Types, bases and layouts -/

/-- Of types without hooks the subtypes are those that the chains of bases say, which is an order,
and the layouts and what the types accept go along with it. -/
theorem subtyping_agrees_with_layouts (u : Universe) {a : TypeId} (plain : u.IsPlain a) :
    (∀ b w, u.subtype? a b = some w ↔ u.Descends a b ∧ w = b) ∧
    (∀ b, u.isSilent b = true → u.supertype? b a = u.subtype? a b) ∧
    (u.subtype? a a).isSome = true ∧
    (∀ b c, (u.subtype? a b).isSome = true → (u.subtype? b c).isSome = true →
      (u.subtype? a c).isSome = true) ∧
    (∀ b, (u.subtype? a b).isSome = true → (u.subtype? b a).isSome = true → a = b) ∧
    ∀ l, u.layout? a = some l →
      (∀ (i : Nat) f, l.fields[i]? = some f → f.index = i) ∧
      ∀ b m, u.layout? b = some m → (u.subtype? a b).isSome = true →
        (∃ fs, u.DeclaredBelow b a fs ∧ l.Extends m fs) ∧
        ∀ v, (∀ t fields tracker, v = .object t fields tracker → u.IsPlain t) →
          u.accepts a v = true → u.accepts b v = true := by
  refine ⟨fun b => subtype?_eq_some_iff plain, fun b => supertype?_eq_subtype? plain,
    u.subtype?_self a, fun b c => subtype?_trans plain, fun b => subtype?_antisymm plain, ?_⟩
  intro l hl
  refine ⟨fun i f => index_of_getElem? hl, fun b m hm below => ⟨?_, fun v => ?_⟩⟩
  · exact extends_of_descends ((isSome_subtype?_iff plain).1 below) hl hm
  · exact accepts_of_subtype hl hm below

/-- Types with three generations of structs. The first one is tracked and has the type of bytes as
its base. -/
def withGenerations : Universe :=
  let first : Declaration :=
    { name := "First", shape := .struct [⟨"data", .typed 14, true, none⟩] (some 14) true }
  let second : Declaration :=
    { name := "Second", shape := .struct [⟨"flag", .typed 0, false, none⟩] (some 19) false }
  let third : Declaration :=
    { name := "Third", shape := .struct [⟨"kin", .typed 19, true, none⟩, ⟨"data", .untyped 8, false,
      none⟩] (some 20) false }
  match (builtin.declare {} first).bind fun (_, u) => (u.declare {} second).bind fun (_, u) =>
      u.declare {} third with
  | some (_, u) => u
  | none => builtin

/-- The last of three generations is a subtype of the first one and of what that is built on, and no
other way round; its layout ends with the layout of the first one. -/
theorem generations_are_ordered :
    let u := withGenerations
    u.IsPlain 21 ∧ u.subtype? 21 19 = some 19 ∧ u.supertype? 14 21 = some 14 ∧
      (u.subtype? 19 21).isSome = false ∧
      (∃ l m fs, u.layout? 21 = some l ∧ u.layout? 19 = some m ∧ u.DeclaredBelow 19 21 fs ∧
        fs.map (·.name) = ["kin", "data", "flag"] ∧ l.Extends m fs ∧ l.tracked = true) ∧
      u.accepts 19 (.object 21 [] none) = true := by
  intro u
  have free : u.HookFree := hookFree_of_all rfl
  obtain ⟨subtypes, supertypes, _, _, antisymm, layouts⟩ :=
    subtyping_agrees_with_layouts u (free.isPlain 21)
  have chain : u.Descends 21 19 := .head (b := 20) rfl (.single rfl)
  have below : u.subtype? 21 19 = some 19 := (subtypes 19 19).2 ⟨chain, rfl⟩
  obtain ⟨extension, accepted⟩ := (layouts _ rfl).2 19 _ rfl (by rw [below]; rfl)
  refine ⟨free.isPlain 21, below, ?_, ?_, ?_, ?_⟩
  · rw [supertypes 14 rfl]
    exact (subtypes 14 14).2 ⟨chain.tail rfl, rfl⟩
  · by_contra back
    exact absurd (antisymm 19 (by rw [below]; rfl) (eq_true_of_ne_false back)) (by decide)
  · obtain ⟨fs, declared, ends⟩ := extension
    refine ⟨_, _, fs, rfl, rfl, declared, ?_, ends, ends.tracked rfl⟩
    rcases declared with _ | ⟨⟨⟩, ⟨⟩, _ | ⟨⟨⟩, ⟨⟩, _ | ⟨⟨⟩, ⟨⟩, _ | ⟨⟨⟩, _, _⟩⟩⟩⟩
    rfl
  · exact accepted _ (fun t _ _ _ => free.isPlain t) (accepts_self rfl _ _)

end Universe

end Metaobject
