import Mathlib.Tactic.Lemma
import Metaobject.Universe.Typing

/-!
# Shaped values

A value is shaped if every object in it is of a struct type and has one value per field. Whatever
makes objects checks that much; what the fields hold is another matter.

The zero of a type is made of the zeros of the types of its fields, and what they all have is proved
by induction along these.
-/

namespace Metaobject

/-- A type is either the one that was added or what it was before. -/
lemma Descriptor.among_push (ds : Array Descriptor) (d : Descriptor) (t : TypeId) :
    among (ds.push d) t = if t = ds.size then d else among ds t := by
  rcases Nat.lt_trichotomy t ds.size with lt | eq | gt
  · rw [among_push_lt lt, if_neg (Nat.ne_of_lt lt)]
  · rw [among_push_eq eq, if_pos eq]
  · rw [among_push_gt gt, if_neg (Nat.ne_of_gt gt), among,
      Array.getElem?_eq_none (Nat.le_of_lt gt), Option.getD_none]

/-- The zero of a type that is no struct goes by its kind. -/
def TypeKind.zero : TypeKind → Value
  | scalar k => .scalar k.zero
  | reference k => .reference k 0
  | _ => .null

/-- No zero of a kind is an object. -/
lemma TypeKind.isObject_zero (k : TypeKind) : k.zero.isObject = false := by
  cases k <;> rfl

namespace Universe

mutual

/-- Every object in the value is of a struct type, with one value per field. -/
def isShaped (u : Universe) : Value → Bool
  | .object type fields _ =>
    (u.layout? type).any (·.fields.length = fields.length) && allShaped u fields
  | _ => true

/-- The same for the values of an object. -/
def allShaped (u : Universe) : List Value → Bool
  | [] => true
  | v :: vs => isShaped u v && allShaped u vs

end

variable {u : Universe}

/-- A type with a layout is a struct. -/
lemma kind_of_layout? {t : TypeId} {l : Layout} (hl : u.layout? t = some l) :
    (u.desc t).kind = .struct l := by
  unfold layout? at hl
  cases hk : (u.desc t).kind with
  | struct l' =>
    rw [hk] at hl
    exact congrArg TypeKind.struct (Option.some.inj hl)
  | _ =>
    rw [hk] at hl
    cases hl

/-- A struct has its layout. -/
lemma layout?_of_kind {t : TypeId} {l : Layout} (hk : (u.desc t).kind = .struct l) :
    u.layout? t = some l := by
  rw [layout?, hk]
  rfl

/-- Only structs have a layout. -/
lemma layout?_eq_none {t : TypeId} (plain : ∀ l, (u.desc t).kind ≠ .struct l) :
    u.layout? t = none :=
  Option.eq_none_iff_forall_ne_some.2 fun l hl => plain l (kind_of_layout? hl)

/-- The type of a shaped object has as many fields as the object has values. -/
lemma layout_of_isShaped {t : TypeId} {xs : List Value} {a : Option Tracker}
    (hx : u.isShaped (.object t xs a) = true) :
    ∃ l, u.layout? t = some l ∧ l.fields.length = xs.length ∧ u.allShaped xs = true := by
  obtain ⟨any, all⟩ := Bool.and_eq_true_iff.1 hx
  cases hl : u.layout? t with
  | none =>
    rw [hl] at any
    cases any
  | some l =>
    rw [hl] at any
    exact ⟨l, rfl, of_decide_eq_true any, all⟩

/-- A struct type accepts null, and it accepts an object if the type of the object is a subtype. -/
lemma accepts_struct {t : TypeId} {l : Layout} (hl : u.layout? t = some l) (v : Value) :
    u.accepts t v = match v with
      | .null => true
      | .object type _ _ => (u.subtype? type t).isSome
      | _ => false := by
  unfold accepts
  rw [kind_of_layout? hl]
  cases v <;> rfl

/-! ### Zeros -/

/-- The zero of a type that is no struct is that of its kind. -/
lemma zeroOf_plain {t : TypeId} (plain : u.layout? t = none) :
    u.zeroOf t = (u.desc t).kind.zero := by
  rw [zeroOf]
  split
  case h_2 l hk => cases (layout?_of_kind hk).symm.trans plain
  all_goals
    rename_i hk
    rw [hk]
    rfl

/-- The zero of a struct has the zeros of its fields. -/
lemma zeroOf_struct {t : TypeId} {l : Layout} (hk : (u.desc t).kind = .struct l) :
    u.zeroOf t = .object t (l.fields.map fun f => f.type.elim .null u.zeroOf)
      (if l.tracked then some {} else none) := by
  rw [zeroOf]
  split
  all_goals
    rename_i hk'
    cases hk.symm.trans hk'
  congr 1
  rw [← List.attach_map_subtype_val l.fields, List.map_map, List.attach_map_subtype_val]
  refine List.map_congr_left fun f _ => ?_
  rw [Function.comp]
  split
  · rename_i ft hft
    rw [hft]
    rfl
  · rename_i hft
    rw [hft]
    rfl

/-- What plain zeros have, and a struct whose fields have it, the zero of every type has. -/
lemma zeroOf_induction {P : TypeId → Value → Prop}
    (plain : ∀ t, u.layout? t = none → P t (u.desc t).kind.zero)
    (struct : ∀ t l, u.layout? t = some l →
      (∀ f ∈ l.fields, ∀ s, f.type = some s → P s (u.zeroOf s)) →
      P t (.object t (l.fields.map fun f => f.type.elim .null u.zeroOf)
        (if l.tracked then some {} else none))) (t : TypeId) : P t (u.zeroOf t) := by
  induction t using Nat.strongRecOn with
  | ind t ih =>
    cases hl : u.layout? t with
    | none =>
      rw [zeroOf_plain hl]
      exact plain t hl
    | some l =>
      have hk := kind_of_layout? hl
      rw [zeroOf_struct hk]
      exact struct t l hl fun f hf s hs => ih s (u.fieldType_lt hk hf hs)

/-- The same for what has nothing to do with the type of a value. -/
lemma zeroOf_forall {P : Value → Prop} (plain : ∀ k : TypeKind, P k.zero)
    (struct : ∀ t l vs, u.layout? t = some l → vs.length = l.fields.length → (∀ v ∈ vs, P v) →
      P (.object t vs (if l.tracked then some {} else none))) (t : TypeId) : P (u.zeroOf t) := by
  refine zeroOf_induction (P := fun _ => P) (fun t _ => plain _) (fun t l hl inside => ?_) t
  refine struct t l _ hl (List.length_map ..) fun v hv => ?_
  obtain ⟨f, hf, rfl⟩ := List.mem_map.1 hv
  cases hs : f.type with
  | none => exact plain .bytes
  | some s => exact inside f hf s hs

end Universe

end Metaobject
