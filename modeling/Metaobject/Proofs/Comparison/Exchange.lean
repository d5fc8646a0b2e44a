import Metaobject.Proofs.Universe.HookFree
import Metaobject.Proofs.Universe.Shape

/-!
# Exchanging the operands

A comparison is reflected when its operands are exchanged. For values inside other values this is a
matter between types: a field without a comparer of its own type is compared by the type of the
object on the left, so what the comparer of that type says of null and of objects of other types has
to fit in with what is said from the other side. `Universe.Agree` is that condition, and
`Universe.exchange_iff_agree` says that it is exactly what is needed;
`Universe.exchange_fails` is a comparer that reflects its own verdicts and does not agree.
-/

namespace Metaobject

/-! ### Scalars and byte strings -/

namespace Verdict

/-- A verdict that comes from an ordering turns around with it. -/
lemma ofOrdering_exchange {α : Type} [Ord α] [Std.OrientedOrd α] (a b : α) :
    ofOrdering (compare a b) = (ofOrdering (compare b a)).invert := by
  rw [invert_ofOrdering, ← Std.OrientedCmp.eq_swap]

end Verdict

/-- So does the verdict on two scalars. -/
lemma Scalar.compare_exchange (a b : Scalar) : a.compare b = (b.compare a).invert := by
  cases a with
  | bool x =>
    cases b with
    | bool y => exact Verdict.ofOrdering_exchange x.toNat y.toNat
    | _ => rfl
  | char x =>
    cases b with
    | char y => exact Verdict.ofOrdering_exchange x.toNat y.toNat
    | _ => rfl
  | int k x =>
    cases b with
    | int l y =>
      rw [compare, compare]
      by_cases same : k = l
      · subst same
        rw [if_pos rfl, if_pos rfl]
        exact Verdict.ofOrdering_exchange (k.value x) (k.value y)
      · rw [if_neg same, if_neg (Ne.symm same)]
        rfl
    | _ => rfl
  | float k x =>
    cases b with
    | float l y =>
      rw [compare, compare]
      by_cases same : k = l
      · subst same
        rw [if_pos rfl, if_pos rfl]
        cases k.rank x with
        | none => cases k.rank y <;> rfl
        | some p =>
          cases k.rank y with
          | none => rfl
          | some q => exact Verdict.ofOrdering_exchange p q
      · rw [if_neg same, if_neg (Ne.symm same)]
        rfl
    | _ => rfl

/-- And the order of two byte strings. -/
lemma Bytes.order_swap (a b : Bytes) : a.order b = (Bytes.order b a).swap := by
  induction a generalizing b with
  | nil => cases b <;> rfl
  | cons x xs ih =>
    cases b with
    | nil => rfl
    | cons y ys =>
      show (Ord.compare x y).then (order xs ys) = ((Ord.compare y x).then (order ys xs)).swap
      rw [Ordering.swap_then, ← Std.OrientedCmp.eq_swap, ← ih]

/-! ### Values -/

namespace Universe

variable {u : Universe} {h : Heap}

/-- What the comparer of a type says is reflected when the operands are exchanged. -/
def Reflects (u : Universe) (h : Heap) (c : OwnComparer) : Prop :=
  ∀ x y, u.isShaped x → u.isShaped y →
    c.verdict h x y (fun _ => u.compare h x y) (fun _ => u.compareFirst h x y) =
      (c.verdict h y x (fun _ => u.compare h y x) (fun _ => u.compareFirst h y x)).invert

/-- Every comparer reflects. -/
def AllReflect (u : Universe) (h : Heap) : Prop :=
  ∀ t c, u.ownComparer? t = some c → u.Reflects h c

/-- Seen through its own type an object comes after null, and two objects of different types are
seen alike from both sides. -/
structure Agree (u : Universe) (h : Heap) : Prop where
  null : ∀ t xs a, u.isShaped (.object t xs a) →
    u.compareAs h t (.object t xs a) .null = .greater
  mixed : ∀ t xs a t' ys b, u.isShaped (.object t xs a) → u.isShaped (.object t' ys b) → t ≠ t' →
    u.compareAs h t (.object t xs a) (.object t' ys b) =
      (u.compareAs h t' (.object t' ys b) (.object t xs a)).invert

/-- Two values declared as one type are compared alike from both sides if their structures are. -/
lemma compareAs_exchange (reflect : u.AllReflect h) (t : TypeId) {x y : Value}
    (hx : u.isShaped x) (hy : u.isShaped y) (whole : u.compare h x y = (u.compare h y x).invert) :
    u.compareAs h t x y = (u.compareAs h t y x).invert := by
  unfold compareAs verdictAs
  rw [Bool.and_comm]
  split
  · cases hc : u.ownComparer? t with
    | none => exact whole
    | some c => exact reflect t c hc x y hx hy
  · rfl

/-- An object and a value that is none are seen alike from both sides. -/
lemma compareAs_null_or_other (agree : u.Agree h) {t : TypeId} {xs : List Value}
    {a : Option Tracker} {y : Value} (hx : u.isShaped (.object t xs a)) (hy : y.isObject = false) :
    u.compareAs h t (.object t xs a) y = (u.compare h y (.object t xs a)).invert := by
  obtain ⟨l, hl, _, _⟩ := layout_of_isShaped hx
  cases y with
  | null =>
    rw [agree.null t xs a hx, compare]
    · rfl
    · exact fun null => nomatch null
  | object t' ys b => cases hy
  | _ =>
    rw [compareAs, verdictAs, accepts_struct hl, accepts_struct hl, Bool.and_false]
    simp only [compare]
    rfl

/-- The verdict on field values turns around, if that on the whole values does. -/
lemma fieldVerdict_exchange (reflect : u.AllReflect h) (agree : u.Agree h)
    (declared : Option TypeId) {x y : Value} (hx : u.isShaped x) (hy : u.isShaped y)
    (whole : u.compare h x y = (u.compare h y x).invert) :
    u.fieldVerdict h declared x y (fun _ => u.compare h x y) (fun _ => u.compareFirst h x y) =
      (u.fieldVerdict h declared y x (fun _ => u.compare h y x)
        (fun _ => u.compareFirst h y x)).invert := by
  unfold fieldVerdict
  cases hc : declared.bind u.ownComparer? with
  | some c =>
    obtain ⟨t, _, ht⟩ := Option.bind_eq_some_iff.1 hc
    exact reflect t c ht x y hx hy
  | none =>
    -- without a comparer of the field the type of the left operand decides
    cases ox : x.isObject with
    | true =>
      cases x with
      | object t xs a =>
        cases oy : y.isObject with
        | true =>
          cases y with
          | object t' ys b =>
            by_cases same : t = t'
            · subst same
              exact compareAs_exchange reflect t hx hy whole
            · exact agree.mixed t xs a t' ys b hx hy same
          | _ => cases oy
        | false =>
          have seen := compareAs_null_or_other agree hx oy
          cases y with
          | object t' ys b => cases oy
          | _ => exact seen
      | _ => cases ox
    | false =>
      cases oy : y.isObject with
      | true =>
        cases y with
        | object t ys b =>
          have seen := congrArg Verdict.invert (compareAs_null_or_other agree hy ox)
          rw [Verdict.invert_invert] at seen
          cases x with
          | object t' xs a => cases ox
          | _ => exact seen.symm
        | _ => cases oy
      | false =>
        cases x with
        | object t xs a => cases ox
        | _ =>
          cases y with
          | object t' ys b => cases oy
          | _ => exact whole

/-- Values of which one is no object are compared without asking any type. -/
lemma compare_exchange_plain {x : Value} (hx : x.isObject = false) (y : Value) :
    u.compare h x y = (u.compare h y x).invert := by
  cases x with
  | object t xs a => cases hx
  | null => cases y <;> simp only [compare] <;> rfl
  | scalar a =>
    cases y with
    | scalar b =>
      rw [compare, compare]
      exact Scalar.compare_exchange a b
    | _ => simp only [compare]; rfl
  | buffer a =>
    cases y with
    | buffer b =>
      rw [compare, compare]
      cases h.read a with
      | none => cases h.read b <;> rfl
      | some xs =>
        cases h.read b with
        | none => rfl
        | some ys =>
          show Verdict.ofOrdering _ = (Verdict.ofOrdering _).invert
          rw [Verdict.invert_ofOrdering, ← Bytes.order_swap]
    | _ => simp only [compare]; rfl
  | reference k a =>
    cases y with
    | reference l b =>
      rw [compare, compare]
      by_cases same : k = l
      · rw [if_pos same, if_pos same.symm]
        exact Verdict.ofOrdering_exchange a b
      · rw [if_neg same, if_neg (Ne.symm same)]
        rfl
    | _ => simp only [compare]; rfl
  | descriptor s =>
    cases y with
    | descriptor t =>
      rw [compare, compare]
      by_cases same : s = t
      · rw [if_pos same, if_pos same.symm]
        rfl
      · rw [if_neg same, if_neg (Ne.symm same)]
        exact Verdict.ofOrdering_exchange (u.name s) (u.name t)
    | _ => simp only [compare]; rfl

mutual

/-- Where the types agree the structural comparison is reflected. -/
lemma compare_exchange (reflect : u.AllReflect h) (agree : u.Agree h) : (x y : Value) →
    u.isShaped x → u.isShaped y → u.compare h x y = (u.compare h y x).invert
  | .object t xs a, y, hx, hy => by
    cases y with
    | object t' ys b =>
      obtain ⟨_, _, _, allx⟩ := layout_of_isShaped hx
      obtain ⟨_, _, _, ally⟩ := layout_of_isShaped hy
      rw [compare, compare]
      by_cases same : t = t'
      · subst same
        rw [if_pos rfl, if_pos rfl]
        cases u.layout? t with
        | none => rfl
        | some l => exact compareFields_exchange reflect agree xs l.fields ys allx ally
      · rw [if_neg same, if_neg (Ne.symm same)]
        rfl
    | _ => rw [compare_exchange_plain rfl (.object t xs a), Verdict.invert_invert]
  | .null, y, _, _ => compare_exchange_plain rfl y
  | .scalar _, y, _, _ => compare_exchange_plain rfl y
  | .buffer _, y, _, _ => compare_exchange_plain rfl y
  | .reference _ _, y, _, _ => compare_exchange_plain rfl y
  | .descriptor _, y, _, _ => compare_exchange_plain rfl y

/-- The same field by field, by induction on the values of the first object. -/
lemma compareFields_exchange (reflect : u.AllReflect h) (agree : u.Agree h) :
    (xs : List Value) → ∀ (declared : List Field) (ys : List Value), u.allShaped xs →
      u.allShaped ys →
      u.compareFields h declared xs ys = (u.compareFields h declared ys xs).invert
  | [], declared, ys, _, _ => by
    cases ys with
    | nil => rfl
    | cons y ys =>
      rw [compareFields, compareFields]
      rfl
  | x :: xs, declared, ys, hxs, hys => by
    cases ys with
    | nil =>
      rw [compareFields, compareFields]
      rfl
    | cons y ys =>
      obtain ⟨hx, hxs⟩ := Bool.and_eq_true_iff.1 hxs
      obtain ⟨hy, hys⟩ := Bool.and_eq_true_iff.1 hys
      have first := fieldVerdict_exchange reflect agree (declared.head?.bind (·.type)) hx hy
        (compare_exchange reflect agree x y hx hy)
      have rest := compareFields_exchange reflect agree xs declared.tail ys hxs hys
      rw [compareFields, compareFields, first]
      cases u.fieldVerdict h (declared.head?.bind (·.type)) y x (fun _ => u.compare h y x)
        (fun _ => u.compareFirst h y x) with
      | equal => exact rest
      | _ => rfl

end

/-- The comparison by type turns around with the structural one and the comparers. -/
lemma compareTyped_exchange (reflect : u.AllReflect h)
    (structural : ∀ x y, u.isShaped x → u.isShaped y → u.compare h x y = (u.compare h y x).invert)
    (c : Context) (x y : Option Value) (hx : x.all u.isShaped) (hy : y.all u.isShaped) :
    u.compareTyped h c x y = (u.compareTyped h c y x).invert := by
  cases x with
  | none => cases y <;> rfl
  | some x =>
    cases y with
    | none => rfl
    | some y =>
      have declared := fun t => compareAs_exchange reflect t hx hy (structural x y hx hy)
      have outside : (fun t => u.isOutside t x || u.isOutside t y) =
          fun t => u.isOutside t y || u.isOutside t x := funext fun t => Bool.or_comm ..
      unfold compareTyped
      dsimp only
      rw [outside]
      split
      · rfl
      · cases hs : (carriedType? x).or c.type? with
        | none => cases (carriedType? y).or c.type? <;> rfl
        | some s =>
          cases ht : (carriedType? y).or c.type? with
          | none => rfl
          | some t =>
            show (if s = t then _ else _) = (if t = s then _ else _ : Verdict).invert
            by_cases same : s = t
            · subst same
              rw [if_pos rfl, if_pos rfl]
              exact declared s
            · rw [if_neg same, if_neg (Ne.symm same)]
              cases c.type? with
              | none => rfl
              | some e => exact declared e

/-! ### What is needed of the types -/

/-- A struct with some fields whose declared types bring no comparers. -/
def Hosts (u : Universe) (t : TypeId) (l : Layout) : Prop :=
  u.layout? t = some l ∧ l.fields ≠ [] ∧ ∀ f ∈ l.fields, f.type.bind u.ownComparer? = none

/-- Fields with null in them are equal, if no comparer is asked. -/
lemma compareFields_nulls (n : Nat) (declared : List Field)
    (bare : ∀ f ∈ declared, f.type.bind u.ownComparer? = none) :
    u.compareFields h declared (List.replicate n .null) (List.replicate n .null) = .equal := by
  induction n generalizing declared with
  | zero =>
    rw [List.replicate_zero, compareFields]
  | succ n ih =>
    have none : (declared.head?.bind (·.type)).bind u.ownComparer? = none := by
      cases declared with
      | nil => rfl
      | cons f fs => exact bare f (List.mem_cons_self ..)
    rw [List.replicate_succ, compareFields]
    unfold fieldVerdict
    rw [none]
    simp only [compare]
    exact ih declared.tail fun f hf => bare f (List.mem_of_mem_tail hf)

/-- An object that holds some value in its first field, and null in the others. -/
def hostOf (t : TypeId) (l : Layout) (x : Value) : Value :=
  .object t (x :: List.replicate (l.fields.length - 1) .null) none

/-- Null is shaped as any type asks. -/
lemma allShaped_nulls (n : Nat) : u.allShaped (List.replicate n .null) = true := by
  induction n with
  | zero => rfl
  | succ n ih => exact ih

/-- A host is shaped if what it holds is. -/
lemma isShaped_hostOf {t : TypeId} {l : Layout} (hosts : u.Hosts t l) {x : Value}
    (hx : u.isShaped x) : u.isShaped (hostOf t l x) = true := by
  obtain ⟨hl, some_field, _⟩ := hosts
  have pos := List.length_pos_iff.2 some_field
  unfold hostOf isShaped allShaped
  rw [hl, hx, allShaped_nulls, List.length_cons, List.length_replicate]
  simp only [Option.any_some, Bool.and_true, decide_eq_true_eq]
  omega

/-- Two such objects are compared by what they hold, as values of an untyped field. -/
lemma compare_hostOf {t : TypeId} {l : Layout} (hosts : u.Hosts t l) (x y : Value) :
    u.compare h (hostOf t l x) (hostOf t l y) =
      u.fieldVerdict h none x y (fun _ => u.compare h x y) (fun _ => u.compareFirst h x y) := by
  obtain ⟨hl, some_field, bare⟩ := hosts
  have none : (l.fields.head?.bind (·.type)).bind u.ownComparer? = Option.none := by
    cases hf : l.fields with
    | nil => exact absurd hf some_field
    | cons f fs => exact bare f (hf ▸ List.mem_cons_self ..)
  have nulls := compareFields_nulls (u := u) (h := h) (l.fields.length - 1) l.fields.tail
    fun f hf => bare f (List.mem_of_mem_tail hf)
  have same : u.fieldVerdict h (l.fields.head?.bind (·.type)) x y (fun _ => u.compare h x y)
      (fun _ => u.compareFirst h x y) = u.fieldVerdict h Option.none x y
      (fun _ => u.compare h x y) (fun _ => u.compareFirst h x y) := by
    unfold fieldVerdict
    rw [none]
    rfl
  unfold hostOf
  rw [compare, if_pos rfl, hl]
  show u.compareFields h l.fields _ _ = _
  rw [compareFields, nulls, same]
  cases u.fieldVerdict h Option.none x y (fun _ => u.compare h x y)
    (fun _ => u.compareFirst h x y) <;> rfl

/-- The types have to agree about a value that a host holds, if hosts turn around. -/
lemma agree_of_exchange {t : TypeId} {l : Layout} (hosts : u.Hosts t l)
    (structural : ∀ x y, u.isShaped x → u.isShaped y →
      u.compare h x y = (u.compare h y x).invert) : u.Agree h := by
  have held : ∀ x y, u.isShaped x → u.isShaped y → _ := fun x y hx hy => by
    have seen := structural _ _ (isShaped_hostOf hosts hx) (isShaped_hostOf hosts hy)
    rw [compare_hostOf hosts, compare_hostOf hosts] at seen
    exact seen
  constructor
  case null =>
    intro s xs a hx
    refine (held (.object s xs a) .null hx rfl).trans ?_
    show (u.compare h .null (.object s xs a)).invert = .greater
    rw [compare]
    · rfl
    · exact fun null => nomatch null
  case mixed =>
    intro s xs a s' ys b hx hy _
    exact held (.object s xs a) (.object s' ys b) hx hy

/-- Comparers that reflect their own verdicts make the comparison of values reflected, by structure
and by type, if the types agree; and they have to agree, once there is a struct that can hold
anything. -/
theorem exchange_iff_agree (reflect : u.AllReflect h) :
    (u.Agree h →
      (∀ x y, u.isShaped x → u.isShaped y → u.compare h x y = (u.compare h y x).invert) ∧
      ∀ c x y, x.all u.isShaped → y.all u.isShaped →
        u.compareTyped h c x y = (u.compareTyped h c y x).invert) ∧
    ((∃ t l, u.Hosts t l) →
      (∀ x y, u.isShaped x → u.isShaped y → u.compare h x y = (u.compare h y x).invert) →
      u.Agree h) := by
  refine ⟨fun agree => ?_, fun hosts structural => ?_⟩
  · have structural := compare_exchange reflect agree
    exact ⟨structural, compareTyped_exchange reflect structural⟩
  · obtain ⟨t, l, hosts⟩ := hosts
    exact agree_of_exchange hosts structural

/-! ### A struct with a comparer of its own -/

/-- An empty struct that is compared by `f`, and a struct with one untyped field. -/
def withOwn (f : Heap → Context → Option Value → Option Value → Verdict) : Universe :=
  let own : Declaration :=
    { name := "Own", shape := .struct [] none false
      behavior := some { comparer := some { rule := .custom f } } }
  let holder : Declaration :=
    { name := "Holder", shape := .struct [⟨"any", .untyped 8, false, none⟩] none false }
  match (builtin.declare {} own).bind fun (_, u) => u.declare {} holder with
  | some (_, u) => u
  | none => builtin

variable {f : Heap → Context → Option Value → Option Value → Verdict}

/-- The other types are those that are always there. -/
lemma desc_withOwn (t : TypeId) : t = 19 ∨ t = 20 ∨ (withOwn f).desc t = builtin.desc t := by
  have made : (withOwn f).descriptors = (builtin.descriptors.push _).push _ := rfl
  rw [desc]
  rw [made, Descriptor.among_push, Descriptor.among_push]
  split
  · rename_i holder
    exact .inr (.inl holder)
  · split
    · rename_i own
      exact .inl own
    · exact .inr (.inr rfl)

/-- No other type has a comparer. -/
lemma ownComparer?_withOwn {t : TypeId} {c : OwnComparer}
    (hc : (withOwn f).ownComparer? t = some c) : t = 19 ∧ c = { rule := .custom f } := by
  unfold ownComparer? at hc
  rcases desc_withOwn t with rfl | rfl | known
  · cases hc
    exact ⟨rfl, rfl⟩
  · cases hc
  · rw [known, builtin_hookFree t] at hc
    cases hc

/-- The struct with the comparer and the holder are the only structs. -/
lemma layout?_withOwn {t : TypeId} {l : Layout} (hl : (withOwn f).layout? t = some l) :
    t = 19 ∨ t = 20 := by
  unfold layout? at hl
  rcases desc_withOwn t with own | holder | known
  · exact .inl own
  · exact .inr holder
  · rw [known] at hl
    cases hl.symm.trans (layout?_builtin t)

/-- Objects of different types cannot be compared with each other. -/
lemma compareAs_withOwn {h : Heap} {t t' : TypeId} {xs ys : List Value} {a b : Option Tracker}
    (hx : (withOwn f).isShaped (.object t xs a)) (hy : (withOwn f).isShaped (.object t' ys b))
    (ne : t ≠ t') : (withOwn f).compareAs h t (.object t xs a) (.object t' ys b) = .mismatch := by
  obtain ⟨l, hl, _, _⟩ := layout_of_isShaped hx
  obtain ⟨l', hl', _, _⟩ := layout_of_isShaped hy
  unfold compareAs verdictAs
  split
  · rename_i both
    cases hc : (withOwn f).ownComparer? t with
    | none =>
      show (withOwn f).compare h _ _ = _
      rw [compare, if_neg ne]
    | some c =>
      obtain ⟨rfl, _⟩ := ownComparer?_withOwn hc
      obtain rfl | rfl := layout?_withOwn hl'
      · exact absurd rfl ne
      · have accepted := (Bool.and_eq_true_iff.1 both).2
        rw [accepts_struct hl] at accepted
        have none : (withOwn f).subtype? 20 19 = none := by
          rw [subtype?]
          rfl
        change ((withOwn f).subtype? 20 19).isSome = true at accepted
        rw [none] at accepted
        cases accepted
  · rfl

/-- The holder is a host. -/
lemma hosts_withOwn (f : Heap → Context → Option Value → Option Value → Verdict) :
    (withOwn f).Hosts 20 (.extend [⟨"any", 0, 8, none, false, none⟩] none none false) := by
  refine ⟨rfl, ?_, ?_⟩
  · exact List.cons_ne_nil _ _
  · intro g hg
    rw [List.mem_singleton.1 hg]
    rfl

/-- All comparers turn around if the one that there is does. -/
lemma allReflect_withOwn {h : Heap}
    (reflects : ∀ x y : Value, f h .none (some x) (some y) = (f h .none (some y) (some x)).invert) :
    (withOwn f).AllReflect h := by
  intro t c hc x y _ _
  obtain ⟨_, rfl⟩ := ownComparer?_withOwn hc
  exact reflects x y

/-- A comparer for which all values are equal reflects its own verdicts, and yet an object that
holds a value of its type is equal to one that holds null, while that one is less. -/
theorem exchange_fails :
    let u := withOwn fun _ _ _ _ => .equal
    let x := Value.object 20 [.object 19 [] none] none
    let y := Value.object 20 [.null] none
    u.AllReflect {} ∧ u.isShaped x ∧ u.isShaped y ∧
      u.compare {} x y = .equal ∧ u.compare {} y x = .less := by
  intro u x y
  refine ⟨allReflect_withOwn fun _ _ => rfl, rfl, rfl, ?_, rfl⟩
  have accepted : u.accepts 19 (.object 19 [] none) = true := u.subtype?_self 19
  have field : u.fieldVerdict {} none (.object 19 [] none) .null
      (fun _ => u.compare {} (.object 19 [] none) .null)
      (fun _ => u.compareFirst {} (.object 19 [] none) .null) = .equal := by
    unfold fieldVerdict
    show u.verdictAs {} 19 _ _ _ _ = .equal
    rw [verdictAs, accepted]
    rfl
  exact (compare_hostOf (hosts_withOwn _) (.object 19 [] none) .null).trans field

/-- The comparison of null with whatever is not null. -/
def nullFirst : Heap → Context → Option Value → Option Value → Verdict :=
  fun _ _ x y => .ofOrdering (Ord.compare (rank x) (rank y))
where
  rank (v : Option Value) : Nat := if v.all (·.isNull) then 0 else 1

/-- The types with such a comparer agree, and comparisons are reflected. -/
theorem exchange_iff_agree_nullFirst :
    (withOwn nullFirst).AllReflect {} ∧
      ∀ x y, (withOwn nullFirst).isShaped x → (withOwn nullFirst).isShaped y →
        (withOwn nullFirst).compare {} x y = ((withOwn nullFirst).compare {} y x).invert := by
  have reflect : (withOwn nullFirst).AllReflect {} :=
    allReflect_withOwn fun _ _ => Verdict.ofOrdering_exchange _ _
  have agree : (withOwn nullFirst).Agree {} := by
    constructor
    case null =>
      intro t xs a hx
      obtain ⟨l, hl, _, _⟩ := layout_of_isShaped hx
      have accepted : (withOwn nullFirst).accepts t (.object t xs a) = true :=
        (accepts_struct hl _).trans (subtype?_self _ t)
      rw [compareAs, verdictAs, accepted, accepts_struct hl]
      cases hc : (withOwn nullFirst).ownComparer? t with
      | none =>
        simp only [compare]
        rfl
      | some c =>
        obtain ⟨_, rfl⟩ := ownComparer?_withOwn hc
        rfl
    case mixed =>
      intro t xs a t' ys b hx hy ne
      rw [compareAs_withOwn hx hy ne, compareAs_withOwn hy hx (Ne.symm ne)]
      rfl
  exact ⟨reflect, ((exchange_iff_agree reflect).1 agree).1⟩

end Universe

end Metaobject
