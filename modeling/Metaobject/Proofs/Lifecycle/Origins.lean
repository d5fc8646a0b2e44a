import Metaobject.Proofs.Lifecycle.DefaultRule
import Metaobject.Proofs.Lifecycle.Supply

/-!
# What an origin makes of a field

An object that follows the default rule is looked at field by field. An origin either leads to a
start, from which an object is built, or it says what the field holds: `Universe.Filled` lists the
cases, and `Universe.fields_of_follows` finds them in every object. Where no type but a struct has
an object for its default, a field holds an object only if its origin leads to a start
(`Universe.Filled.object_inv`). What an origin names is one of the values that the object started
from, or one of a default instance (`Universe.Inherited.originAt`).
-/

namespace Metaobject

/-- All values of a start have `P`. -/
def Start.All (P : Value → Prop) (s : Start) : Prop :=
  ∀ vs, s.values = some vs → ∀ v ∈ vs, P v

namespace Universe

variable {u : Universe} {h : Heap}

/-! ### Types without hooks -/

/-- Without hooks none of them makes anything that is not formed. -/
lemma HookFree.hooksForm (hooks : u.HookFree) : u.HooksForm :=
  fun t _ hb => nomatch (hooks t).symm.trans hb

/-- Without hooks all objects are made field by field. -/
lemma assembled?_of_layout? (hooks : u.HookFree) {t : TypeId} {l : Layout}
    (hl : u.layout? t = some l) : u.assembled? t = some l :=
  assembled?_eq_some.2 ⟨hooks.leavesConstruction t, hl⟩

/-- So the fields are those of the layout. -/
lemma fieldAt?_of_layout? (hooks : u.HookFree) {t : TypeId} {l : Layout}
    (hl : u.layout? t = some l) (i : Nat) : u.fieldAt? t i = l.fields[i]? := by
  rw [fieldAt?, assembled?_of_layout? hooks hl]
  rfl

/-! ### What an origin names -/

/-- What an origin names is a value of the start, or one of the default instance. -/
lemma value?_originOf_cases {s : Start} {f : Field} {v : Value}
    (value : (u.originOf h s f).value? = some v) :
    initialAt s.values f = some v ∨
      defaultAt ((u.desc s.type).canonical.bind (·.fields?)) f = some v := by
  unfold originOf at value
  split at value
  · rename_i w picked
    have present := (Option.filter_eq_some_iff.1 picked).1
    split at value <;> cases value <;> exact .inl present
  · split at value
    · rename_i w default
      cases value
      exact .inr default
    · cases value

/-- An object has `P` only if its values have, and the default instances have it. -/
structure Inherited (u : Universe) (P : Value → Prop) : Prop where
  inside : ∀ v vs, v.fields? = some vs → P v → ∀ w ∈ vs, P w
  canonical : ∀ t v, (u.desc t).canonical = some v → P v

namespace Inherited

variable {P : Value → Prop} {s s' : Start} {o : Origin} {v : Value}

/-- What an origin names has what is inherited. -/
lemma originOf (inherited : u.Inherited P) (all : s.All P) {f : Field}
    (value : (u.originOf h s f).value? = some v) : P v := by
  obtain initial | default := value?_originOf_cases value
  · obtain ⟨vs, hvs, place⟩ := Option.bind_eq_some_iff.1 initial
    exact all vs hvs v (List.mem_of_getElem? place)
  · obtain ⟨vs, hvs, place⟩ := Option.bind_eq_some_iff.1 (Option.filter_eq_some_iff.1 default).1
    obtain ⟨d, canonical, fields⟩ := Option.bind_eq_some_iff.1 hvs
    have preset := inherited.canonical s.type d canonical
    exact inherited.inside d vs fields preset v (List.mem_of_getElem? place)

/-- What an origin names brings its values to the start of what is built from it. -/
lemma start (inherited : u.Inherited P) (named : ∀ v, o.value? = some v → P v)
    (start : o.start = some s) : s.All P := by
  intro vs values
  cases o with
  | initial v | preset v =>
    cases v with
    | object t ws a =>
      cases start
      cases values
      exact inherited.inside _ _ rfl (named _ rfl)
    | _ => cases start
  | blank declared =>
    cases declared with
    | none => cases start
    | some t =>
      cases start
      cases values

/-- So has what an origin inside names. -/
lemma originAt (inherited : u.Inherited P) (all : s.All P) {m : List Nat → Heap} {p : List Nat}
    (origin : u.originAt m s p = some o) (value : o.value? = some v) : P v := by
  induction p generalizing m s with
  | nil => cases origin
  | cons i p ih =>
    cases p with
    | nil =>
      obtain ⟨f, _, rfl⟩ := Option.map_eq_some_iff.1 origin
      exact inherited.originOf all value
    | cons j p =>
      obtain ⟨s', hs', origin⟩ := Option.bind_eq_some_iff.1 origin
      obtain ⟨f, _, start⟩ := Option.bind_eq_some_iff.1 hs'
      refine ih (inherited.start (fun v value => inherited.originOf all value) start) origin

end Inherited

/-- To be formed is inherited, if the defaults are formed. -/
lemma inherited_isFormed (defaults : u.DefaultsFormed) : u.Inherited (u.isFormed · = true) where
  inside _ _ fields formed := formed_fields? formed fields
  canonical := defaults

/-- What a template starts from has what is inherited, if its initials have. -/
lemma all_of_template {P : Value → Prop} (inherited : u.Inherited P) {c : Template}
    (starts : ∀ v, c.initials? = some v → P v) (t : TypeId) (given : Bool) :
    (Start.of t c given).All P := by
  intro vs values
  obtain ⟨v, hv, fields⟩ := Option.bind_eq_some_iff.1 values
  exact inherited.inside v vs fields (starts v hv)

/-! ### What a field holds -/

/-- What a field of an object with the given tracker holds, by its origin. -/
inductive Filled (u : Universe) (m : List Nat → Heap) (h : Heap) (a : Option Tracker) :
    Origin → Value → Prop where
  /-- An object is built from a start. -/
  | object {o : Origin} {s : Start} {l : Layout} {x : Value} (start : o.start = some s)
    (hl : u.layout? s.type = some l) (object : u.ObjectOf s.type x) (follows : u.Follows m s h x) :
    Filled u m h a o x
  /-- A buffer is copied for the tracker. -/
  | adopted {o : Origin} {src : Handle} {tr : Tracker} {b : BufferId} {bytes : Bytes}
    (value : o.value? = some (.buffer src)) (tracker : a = some tr) (listed : b ∈ tr.buffers)
    (known : h.read src = some bytes) (copy : h.read (.to b) = some bytes) :
    Filled u m h a o (.buffer (.to b))
  /-- Without a tracker it is shared. -/
  | shared {o : Origin} {src : Handle} (value : o.value? = some (.buffer src))
    (untracked : a = none) : Filled u m h a o (.buffer src)
  | same {o : Origin} {v : Value} (value : o.value? = some v) (object : v.isObject = false)
    (buffer : v.handle? = none) : Filled u m h a o v
  | null : Filled u m h a (.blank none) .null
  | default {t : TypeId} (plain : u.layout? t = none) :
    Filled u m h a (.blank (some t)) ((u.desc t).canonical.elim (u.zeroOf t) (·.rawCopy))

/-- With a formed origin a field that has become what it says is filled by it. -/
lemma filled_of_becomes {m : List Nat → Heap} {a : Option Tracker} {o : Origin} {x : Value}
    (becomes : u.Becomes m h a o x) (formed : ∀ v, o.value? = some v → u.isFormed v = true) :
    u.Filled m h a o x := by
  have accords := becomes.accords
  cases o with
  | initial v | preset v =>
    cases v with
    | object t vs b =>
      obtain ⟨⟨l, hl, _⟩, _⟩ := isFormed_object.1 (formed _ rfl)
      exact .object rfl hl accords (becomes.inside _ rfl)
    | buffer src =>
      cases a with
      | none =>
        cases accords
        exact .shared rfl rfl
      | some tr =>
        obtain ⟨b, listed, bytes, rfl, known, copy⟩ := accords
        exact .adopted rfl rfl listed known copy
    | _ =>
      cases accords
      exact .same rfl rfl rfl
  | blank declared =>
    cases declared with
    | none =>
      cases accords
      exact .null
    | some t =>
      rw [Accords] at accords
      cases hl : u.layout? t with
      | none =>
        rw [hl] at accords
        cases accords
        exact .default hl
      | some l =>
        rw [hl] at accords
        exact .object rfl hl accords (becomes.inside _ rfl)

/-! ### Objects, field by field -/

/-- In an object that follows its origins every field has become what its own one says. -/
lemma Follows.inside {m : List Nat → Heap} {s : Start} {vs : List Value} {a : Option Tracker}
    {i : Nat} {f : Field} (follows : u.Follows m s h (.object s.type vs a))
    (hf : u.fieldAt? s.type i = some f) :
    ∃ x, vs[i]? = some x ∧ u.Becomes (fun q => m (i :: q)) h a (u.originOf (m [i]) s f) x := by
  have origin : u.originAt m s [i] = some (u.originOf (m [i]) s f) := by
    rw [originAt, hf]
    rfl
  obtain ⟨x, found, accords⟩ := follows [i] _ origin
  obtain ⟨y, hx, same⟩ := Option.bind_eq_some_iff.1 found
  cases same
  refine ⟨x, hx, accords, fun s' start p o ho => ?_⟩
  cases p with
  | nil => cases ho
  | cons j p =>
    have deeper : u.originAt m s (i :: j :: p) = some o := by
      rw [originAt, hf, Option.bind_some, start]
      exact ho
    obtain ⟨y, found, accords⟩ := follows _ _ deeper
    rw [Value.at?, hx] at found
    rw [List.dropLast_cons_of_ne_nil (List.cons_ne_nil j p), Value.trackerAt?, hx] at accords
    exact ⟨y, found, accords⟩

/-- An object that follows the rule has one value per field, filled by its origin. -/
lemma fields_of_follows (hooks : u.HookFree) (defaults : u.DefaultsFormed) {m : List Nat → Heap}
    {s : Start} {x : Value} {l : Layout} (formed : s.All (u.isFormed · = true))
    (hl : u.layout? s.type = some l) (object : u.ObjectOf s.type x) (follows : u.Follows m s h x) :
    ∃ vs a, x = .object s.type vs a ∧ vs.length = l.fields.length ∧
      ∀ i f, l.fields[i]? = some f → ∃ y, vs[i]? = some y ∧
        u.Filled (fun q => m (i :: q)) h a (u.originOf (m [i]) s f) y := by
  obtain ⟨vs, a, rfl, len⟩ := object l (assembled?_of_layout? hooks hl)
  refine ⟨vs, a, rfl, len, fun i f place => ?_⟩
  obtain ⟨y, hy, becomes⟩ := follows.inside ((fieldAt?_of_layout? hooks hl i).trans place)
  have inherited := inherited_isFormed defaults
  exact ⟨y, hy, filled_of_becomes becomes fun v value => inherited.originOf formed value⟩

/-- The zero of a type that is no struct is no object and no buffer. -/
lemma zeroOf_of_plain {t : TypeId} (none : u.layout? t = none) :
    (u.zeroOf t).isObject = false ∧ (u.zeroOf t).handle? = Option.none := by
  rw [zeroOf_plain none]
  cases (u.desc t).kind <;> exact ⟨rfl, rfl⟩

/-- The default of a type that is no struct is no object. -/
lemma isObject_default (plain : u.PlainDefaults) {t : TypeId} (none : u.layout? t = none) :
    ((u.desc t).canonical.elim (u.zeroOf t) (·.rawCopy)).isObject = false := by
  cases default : (u.desc t).canonical with
  | some v => exact (isObject_rawCopy v).trans (plain t v none default)
  | none => exact (zeroOf_of_plain none).1

/-- An object in a field was built from a start. -/
lemma Filled.object_inv (plain : u.PlainDefaults) {m : List Nat → Heap} {a b : Option Tracker}
    {o : Origin} {x : Value} {t : TypeId} {vs : List Value} (filled : u.Filled m h a o x)
    (object : x = .object t vs b) : ∃ s l, o.start = some s ∧ u.layout? s.type = some l ∧
      u.ObjectOf s.type x ∧ u.Follows m s h x := by
  have is : x.isObject = true := congrArg Value.isObject object
  cases filled with
  | object start hl object follows => exact ⟨_, _, start, hl, object, follows⟩
  | same _ other => cases other.symm.trans is
  | default none => cases (isObject_default plain none).symm.trans is
  | _ => cases object

/-- Inside of an object that follows the rule every value fills its place as its origin says. -/
lemma filled_of_follows (hooks : u.HookFree) (defaults : u.DefaultsFormed)
    (plain : u.PlainDefaults) {p : List Nat} (ne : p ≠ []) {m : List Nat → Heap} {s : Start}
    {x y : Value} {l : Layout} (formed : s.All (u.isFormed · = true))
    (hl : u.layout? s.type = some l) (object : u.ObjectOf s.type x) (follows : u.Follows m s h x)
    (found : x.at? p = some y) :
    ∃ m' o, u.originAt m s p = some o ∧ u.Filled m' h (x.trackerAt? p.dropLast) o y := by
  induction p generalizing m s x l with
  | nil => exact absurd rfl ne
  | cons i p ih =>
    obtain ⟨vs, a, rfl, len, fields⟩ := fields_of_follows hooks defaults formed hl object follows
    obtain ⟨z, hz, found⟩ := Option.bind_eq_some_iff.1 found
    have lt : i < l.fields.length := len ▸ (List.getElem?_eq_some_iff.1 hz).1
    have hf := List.getElem?_eq_getElem lt
    have declared := (fieldAt?_of_layout? hooks hl i).trans hf
    obtain ⟨_, hz', filled⟩ := fields i _ hf
    cases hz.symm.trans hz'
    cases p with
    | nil =>
      cases found
      refine ⟨_, _, ?_, filled⟩
      rw [originAt, declared]
      rfl
    | cons j p =>
      have inside : ∃ t ws b, z = .object t ws b := by
        cases z with
        | object t ws b => exact ⟨t, ws, b, rfl⟩
        | _ => cases found
      obtain ⟨_, _, _, isObject⟩ := inside
      obtain ⟨s', l', start, hl', object, follows⟩ := filled.object_inv plain isObject
      have formed' : s'.All (u.isFormed · = true) :=
        (inherited_isFormed defaults).start (fun v value =>
          (inherited_isFormed defaults).originOf formed value) start
      obtain ⟨m', o, origin, filled⟩ := ih (List.cons_ne_nil j p) formed' hl' object follows found
      refine ⟨m', o, ?_, ?_⟩
      · rw [originAt, declared, Option.bind_some, start]
        exact origin
      · rw [List.dropLast_cons_of_ne_nil (List.cons_ne_nil j p), Value.trackerAt?, hz]
        exact filled

end Universe

end Metaobject
