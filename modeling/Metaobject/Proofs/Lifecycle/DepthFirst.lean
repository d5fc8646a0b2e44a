import Metaobject.Proofs.Lifecycle.Sourcing

/-!
# The order of copies

Whether a buffer has to be copied can be said of the buffer alone, by the way to it: in a
duplication all the fields on the way are marked (`Universe.NeedsCopy`), and in a construction the
origins lead to it (`Universe.NeedsSource`). The object around it has a tracker in both cases.

The lists of what has to be copied have these buffers in depth-first order, which is the order of
the indexes on the way to them. The origins are asked in the course of the construction, each one
when the buffers that come before it have been copied: that is `Transfer.moment`.
-/

namespace Metaobject

namespace Transfer

/-- The indexes of the fields that lead to the buffer. -/
def indexes (x : Transfer) : List Nat :=
  x.path.map (·.1)

/-- All the transfers that are needed, in depth-first order: their indexes are compared one after
the other. -/
structure Lists (needed : Transfer → Prop) (ts : List Transfer) : Prop where
  mem : ∀ x, x ∈ ts ↔ needed x
  sorted : ts.Pairwise (·.indexes < ·.indexes)

/-- The heap when all that come before a path have been made. -/
def moment (ts : List Transfer) (h : Heap) (path : List Nat) : Heap :=
  afterAll (ts.filter (·.indexes < path)) h

/-- Nothing comes before the whole. -/
lemma moment_nil (ts : List Transfer) (h : Heap) : moment ts h [] = h := by
  have none : ts.filter (·.indexes < []) = [] :=
    List.filter_eq_nil_iff.2 fun x _ => by simp
  rw [moment, none]
  rfl

/-- The index of a field comes before those of what is inside. -/
@[simp] lemma indexes_under (f : Field) (x : Transfer) :
    (x.under f).indexes = f.index :: x.indexes :=
  rfl

/-- The fields are at their positions, the first one at `k`. -/
def InPlaces (k : Nat) (fs : List Field) : Prop :=
  ∀ j f, fs[j]? = some f → f.index = k + j

lemma InPlaces.nil (k : Nat) : InPlaces k [] := by
  intro j f hf
  cases hf

/-- The first field is where they begin. -/
lemma InPlaces.head {k : Nat} {f : Field} {fs : List Field} (placed : InPlaces k (f :: fs)) :
    f.index = k :=
  placed 0 f rfl

/-- The others are in their places after it. -/
lemma InPlaces.tail {k : Nat} {f : Field} {fs : List Field} (placed : InPlaces k (f :: fs)) :
    InPlaces (k + 1) fs := by
  intro j g hg
  rw [placed (j + 1) g hg, Nat.add_assoc, Nat.add_comm 1 j]

/-- The transfers lead through fields from some position on. -/
def From (k : Nat) (ts : List Transfer) : Prop :=
  ∀ x ∈ ts, ∃ g y, x = under g y ∧ k ≤ g.index

lemma From.nil (k : Nat) : From k [] :=
  fun _ hx => absurd hx List.not_mem_nil

/-- What is needed for a field comes before what is needed for the fields after it. -/
lemma sorted_append {f : Field} {ts us : List Transfer}
    (first : ts.Pairwise (·.indexes < ·.indexes)) (rest : us.Pairwise (·.indexes < ·.indexes))
    (later : From (f.index + 1) us) :
    (ts.map (under f) ++ us).Pairwise (·.indexes < ·.indexes) := by
  refine List.pairwise_append.2 ⟨List.pairwise_map.2 (first.imp fun lt => ?_), rest, ?_⟩
  · exact List.cons_lt_cons_iff.2 (.inr ⟨rfl, lt⟩)
  · intro x hx y hy
    obtain ⟨x, _, rfl⟩ := List.mem_map.1 hx
    obtain ⟨g, y, rfl, lt⟩ := later y hy
    exact List.cons_lt_cons_iff.2 (.inl lt)

/-- What leads through a field, and what leads through later ones, lead through fields from it on.
-/
lemma From.append {f : Field} {k : Nat} {ts us : List Transfer} (here : f.index = k)
    (rest : From (k + 1) us) : From k (ts.map (under f) ++ us) := by
  intro x hx
  rcases List.mem_append.1 hx with first | later
  · obtain ⟨x, _, rfl⟩ := List.mem_map.1 first
    exact ⟨f, x, rfl, Nat.le_of_eq here.symm⟩
  · obtain ⟨g, y, rfl, le⟩ := rest x later
    exact ⟨g, y, rfl, Nat.le_of_succ_le le⟩

end Transfer

open Transfer

namespace Universe

/-- A duplication has to copy a buffer of a value: it is in an object with a tracker, and every
field on the way to it is marked. -/
inductive NeedsCopy (u : Universe) : Value → Transfer → Prop where
  | buffer {type : TypeId} {l : Layout} {i : Nat} {f : Field} {vs : List Value} {tr : Tracker}
      {ref : Handle} (hl : u.layout? type = some l) (hf : l.fields[i]? = some f)
      (hv : vs[i]? = some (.buffer ref)) (marked : f.recurse = true) :
      NeedsCopy u (.object type vs (some tr))
        { path := [(i, f.name)], source := ref, manager := tr.manager }
  | inside {type : TypeId} {l : Layout} {i : Nat} {f : Field} {vs : List Value}
      {a : Option Tracker} {v : Value} {x : Transfer} (hl : u.layout? type = some l)
      (hf : l.fields[i]? = some f) (hv : vs[i]? = some v) (marked : f.recurse = true)
      (deeper : NeedsCopy u v x) :
      NeedsCopy u (.object type vs a) { x with path := (i, f.name) :: x.path }

/-- A construction that `m` serves has to copy a buffer: it is the origin of a field, in the
initials or in a default instance, and the object that is made has a tracker. When the origin of the
field at a path is asked, the heap is `w path`. -/
inductive NeedsSource (u : Universe) (m : Manager) :
    (w : List Nat → Heap) → Start → Transfer → Prop where
  | buffer {w : List Nat → Heap} {s : Start} {l : Layout} {i : Nat} {f : Field} {ref : Handle}
      (hl : u.layout? s.type = some l) (tracked : l.tracked = true) (hf : l.fields[i]? = some f)
      (origin : (u.originOf (w [i]) s f).value? = some (.buffer ref)) :
      NeedsSource u m w s { path := [(i, f.name)], source := ref, manager := some m }
  | inside {w : List Nat → Heap} {s s' : Start} {l : Layout} {i : Nat} {f : Field} {x : Transfer}
      (hl : u.layout? s.type = some l) (hf : l.fields[i]? = some f)
      (origin : (u.originOf (w [i]) s f).start = some s')
      (deeper : NeedsSource u m (fun path => w (i :: path)) s' x) :
      NeedsSource u m w s { x with path := (i, f.name) :: x.path }

variable {u : Universe}

/-- The fields of a layout are in their places. -/
lemma inPlaces_fields {t : TypeId} {l : Layout} (hl : u.layout? t = some l) :
    InPlaces 0 l.fields := by
  intro j f hf
  rw [index_of_getElem? hl hf, Nat.zero_add]

/-! ### Duplications -/

section Duplications

variable {recursive : Bool} {tracked : Option (Option Manager)}

/-- What is needed for the fields is needed for one of them. -/
lemma mem_fieldTransfers {x : Transfer} : ∀ {fs : List Field} {vs : List Value},
    x ∈ u.fieldTransfers recursive tracked fs vs ↔
      ∃ (i : Nat) (f : Field) (v : Value), fs[i]? = some f ∧ vs[i]? = some v ∧
        ∃ y ∈ u.transfersAt recursive tracked f v, x = y.under f
  | fs, [] => by
    rw [fieldTransfers]
    exact ⟨nofun, fun ⟨i, f, v, _, hv, _⟩ => by cases hv⟩
  | [], v :: vs => by
    rw [fieldTransfers]
    exact ⟨nofun, fun ⟨i, f, v, hf, _⟩ => by cases hf⟩
  | f :: fs, v :: vs => by
    rw [fieldTransfers_cons, List.mem_append, List.mem_map, mem_fieldTransfers]
    constructor
    · rintro (⟨y, hy, rfl⟩ | ⟨i, g, w, hg, hw, at_g⟩)
      · exact ⟨0, f, v, rfl, rfl, y, hy, rfl⟩
      · exact ⟨i + 1, g, w, hg, hw, at_g⟩
    · rintro ⟨_ | i, g, w, hg, hw, y, hy, rfl⟩
      · cases hg
        cases hw
        exact .inl ⟨y, hy, rfl⟩
      · exact .inr ⟨i, g, w, hg, hw, y, hy, rfl⟩

/-- What is needed for the fields leads through them. -/
lemma from_fieldTransfers : ∀ {k : Nat} {fs : List Field} {vs : List Value}, InPlaces k fs →
    From k (u.fieldTransfers recursive tracked fs vs)
  | k, fs, [], _ => by
    rw [fieldTransfers]
    exact .nil k
  | k, [], v :: vs, _ => by
    rw [fieldTransfers]
    exact .nil k
  | k, f :: fs, v :: vs, placed => by
    rw [fieldTransfers_cons]
    exact .append placed.head (from_fieldTransfers placed.tail)

mutual

/-- What a duplication needs is in depth-first order. -/
lemma sorted_transfersOf : (v : Value) → ∀ recursive,
    (u.transfersOf recursive v).Pairwise (·.indexes < ·.indexes)
  | .object type vs a, recursive => by
    rw [transfersOf]
    cases hl : u.layout? type with
    | none => exact sorted_fieldTransfers vs recursive _ 0 [] (.nil 0)
    | some l => exact sorted_fieldTransfers vs recursive _ 0 l.fields (inPlaces_fields hl)
  | .null, _ | .scalar _, _ | .buffer _, _ | .reference _ _, _ | .descriptor _, _ => by
    rw [transfersOf_plain rfl]
    exact .nil

/-- The same for the fields of an object. -/
lemma sorted_fieldTransfers : (vs : List Value) → ∀ recursive tracked k fs, InPlaces k fs →
    (u.fieldTransfers recursive tracked fs vs).Pairwise (·.indexes < ·.indexes)
  | [], recursive, tracked, k, fs, _ => by
    rw [fieldTransfers]
    exact .nil
  | v :: vs, recursive, tracked, k, [], _ => by
    rw [fieldTransfers]
    exact .nil
  | v :: vs, recursive, tracked, k, f :: fs, placed => by
    rw [fieldTransfers_cons]
    have first : (u.transfersAt recursive tracked f v).Pairwise (·.indexes < ·.indexes) := by
      rcases u.twinAt_cases recursive tracked 0 f v with
        ⟨_, _, none, _⟩ | ⟨_, _, _, deep, _⟩ | ⟨_, ref, m, _, _, _, one, _⟩
      · rw [none]
        exact .nil
      · rw [deep]
        exact sorted_transfersOf v true
      · rw [one]
        exact List.pairwise_singleton ..
    have rest := sorted_fieldTransfers vs recursive tracked (k + 1) fs placed.tail
    refine sorted_append first rest ?_
    rw [placed.head]
    exact from_fieldTransfers placed.tail

end

/-- What is copied for a field: its own buffer, or what is inside of its value. -/
lemma mem_transfersAt {x : Transfer} {f : Field} {v : Value} :
    x ∈ u.transfersAt true tracked f v ↔ f.recurse = true ∧
      ((∃ ref m, v = .buffer ref ∧ tracked = some m ∧ x = { source := ref, manager := m }) ∨
        x ∈ u.transfersOf true v) := by
  rcases u.twinAt_cases true tracked 0 f v with
    ⟨flat, _, none, _⟩ | ⟨deep, other, _, inside, _⟩ | ⟨deep, ref, m, rfl, rfl, _, one, _⟩
  · rw [Bool.true_and] at flat
    rw [none, flat]
    exact ⟨nofun, fun ⟨marked, _⟩ => by cases marked⟩
  · rw [Bool.true_and] at deep
    rw [inside, deep]
    refine ⟨fun hx => ⟨rfl, .inr hx⟩, ?_⟩
    rintro ⟨_, ⟨ref, m, rfl, rfl, _⟩ | hx⟩
    · rcases other with noBuffer | noTracker
      · cases noBuffer
      · cases noTracker
    · exact hx
  · rw [Bool.true_and] at deep
    rw [one, deep, List.mem_singleton]
    refine ⟨fun hx => ⟨rfl, .inl ⟨ref, m, rfl, rfl, hx⟩⟩, ?_⟩
    rintro ⟨_, ⟨_, _, ⟨⟩, ⟨⟩, rfl⟩ | hx⟩
    · rfl
    · rw [transfersOf_plain rfl] at hx
      cases hx

/-- The list of a recursive duplication has the buffers that have to be copied. -/
lemma mem_transfersOf {v : Value} {x : Transfer} :
    x ∈ u.transfersOf true v ↔ u.NeedsCopy v x := by
  constructor
  · -- every step into a value takes one field off the path
    generalize length : x.path.length = n
    induction n generalizing v x with
    | zero =>
      intro hx
      cases v with
      | object type vs a =>
        rw [transfersOf, mem_fieldTransfers] at hx
        obtain ⟨i, f, v, _, _, y, _, rfl⟩ := hx
        cases length
      | _ =>
        rw [transfersOf_plain rfl] at hx
        cases hx
    | succ n ih =>
      intro hx
      cases v with
      | object type vs a =>
        rw [transfersOf] at hx
        cases hl : u.layout? type with
        | none =>
          rw [hl, mem_fieldTransfers] at hx
          obtain ⟨i, f, v, hf, _⟩ := hx
          cases hf
        | some l =>
          rw [hl, Option.elim_some, mem_fieldTransfers] at hx
          obtain ⟨i, f, v, hf, hv, y, hy, rfl⟩ := hx
          obtain ⟨marked, ⟨ref, m, rfl, tracked, rfl⟩ | deeper⟩ := mem_transfersAt.1 hy
          · obtain ⟨tr, rfl, rfl⟩ := Option.map_eq_some_iff.1 tracked
            rw [Transfer.under, index_of_getElem? hl hf]
            exact .buffer hl hf hv marked
          · rw [Transfer.under, index_of_getElem? hl hf]
            exact .inside hl hf hv marked (ih (Nat.succ.inj length) deeper)
      | _ =>
        rw [transfersOf_plain rfl] at hx
        cases hx
  · intro copies
    induction copies with
    | @buffer type l i f vs tr ref hl hf hv marked =>
      rw [transfersOf, hl, Option.elim_some, mem_fieldTransfers]
      refine ⟨i, f, _, hf, hv, _, mem_transfersAt.2 ⟨marked, .inl ⟨ref, _, rfl, rfl, rfl⟩⟩, ?_⟩
      rw [Transfer.under, index_of_getElem? hl hf]
    | @inside type l i f vs a v x hl hf hv marked _ ih =>
      rw [transfersOf, hl, Option.elim_some, mem_fieldTransfers]
      refine ⟨i, f, v, hf, hv, x, mem_transfersAt.2 ⟨marked, .inr ih⟩, ?_⟩
      rw [Transfer.under, index_of_getElem? hl hf]

/-- A recursive duplication copies the buffers that have to be copied, in depth-first order. -/
lemma lists_transfersOf (u : Universe) (v : Value) :
    Lists (u.NeedsCopy v) (u.transfersOf true v) :=
  ⟨fun _ => mem_transfersOf, sorted_transfersOf v true⟩

/-- A flat duplication copies no buffer. -/
lemma transfersOf_flat (v : Value) : u.transfersOf false v = [] := by
  cases v with
  | object type vs a =>
    rw [transfersOf, List.eq_nil_iff_forall_not_mem]
    intro x hx
    obtain ⟨_, f, v, _, _, y, hy, _⟩ := mem_fieldTransfers.1 hx
    rw [transfersAt, Bool.false_and] at hy
    cases hy
  | _ => exact transfersOf_plain rfl false

end Duplications

end Universe

/-! ### Constructions -/

namespace Transfer

variable {each : Heap → Field → List Transfer}

/-- What is gathered for a field is asked when what comes before it has been made. -/
lemma mem_gather {x : Transfer} : ∀ {fs : List Field} {h : Heap},
    x ∈ gather each h fs ↔ ∃ (i : Nat) (f : Field), fs[i]? = some f ∧
      ∃ y ∈ each (afterAll (gather each h (fs.take i)) h) f, x = y.under f
  | [], h => ⟨nofun, fun ⟨i, f, hf, _⟩ => by cases hf⟩
  | f :: fs, h => by
    have later : ∀ i, afterAll (gather each h ((f :: fs).take (i + 1))) h =
        afterAll (gather each (afterAll (each h f) h) (fs.take i)) (afterAll (each h f) h) := by
      intro i
      rw [List.take_succ_cons, gather, afterAll_append, afterAll_map_under]
    rw [gather, List.mem_append, List.mem_map, mem_gather]
    constructor
    · rintro (⟨y, hy, rfl⟩ | ⟨i, g, hg, y, hy, rfl⟩)
      · exact ⟨0, f, rfl, y, hy, rfl⟩
      · refine ⟨i + 1, g, hg, y, ?_, rfl⟩
        rwa [later]
    · rintro ⟨_ | i, g, hg, y, hy, rfl⟩
      · cases hg
        exact .inl ⟨y, hy, rfl⟩
      · rw [later] at hy
        exact .inr ⟨i, g, hg, y, hy, rfl⟩

/-- What is gathered for the fields leads through them. -/
lemma from_gather {k : Nat} {fs : List Field} (placed : InPlaces k fs) (h : Heap) :
    From k (gather each h fs) := by
  induction fs generalizing k h with
  | nil => exact .nil k
  | cons f fs ih => exact .append placed.head (ih placed.tail _)

/-- What is gathered is in depth-first order if it is so for each field. -/
lemma sorted_gather (sorted : ∀ h f, (each h f).Pairwise (·.indexes < ·.indexes)) {k : Nat}
    {fs : List Field} (placed : InPlaces k fs) (h : Heap) :
    (gather each h fs).Pairwise (·.indexes < ·.indexes) := by
  induction fs generalizing k h with
  | nil => exact .nil
  | cons f fs ih =>
    refine sorted_append (sorted h f) (ih placed.tail _) ?_
    rw [placed.head]
    exact from_gather placed.tail _

/-- What comes before a path is all that is gathered for the fields before its first one, and what
comes before the rest of the path in that one. -/
lemma moment_gather (each : Heap → Field → List Transfer) {i k : Nat} {f : Field}
    {fs : List Field} (placed : InPlaces k fs) (hf : fs[i]? = some f) (h : Heap) (path : List Nat) :
    moment (gather each h fs) h ((k + i) :: path) =
      moment (each (afterAll (gather each h (fs.take i)) h) f)
        (afterAll (gather each h (fs.take i)) h) path := by
  induction fs generalizing i k h with
  | nil => cases hf
  | cons g fs ih =>
    have here := placed.head
    rw [moment, gather, List.filter_append, afterAll_append, List.filter_map, afterAll_map_under]
    cases i with
    | zero =>
      cases hf
      have none : (gather each (afterAll (each h f) h) fs).filter
          (·.indexes < (k + 0) :: path) = [] := by
        refine List.filter_eq_nil_iff.2 fun x hx => ?_
        obtain ⟨g, y, rfl, le⟩ := from_gather placed.tail _ x hx
        rw [decide_eq_true_iff, indexes_under, List.cons_lt_cons_iff]
        omega
      have same : (each h f).filter ((·.indexes < (k + 0) :: path) ∘ under f) =
          (each h f).filter (·.indexes < path) := by
        refine List.filter_congr fun x _ => ?_
        simp [here]
      rw [none, same]
      rfl
    | succ i =>
      have all : (each h g).filter ((·.indexes < (k + (i + 1)) :: path) ∘ under g) = each h g := by
        refine List.filter_eq_self.2 fun x _ => ?_
        simp [List.cons_lt_cons_iff, here]
      rw [all, List.take_succ_cons, gather, afterAll_append, afterAll_map_under,
        ← ih placed.tail hf, moment, Nat.add_assoc, Nat.add_comm 1 i]

end Transfer

namespace Universe

variable {u : Universe}

/-- What a construction needs is in depth-first order, by induction on the depth. -/
lemma sorted_transfersFrom (m : Manager) (depth : Nat) : ∀ (h : Heap) (s : Start),
    (u.transfersFrom m depth h s).Pairwise (·.indexes < ·.indexes) := by
  induction depth with
  | zero => exact fun _ _ => .nil
  | succ depth ih =>
    intro h s
    rw [transfersFrom]
    cases hl : u.layout? s.type with
    | none => exact .nil
    | some l =>
      refine sorted_gather (fun h f => ?_) (inPlaces_fields hl) h
      rw [Origin.transfers]
      split
      · split
        · exact List.pairwise_singleton ..
        · exact .nil
      · cases (u.originOf h s f).start with
        | none => exact .nil
        | some s' => exact ih h s'

/-- The moment of a path begins with the fields before its first one. -/
lemma moment_fields (each : Heap → Field → List Transfer) {t : TypeId} {l : Layout}
    (hl : u.layout? t = some l) {i : Nat} {f : Field} (hf : l.fields[i]? = some f) (h : Heap)
    (path : List Nat) :
    moment (gather each h l.fields) h (i :: path) =
      moment (each (afterAll (gather each h (l.fields.take i)) h) f)
        (afterAll (gather each h (l.fields.take i)) h) path := by
  have moments := moment_gather each (inPlaces_fields hl) hf h path
  rwa [Nat.zero_add] at moments

/-- An origin asks for its own buffer, if the object has a tracker, or for what is inside of it. -/
lemma mem_transfers {m : Manager} {tracked : Bool} {inside : Start → List Transfer} {o : Origin}
    {x : Transfer} : x ∈ o.transfers m tracked inside ↔
      (∃ ref, tracked = true ∧ o.value? = some (.buffer ref) ∧
        x = { source := ref, manager := some m }) ∨
      ∃ s, o.start = some s ∧ x ∈ inside s := by
  rw [Origin.transfers]
  cases o with
  | initial v | preset v =>
    cases v with
    | buffer ref => cases tracked <;> simp [Origin.value?, Origin.start, Value.handle?]
    | _ => simp [Origin.value?, Origin.start, Value.handle?]
  | blank declared => cases declared <;> simp [Origin.value?, Origin.start]

/-- An origin that is constructed itself asks for what is inside. -/
lemma transfers_of_start {m : Manager} {tracked : Bool} {inside : Start → List Transfer}
    {o : Origin} {s : Start} (start : o.start = some s) :
    o.transfers m tracked inside = inside s := by
  have other : o.value?.bind (·.handle?) = none := by
    cases o with
    | initial v | preset v =>
      cases v with
      | object => rfl
      | _ => cases start
    | blank => rfl
  rw [Origin.transfers, other, start]
  rfl

/-- What has to be copied for a field, down to some depth. -/
def transfersFor (u : Universe) (m : Manager) (depth : Nat) (s : Start) (tracked : Bool) (h : Heap)
    (f : Field) : List Transfer :=
  (u.originOf h s f).transfers m tracked (u.transfersFrom m depth h)

/-- On one level more, what has to be copied is gathered from the fields. -/
lemma transfersFrom_succ {s : Start} {l : Layout} (hl : u.layout? s.type = some l) (m : Manager)
    (depth : Nat) (h : Heap) : u.transfersFrom m (depth + 1) h s =
      gather (u.transfersFor m depth s l.tracked) h l.fields := by
  rw [transfersFrom, hl]
  rfl

/-- A buffer has to be copied if it is the origin of a field itself, or is inside of it. -/
lemma needsSource_iff {m : Manager} {w : List Nat → Heap} {s : Start} {l : Layout}
    (hl : u.layout? s.type = some l) {x : Transfer} :
    u.NeedsSource m w s x ↔ ∃ (i : Nat) (f : Field) (y : Transfer), l.fields[i]? = some f ∧
      x = y.under f ∧ ((∃ ref, l.tracked = true ∧
        (u.originOf (w [i]) s f).value? = some (.buffer ref) ∧
          y = { source := ref, manager := some m }) ∨
      ∃ s', (u.originOf (w [i]) s f).start = some s' ∧
        u.NeedsSource m (fun path => w (i :: path)) s' y) := by
  constructor
  · rintro (⟨hl', tracked, hf, origin⟩ | ⟨hl', hf, origin, deeper⟩)
    · cases hl.symm.trans hl'
      refine ⟨_, _, _, hf, ?_, .inl ⟨_, tracked, origin, rfl⟩⟩
      rw [Transfer.under, index_of_getElem? hl hf]
    · cases hl.symm.trans hl'
      refine ⟨_, _, _, hf, ?_, .inr ⟨_, origin, deeper⟩⟩
      rw [Transfer.under, index_of_getElem? hl hf]
  · rintro ⟨i, f, y, hf, rfl, ⟨ref, tracked, origin, rfl⟩ | ⟨s', origin, deeper⟩⟩
    · rw [Transfer.under, index_of_getElem? hl hf]
      exact .buffer hl tracked hf origin
    · rw [Transfer.under, index_of_getElem? hl hf]
      exact .inside hl hf origin deeper

/-- Down to some depth, the buffers that have to be copied are those whose origins, asked when what
comes before them has been copied, lead to them. -/
lemma mem_transfersFrom {m : Manager} {depth : Nat} {h : Heap} {s : Start} {x : Transfer} :
    x ∈ u.transfersFrom m depth h s ↔ x.path.length ≤ depth ∧
      u.NeedsSource m (moment (u.transfersFrom m depth h s) h) s x := by
  induction depth generalizing h s x with
  | zero =>
    refine ⟨nofun, ?_⟩
    rintro ⟨short, needed⟩
    cases needed <;> cases short
  | succ depth ih =>
    cases hl : u.layout? s.type with
    | none =>
      rw [transfersFrom_plain hl]
      refine ⟨nofun, ?_⟩
      rintro ⟨_, ⟨hl', _⟩ | ⟨hl', _⟩⟩ <;> cases hl.symm.trans hl'
    | some l =>
      rw [transfersFrom_succ hl, mem_gather, needsSource_iff hl]
      -- the origin of a field is asked when those before it are done, and what is inside from then on
      constructor
      · rintro ⟨i, f, hf, y, hy, rfl⟩
        have moments := moment_fields (u.transfersFor m depth s l.tracked) hl hf h
        have here := (moments []).trans (moment_nil ..)
        rcases mem_transfers.1 hy with ⟨ref, tracked, value, rfl⟩ | ⟨s', start, hy⟩
        · refine ⟨Nat.succ_le_succ (Nat.zero_le _), i, f, _, hf, rfl, .inl ⟨ref, tracked, ?_, rfl⟩⟩
          rw [here]
          exact value
        · obtain ⟨short, needed⟩ := ih.1 hy
          refine ⟨Nat.succ_le_succ short, i, f, y, hf, rfl, .inr ⟨s', ?_, ?_⟩⟩
          · rw [here]
            exact start
          · rw [funext moments, transfersFor, transfers_of_start start]
            exact needed
      · rintro ⟨short, i, f, y, hf, rfl, origin⟩
        have moments := moment_fields (u.transfersFor m depth s l.tracked) hl hf h
        rw [(moments []).trans (moment_nil ..)] at origin
        refine ⟨i, f, hf, y, mem_transfers.2 ?_, rfl⟩
        rcases origin with here | ⟨s', start, deeper⟩
        · exact .inl here
        · rw [funext moments, transfersFor, transfers_of_start start] at deeper
          exact .inr ⟨s', start, ih.2 ⟨Nat.le_of_succ_le_succ short, deeper⟩⟩

/-- A construction copies the buffers that have to be copied, in depth-first order. -/
lemma lists_transfersFrom (u : Universe) (m : Manager) (depth : Nat) (h : Heap) (s : Start) :
    Lists (fun x => x.path.length ≤ depth ∧
      u.NeedsSource m (moment (u.transfersFrom m depth h s) h) s x) (u.transfersFrom m depth h s) :=
  ⟨fun _ => mem_transfersFrom, sorted_transfersFrom m depth h s⟩

end Universe

end Metaobject
