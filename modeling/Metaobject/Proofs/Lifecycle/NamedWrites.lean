import Metaobject.Proofs.Lifecycle.Assignment

/-!
# Writing named fields

A write names a field, and the first field of that name is meant. `Universe.FieldWritten` and
`Universe.BytesWritten` say what comes of writing a value and of writing bytes: when the write is
taken, what stays as it was when it is not, and what there is afterwards when it is.
`Universe.named_writes` is that every write comes to that.

What a field held before goes with the write, and with it the buffers that its own trackers own. A
handle to one of these may be the very value that was written: `Universe.written_handle_dies`.
-/

namespace Metaobject

open Metaobject.Action

variable {base h h' h'' : Heap} {held bs : List BufferId} {o : Outside}

/-- The field is the first one of that name. -/
structure Layout.FirstNamed (l : Layout) (name : String) (i : Nat) (f : Field) : Prop where
  there : l.fields[i]? = some f
  named : f.name = name
  first : ∀ j < i, ∀ g, l.fields[j]? = some g → g.name ≠ name

/-- Every buffer but some is alive if it was, and it reads as before. -/
def Heap.KeepsBut (bs : List BufferId) (h h' : Heap) : Prop :=
  ∀ ref, (∀ b ∈ bs, ref ≠ .to b) → h'.read ref = h.read ref ∧ h'.isLive ref = h.isLive ref

/-- When what was deferred is done, the manager of the tracker answers a request for `size` zero
bytes with a block of that length. -/
def Tracker.Granted (t : Tracker) (size : Nat) (h : Heap) : Prop :=
  ∃ b, ((allocateZeroed (t.ensureSetup.run h).1.manager size 1).run
    (t.ensureSetup.run h).2).1 = some b ∧ b.bytes.length = size

/-- The edit writes a named field. -/
def Program.Edit.IsNamed : Program.Edit → Prop
  | writeField .. | writeBytes .. => True
  | _ => False

/-- Makes some edits, one after the other. -/
def Program.editAll (u : Universe) (v : Value) (edits : List Program.Edit) : Action Value :=
  edits.foldlM (Program.Edit.run u) v

namespace Layout

variable {l : Layout} {name : String} {i j : Nat} {f g : Field}

/-- What is found by a name is the first field of that name. -/
lemma indexOf?_eq_some_iff : l.indexOf? name = some i ↔ ∃ f, l.FirstNamed name i f := by
  rw [indexOf?, List.findIdx?_eq_some_iff_getElem]
  constructor
  · rintro ⟨lt, named, first⟩
    refine ⟨l.fields[i], List.getElem?_eq_getElem lt, of_decide_eq_true named, fun j hj g hg => ?_⟩
    obtain ⟨_, rfl⟩ := List.getElem?_eq_some_iff.1 hg
    simpa using first j hj
  · rintro ⟨f, there, named, first⟩
    obtain ⟨lt, rfl⟩ := List.getElem?_eq_some_iff.1 there
    refine ⟨lt, decide_eq_true named, fun j hj => ?_⟩
    simpa using first j hj _ (List.getElem?_eq_getElem (Nat.lt_trans hj lt))

/-- A name has one first field. -/
lemma FirstNamed.unique (one : l.FirstNamed name i f) (other : l.FirstNamed name j g) :
    i = j ∧ f = g := by
  obtain lt | rfl | lt := Nat.lt_trichotomy i j
  · exact absurd one.named (other.first i lt f one.there)
  · exact ⟨rfl, Option.some.inj (one.there.symm.trans other.there)⟩
  · exact absurd other.named (one.first j lt g other.there)

/-- A field of a type's own comes before those of its base. -/
lemma FirstNamed.lt_own (first : l.FirstNamed name i f) (own : g ∈ l.fields.take l.own)
    (named : g.name = name) : i < l.own := by
  obtain ⟨j, hj⟩ := List.mem_iff_getElem?.1 own
  rw [List.getElem?_take] at hj
  split at hj
  · rename_i lt
    by_contra late
    exact first.first j (by omega) g hj named
  · cases hj

end Layout

namespace Heap.KeepsBut

/-- Where the others are read as before they are kept. -/
lemma of_read (reads : ∀ ref, (∀ b ∈ bs, ref ≠ .to b) → h'.read ref = h.read ref) :
    KeepsBut bs h h' := by
  have isLive : ∀ (h : Heap) ref, h.isLive ref = (h.read ref).isSome := by
    intro h ref
    rw [Heap.isLive, Heap.read, Option.isSome_map]
  intro ref other
  refine ⟨reads ref other, ?_⟩
  rw [isLive, isLive, reads ref other]

/-- With the same cells all buffers are kept. -/
lemma of_cells (same : h'.cells = h.cells) : KeepsBut bs h h' :=
  of_read fun ref _ => Heap.read_of_cells same ref

lemma trans (first : KeepsBut bs h h') (second : KeepsBut bs h' h'') : KeepsBut bs h h'' :=
  of_read fun ref other => (second ref other).1.trans (first ref other).1

lemma mono {bs' : List BufferId} (more : bs ⊆ bs') (keeps : KeepsBut bs h h') :
    KeepsBut bs' h h' :=
  fun ref other => keeps ref fun b hb => other b (more hb)

/-- A new cell concerns only its own buffer. -/
lemma withNewCell (h : Heap) (c : Cell) : KeepsBut [h.cells.size] h (h.withNewCell c) := by
  refine of_read fun ref other => ?_
  obtain _ | b := ref
  · rfl
  · have ne : b ≠ h.cells.size := fun same =>
      other h.cells.size List.mem_cons_self (congrArg Handle.to same)
    have place : (h.withNewCell c).cells[b]? = h.cells[b]? := by
      show (h.cells.push c)[b]? = _
      rw [Array.getElem?_push, if_neg ne]
    rw [Heap.read, Heap.read, Heap.cell?, Heap.cell?, place]

/-- What is given up concerns only the buffers that are given up. -/
lemma of_givesUp {a : Action Unit} (gives : GivesUp bs a) (ledger : Ledger base (bs ++ held) o h) :
    KeepsBut bs h (a.run h).2 := by
  obtain ⟨after, _, due⟩ := gives base held o h ledger
  exact of_read fun ref other => ledger.read_eq after due other

end Heap.KeepsBut

namespace Tracker

variable {t : Tracker}

/-- A tracker that is granted no block is as it was when its setup was done. -/
lemma run_allocateCopy_denied {bytes : Bytes} (denied : ¬ t.Granted bytes.length h) :
    ∃ h', (t.allocateCopy bytes).run h = ((none, (t.ensureSetup.run h).1), h') ∧
      h'.cells = (t.ensureSetup.run h).2.cells := by
  rw [allocateCopy, allocateWith, StateT.run_bind]
  rw [Granted] at denied
  generalize t.ensureSetup.run h = ready at denied ⊢
  obtain ⟨t₁, h₁⟩ := ready
  rcases asked : (allocateZeroed t₁.manager bytes.length 1).run h₁ with ⟨got, h₂⟩
  have wrong : got.any (·.bytes.length = bytes.length) = false := by
    cases got with
    | none => rfl
    | some b => exact decide_eq_false fun right => denied ⟨b, congrArg (·.1) asked, right⟩
  obtain ⟨h₃, ran, _⟩ :=
    @run_allocateNow_denied t₁ bytes.length (fun _ => bytes) h₁ h₂ got asked wrong
  refine ⟨h₃, ran, ?_⟩
  have cells := t₁.cells_allocateNow bytes.length (fun _ => bytes) h₁
  rw [ran] at cells
  obtain ⟨_, same⟩ | ⟨some, _⟩ := cells
  · exact same
  · exact absurd rfl some

/-- A block that is granted is tracked and holds the bytes. -/
lemma run_allocateCopy_granted {bytes : Bytes} (granted : t.Granted bytes.length h) :
    ∃ h', (t.allocateCopy bytes).run h = ((some (.to (t.ensureSetup.run h).2.cells.size),
        (t.ensureSetup.run h).1.push (t.ensureSetup.run h).2.cells.size), h') ∧
      (t.ensureSetup.run h).2.KeepsBut [(t.ensureSetup.run h).2.cells.size] h' ∧
      h'.read (.to (t.ensureSetup.run h).2.cells.size) = some bytes := by
  rw [allocateCopy, allocateWith, StateT.run_bind]
  rw [Granted] at granted
  generalize t.ensureSetup.run h = ready at granted ⊢
  obtain ⟨t₁, h₁⟩ := ready
  obtain ⟨b, got, right⟩ := granted
  have asks := asked_allocateZeroed t₁.manager bytes.length 1 h₁
  rcases asked : (allocateZeroed t₁.manager bytes.length 1).run h₁ with ⟨answer, h₂⟩
  rw [asked] at got asks
  cases got
  obtain ⟨_, _, _, _, _, _, step⟩ := asks
  have cells : h₂.cells = h₁.cells := step.cells
  have ran := @run_allocateNow_granted t₁ bytes.length (fun _ => bytes) h₁ h₂ b asked right
  rw [cells] at ran
  refine ⟨_, ran, ?_, ?_⟩
  · rw [← cells]
    exact (Heap.KeepsBut.of_cells cells).trans (.withNewCell h₂ _)
  · rw [← cells]
    exact Heap.read_withNewCell h₂ rfl

end Tracker

namespace Universe

variable {u : Universe} {l : Layout} {type : TypeId} {fields : List Value}
  {tracker : Option Tracker} {name : String}

/-- What a value can be read as. -/
def reads (u : Universe) (h : Heap) (as : Reading) (v : Value) : Except AccessError Content :=
  match as.read h v with
  | some c => .ok c
  | none => .error (.typeMismatch as.name (u.typeName v))

/-- What writing a value into a named field of an object comes to: an answer `r` and a heap `h'`. -/
structure FieldWritten (u : Universe) (l : Layout) (o : Outside) (h : Heap) (type : TypeId)
    (fields : List Value) (tracker : Option Tracker) (name : String) (v : Value)
    (r : Value × Option AccessError) (h' : Heap) : Prop where
  /-- There has to be a field of that name, and its type has to accept the value. -/
  taken : r.2 = none ↔
    ∃ i f, l.FirstNamed name i f ∧ ∀ t, f.type = some t → u.accepts t v = true
  refused : r.2 ≠ none → r.1 = .object type fields tracker ∧ h.KeepsBut v.owned h'
  /-- The field holds the value, and with what it held before go the buffers that this owned. -/
  written : ∀ i f, r.2 = none → l.FirstNamed name i f → ∃ old, fields[i]? = some old ∧
    r.1 = .object type (fields.set i v) tracker ∧ u.fieldValue? name r.1 = some v ∧
    h.KeepsBut old.owned h' ∧ (∀ b ∈ old.owned, b ∉ o.readings → h'.isLive (.to b) = false) ∧
    ∀ as, (∀ b ∈ old.owned, v ≠ .buffer (.to b)) → u.readField h' as name r.1 = u.reads h as v

/-- The field admits buffers: it is untyped, or its type is that of bytes, or nothing is known of the
inside of its values. -/
def AdmitsBytes (u : Universe) (f : Field) : Prop :=
  ∀ d, f.type = some d → (u.desc d).kind = .bytes ∨ ∃ n, (u.desc d).kind = .blackBox n

/-- A write of bytes gets as far as the tracker `t`, which it asks for a buffer: the field is there
and admits buffers, and the object has that tracker. -/
def AsksTracker (u : Universe) (l : Layout) (tracker : Option Tracker) (name : String)
    (t : Tracker) : Prop :=
  tracker = some t ∧ ∃ i f, l.FirstNamed name i f ∧ u.AdmitsBytes f

/-- What writing bytes into a named field of an object comes to: an answer `r` and a heap `h'`, and
what becomes of the buffers by the writes `later`. -/
structure BytesWritten (u : Universe) (l : Layout) (o : Outside) (h : Heap) (type : TypeId)
    (fields : List Value) (tracker : Option Tracker) (name : String) (bytes : Bytes)
    (later : List Program.Edit) (r : Value × Except AccessError Handle) (h' : Heap) : Prop where
  /-- The field has to admit buffers, and there has to be a tracker that is granted one. -/
  taken : (∃ ref, r.2 = .ok ref) ↔
    ∃ t, u.AsksTracker l tracker name t ∧ t.Granted bytes.length h
  /-- A write that does not get as far as the tracker changes nothing at all. -/
  refused : ∀ e, r.2 = .error e → (∀ t, ¬ u.AsksTracker l tracker name t) →
    r.1 = .object type fields tracker ∧ h' = h
  /-- One that gets there without being granted a buffer leaves a tracker that has done what it had
  deferred, and changes nothing else. -/
  denied : ∀ e t, r.2 = .error e → u.AsksTracker l tracker name t →
    e = .outOfMemory bytes.length ∧ r.1 = .object type fields (some (t.ensureSetup.run h).1) ∧
      (t.ensureSetup.run h).2.KeepsBut [] h'
  /-- The field holds a new buffer of the tracker, and no other field changes. -/
  written : ∀ ref i f, r.2 = .ok ref → l.FirstNamed name i f → ∃ old t t' b,
    fields[i]? = some old ∧ tracker = some t ∧ ref = .to b ∧
    (t.ensureSetup.run h).2.cells.size ≤ b ∧
    r.1 = .object type (fields.set i (.buffer ref)) (some t') ∧
    t'.buffers = (t.ensureSetup.run h).1.buffers ++ [b] ∧
    t'.manager = (t.ensureSetup.run h).1.manager ∧
    u.readField h' .bytes name r.1 = .ok (.bytes bytes) ∧
    (t.ensureSetup.run h).2.KeepsBut (b :: old.owned) h' ∧
    -- whatever is written later, the tracker keeps its buffers alive until it releases them
    ∃ fields' t'' h'',
      (Program.editAll u r.1 later).run h' = (.object type fields' (some t''), h'') ∧
      t'.buffers <+: t''.buffers ∧ ∀ b' ∈ t''.buffers, h''.isLive (.to b') = true ∧
        (b' ∉ o.readings → (t''.release.run h'').2.isLive (.to b') = false)

/-! ### Finding the field -/

/-- In an object with its fields the name is looked up in the layout. -/
lemma indexIn?_eq_some_iff (layout : u.layout? type = some l)
    (formed : l.fields.length = fields.length) {i : Nat} :
    u.indexIn? type fields name = some i ↔ ∃ f, l.FirstNamed name i f := by
  rw [indexIn?, layout, Option.bind_some, Option.filter_eq_some_iff, Layout.indexOf?_eq_some_iff]
  refine ⟨And.left, fun first => ⟨first, ?_⟩⟩
  obtain ⟨f, first⟩ := first
  rw [← formed]
  exact decide_eq_true (List.getElem?_eq_some_iff.1 first.there).1

/-- The declared type of the field that is found is that of the layout. -/
lemma declaredAt?_of_first (layout : u.layout? type = some l) {i : Nat} {f : Field}
    (first : l.FirstNamed name i f) : u.declaredAt? type i = f.type := by
  rw [declaredAt?, layout, Option.bind_some, first.there, Option.bind_some]

/-- Reading a field that was just written. -/
lemma fieldValue?_set (layout : u.layout? type = some l)
    (formed : l.fields.length = fields.length) {i : Nat} {f : Field}
    (first : l.FirstNamed name i f) (v : Value) (tracker : Option Tracker) :
    u.fieldValue? name (.object type (fields.set i v) tracker) = some v := by
  have found : u.indexIn? type (fields.set i v) name = some i :=
    (indexIn?_eq_some_iff layout (formed.trans (List.length_set ..).symm)).2 ⟨f, first⟩
  have lt := (List.getElem?_eq_some_iff.1 first.there).1
  rw [fieldValue?, found, Option.bind_some, List.getElem?_set_self (formed ▸ lt)]

/-- Reading a field is reading its value. -/
lemma readField_eq {w v : Value} (value : u.fieldValue? name w = some v) (h : Heap) (as : Reading) :
    u.readField h as name w = u.reads h as v := by
  rw [readField, value]
  rfl

/-- A value reads as before if it is no handle to one of the buffers that are not kept. -/
lemma reads_congr {v : Value} (keeps : Heap.KeepsBut bs h h')
    (other : ∀ b ∈ bs, v ≠ .buffer (.to b)) (as : Reading) : u.reads h' as v = u.reads h as v := by
  have same : as.read h' v = as.read h v := by
    cases v with
    | buffer ref =>
      cases as with
      | bytes =>
        have kept := (keeps ref fun b hb same => other b hb (congrArg Value.buffer same)).1
        show (h'.read ref).map Content.bytes = (h.read ref).map Content.bytes
        rw [kept]
      | _ => rfl
    | _ => cases as <;> rfl
  rw [reads, reads, same]

/-! ### Writing a value -/

/-- What a field held is dropped, and so it goes with all that it owns. -/
lemma run_replaceField {i : Nat} {old : Value} (there : fields[i]? = some old) (v : Value)
    (ledger : Ledger base ((Value.object type fields tracker).owned ++ (v.owned ++ held)) o h) :
    ∃ h', (replaceField type fields tracker i v).run h =
        (.object type (fields.set i v) tracker, h') ∧
      h.KeepsBut old.owned h' ∧ (∀ b ∈ old.owned, b ∉ o.readings → h'.isLive (.to b) = false) ∧
      Ledger base ((Value.object type (fields.set i v) tracker).owned ++ held) o h' := by
  obtain ⟨lt, rfl⟩ := List.getElem?_eq_some_iff.1 there
  have dropped : Value.ownedByAll (fields[i]?).toList = fields[i].owned := by
    rw [there, Option.toList_some, Value.ownedByAll, Value.ownedByAll, List.append_nil]
  -- what the old value owns stands first
  have turned : Ledger base (fields[i].owned ++
      ((Value.object type (fields.set i v) tracker).owned ++ held)) o h := by
    refine ledger.perm (List.perm_iff_count.2 fun b => ?_)
    have moved := (Value.ownedByAll_perm_set lt v).count_eq b
    simp only [Value.owned, List.count_append] at moved ⊢
    omega
  have gives := Value.givesUp_dropAll (fields[i]?).toList
  rw [dropped] at gives
  have after := (gives base _ o h turned).1
  exact ⟨_, rfl, .of_givesUp gives turned, fun b hb closed =>
    turned.dead_of_given_up after hb closed, after⟩

/-- The declared type of the field has nothing against the value. -/
lemma filter_accepts_eq_none_iff {d : Option TypeId} {p : TypeId → Bool} :
    d.filter (!p ·) = none ↔ ∀ t, d = some t → p t = true := by
  rw [Option.filter_eq_none_iff]
  refine forall_congr' fun t => imp_congr_right fun _ => ?_
  rw [Bool.not_eq_true, Bool.not_eq_false']

/-- A write by name is taken or refused, and `FieldWritten` says what it comes to. -/
lemma fieldWritten (layout : u.layout? type = some l) (formed : l.fields.length = fields.length)
    {v : Value}
    (ledger : Ledger base ((Value.object type fields tracker).owned ++ (v.owned ++ held)) o h) :
    u.FieldWritten l o h type fields tracker name v
      ((u.writeField name v (.object type fields tracker)).run h).1
      ((u.writeField name v (.object type fields tracker)).run h).2 := by
  have dropped : h.KeepsBut v.owned (v.drop.run h).2 :=
    .of_givesUp v.givesUp_drop (ledger.perm (List.perm_append_comm_assoc ..))
  rw [writeField]
  cases found : u.indexIn? type fields name with
  | none =>
    have absent : ∀ i f, ¬ l.FirstNamed name i f := by
      intro i f first
      rw [(indexIn?_eq_some_iff layout formed).2 ⟨f, first⟩] at found
      cases found
    constructor
    case refused => exact fun _ => ⟨rfl, dropped⟩
    case written =>
      intro i f taken
      cases taken
    case taken =>
      constructor
      · intro taken
        cases taken
      · rintro ⟨i, f, first, _⟩
        exact absurd first (absent i f)
  | some i =>
    obtain ⟨f, first⟩ := (indexIn?_eq_some_iff layout formed).1 found
    dsimp only
    rw [declaredAt?_of_first layout first]
    cases fits : f.type.filter (!u.accepts · v) with
    | some t =>
      constructor
      case refused => exact fun _ => ⟨rfl, dropped⟩
      case written =>
        intro i f taken
        cases taken
      case taken =>
        constructor
        · intro taken
          cases taken
        · rintro ⟨j, g, other, fitting⟩
          obtain ⟨rfl, rfl⟩ := first.unique other
          rw [filter_accepts_eq_none_iff.2 fitting] at fits
          cases fits
    | none =>
      have lt : i < fields.length := formed ▸ (List.getElem?_eq_some_iff.1 first.there).1
      obtain ⟨h', ran, keeps, dead, _⟩ :=
        run_replaceField (List.getElem?_eq_getElem lt) v ledger
      dsimp only
      rw [StateT.run_bind, ran]
      refine ⟨⟨fun _ => ⟨i, f, first, filter_accepts_eq_none_iff.1 fits⟩, fun _ => rfl⟩,
        fun refused => absurd rfl refused, fun j g _ other => ?_⟩
      obtain ⟨rfl, rfl⟩ := first.unique other
      have value := fieldValue?_set layout formed first v tracker
      refine ⟨fields[i], List.getElem?_eq_getElem lt, rfl, value, keeps, dead, fun as others => ?_⟩
      exact (readField_eq value h' as).trans (reads_congr keeps others as)

/-! ### Writing bytes -/

/-- A type holds bytes if it is that of bytes or a black box. -/
lemma holdsBytes_iff {t : TypeId} : u.holdsBytes t = true ↔
    (u.desc t).kind = .bytes ∨ ∃ n, (u.desc t).kind = .blackBox n := by
  rw [holdsBytes]
  cases (u.desc t).kind <;> simp

/-- A field admits bytes if nothing that it declares keeps them out. -/
lemma admitsBytes_iff {f : Field} :
    u.AdmitsBytes f ↔ f.type.filter (!u.holdsBytes ·) = none := by
  rw [filter_accepts_eq_none_iff]
  simp only [AdmitsBytes, holdsBytes_iff]

/-- A write that does not get as far as the tracker, and says so. -/
lemma bytesWritten_of_refused {later : List Program.Edit} {bytes : Bytes} {e : AccessError}
    (unable : ∀ t, ¬ u.AsksTracker l tracker name t) :
    u.BytesWritten l o h type fields tracker name bytes later
      (.object type fields tracker, .error e) h where
  taken := ⟨nofun, fun ⟨t, asks, _⟩ => absurd asks (unable t)⟩
  refused _ _ _ := ⟨rfl, rfl⟩
  denied _ t _ asks := absurd asks (unable t)
  written _ _ _ ok := nomatch ok

/-- A write that is not granted a buffer, and says so. -/
lemma bytesWritten_of_denied {later : List Program.Edit} {bytes : Bytes} {t : Tracker}
    (asks : u.AsksTracker l (some t) name t) (denied : ¬ t.Granted bytes.length h)
    (keeps : (t.ensureSetup.run h).2.KeepsBut [] h') :
    u.BytesWritten l o h type fields (some t) name bytes later
      (.object type fields (some (t.ensureSetup.run h).1), .error (.outOfMemory bytes.length))
      h' where
  taken := by
    refine ⟨nofun, ?_⟩
    rintro ⟨_, ⟨⟨⟩, _⟩, granted⟩
    exact absurd granted denied
  refused _ _ unable := absurd asks (unable t)
  denied := by
    rintro _ _ ⟨⟩ ⟨⟨⟩, _⟩
    exact ⟨rfl, rfl, keeps⟩
  written _ _ _ ok := nomatch ok

/-! ### Further writes -/

/-- What an object is after named writes: its tracker has nothing deferred and goes on with its
list. -/
def Tended (type : TypeId) (t : Tracker) (w : Value) : Prop :=
  ∃ fields' t', w = .object type fields' (some t') ∧ t'.setup = none ∧ t.buffers <+: t'.buffers

/-- A write by name leaves an object to the tracker that it had. -/
lemma tended_writeField (u : Universe) (name : String) (v : Value) (fields : List Value)
    {t : Tracker} (idle : t.setup = none) :
    (u.writeField name v (.object type fields (some t))).Yields fun r => Tended type t r.1 := by
  have same : ∀ fields', Tended type t (.object type fields' (some t)) := fun fields' =>
    ⟨fields', t, rfl, idle, List.prefix_refl _⟩
  rw [writeField]
  split
  · exact .andThen fun _ => .pure (same _)
  · split
    · exact .andThen fun _ => .pure (same _)
    · exact .bind (.andThen fun _ => .pure (same _)) fun w tended => .pure tended

/-- So do new bytes, if the tracker has nothing deferred. -/
lemma tended_writeBytes (u : Universe) (name : String) (bytes : Bytes) (fields : List Value)
    {t : Tracker} (idle : t.setup = none) :
    (u.writeBytes name bytes (.object type fields (some t))).Yields fun r => Tended type t r.1 := by
  have same : ∀ fields', Tended type t (.object type fields' (some t)) := fun fields' =>
    ⟨fields', t, rfl, idle, List.prefix_refl _⟩
  have copied : (t.allocateCopy bytes).Yields fun r =>
      r.2.setup = none ∧ t.buffers <+: r.2.buffers := by
    intro h
    have ready : t.ensureSetup.run h = (t, h) := by
      rw [Tracker.ensureSetup_of_none idle]
      rfl
    by_cases granted : t.Granted bytes.length h
    · obtain ⟨h', ran, _⟩ := Tracker.run_allocateCopy_granted granted
      rw [ran, ready, Tracker.setup_push, Tracker.buffers_push]
      exact ⟨idle, List.prefix_append ..⟩
    · obtain ⟨h', ran, _⟩ := Tracker.run_allocateCopy_denied granted
      rw [ran, ready]
      exact ⟨idle, List.prefix_refl _⟩
  rw [writeBytes]
  split
  · exact .pure (same _)
  · split
    · exact .pure (same _)
    · rename_i none
      cases none
    · rename_i t₀ _ some
      cases some
      refine .bind copied fun r kept => ?_
      obtain ⟨_ | ref, t'⟩ := r
      · exact .pure ⟨fields, t', rfl, kept⟩
      · exact .bind (.andThen fun _ => .pure ⟨_, t', rfl, kept⟩) fun w tended => .pure tended

/-- A named write keeps the books, and the object goes on with its tracker. -/
lemma tends_write {e : Program.Edit} (named : e.IsNamed) {t : Tracker} (idle : t.setup = none) :
    Action.Triple (Ledger base ((Value.object type fields (some t)).owned ++
        (Value.ownedByAll e.takes ++ held)) o) (e.run u (.object type fields (some t)))
      fun w h => Ledger base (w.owned ++ held) o h ∧ Tended type t w := by
  intro h ledger
  cases e with
  | writeField name v =>
    rw [Program.Edit.takes, Value.ownedByAll, Value.ownedByAll, List.append_nil] at ledger
    exact ⟨u.ledger_writeField name v _ h ledger, tended_writeField u name v fields idle h⟩
  | writeBytes name bytes =>
    exact ⟨u.ledger_writeBytes name bytes _ h ledger, tended_writeBytes u name bytes fields idle h⟩
  | _ => exact named.elim

/-- However often named fields are written, the books are kept, and the object goes on with its
tracker. -/
lemma tends_editAll {edits : List Program.Edit} (named : ∀ e ∈ edits, e.IsNamed) {w : Value}
    {t₀ : Tracker} (tended : Tended type t₀ w) :
    Action.Triple (Ledger base (w.owned ++ (Value.ownedByAll (edits.flatMap (·.takes)) ++ held)) o)
      (Program.editAll u w edits)
      fun w h => Ledger base (w.owned ++ held) o h ∧ Tended type t₀ w := by
  induction edits generalizing w with
  | nil => exact .pure fun h ledger => ⟨ledger, tended⟩
  | cons e edits ih =>
    obtain ⟨fields, t, rfl, idle, more⟩ := tended
    rw [List.flatMap_cons, Value.ownedByAll_append, List.append_assoc]
    refine .bind (tends_write (named e List.mem_cons_self) idle) fun w => ?_
    refine .of_imp (fun h after => after.2) fun tended => ?_
    obtain ⟨fields', t', rfl, idle', more'⟩ := tended
    exact (ih (fun e he => named e (List.mem_cons_of_mem _ he))
      ⟨fields', t', rfl, idle', more.trans more'⟩).strengthen fun h after => after.1

/-- A tracker keeps its buffers alive through named writes, and then it releases them. -/
lemma kept_until_release {later : List Program.Edit} (named : ∀ e ∈ later, e.IsNamed) {w : Value}
    {t : Tracker} (tended : Tended type t w)
    (ledger : Ledger base (w.owned ++ (Value.ownedByAll (later.flatMap (·.takes)) ++ held)) o h) :
    ∃ fields' t' h', (Program.editAll u w later).run h = (.object type fields' (some t'), h') ∧
      t.buffers <+: t'.buffers ∧ ∀ b ∈ t'.buffers, h'.isLive (.to b) = true ∧
        (b ∉ o.readings → (t'.release.run h').2.isLive (.to b) = false) := by
  have after := tends_editAll (u := u) named tended h ledger
  rcases ran : (Program.editAll u w later).run h with ⟨w', h'⟩
  rw [ran] at after
  obtain ⟨after, fields', t', rfl, _, more⟩ := after
  -- the list of the tracker stands first
  have listed : Ledger base (t'.buffers ++ (Value.ownedByAll fields' ++ held)) o h' :=
    after.perm (owned_object_perm type fields' (some t') held)
  refine ⟨fields', t', h', rfl, more, fun b hb => ⟨?_, fun closed => ?_⟩⟩
  · have since := listed.since_of_mem (List.mem_append_left _ hb)
    exact (listed.isLive_iff since).2 (.inl (List.mem_append_left _ hb))
  · exact listed.dead_of_given_up (t'.ledger_release h' listed).1 hb closed

/-- The buffer that a tracker lists last is none of those that the values beside it own. -/
lemma ne_of_pushed {t : Tracker} {n : BufferId} {vs : List Value}
    (ledger : Ledger base ((t.push n).buffers ++ (Value.ownedByAll vs ++ held)) o h) {v : Value}
    (mem : v ∈ vs) : ∀ b ∈ v.owned, Handle.to n ≠ .to b := by
  rintro b hb ⟨⟩
  have mine : n ∈ (t.push n).buffers := by
    rw [Tracker.buffers_push]
    exact List.mem_append_right _ (List.mem_singleton_self _)
  have others : n ∈ Value.ownedByAll vs := by
    rw [Value.ownedByAll_eq_flatMap]
    exact List.mem_flatMap.2 ⟨v, mem, hb⟩
  exact (List.nodup_append.1 ledger.nodup).2.2 n mine n (List.mem_append_left _ others) rfl

/-- A write that is granted a buffer. -/
lemma bytesWritten_of_granted (layout : u.layout? type = some l)
    (formed : l.fields.length = fields.length) {bytes : Bytes} {later : List Program.Edit}
    (named : ∀ e ∈ later, e.IsNamed) {i : Nat} {f : Field} (first : l.FirstNamed name i f)
    (admits : u.AdmitsBytes f) {t : Tracker}
    (granted : t.Granted bytes.length h)
    (ledger : Ledger base ((Value.object type fields (some t)).owned ++
      (Value.ownedByAll (later.flatMap (·.takes)) ++ held)) o h) :
    let write := t.allocateCopy bytes >>= fun
      | (none, t) => pure (Value.object type fields (some t), .error (.outOfMemory bytes.length))
      | (some ref, t) => do
        return (← replaceField type fields (some t) i (.buffer ref), Except.ok ref)
    u.BytesWritten l o h type fields (some t) name bytes later (write.run h).1 (write.run h).2 := by
  intro write
  obtain ⟨h₂, ran, keeps, read⟩ := Tracker.run_allocateCopy_granted granted
  have copied := t.ledger_allocateWith bytes.length (fun _ => bytes) h
    (ledger.perm (owned_object_perm type fields (some t) _))
  have whole : (t.allocateCopy bytes).run h = (t.allocateWith bytes.length fun _ => bytes).run h :=
    rfl
  rw [← whole, ran] at copied
  rcases settled : t.ensureSetup.run h with ⟨t₁, h₁⟩
  rw [settled] at ran keeps read copied
  dsimp only at ran keeps read copied
  obtain ⟨listed, idle⟩ := copied
  have lt : i < fields.length := formed ▸ (List.getElem?_eq_some_iff.1 first.there).1
  have there := List.getElem?_eq_getElem lt
  obtain ⟨h', replaced, keeps', _, ledger'⟩ := run_replaceField there (.buffer (.to h₁.cells.size))
    (listed.perm (owned_object_perm type fields (some (t₁.push h₁.cells.size)) _).symm)
  have done : write.run h = ((.object type (fields.set i (.buffer (.to h₁.cells.size)))
      (some (t₁.push h₁.cells.size)), .ok (.to h₁.cells.size)), h') := by
    show StateT.run (t.allocateCopy bytes >>= _) h = _
    rw [StateT.run_bind, ran]
    show StateT.run (replaceField _ _ _ _ _ >>= _) h₂ = _
    rw [StateT.run_bind, replaced]
    rfl
  rw [done]
  constructor
  case taken => exact ⟨fun _ => ⟨t, ⟨rfl, i, f, first, admits⟩, granted⟩, fun _ => ⟨_, rfl⟩⟩
  case refused => rintro _ ⟨⟩
  case denied => rintro _ _ ⟨⟩
  case written =>
    rintro ref j g ⟨⟩ other
    obtain ⟨rfl, rfl⟩ := first.unique other
    have value := fieldValue?_set layout formed first (.buffer (.to h₁.cells.size))
      (some (t₁.push h₁.cells.size))
    have apart := ne_of_pushed listed (List.getElem_mem lt)
    refine ⟨fields[i], t, t₁.push h₁.cells.size, h₁.cells.size, there, rfl, rfl, ?_, rfl, ?_, ?_,
      ?_, ?_, ?_⟩
    · exact Nat.le_of_eq (congrArg (·.2.cells.size) settled)
    · rw [settled]
      exact Tracker.buffers_push _ _
    · rw [settled]
      exact Tracker.manager_push _ _
    · have reads := (keeps' _ apart).1.trans read
      rw [readField_eq value, Universe.reads]
      show (match (h'.read _).map Content.bytes with | some c => _ | none => _) = _
      rw [reads]
      rfl
    · rw [settled]
      exact (keeps.mono fun b hb => List.mem_singleton.1 hb ▸ List.mem_cons_self).trans
        (keeps'.mono fun b => List.mem_cons_of_mem _)
    · exact kept_until_release named ⟨_, _, rfl, idle, List.prefix_refl _⟩ ledger'

/-- New bytes for a field are taken, refused or denied, and `BytesWritten` says what that comes to.
-/
lemma bytesWritten (layout : u.layout? type = some l) (formed : l.fields.length = fields.length)
    {bytes : Bytes} {later : List Program.Edit} (named : ∀ e ∈ later, e.IsNamed)
    (ledger : Ledger base ((Value.object type fields tracker).owned ++
      (Value.ownedByAll (later.flatMap (·.takes)) ++ held)) o h) :
    u.BytesWritten l o h type fields tracker name bytes later
      ((u.writeBytes name bytes (.object type fields tracker)).run h).1
      ((u.writeBytes name bytes (.object type fields tracker)).run h).2 := by
  rw [writeBytes]
  cases found : u.indexIn? type fields name with
  | none =>
    refine bytesWritten_of_refused ?_
    rintro t ⟨_, i, f, first, _⟩
    rw [(indexIn?_eq_some_iff layout formed).2 ⟨f, first⟩] at found
    cases found
  | some i =>
    obtain ⟨f, first⟩ := (indexIn?_eq_some_iff layout formed).1 found
    dsimp only
    rw [declaredAt?_of_first layout first]
    cases fits : f.type.filter (!u.holdsBytes ·) with
    | some d =>
      refine bytesWritten_of_refused ?_
      rintro t ⟨_, j, g, other, admits⟩
      obtain ⟨rfl, rfl⟩ := first.unique other
      rw [admitsBytes_iff.1 admits] at fits
      cases fits
    | none =>
      cases tracker with
      | none =>
        refine bytesWritten_of_refused ?_
        rintro t ⟨own, _⟩
        cases own
      | some t =>
        have admits := admitsBytes_iff.2 fits
        dsimp only
        rw [StateT.run_bind]
        by_cases granted : t.Granted bytes.length h
        · exact bytesWritten_of_granted layout formed named first admits granted ledger
        · obtain ⟨h', ran, cells⟩ := Tracker.run_allocateCopy_denied granted
          rw [ran]
          exact bytesWritten_of_denied ⟨rfl, i, f, first, admits⟩ granted (.of_cells cells)

/-- A write concerns the first field of its name, and a type's own field comes before those of its
base. Whether it is taken or not, `FieldWritten` and `BytesWritten` say what it comes to, for every
object with one value for each field of its type, as long as the books are right, and whatever is
written later. A tracker with nothing deferred has nothing to do first. -/
theorem named_writes (layout : u.layout? type = some l) (formed : l.fields.length = fields.length)
    (tracker : Option Tracker) (name : String) (h : Heap) :
    (∀ i f g, l.FirstNamed name i f → g ∈ l.fields.take l.own → g.name = name → i < l.own) ∧
    (∀ t : Tracker, t.setup = none → t.ensureSetup.run h = (t, h)) ∧
    (∀ v base held o,
      Ledger base ((Value.object type fields tracker).owned ++ (v.owned ++ held)) o h →
      u.FieldWritten l o h type fields tracker name v
        ((u.writeField name v (.object type fields tracker)).run h).1
        ((u.writeField name v (.object type fields tracker)).run h).2) ∧
    ∀ bytes later base held o, (∀ e ∈ later, e.IsNamed) →
      Ledger base ((Value.object type fields tracker).owned ++
        (Value.ownedByAll (later.flatMap (·.takes)) ++ held)) o h →
      u.BytesWritten l o h type fields tracker name bytes later
        ((u.writeBytes name bytes (.object type fields tracker)).run h).1
        ((u.writeBytes name bytes (.object type fields tracker)).run h).2 := by
  refine ⟨fun i f g first own named => first.lt_own own named, fun t idle => ?_, ?_, ?_⟩
  · rw [Tracker.ensureSetup_of_none idle]
    rfl
  · exact fun v base held o ledger => fieldWritten layout formed ledger
  · exact fun bytes later base held o named ledger => bytesWritten layout formed named ledger

/-- The layout of a label. -/
def labelLayout : Layout :=
  ⟨[markField, dataField], 2, none, true⟩

/-- New bytes for the label: the buffer that it referred to stays alive, also when its bytes are
written once more. -/
theorem named_writes_label :
    let later := [Program.Edit.writeBytes "data" [100]]
    let r := (withLabel.writeBytes "data" [98, 99] label).run labelled.heap
    withLabel.layout? 19 = some labelLayout ∧ labelLayout.fields.length = 2 ∧
      (∀ e ∈ later, e.IsNamed) ∧
      Ledger (World.start #[]).heap (label.owned ++ ([] ++ [])) {} labelled.heap ∧
      r.1.1 = .object 19 [.scalar (.char 'a'), .buffer (.to 1)]
        (some { buffers := [0, 1], capacity := 4 }) ∧
      r.2.read (.to 0) = some [97] ∧ r.2.read (.to 1) = some [98, 99] ∧
      withLabel.FieldWritten labelLayout {} labelled.heap 19 [.scalar (.char 'a'), .buffer (.to 0)]
        (some { buffers := [0], capacity := 4 }) "data" .null
        ((withLabel.writeField "data" .null label).run labelled.heap).1
        ((withLabel.writeField "data" .null label).run labelled.heap).2 ∧
      withLabel.BytesWritten labelLayout {} labelled.heap 19
        [.scalar (.char 'a'), .buffer (.to 0)] (some { buffers := [0], capacity := 4 }) "data"
        [98, 99] later r.1 r.2 := by
  intro later r
  have named : ∀ e ∈ later, e.IsNamed := List.forall_mem_singleton.2 trivial
  have layout : withLabel.layout? 19 = some labelLayout := rfl
  have formed : labelLayout.fields.length =
    [Value.scalar (.char 'a'), .buffer (.to 0)].length := rfl
  obtain ⟨_, _, value, bytes⟩ := named_writes layout formed
    (some { buffers := [0], capacity := 4 }) "data" labelled.heap
  exact ⟨layout, formed, named, ledger_label, rfl, rfl, rfl, value .null _ [] {} ledger_label,
    bytes [98, 99] later _ [] {} named ledger_label⟩

/-- Types with one more struct, of one field that holds anything. -/
def withSleeve : Universe :=
  let sleeve : Declaration :=
    { name := "Sleeve", shape := .struct [⟨"slip", .untyped 8, false, none⟩] none false }
  match withLabel.declare {} sleeve with
  | some (_, u) => u
  | none => withLabel

/-- A label in a sleeve. Its own buffer is written in its place: the label goes, and with it the
buffer that was just written. And a write that is refused does what the tracker had deferred, which
here binds it to a manager that has nothing to give. -/
theorem written_handle_dies :
    let r := (withSleeve.writeField "slip" (.buffer (.to 0)) (.object 20 [label] none)).run
      labelled.heap
    let empty : Manager := { malloc := some (.custom 0), free := some (.custom 0) }
    let s := (withLabel.writeBytes "data" [97] (.object 19 [.null, .null]
      (some { setup := some ⟨"empty", [.bind (some empty)]⟩ }))).run
        { arenas := #[{ allocator := .metered 0 (some 0) 0 }] }
    (labelled.heap.read (.to 0) = some [97] ∧ r.1 = (.object 20 [.buffer (.to 0)] none, none) ∧
      withSleeve.readField r.2 .bytes "slip" r.1.1 = .error (.typeMismatch "bytes" "bytes")) ∧
      s.1 = (.object 19 [.null, .null] (some { manager := some empty }),
        .error (.outOfMemory 1)) :=
  ⟨⟨rfl, rfl, rfl⟩, rfl⟩

end Universe

end Metaobject
