import Metaobject.Proofs.Lifecycle.Aliasing
import Metaobject.Proofs.Lifecycle.Editing
import Metaobject.Proofs.Lifecycle.Origins
import Metaobject.Proofs.Lifecycle.Permanence

/-!
# Who owns what was constructed

A construction copies a buffer for the tracker of the object that the copy is in, and shares it
where that object has no tracker. So the trackers of the result list the new buffers, each of them
those in the fields of its own object, and nothing else: `Universe.construct_furnishes`. What became
of the sources afterwards does not matter to the result, nor the other way round: whoever gives up a
value gives up the buffers that it owns, `Universe.spared`.
-/

namespace Metaobject

open Attempt

variable {base h h' : Heap} {held : List BufferId} {o : Outside}

/-! ### Giving up a value -/

/-- Where some of the buffers are given up and no dead one comes back to life, all others read as
before. -/
lemma Ledger.read_of_given_up {asks : Option Manager → Prop} {bs bs' : List BufferId}
    (before : Ledger base (bs ++ held) o h) (after : Ledger base (bs' ++ held) o h')
    (passes : h.Passes asks h') (due : h'.due? = h.due?) {ref : Handle}
    (other : ∀ b ∈ bs, ref ≠ .to b) : h'.read ref = h.read ref := by
  obtain _ | b := ref
  · rfl
  have other : b ∉ bs := fun hb => other b hb rfl
  refine before.read_eq_of_isLive after due fun since => ?_
  by_cases there : b ∈ held ∨ b ∈ o.readings
  · rw [(before.isLive_iff since).2 (there.imp_left (List.mem_append_right _)),
      (after.isLive_iff since).2 (there.imp_left (List.mem_append_right _))]
  · have dead : h.isLive (.to b) = false := by
      rw [← Bool.not_eq_true, before.isLive_iff since, List.mem_append]
      exact fun live => there (live.imp_left fun mem => mem.resolve_left other)
    rw [dead, ← Bool.not_eq_true]
    intro live
    -- what is alive is in a cell, and there was one before
    have known : b < h.cells.size := by
      by_contra unknown
      have none : h.due? b = none := by
        rw [Heap.due?, Array.getElem?_eq_none (Nat.le_of_not_lt unknown)]
        rfl
      rw [← due, Heap.due?, Option.map_eq_none_iff] at none
      rw [Heap.isLive, Heap.cell?, none] at live
      cases live
    cases dead.symm.trans (passes.isLive_of_isLive known live)

/-- A tracker that is released leaves the buffers of others alone. -/
lemma Tracker.read_release {t : Tracker} (ledger : Ledger base (t.buffers ++ held) o h)
    {ref : Handle} (other : ∀ b ∈ t.buffers, ref ≠ .to b) :
    (t.release.run h).2.read ref = h.read ref :=
  ledger.read_eq (t.ledger_release h ledger).1 (t.keepsDue_release h) other

namespace Universe

variable {u : Universe}

/-- However the value is given up, the buffer reads as before. -/
structure Spared (u : Universe) (h : Heap) (v : Value) (ref : Handle) : Prop where
  freed : ∀ t, ((u.free t v).run h).2.read ref = h.read ref
  dropped : (v.drop.run h).2.read ref = h.read ref

/-- Nothing but the buffers that a value owns goes with it, also if it cannot be freed to the
end. -/
lemma spared {v : Value} (ledger : Ledger base (v.owned ++ held) o h) {ref : Handle}
    (other : ∀ b ∈ v.owned, ref ≠ .to b) : u.Spared h v ref where
  freed t := by
    have within : v.Within (.ofManagers fun _ => True) h := by
      refine fun path tr around => ⟨trivial, fun _ _ _ _ => trivial, trivial, fun b hb => ?_⟩
      have mem := (Value.mem_owned_iff v).2 ⟨path, tr, around, hb⟩
      obtain ⟨c, hc, _⟩ := ledger.cell_of_mem (List.mem_append_left _ mem)
      exact ⟨c, Heap.getElem?_of_cellSince hc, trivial⟩
    have passes := (u.passes_free t v h (Nat.zero_le _) within).1
    exact ledger.read_of_given_up (u.ledger_free t v h ledger) passes (u.keepsDue_free t v h) other
  dropped :=
    ledger.read_eq (v.givesUp_drop.triple h ledger) (v.keepsDue_drop h) other

end Universe

/-! ### What trackers list -/

namespace Value

/-- The trackers inside mark the heap, and they list only buffers in fields of their own objects. -/
def Housed (v : Value) : Prop :=
  ∀ path type vs t, v.at? path = some (.object type vs (some t)) →
    t.onHeap = true ∧ ∀ b ∈ t.buffers, .buffer (.to b) ∈ vs

/-- What is no object has no trackers that could list anything. -/
lemma housed_of_plain {v : Value} (plain : v.isObject = false) : v.Housed := by
  intro path type vs t found
  cases path with
  | nil =>
    cases found
    cases plain
  | cons i path =>
    cases v with
    | object => cases plain
    | _ => cases found

/-- An object that is finished is housed if what is inside is, and if its tracker lists fields of
it. -/
lemma housed_finish (type : TypeId) {vs : List Value} {a : Option Tracker}
    (inside : ∀ v ∈ vs, v.Housed) (listed : ∀ b ∈ buffersOf a, .buffer (.to b) ∈ vs) :
    (finish type vs a).Housed := by
  intro path type ws t found
  cases path with
  | nil =>
    cases a with
    | none => cases found
    | some tr =>
      cases found
      exact ⟨rfl, listed⟩
  | cons i path =>
    obtain ⟨v, hv, found⟩ := Option.bind_eq_some_iff.1 found
    exact inside v (List.mem_of_getElem? hv) path type ws t found

/-- Around a path with a tracker there is the object that it belongs to. -/
lemma object_of_trackerAt? {path : List Nat} {v : Value} {t : Tracker}
    (around : v.trackerAt? path = some t) :
    ∃ type vs, v.at? path = some (.object type vs (some t)) := by
  rw [trackerAt?_eq_bind] at around
  obtain ⟨w, found, own⟩ := Option.bind_eq_some_iff.1 around
  cases w with
  | object type vs a =>
    cases own
    exact ⟨type, vs, found⟩
  | _ => cases own

/-- One field beyond an object there is its value. -/
lemma at?_concat {path : List Nat} {v : Value} {type : TypeId} {vs : List Value}
    {a : Option Tracker} (found : v.at? path = some (.object type vs a)) (i : Nat) :
    v.at? (path ++ [i]) = vs[i]? := by
  rw [at?_append, found, Option.bind_some]
  show (vs[i]?).bind _ = _
  cases vs[i]? <;> rfl

/-- A buffer that a tracker lists is in a field of the object around it. -/
lemma Housed.at? {v : Value} (housed : v.Housed) {path : List Nat} {t : Tracker} {b : BufferId}
    (around : v.trackerAt? path = some t) (hb : b ∈ t.buffers) :
    ∃ i, v.at? (path ++ [i]) = some (.buffer (.to b)) := by
  obtain ⟨type, vs, found⟩ := object_of_trackerAt? around
  obtain ⟨i, hi⟩ := List.mem_iff_getElem?.1 ((housed path type vs t found).2 b hb)
  exact ⟨i, (at?_concat found i).trans hi⟩

/-- Every tracker in a value that is housed is marked as on the heap. -/
lemma Housed.onHeap {v : Value} (housed : v.Housed) {path : List Nat} {t : Tracker}
    (around : v.trackerAt? path = some t) : t.onHeap = true := by
  obtain ⟨type, vs, found⟩ := object_of_trackerAt? around
  exact (housed path type vs t found).1

/-- Only the tracker of the object itself is marked. -/
lemma trackerAt?_offHeap (path : List Nat) (v : Value) :
    v.offHeap.trackerAt? path =
      if path = [] then (v.trackerAt? []).map fun t => { t with onHeap := false }
      else v.trackerAt? path := by
  cases v with
  | object type vs a =>
    cases a with
    | none => cases path <;> rfl
    | some t => cases path <;> rfl
  | _ => cases path <;> rfl

end Value

namespace Universe

variable {u : Universe} {nested : TypeId → Template → Attempt Value}

/-- Constructions that succeed build housed values, if they start from formed ones. -/
def Houses (u : Universe) (nested : TypeId → Template → Attempt Value) : Prop :=
  ∀ t c h w h', u.StartsFormed c → (nested t c).run.run h = (.ok w, h') → w.Housed

/-- What became of a field is housed, and the tracker lists no more than before or the buffer in
that field. -/
lemma Became.housed (below : u.Houses nested) (plain : u.PlainDefaults) {m : Manager} {f : Field}
    {source : Option Value} {a b : Option Tracker} {x : Value}
    (became : u.Became nested m f source h a x b h')
    (formed : ∀ v, source = some v → u.isFormed v = true) :
    x.Housed ∧ ∀ d ∈ buffersOf b, d ∈ buffersOf a ∨ x = .buffer (.to d) := by
  cases became with
  | copied ran =>
    refine ⟨below _ _ _ _ _ ?_ ran, fun _ => .inl⟩
    rintro _ ⟨⟩
    exact formed _ rfl
  | @adopted ref bytes d t =>
    refine ⟨Value.housed_of_plain rfl, fun e he => ?_⟩
    change e ∈ (t.push d).buffers at he
    rw [Tracker.buffers_push] at he
    obtain old | new := List.mem_append.1 he
    · exact .inl old
    · rw [List.mem_singleton.1 new]
      exact .inr rfl
  | part _ _ ran =>
    refine ⟨below _ _ _ _ _ ?_ ran, fun _ => .inl⟩
    rintro _ ⟨⟩
  | same object => exact ⟨Value.housed_of_plain object, fun _ => .inl⟩
  | default _ none => exact ⟨Value.housed_of_plain (isObject_default plain none), fun _ => .inl⟩
  | shared => exact ⟨Value.housed_of_plain rfl, fun _ => .inl⟩
  | null => exact ⟨Value.housed_of_plain rfl, fun _ => .inl⟩

/-- The tracker of an object lists the buffers that it adopted for the fields. -/
lemma Assembled.housed (below : u.Houses nested) (extend : ExtendHeaps nested)
    (plain : u.PlainDefaults) {c : Template} {m : Manager} {initials canonical : Option (List Value)}
    {a b : Option Tracker} {fs : List Field} {vs : List Value} (idle : Idle a)
    (formed : ∀ h f v, u.sourceOf h c initials canonical f = some v → u.isFormed v = true)
    (steps : u.Assembled nested c m initials canonical h a fs vs b h') :
    (∀ v ∈ vs, v.Housed) ∧ ∀ d ∈ buffersOf b, d ∈ buffersOf a ∨ .buffer (.to d) ∈ vs := by
  induction steps with
  | nil => exact ⟨nofun, fun _ => .inl⟩
  | cons first _ ih =>
    have became := became_of_made idle first
    obtain ⟨housed, new⟩ := became.housed below plain (formed _ _)
    obtain ⟨rest, later⟩ := ih (became.extends extend idle).2.idle
    refine ⟨List.forall_mem_cons.2 ⟨housed, rest⟩, fun d hd => ?_⟩
    obtain hd | hd := later d hd
    · obtain old | rfl := new d hd
      · exact .inl old
      · exact .inr List.mem_cons_self
    · exact .inr (List.mem_cons_of_mem _ hd)

/-- A value of a type that is no struct is a raw copy of the initials, or else it is the default. -/
lemma construct_plain_ok (hooks : u.HookFree) {depth : Nat} {t : TypeId} {c : Template} {w : Value}
    (none : u.layout? t = none) (ran : (u.construct depth t c).run.run h = (.ok w, h')) :
    w = (c.initials?.or (u.desc t).canonical).elim (u.zeroOf t) (·.rawCopy) := by
  cases depth with
  | zero => cases ran
  | succ depth =>
    replace ran := construct_ok ran
    rw [constructWith] at ran
    split at ran
    · cases ran
    · rw [hooks.consultConstruct, liftM_pure, pure_bind] at ran
      dsimp only at ran
      split at ran
      · rename_i l hk
        cases (layout?_of_kind hk).symm.trans none
      · cases ran
      · exact (pure_ok ran).1

/-- It is no object. -/
lemma isObject_construct_plain (hooks : u.HookFree) (plain : u.PlainDefaults) {depth : Nat}
    {t : TypeId} {c : Template} {w : Value} (starts : u.StartsFormed c) (none : u.layout? t = none)
    (ran : (u.construct depth t c).run.run h = (.ok w, h')) : w.isObject = false := by
  rw [construct_plain_ok hooks none ran]
  cases initials : c.initials? with
  | none => exact isObject_default plain none
  | some v =>
    refine (isObject_rawCopy v).trans ?_
    cases v with
    | object s vs a =>
      -- an object is of a struct type, and initials are of exactly the type
      obtain ⟨⟨l, hl, _⟩, _⟩ := isFormed_object.1 (starts _ initials)
      cases depth with
      | zero => cases ran
      | succ depth =>
        cases of_decide_eq_true (isExact_of_ok (construct_ok ran) initials)
        cases none.symm.trans hl
    | _ => rfl

/-- What is constructed is housed, by induction on the depth. -/
lemma houses_construct (hooks : u.HookFree) (defaults : u.DefaultsFormed) (plain : u.PlainDefaults)
    (depth : Nat) : u.Houses (u.construct depth) := by
  induction depth with
  | zero =>
    intro t c h w h' _ ran
    cases ran
  | succ depth ih =>
    intro t c h w h' starts ran
    cases hl : u.layout? t with
    | none => exact Value.housed_of_plain (isObject_construct_plain hooks plain starts hl ran)
    | some l =>
      have leaves := (assembled?_eq_some.1 (assembled?_of_layout? hooks hl)).1
      obtain ⟨l', m, h₁, vs, b, _, _, rfl, _, steps⟩ :=
        constructStruct_ok (constructWith_struct_ok hl leaves (construct_ok ran))
      have inherited := inherited_isFormed defaults
      have formed := all_of_template inherited starts t true
      obtain ⟨inside, listed⟩ := steps.housed ih (u.extends_construct depth) plain
        (idle_new l'.tracked _) fun h f v source =>
          inherited.originOf formed ((value?_originOf h t c true f).trans source)
      refine Value.housed_finish t inside fun d hd => (listed d hd).resolve_left fun old => ?_
      split at old <;> cases old

/-! ### Where the buffers come from -/

/-- Values that only refer to buffers that can be read are handed down. -/
lemma inherited_known (known : ∀ t v, (u.desc t).canonical = some v → v.Known h) :
    u.Inherited (Value.Known h) where
  inside v vs fields inside w mem path b found := by
    obtain ⟨i, hi⟩ := List.mem_iff_getElem?.1 mem
    cases v with
    | object t ws a =>
      cases fields
      refine inside (i :: path) b ?_
      rw [Value.at?, hi]
      exact found
    | _ => cases fields
  canonical := known

/-- A buffer that an origin names is older than the construction. -/
lemma known_of_origin (inherited : u.Inherited (Value.Known h)) {s : Start}
    (all : s.All (Value.Known h)) {m : List Nat → Heap} {p : List Nat} {o : Origin} {b : BufferId}
    (origin : u.originAt m s p = some o) (value : o.value? = some (.buffer (.to b))) :
    b < h.cells.size :=
  inherited.originAt all origin value [] b rfl

/-- In an object with a tracker there is a copy of the buffer that the origin names. -/
lemma copied_of_follows (inherited : u.Inherited (Value.Known h)) {s : Start}
    (all : s.All (Value.Known h)) (later : h.Extends h') {m : List Nat → Heap} {w : Value}
    (follows : u.Follows m s h' w) {p : List Nat} {o : Origin} {src : Handle} {tr : Tracker}
    (origin : u.originAt m s p = some o) (value : o.value? = some (.buffer src))
    (around : w.trackerAt? p.dropLast = some tr) :
    ∃ b ∈ tr.buffers, ∃ bytes, w.at? p = some (.buffer (.to b)) ∧ h.read src = some bytes ∧
      h'.read (.to b) = some bytes := by
  obtain ⟨x, found, accords⟩ := follows p o origin
  rw [around] at accords
  have copy : u.IsCopy h' (some tr) x (.buffer src) := by
    cases o with
    | initial v | preset v =>
      cases value
      exact accords
    | blank => cases value
  obtain ⟨b, mem, bytes, rfl, read, same⟩ := copy
  refine ⟨b, mem, bytes, found, ?_, same⟩
  -- nothing happened to the buffer of the source
  obtain _ | a := src
  · cases read
  · rwa [later.read_old (known_of_origin inherited all origin value)] at read

/-- In an object without a tracker there is that buffer itself. -/
lemma shared_of_follows {s : Start} {m : List Nat → Heap} {w : Value}
    (follows : u.Follows m s h w) {p : List Nat} {o : Origin} {src : Handle}
    (origin : u.originAt m s p = some o) (value : o.value? = some (.buffer src))
    (around : w.trackerAt? p.dropLast = none) : w.at? p = some (.buffer src) := by
  obtain ⟨x, found, accords⟩ := follows p o origin
  rw [around] at accords
  cases o with
  | initial v | preset v =>
    cases value
    cases accords
    exact found
  | blank => cases value

/-- A default that is a buffer is the one that the type was given. -/
lemma buffer_of_default {t : TypeId} (none : u.layout? t = none) {ref : Handle}
    (default : (u.desc t).canonical.elim (u.zeroOf t) (·.rawCopy) = .buffer ref) :
    (u.desc t).canonical = some (.buffer ref) := by
  cases canonical : (u.desc t).canonical with
  | none =>
    rw [canonical] at default
    have zero := (zeroOf_of_plain none).2
    rw [show u.zeroOf t = _ from default] at zero
    cases zero
  | some v =>
    rw [canonical] at default
    cases v with
    | buffer =>
      cases default
      rfl
    | _ => cases default

/-- A buffer in a field without a source is the default of the type of the field. -/
lemma default_of_follows {s : Start} {m : List Nat → Heap} {w : Value}
    (follows : u.Follows m s h w) {p : List Nat} {t : TypeId} {ref : Handle}
    (origin : u.originAt m s p = some (.blank (some t))) (none : u.layout? t = none)
    (found : w.at? p = some (.buffer ref)) : (u.desc t).canonical = some (.buffer ref) := by
  obtain ⟨x, found', accords⟩ := follows p _ origin
  cases found.symm.trans found'
  rw [Accords, none] at accords
  exact buffer_of_default none accords.symm

/-- A buffer in a field has a source or is a default. -/
lemma Filled.buffer_inv {m : List Nat → Heap} {a : Option Tracker} {o : Origin} {x : Value}
    {ref : Handle} (filled : u.Filled m h a o x) (buffer : x = .buffer ref)
    (hooks : u.HookFree) : (∃ src, o.value? = some (.buffer src)) ∨
      ∃ t, o = .blank (some t) ∧ u.layout? t = none := by
  cases filled with
  | object _ hl object =>
    obtain ⟨_, _, rfl, _⟩ := object _ (assembled?_of_layout? hooks hl)
    cases buffer
  | adopted value => exact .inl ⟨_, value⟩
  | shared value => exact .inl ⟨_, value⟩
  | same _ _ other =>
    rw [buffer] at other
    cases other
  | null => cases buffer
  | default none => exact .inr ⟨_, rfl, none⟩

/-- Who owns the buffers of `w`, which was constructed between `h` and `h'`, while the moments `m`
decided what its fields were taken from. -/
structure Furnished (u : Universe) (t : TypeId) (c : Template) (m : List Nat → Heap) (h : Heap)
    (w : Value) (h' : Heap) : Prop where
  /-- A buffer that was taken from the initials or from a default instance is a new one with the
  same bytes, owned by the tracker of the object that it is in, if that object has a tracker. -/
  copied : ∀ p o src tr, u.originAt m (.of t c true) p = some o → o.value? = some (.buffer src) →
    w.trackerAt? p.dropLast = some tr →
    ∃ b ∈ tr.buffers, h.cells.size ≤ b ∧ w.at? p = some (.buffer (.to b)) ∧
      ∃ bytes, h.read src = some bytes ∧ h'.read (.to b) = some bytes
  /-- It is the buffer of the source otherwise, and no new one. -/
  shared : ∀ p o src, u.originAt m (.of t c true) p = some o → o.value? = some (.buffer src) →
    w.trackerAt? p.dropLast = none →
    w.at? p = some (.buffer src) ∧ ∀ b, src = .to b → b < h.cells.size
  /-- A buffer that comes from nothing but the type of a field is the default of that type. -/
  default : ∀ p s ref, u.originAt m (.of t c true) p = some (.blank (some s)) →
    u.layout? s = none → w.at? p = some (.buffer ref) → (u.desc s).canonical = some (.buffer ref)
  /-- There are no other buffers inside. -/
  origins : ∀ p ref, p ≠ [] → w.at? p = some (.buffer ref) →
    ∃ o, u.originAt m (.of t c true) p = some o ∧
      ((∃ src, o.value? = some (.buffer src)) ∨ ∃ s, o = .blank (some s) ∧ u.layout? s = none)
  /-- A buffer that is in no object is that of the initials, or else the default of the type. -/
  root : ∀ ref, w = .buffer ref → c.initials?.or (u.desc t).canonical = some (.buffer ref)
  /-- The trackers own exactly the new buffers, each of them those in its own object, and they
  mark the heap. -/
  owned : ∀ b, b ∈ w.owned ↔ h.cells.size ≤ b ∧ ∃ p, w.at? p = some (.buffer (.to b))
  listed : ∀ path tr b, w.trackerAt? path = some tr → b ∈ tr.buffers →
    ∃ i, w.at? (path ++ [i]) = some (.buffer (.to b))
  once : w.owned.Nodup
  onHeap : ∀ path tr, w.trackerAt? path = some tr → tr.onHeap = true

/-- The result of a construction that began at `h` has nothing to do with what there was before, nor
has that with the result. -/
structure Detached (u : Universe) (h : Heap) (w : Value) (h' : Heap) : Prop where
  books : ∀ base held o, Ledger base held o h → Ledger base (w.owned ++ held) o h'
  /-- Whenever the result is given up, all buffers of before read as they did. -/
  givenUp : ∀ x, x = w ∨ x = w.offHeap → ∀ base held o h₂, Ledger base (w.owned ++ held) o h₂ →
    ∀ b < h.cells.size, u.Spared h₂ x (.to b)
  /-- Whenever another value or a tracker is given up, the buffers of the result read as they
  did. -/
  others : ∀ x base held o h₂, Ledger base (x.owned ++ (w.owned ++ held)) o h₂ →
    ∀ b ∈ w.owned, u.Spared h₂ x (.to b)
  trackers : ∀ (tr : Tracker) base held o h₂, Ledger base (tr.buffers ++ (w.owned ++ held)) o h₂ →
    ∀ b ∈ w.owned, (tr.release.run h₂).2.read (.to b) = h₂.read (.to b)

/-- A construction leaves its result independent of everything that was there before. -/
lemma detached_of_construct (hooks : u.HookFree) {depth : Nat} {t : TypeId} {c : Template}
    {w : Value} (ran : (u.construct depth t c).run.run h = (.ok w, h')) : u.Detached h w h' := by
  have books : ∀ base held o, Ledger base held o h → Ledger base (w.owned ++ held) o h' := by
    intro base held o ledger
    have owes := ledger_construct hooks.builds depth t c held h ledger
    rw [ran] at owes
    exact owes
  have new : ∀ b ∈ w.owned, h.cells.size ≤ b := fun b hb =>
    (books h [] {} (.start h)).since_of_mem (List.mem_append_left _ hb)
  have apart : ∀ {bs held base o h₂}, Ledger base (bs ++ (w.owned ++ held)) o h₂ →
      ∀ b ∈ w.owned, ∀ b' ∈ bs, Handle.to b ≠ .to b' := by
    rintro bs held base o h₂ ledger b hb _ hb' ⟨⟩
    exact (List.nodup_append.1 ledger.nodup).2.2 b hb' b (List.mem_append_left _ hb) rfl
  constructor
  case books => exact books
  case givenUp =>
    intro x result base held o h₂ ledger b old
    have own : x.owned = w.owned := by
      obtain rfl | rfl := result
      · rfl
      · exact w.owned_offHeap
    refine spared (own ▸ ledger) ?_
    rintro _ hb ⟨⟩
    exact Nat.not_lt_of_le (new b (own ▸ hb)) old
  case others => exact fun x base held o h₂ ledger b hb => spared ledger (apart ledger b hb)
  case trackers =>
    exact fun tr base held o h₂ ledger b hb => Tracker.read_release ledger (apart ledger b hb)

/-- In a value that is no object there is nothing to own. -/
lemma furnished_of_plain {t : TypeId} {c : Template} {m : List Nat → Heap} {w : Value}
    (hooks : u.HookFree) (plain : u.PlainDefaults) (starts : u.StartsFormed c)
    (known : ∀ v, c.initials? = some v → v.Known h)
    (knownDefaults : ∀ t v, (u.desc t).canonical = some v → v.Known h) {depth : Nat}
    (none : u.layout? t = none) (ran : (u.construct depth t c).run.run h = (.ok w, h')) :
    u.Furnished t c m h w h' := by
  have other := isObject_construct_plain hooks plain starts none ran
  have noOrigin : ∀ p, u.originAt m (.of t c true) p = Option.none := by
    refine originAt_of_not_assembled ?_ m
    rw [assembled?, show u.layout? (Start.of t c true).type = _ from none, ite_self]
  have noTracker : ∀ path, w.trackerAt? path = Option.none := by
    intro path
    cases w with
    | object => cases other
    | _ => cases path <;> rfl
  have here : ∀ p x, w.at? p = some x → p = [] ∧ x = w := by
    intro p x found
    cases p with
    | nil => exact ⟨rfl, (Option.some.inj found).symm⟩
    | cons i p =>
      cases w with
      | object => cases other
      | _ => cases found
  have root : ∀ ref, w = .buffer ref → c.initials?.or (u.desc t).canonical = some (.buffer ref) := by
    rintro ref rfl
    have made := construct_plain_ok hooks none ran
    cases initials : c.initials? with
    | none =>
      rw [initials] at made
      exact buffer_of_default none made.symm
    | some v =>
      rw [initials] at made
      cases v with
      | buffer =>
        cases made
        rfl
      | _ => cases made
  have own : w.owned = [] := by
    cases w with
    | object => cases other
    | _ => rfl
  constructor
  case copied =>
    intro p o src tr origin
    cases (noOrigin p).symm.trans origin
  case shared =>
    intro p o src origin
    cases (noOrigin p).symm.trans origin
  case default =>
    intro p s ref origin
    cases (noOrigin p).symm.trans origin
  case origins => exact fun p ref ne found => absurd (here p _ found).1 ne
  case root => exact root
  case owned =>
    intro b
    rw [own]
    refine ⟨fun mem => absurd mem List.not_mem_nil, ?_⟩
    rintro ⟨new, p, found⟩
    -- the buffer is that of the initials or of the default, which is older
    obtain ⟨_, rfl⟩ := here p _ found
    refine absurd new (Nat.not_le_of_lt ?_)
    obtain initials | ⟨_, canonical⟩ := Option.or_eq_some_iff.1 (root _ rfl)
    · exact known _ initials [] b rfl
    · exact knownDefaults t _ canonical [] b rfl
  case listed =>
    intro path tr b around
    cases (noTracker path).symm.trans around
  case once => exact own ▸ List.nodup_nil
  case onHeap =>
    intro path tr around
    cases (noTracker path).symm.trans around

/-- What follows the rule has all its buffers from where their origins say. -/
lemma furnished_of_follows {t : TypeId} {l : Layout} {c : Template} {m : List Nat → Heap}
    {w : Value} (hooks : u.HookFree) (defaults : u.DefaultsFormed) (plain : u.PlainDefaults)
    (starts : u.StartsFormed c) (known : ∀ v, c.initials? = some v → v.Known h)
    (knownDefaults : ∀ t v, (u.desc t).canonical = some v → v.Known h)
    (hl : u.layout? t = some l) (object : u.ObjectOf t w)
    (follows : u.Follows m (.of t c true) h' w) (later : h.Extends h')
    (ledger : Ledger h (w.owned ++ []) {} h') (housed : w.Housed) : u.Furnished t c m h w h' := by
  have inherited := inherited_known knownDefaults
  have all := all_of_template inherited known t true
  have formed := all_of_template (inherited_isFormed defaults) starts t true
  have new : ∀ b ∈ w.owned, h.cells.size ≤ b := fun b hb =>
    ledger.since_of_mem (List.mem_append_left _ hb)
  have isObject : ∀ ref, w ≠ .buffer ref := by
    rintro ref rfl
    obtain ⟨_, _, same, _⟩ := object l (assembled?_of_layout? hooks hl)
    cases same
  have origins : ∀ p ref, p ≠ [] → w.at? p = some (.buffer ref) →
      ∃ o, u.originAt m (.of t c true) p = some o ∧
        ((∃ src, o.value? = some (.buffer src)) ∨
          ∃ s, o = .blank (some s) ∧ u.layout? s = none) := by
    intro p ref ne found
    obtain ⟨_, o, origin, filled⟩ :=
      filled_of_follows hooks defaults plain ne formed hl object follows found
    exact ⟨o, origin, filled.buffer_inv rfl hooks⟩
  constructor
  case copied =>
    intro p o src tr origin value around
    obtain ⟨b, mem, bytes, found, read, same⟩ :=
      copied_of_follows inherited all later follows origin value around
    exact ⟨b, mem, new b ((Value.mem_owned_iff w).2 ⟨_, tr, around, mem⟩), found, bytes, read, same⟩
  case shared =>
    intro p o src origin value around
    refine ⟨shared_of_follows follows origin value around, ?_⟩
    rintro b rfl
    exact known_of_origin inherited all origin value
  case default => exact fun p s ref => default_of_follows follows
  case origins => exact origins
  case root => exact fun ref same => absurd same (isObject ref)
  case owned =>
    intro b
    constructor
    · intro own
      obtain ⟨path, tr, around, mem⟩ := (Value.mem_owned_iff w).1 own
      obtain ⟨i, found⟩ := housed.at? around mem
      exact ⟨new b own, _, found⟩
    · rintro ⟨fresh, p, found⟩
      have ne : p ≠ [] := by
        rintro rfl
        exact isObject _ (Option.some.inj found)
      obtain ⟨o, origin, ⟨src, value⟩ | ⟨s, rfl, none⟩⟩ := origins p _ ne found
      · cases around : w.trackerAt? p.dropLast with
        | some tr =>
          obtain ⟨b', mem, _, found', _⟩ :=
            copied_of_follows inherited all later follows origin value around
          cases found.symm.trans found'
          exact (Value.mem_owned_iff w).2 ⟨_, tr, around, mem⟩
        | none =>
          cases found.symm.trans (shared_of_follows follows origin value around)
          exact absurd fresh (Nat.not_le_of_lt (known_of_origin inherited all origin value))
      · have old := knownDefaults s _ (default_of_follows follows origin none found) [] b rfl
        exact absurd fresh (Nat.not_le_of_lt old)
  case listed => exact fun path tr b => housed.at?
  case once => exact ledger.nodup.sublist (List.sublist_append_left ..)
  case onHeap => exact fun path tr => housed.onHeap

/-- A construction leaves the sources their buffers, and its result owns the copies that it made,
each of them through the tracker of the object around it. -/
theorem construct_furnishes (hooks : u.HookFree) (defaults : u.DefaultsFormed)
    (plain : u.PlainDefaults) {t : TypeId} {c : Template} (starts : u.StartsFormed c)
    (known : ∀ v, c.initials? = some v → v.Known h)
    (knownDefaults : ∀ t v, (u.desc t).canonical = some v → v.Known h) {depth : Nat} {w : Value}
    (ran : (u.construct depth t c).run.run h = (.ok w, h')) :
    (∃ m, Between h h' m ∧ u.Follows m (.of t c true) h' w ∧ u.Furnished t c m h w h') ∧
    u.Detached h w h' ∧
    (u.constructAt depth t .null c).run h = ((w.offHeap, none, c.message), h') ∧
    ∀ path, w.offHeap.trackerAt? path =
      if path = [] then (w.trackerAt? []).map fun tr => { tr with onHeap := false }
      else w.trackerAt? path := by
  have detached := detached_of_construct hooks ran
  refine ⟨?_, detached, ?_, fun path => w.trackerAt?_offHeap path⟩
  · obtain ⟨object, m, _, between, follows⟩ := u.obey_construct depth t c h w h' ran
    refine ⟨m, between, follows true, ?_⟩
    cases hl : u.layout? t with
    | none => exact furnished_of_plain hooks plain starts known knownDefaults hl ran
    | some l =>
      exact furnished_of_follows hooks defaults plain starts known knownDefaults hl object
        (follows true) (u.extends_construct depth t c h w h' ran) (detached.books h [] {} (.start h))
        (houses_construct hooks defaults plain depth t c h w h' starts ran)
  · rw [constructAt, if_pos (show Value.null.isNull = true from rfl), StateT.run_bind,
      constructReporting, StateT.run_bind, ran]
    rfl

/-- A twig is grafted: its leaf has a copy of the buffer that somebody else tracked. -/
theorem construct_furnishes_twig :
    let u := withTwig (some (.buffer (.to 0)))
    u.HookFree ∧ u.DefaultsFormed ∧ u.PlainDefaults ∧ u.StartsFormed graft ∧
      (∀ v, graft.initials? = some v → v.Known soil) ∧
      (∀ t v, (u.desc t).canonical = some v → v.Known soil) ∧
      ∃ w h' m, (u.construct 2 20 graft).run.run soil = (.ok w, h') ∧ w.owned = [1] ∧
        w.at? [0, 0] = some (.buffer (.to 1)) ∧
        u.originAt m (.of 20 graft true) [0, 0] = some (.initial (.buffer (.to 0))) ∧
        u.Furnished 20 graft m soil w h' ∧ u.Detached soil w h' := by
  intro u
  have hooks : u.HookFree := hookFree_of_all rfl
  have defaults : u.DefaultsFormed := canonical_of_all (P := fun _ v => u.isFormed v) rfl
  have starts : u.StartsFormed graft := by
    rintro v ⟨⟩
    rfl
  have known : ∀ v, graft.initials? = some v → v.Known soil := by
    rintro v ⟨⟩ path b found
    have one : soil.cells.size = 1 := rfl
    rw [one]
    rcases path with _ | ⟨_ | i, _ | ⟨_ | j, _ | ⟨k, path⟩⟩⟩ <;> cases found
    exact Nat.zero_lt_one
  have knownDefaults : ∀ t v, (u.desc t).canonical = some v → v.Known soil := by
    intro t v hv path b found
    have old := canonical_of_all (u := u)
      (P := fun _ v => !v.isObject && v.handle? ∈ [none, some (.to 0)]) rfl t v hv
    rw [Bool.and_eq_true, Bool.not_eq_true', decide_eq_true_iff] at old
    cases path with
    | nil =>
      cases found
      obtain ⟨_, here⟩ := old
      have zero : b = 0 := by simpa [Value.handle?] using here
      rw [zero]
      exact Nat.zero_lt_one
    | cons i path =>
      cases v with
      | object => cases old.1
      | _ => cases found
  obtain ⟨h', ran⟩ : ∃ h', (u.construct 2 20 graft).run.run soil = (.ok (.object 20
      [.object 19 [.buffer (.to 1)] (some
        { manager := some .system, onHeap := true, buffers := [1], capacity := 4 })]
      (some { manager := some .system, onHeap := true })), h') := ⟨_, rfl⟩
  obtain ⟨⟨m, _, _, furnished⟩, detached, _⟩ :=
    construct_furnishes hooks defaults (plain_of_all rfl) starts known knownDefaults ran
  exact ⟨hooks, defaults, plain_of_all rfl, starts, known, knownDefaults, _, h', m, ran, rfl, rfl,
    rfl, furnished, detached⟩

/-- The object that is the default of a type of bytes is copied as it is, and the tracker of the
copy does not mark the heap. -/
theorem preset_not_on_heap :
    let u := withTwig (some (.object 19 [.null] (some {})))
    u.HookFree ∧ u.DefaultsFormed ∧ u.StartsFormed {} ∧
      (∀ t v, (u.desc t).kind.parity = "opaque" → (u.desc t).canonical = some v →
        v.isObject = false) ∧
      ∃ v tr, ((u.construct 1 21 {}).run.run {}).1 = .ok v ∧ v.trackerAt? [] = some tr ∧
        tr.onHeap = false := by
  intro u
  exact ⟨hookFree_of_all rfl, canonical_of_all (P := fun _ v => u.isFormed v) rfl, nofun,
    opaque_of_all rfl, _, _, rfl, rfl, rfl⟩

end Universe

end Metaobject
