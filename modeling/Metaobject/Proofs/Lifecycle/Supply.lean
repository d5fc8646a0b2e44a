import Metaobject.Proofs.Lifecycle.Formation
import Metaobject.Proofs.Lifecycle.Passage

/-!
# Who supplies the memory

One manager serves a construction, at every depth and however it ends: `Universe.resolved` names it.
A duplicate takes its managers from the source instead, tracker by tracker.
`Universe.construct_duplicate_managers` says both, for types without hooks. A type that is no struct
must not have an object for its default: such an object is copied as it is, and its trackers go on
being bound to managers of their own.
-/

namespace Metaobject

open Attempt

/-- From one moment to a later one no cell of before changed, and what was handed out before stays
on record. -/
structure Heap.Onward (h h' : Heap) : Prop where
  cells : h.Extends h'
  answers : h.answers <+: h'.answers

namespace Heap.Onward

variable {h h' h'' : Heap}

lemma refl (h : Heap) : h.Onward h :=
  ⟨.refl h, List.prefix_rfl⟩

lemma trans (first : h.Onward h') (second : h'.Onward h'') : h.Onward h'' :=
  ⟨first.cells.trans second.cells, first.answers.trans second.answers⟩

/-- No cell goes away. -/
lemma size_le (onward : h.Onward h') : h.cells.size ≤ h'.cells.size := by
  apply size_le_of_cells
  intro b c hc
  rw [onward.cells b c hc]
  rfl

end Heap.Onward

/-- Between two moments the buffer was made from a block that the manager handed out. -/
def Heap.Granted (h h' : Heap) (m : Option Manager) (b : BufferId) : Prop :=
  ∃ (c : Cell) (x : Answer), h.cells.size ≤ b ∧ h'.cells[b]? = some c ∧ c.manager = m ∧
    x ∈ h'.answers.drop h.answers.length ∧ x.service = .of m ∧ x.block.address = c.block.address

/-- What was granted in a stretch of time was granted in a longer one. -/
lemma Heap.Granted.within {h₀ h h' h₁ : Heap} {m : Option Manager} {b : BufferId}
    (granted : h.Granted h' m b) (before : h₀.Onward h) (after : h'.Onward h₁) :
    h₀.Granted h₁ m b := by
  obtain ⟨c, x, since, hc, manager, hx, service, address⟩ := granted
  refine ⟨c, x, Nat.le_trans before.size_le since, after.cells b c hc, manager, ?_, service,
    address⟩
  obtain ⟨rest, eq⟩ := after.answers
  rw [← eq]
  have early := (List.drop_sublist_drop_left h'.answers before.answers.length_le).subset hx
  rw [List.drop_append]
  exact List.mem_append_left _ early

/-- A buffer that a tracker adopts comes from the manager of the tracker. -/
lemma Tracker.adopt_granted {t t' : Tracker} (idle : t.setup = none) {ref : Handle} {v : Value}
    {h h' : Heap} (ran : (t.adopt ref).run.run h = (.ok (v, t'), h')) :
    h.Onward h' ∧ ∃ b, v = .buffer (.to b) ∧ t' = t.push b ∧ h.Granted h' t.manager b := by
  rw [adopt, Attempt.run_get] at ran
  cases known : h.read ref with
  | none =>
    rw [known] at ran
    cases ran
  | some bytes =>
    rw [known] at ran
    -- a tracker of an object under construction was set up, so it allocates at once
    have now : t.allocateCopy bytes = t.allocateNow bytes.length fun _ => bytes := by
      rw [allocateCopy, allocateWith, ensureSetup_of_none idle, pure_bind]
    replace ran := lift_ok ran
    rw [now] at ran
    have ends := t.allocateNow_cases bytes.length (fun _ => bytes) h
    generalize (t.allocateNow bytes.length fun _ => bytes).run h = r at ends ran
    cases ends with
    | refused => cases ran
    | spoiled => cases ran
    | @tracked h₁ x b step service _ _ _ same =>
      cases ran
      have answers : (h₁.withNewCell { block := b, manager := t.manager }).answers =
          h.answers ++ [x] := step.answers
      refine ⟨⟨(Heap.Extends.of_cells step.cells).trans (.withNewCell h₁ _), ?_⟩, _, rfl, rfl,
        { block := b, manager := t.manager }, x, ?_, Array.getElem?_push_size, rfl, ?_, service,
        same⟩
      · rw [answers]
        exact List.prefix_append ..
      · exact Nat.le_of_eq (congrArg Array.size step.cells).symm
      · rw [answers, List.drop_left]
        exact List.mem_singleton_self x

/-- A copy of a value has a tracker where the value has one, bound to the same manager. Its buffers
are those of the value, or they were handed out by the manager of the tracker that lists them. -/
structure Value.CopiedTo (h h' : Heap) (v w : Value) : Prop where
  managers : ∀ path, (w.trackerAt? path).map (·.manager) = (v.trackerAt? path).map (·.manager)
  granted : ∀ path t, w.trackerAt? path = some t → ∀ b ∈ t.buffers, h.Granted h' t.manager b
  buffers : ∀ path ref, w.at? path = some (.buffer ref) → v.at? path = some (.buffer ref) ∨
    ∃ parent i t b, path = parent ++ [i] ∧ w.trackerAt? parent = some t ∧ b ∈ t.buffers ∧
      ref = .to b

namespace Value

/-- What was copied in a stretch of time was copied in a longer one. -/
lemma CopiedTo.within {h₀ h h' h₁ : Heap} {v w : Value} (copied : v.CopiedTo h h' w)
    (before : h₀.Onward h) (after : h'.Onward h₁) : v.CopiedTo h₀ h₁ w where
  managers := copied.managers
  granted path t ht b hb := (copied.granted path t ht b hb).within before after
  buffers := copied.buffers

/-- A raw copy has new trackers for the same managers, and shares all buffers. -/
lemma copiedTo_rawCopy (h h' : Heap) (v : Value) : v.CopiedTo h h' v.rawCopy where
  managers path := by
    rw [trackerAt?_rawCopy, Option.map_map]
    rfl
  granted path t ht b hb := by
    rw [trackerAt?_rawCopy] at ht
    obtain ⟨t', _, rfl⟩ := Option.map_eq_some_iff.1 ht
    cases hb
  buffers path ref found := by
    rw [at?_rawCopy] at found
    obtain ⟨v', hv', same⟩ := Option.map_eq_some_iff.1 found
    cases v' with
    | buffer ref' =>
      cases same
      exact .inl hv'
    | _ => cases same

/-- What a field of a copy holds: a copy of the value in the field of the source, or a buffer that
the tracker of the copy lists, for a buffer there. -/
inductive EchoedIn (h h' : Heap) (a : Option Tracker) : Value → Value → Prop where
  | copied {v w : Value} (copied : v.CopiedTo h h' w) : EchoedIn h h' a v w
  | adopted {ref : Handle} {b : BufferId} (listed : b ∈ buffersOf a) :
    EchoedIn h h' a (.buffer ref) (.buffer (.to b))

/-- What echoes a value goes on to do so. -/
lemma EchoedIn.later {h h' h'' : Heap} {a b : Option Tracker} {v w : Value}
    (echoed : EchoedIn h h' a v w) (onward : h'.Onward h'') (kept : buffersOf a ⊆ buffersOf b) :
    EchoedIn h h'' b v w := by
  cases echoed with
  | copied copied => exact .copied (copied.within (.refl h) onward)
  | adopted listed => exact .adopted (kept listed)

/-- The buffers of a tracker were handed out by its manager. -/
def GrantedTo (h h' : Heap) (a : Option Tracker) : Prop :=
  ∀ t, a = some t → ∀ b ∈ t.buffers, h.Granted h' t.manager b

/-- Two lists whose elements are related have the same positions. -/
lemma getElem?_forall₂ {R : Value → Value → Prop} {vs ws : List Value}
    (related : List.Forall₂ R vs ws) (i : Nat) :
    vs[i]? = none ∧ ws[i]? = none ∨ ∃ v w, vs[i]? = some v ∧ ws[i]? = some w ∧ R v w := by
  induction related generalizing i with
  | nil => exact .inl ⟨rfl, rfl⟩
  | cons first _ ih =>
    cases i with
    | zero => exact .inr ⟨_, _, rfl, rfl, first⟩
    | succ i => exact ih i

/-- An object is a copy of another one if its fields are and its tracker is bound to the same
manager. -/
lemma copiedTo_finish {h h' : Heap} (type : TypeId) {vs ws : List Value} {a b : Option Tracker}
    (fields : List.Forall₂ (EchoedIn h h' b) vs ws)
    (managers : b.map (·.manager) = a.map (·.manager)) (granted : GrantedTo h h' b) :
    (object type vs a).CopiedTo h h' (finish type ws b) where
  managers path := by
    cases path with
    | nil =>
      refine Eq.trans ?_ managers
      cases b <;> rfl
    | cons i is =>
      show ((ws[i]?).bind _).map _ = ((vs[i]?).bind _).map _
      obtain ⟨hv, hw⟩ | ⟨v, w, hv, hw, echoed⟩ := getElem?_forall₂ fields i
      · rw [hv, hw]
      · rw [hv, hw]
        cases echoed with
        | copied copied => exact copied.managers is
        | adopted => cases is <;> rfl
  granted path t ht x hx := by
    cases path with
    | nil =>
      obtain ⟨t', ht', rfl⟩ := Option.map_eq_some_iff.1 ht
      exact granted t' ht' x hx
    | cons i is =>
      obtain ⟨w, hw, ht⟩ := Option.bind_eq_some_iff.1 ht
      obtain ⟨_, none⟩ | ⟨v, w', hv, hw', echoed⟩ := getElem?_forall₂ fields i
      · cases hw.symm.trans none
      · cases hw.symm.trans hw'
        cases echoed with
        | copied copied => exact copied.granted is t ht x hx
        | adopted => cases is <;> cases ht
  buffers path ref found := by
    cases path with
    | nil => cases found
    | cons i is =>
      obtain ⟨w, hw, found⟩ := Option.bind_eq_some_iff.1 found
      obtain ⟨_, none⟩ | ⟨v, w', hv, hw', echoed⟩ := getElem?_forall₂ fields i
      · cases hw.symm.trans none
      · cases hw.symm.trans hw'
        cases echoed with
        | copied copied =>
          obtain shared | ⟨parent, j, t, x, rfl, ht, hx, rfl⟩ := copied.buffers is ref found
          · exact .inl (Option.bind_eq_some_iff.2 ⟨v, hv, shared⟩)
          · refine .inr ⟨i :: parent, j, t, x, rfl, ?_, hx, rfl⟩
            exact Option.bind_eq_some_iff.2 ⟨w, hw, ht⟩
        | @adopted ref' x listed =>
          cases is with
          | nil =>
            cases found
            -- without a tracker nothing is listed
            obtain _ | t := b
            · cases listed
            · exact .inr ⟨[], i, { t with onHeap := true }, x, rfl, rfl, listed, rfl⟩
          | cons => cases found

end Value

namespace Universe

variable {u : Universe}

/-! ### Duplication -/

/-- How far a duplication of an object has come that began at `h₀`: the values of `done` are copied,
and the tracker is bound as that of the source is. -/
structure Copying (h₀ h : Heap) (manager : Option (Option Manager)) (done built : List Value)
    (a : Option Tracker) : Prop where
  onward : h₀.Onward h
  echoed : List.Forall₂ (Value.EchoedIn h₀ h a) done built
  managers : a.map (·.manager) = manager
  idle : Idle a
  granted : Value.GrantedTo h₀ h a

/-- A field after which the tracker is as it was. -/
lemma Copying.add {h₀ h h' : Heap} {manager : Option (Option Manager)} {done built : List Value}
    {a : Option Tracker} (copying : Copying h₀ h manager done built a) {v w : Value}
    (onward : h.Onward h') (copied : v.CopiedTo h h' w) :
    Copying h₀ h' manager (done ++ [v]) (built ++ [w]) a where
  onward := copying.onward.trans onward
  echoed := by
    refine List.rel_append (copying.echoed.imp fun v w echoed => ?_) (.cons ?_ .nil)
    · exact echoed.later onward (List.Subset.refl _)
    · exact .copied (copied.within copying.onward (.refl h'))
  managers := copying.managers
  idle := copying.idle
  granted t ht b hb := (copying.granted t ht b hb).within (.refl h₀) onward

/-- A field with a buffer that the tracker adopts. -/
lemma Copying.adopt {h₀ h h' : Heap} {manager : Option (Option Manager)} {done built : List Value}
    {t : Tracker} (copying : Copying h₀ h manager done built (some t)) {ref : Handle}
    {b : BufferId} (onward : h.Onward h') (granted : h.Granted h' t.manager b) :
    Copying h₀ h' manager (done ++ [.buffer ref]) (built ++ [.buffer (.to b)])
      (some (t.push b)) := by
  have same : (t.push b).manager = t.manager := Tracker.manager_reserve t
  have listed : buffersOf (some (t.push b)) = t.buffers ++ [b] := Tracker.buffers_push t b
  refine ⟨copying.onward.trans onward, ?_, ?_, ?_, ?_⟩
  · refine List.rel_append (copying.echoed.imp fun v w echoed => ?_) (.cons (.adopted ?_) .nil)
    · refine echoed.later onward ?_
      rw [listed]
      exact List.subset_append_left ..
    · rw [listed]
      exact List.mem_append_right _ (List.mem_singleton_self b)
  · rw [← copying.managers, Option.map_some, Option.map_some, same]
  · rintro _ ⟨⟩
    rw [Tracker.setup_push]
    exact copying.idle t rfl
  · rintro _ ⟨⟩ x hx
    rw [same]
    rw [Tracker.buffers_push] at hx
    obtain old | new := List.mem_append.1 hx
    · exact (copying.granted t rfl x old).within (.refl h₀) onward
    · rw [List.mem_singleton.1 new]
      exact granted.within copying.onward (.refl h')

/-- One field more is copied, if its value is copied by its duplications. -/
lemma Copying.next {h₀ h h' : Heap} {manager : Option (Option Manager)} {done built : List Value}
    {a a' : Option Tracker} (copying : Copying h₀ h manager done built a) {v w : Value}
    {duplicate : TypeId → Attempt Value}
    (copies : ∀ t w h', (duplicate t).run.run h = (.ok w, h') → h.Onward h' ∧ v.CopiedTo h h' w)
    {deep : Bool} {declared : Option TypeId}
    (ran : (duplicateInto duplicate deep declared a v).run.run h = (.ok (w, a'), h')) :
    Copying h₀ h' manager (done ++ [v]) (built ++ [w]) a' := by
  have through : ∀ t, (do return (← duplicate t, a) : Attempt (Value × Option Tracker)).run.run h =
      (.ok (w, a'), h') → Copying h₀ h' manager (done ++ [v]) (built ++ [w]) a' := by
    intro t ran
    obtain ⟨x, h₁, ran, done⟩ := bind_ok ran
    cases done
    obtain ⟨onward, copied⟩ := copies t w h' ran
    exact copying.add onward copied
  have raw : (pure (v.rawCopy, a) : Attempt (Value × Option Tracker)).run.run h =
      (.ok (w, a'), h') → Copying h₀ h' manager (done ++ [v]) (built ++ [w]) a' := by
    intro ran
    cases ran
    exact copying.add (.refl h) (v.copiedTo_rawCopy h h)
  unfold duplicateInto at ran
  split at ran
  · split at ran
    · exact through _ ran
    · obtain ⟨⟨x, t'⟩, h₁, ran, done⟩ := bind_ok ran
      cases done
      obtain ⟨onward, b, rfl, rfl, granted⟩ := Tracker.adopt_granted (copying.idle _ rfl) ran
      exact copying.adopt onward granted
    · exact raw ran
    · exact through _ ran
    · exact raw ran
  · exact raw ran

/-- To begin with nothing was copied, and the tracker lists nothing. -/
lemma copying_fresh (h : Heap) (a : Option Tracker) :
    Copying h h (a.map (·.manager)) [] [] (a.map fun t => { manager := t.manager }) := by
  refine ⟨.refl h, .nil, ?_, idle_fresh a, ?_⟩
  · cases a <;> rfl
  · intro t ht b hb
    obtain ⟨t', _, rfl⟩ := Option.map_eq_some_iff.1 ht
    cases hb

/-- What is no object is copied as it is, as no hook has a say. -/
lemma copied_duplicatePlain (hooks : u.HookFree) {t : TypeId} {recursive : Bool} {v w : Value}
    {h h' : Heap} (ran : (u.duplicatePlain t recursive v).run.run h = (.ok w, h')) :
    h.Onward h' ∧ v.CopiedTo h h' w := by
  rw [duplicatePlain] at ran
  split at ran
  · rw [hooks.consultDuplicate] at ran
    cases ran
    exact ⟨.refl h, v.copiedTo_rawCopy h h⟩
  · cases ran

mutual

/-- A duplicate is a copy of its source. -/
lemma copied_duplicate (hooks : u.HookFree) : (v : Value) → ∀ (t : TypeId) (recursive : Bool)
    {w : Value} {h h' : Heap}, (u.duplicate t recursive v).run.run h = (.ok w, h') →
      h.Onward h' ∧ v.CopiedTo h h' w
  | .object s vs a, t, recursive, w, h, h', ran => by
    rw [duplicate] at ran
    split at ran
    · rw [hooks.consultDuplicate, liftM_pure, pure_bind] at ran
      dsimp only at ran
      cases hf : u.fieldsFor s vs with
      | error e =>
        rw [hf] at ran
        cases ran
      | ok fs =>
        rw [hf] at ran
        obtain ⟨ws, b, rfl, copying⟩ := copied_duplicateFields hooks vs s recursive fs
          (length_of_fieldsFor hf) (copying_fresh h a) ran
        exact ⟨copying.onward,
          Value.copiedTo_finish s copying.echoed copying.managers copying.granted⟩
    · cases ran
  | .null, t, recursive, w, h, h', ran | .scalar _, t, recursive, w, h, h', ran
  | .buffer _, t, recursive, w, h, h', ran | .reference _ _, t, recursive, w, h, h', ran
  | .descriptor _, t, recursive, w, h, h', ran => by
    simp only [duplicate] at ran
    exact copied_duplicatePlain hooks ran

/-- The fields are copied one by one, each through its type or as it is. -/
lemma copied_duplicateFields (hooks : u.HookFree) : (vs : List Value) →
    ∀ (type : TypeId) (recursive : Bool) (declared : List Field) {h₀ h h' : Heap}
      {manager : Option (Option Manager)} {done built : List Value} {a : Option Tracker}
      {w : Value}, vs.length = declared.length → Copying h₀ h manager done built a →
      (u.duplicateFields type recursive declared built a vs).run.run h = (.ok w, h') →
      ∃ ws b, w = finish type ws b ∧ Copying h₀ h' manager (done ++ vs) ws b
  | [], type, recursive, declared, _, _, _, _, _, built, a, _, _, copying, ran => by
    rw [duplicateFields] at ran
    cases ran
    rw [List.append_nil]
    exact ⟨built, a, rfl, copying⟩
  | v :: vs, type, recursive, declared, h₀, h, _, _, done, built, a, _, len, copying, ran => by
    cases declared with
    | nil => cases len
    | cons f fs =>
      rw [duplicateFields, run_outcome] at ran
      obtain ⟨x, b, ok, ran⟩ := settle_ok ran
      rw [List.append_cons done v vs]
      have next := copying.next (fun t w h' => copied_duplicate hooks v t true) (Prod.ext ok rfl)
      exact copied_duplicateFields hooks vs type recursive fs (Nat.succ.inj len) next ran

end

/-! ### Construction -/

/-- A type that is no struct does not have an object for its default. -/
def PlainDefaults (u : Universe) : Prop :=
  ∀ t v, u.layout? t = none → (u.desc t).canonical = some v → v.isObject = false

/-- A raw copy is an object if the value is. -/
lemma isObject_rawCopy (v : Value) : v.rawCopy.isObject = v.isObject := by
  cases v <;> rfl

/-- Formed values are good to start from. -/
lemma sources_isFormed (hooks : u.HookFree) (defaults : u.DefaultsFormed) (plain : u.PlainDefaults)
    (M : Regime) : u.Sources M (u.isFormed · = true) where
  builds := hooks.builds
  inside v vs formed fields := formed_fields? formed fields
  canonical := defaults
  initial t v other exact formed := by
    apply Value.bare_of_plain
    rw [isObject_rawCopy]
    cases v with
    | object s vs a =>
      -- an object is of a struct type, and initials are of exactly the type
      obtain ⟨⟨l, hl, _⟩, _⟩ := isFormed_object.1 formed
      cases of_decide_eq_true exact
      cases other.symm.trans hl
    | _ => rfl
  default t v other hv := by
    apply Value.bare_of_plain
    rw [isObject_rawCopy]
    exact plain t v other hv

/-- One manager serves a construction. -/
structure ServedBy (m : Manager) (h : Heap) (r : Except Fault Value × Heap) : Prop where
  /-- Every request on the way goes to its operations, or to those of the system if it cannot both
  allocate and release. -/
  requests : ∃ es, r.2.trace.toList = h.trace.toList ++ es ∧
    ∀ e ∈ es, ∀ s, e.service? = some s → s = m.service?.getD .system
  /-- All trackers of what was built are bound to it. -/
  bound : ∀ v, r.1 = .ok v → ∀ path t, v.trackerAt? path = some t → t.manager = some m

/-- A construction is served by one manager, whatever managers other types and values have; the
trackers of a duplicate are bound as those of the source are, and their buffers come from there. -/
theorem construct_duplicate_managers (hooks : u.HookFree) (defaults : u.DefaultsFormed)
    (plain : u.PlainDefaults) (h : Heap) :
    (∀ depth t c, u.StartsFormed c →
      ServedBy (u.resolved h t c) h ((u.construct depth t c).run.run h)) ∧
    ∀ t recursive v w h', (u.duplicate t recursive v).run.run h = (.ok w, h') →
      v.CopiedTo h h' w := by
  constructor
  · intro depth t c starts
    have sources := sources_isFormed hooks defaults plain
      (.ofManagers (· = some (u.resolved h t c)))
    obtain ⟨⟨_, es, trace, within⟩, arrives⟩ :=
      supplied_construct sources depth t c starts h (Nat.zero_le _) rfl
    constructor
    case requests =>
      refine ⟨es, trace, fun e he s hs => ?_⟩
      obtain ⟨_, rfl, service⟩ := within e he s hs
      exact service
    case bound =>
      intro v hv path t ht
      exact (arrives v hv path t ht).manager
  · intro t recursive v w h' ran
    exact (copied_duplicate hooks v t recursive ran).2

/-- What holds of the default instances of all types that were made holds of all there are. -/
lemma canonical_of_all {P : TypeId → Value → Bool}
    (all : ((List.range u.size).all fun t => (u.desc t).canonical.all (P t)) = true) (t : TypeId)
    (v : Value) (hv : (u.desc t).canonical = some v) : P t v = true := by
  by_cases ht : t < u.size
  · have known := List.all_eq_true.1 all t (List.mem_range.2 ht)
    rw [hv] at known
    exact known
  · have none : (u.desc t).canonical = none := by
      rw [desc, Descriptor.among, Array.getElem?_eq_none (Nat.le_of_not_lt ht)]
      rfl
    cases none.symm.trans hv

/-- It is enough to look at the default instances of the types that were made. -/
lemma plain_of_all (all : ((List.range u.size).all fun t =>
    (u.desc t).canonical.all fun v => (u.layout? t).isSome || !v.isObject) = true) :
    u.PlainDefaults := by
  intro t v other hv
  have known := canonical_of_all (P := fun t v => (u.layout? t).isSome || !v.isObject) all t v hv
  simpa [other] using known

/-- And so it is if only types without a known inside are asked about. -/
lemma opaque_of_all (all : ((List.range u.size).all fun t => (u.desc t).canonical.all fun v =>
    (u.desc t).kind.parity ≠ "opaque" || !v.isObject) = true) (t : TypeId) (v : Value)
    (isOpaque : (u.desc t).kind.parity = "opaque") (hv : (u.desc t).canonical = some v) :
    v.isObject = false := by
  have known := canonical_of_all (u := u)
    (P := fun t v => (u.desc t).kind.parity ≠ "opaque" || !v.isObject) all t v hv
  simpa [isOpaque] using known

/-- Types with three more: a leaf with a tracker, for which another manager is responsible, a twig
with a tracker that holds a leaf, and a pouch of bytes, which may have a default. -/
def withTwig (preset : Option Value) : Universe :=
  let leaf : Declaration :=
    { name := "Leaf", shape := .struct [⟨"data", .typed 14, false, none⟩] none true
      manager := some { malloc := some (.custom 0), free := some (.custom 0) } }
  let twig : Declaration :=
    { name := "Twig", shape := .struct [⟨"leaf", .typed 19, true, none⟩] none true }
  let pouch : Declaration := { name := "Pouch", shape := .bytes, canonical := preset }
  match (builtin.declare {} leaf).bind fun (_, u) =>
    (u.declare {} twig).bind fun (_, u) => u.declare {} pouch with
  | some (_, u) => u
  | none => builtin

/-- A buffer that somebody else tracked. -/
def soil : Heap :=
  { cells := #[{ block := ⟨0, [97]⟩, manager := none }], nextAddress := 1 }

/-- A twig, the leaf of which refers to that buffer. -/
def graft : Template :=
  { initials := some (.object 20 [.object 19 [.buffer (.to 0)] (some {})] (some {})) }

/-- The system supplies the whole of a grafted twig, and the leaf has a copy of the buffer. -/
theorem construct_duplicate_managers_twig :
    let u := withTwig none
    u.HookFree ∧ u.DefaultsFormed ∧ u.PlainDefaults ∧ u.StartsFormed graft ∧
      u.resolved soil 20 graft = .system ∧
      ServedBy .system soil ((u.construct 2 20 graft).run.run soil) ∧
      ((u.construct 2 20 graft).run.run soil).1 = .ok (.object 20
        [.object 19 [.buffer (.to 1)] (some
          { manager := some .system, onHeap := true, buffers := [1], capacity := 4 })]
        (some { manager := some .system, onHeap := true })) := by
  intro u
  have hooks : u.HookFree := hookFree_of_all rfl
  have defaults : u.DefaultsFormed := canonical_of_all (P := fun _ v => u.isFormed v) rfl
  have plain : u.PlainDefaults := plain_of_all rfl
  have starts : u.StartsFormed graft := by
    rintro v ⟨⟩
    rfl
  have served := (construct_duplicate_managers hooks defaults plain soil).1 2 20 graft starts
  exact ⟨hooks, defaults, plain, starts, rfl, served, rfl⟩

/-- The tracker of an object that is the default of a type of bytes is not bound to the manager of
the construction. -/
theorem preset_not_supplied :
    let u := withTwig (some (.object 19 [.null] (some {})))
    let c : Template := { manager := some .system }
    u.HookFree ∧ u.DefaultsFormed ∧ u.StartsFormed c ∧
      (∀ t v, (u.desc t).kind.parity = "opaque" → (u.desc t).canonical = some v →
        v.isObject = false) ∧
      u.resolved {} 21 c = .system ∧
      ∃ v tr, ((u.construct 1 21 c).run.run {}).1 = .ok v ∧ v.trackerAt? [] = some tr ∧
        tr.manager = none := by
  intro u c
  have defaults : u.DefaultsFormed := canonical_of_all (P := fun _ v => u.isFormed v) rfl
  exact ⟨hookFree_of_all rfl, defaults, nofun, opaque_of_all rfl, rfl, _, _, rfl, rfl, rfl⟩

end Universe

end Metaobject
