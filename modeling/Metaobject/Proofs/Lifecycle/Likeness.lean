import Metaobject.Proofs.Comparison.Content
import Metaobject.Proofs.Lifecycle.Aliasing

/-!
# A copy is like its source

There are three ways to copy a value: raw, by a flat duplication and by a recursive one. Whichever
it is, the copy has the content of its source, well typed or not: a buffer is shared, released or
not, or it is copied while it can be read. So nothing that has no hooks can tell the two apart, which
is what `Universe.copies_indistinct` says.
-/

namespace Metaobject

open Attempt

namespace Universe

variable {u : Universe}

/-! ### Copies of one content -/

/-- A field of a duplicate agrees with that of the source if the duplications that it may be left to
make copies that agree. -/
lemma agrees_duplicateInto {duplicate : TypeId → Attempt Value} {deep : Bool}
    {declared : Option TypeId} {v c : Value} {h h' : Heap} {a b : Option Tracker}
    (copies : ∀ t c h', (v.isObject = false → u.isSilent t = true) →
      (duplicate t).run.run h = (.ok c, h') → h.Extends h' ∧ v.Agrees h' c)
    (silent : ∀ t, declared = some t → u.isSilent t = true) (idle : Idle a)
    (ran : (duplicateInto duplicate deep declared a v).run.run h = (.ok (c, b), h')) :
    h.Extends h' ∧ v.Agrees h' c ∧ Kept a b := by
  have through : ∀ t, (v.isObject = false → u.isSilent t = true) →
      (do return (← duplicate t, a) : Attempt (Value × Option Tracker)).run.run h =
        (.ok (c, b), h') → h.Extends h' ∧ v.Agrees h' c ∧ Kept a b := by
    intro t able ran
    obtain ⟨x, h₁, ran, done⟩ := bind_ok ran
    cases done
    obtain ⟨later, agrees⟩ := copies t c h' able ran
    exact ⟨later, agrees, .refl idle⟩
  have raw : (pure (v.rawCopy, a) : Attempt (Value × Option Tracker)).run.run h =
      (.ok (c, b), h') → h.Extends h' ∧ v.Agrees h' c ∧ Kept a b := by
    intro ran
    cases ran
    exact ⟨.refl h, v.agrees_rawCopy h, .refl idle⟩
  unfold duplicateInto at ran
  split at ran
  · split at ran
    · exact through _ nofun ran
    · obtain ⟨⟨x, t'⟩, h₁, ran, done⟩ := bind_ok ran
      cases done
      obtain ⟨b, bytes, rfl, rfl, known, copy, later⟩ := Tracker.adopt_ok (idle _ rfl) ran
      exact ⟨later, .bytes (later.read known) copy, .push idle b⟩
    · exact raw ran
    · exact through _ (fun _ => silent _ rfl) ran
    · exact raw ran
  · exact raw ran

lemma agrees_duplicatePlain {t : TypeId} {recursive : Bool} {v c : Value} {h h' : Heap}
    (silent : u.isSilent t = true)
    (ran : (u.duplicatePlain t recursive v).run.run h = (.ok c, h')) :
    h.Extends h' ∧ v.Agrees h' c := by
  rw [duplicatePlain] at ran
  split at ran
  · rw [consultDuplicate_of_isSilent silent] at ran
    cases ran
    exact ⟨.refl h, v.agrees_rawCopy h⟩
  · cases ran

mutual

/-- A duplicate agrees with its source, whatever the source holds. -/
lemma agrees_duplicate : (v : Value) → ∀ (t : TypeId) (recursive : Bool) {c : Value} {h h' : Heap},
    u.isHookless v = true → (v.isObject = false → u.isSilent t = true) →
    (u.duplicate t recursive v).run.run h = (.ok c, h') → h.Extends h' ∧ v.Agrees h' c
  | .object s vs a, t, recursive, c, h, h', hookless, _, ran => by
    rw [duplicate] at ran
    split at ran
    · obtain ⟨fs, hf, ran⟩ : ∃ fs, u.fieldsFor s vs = .ok fs ∧ (u.duplicateFields s recursive fs []
          (a.map fun t => { manager := t.manager }) vs).run.run h = (.ok c, h') := by
        have silent := (Bool.and_eq_true_iff.1 (Bool.and_eq_true_iff.1 hookless).1).1
        rw [consultDuplicate_of_isSilent silent, liftM_pure, pure_bind] at ran
        dsimp only at ran
        split at ran
        · cases ran
        · rename_i fs hf
          exact ⟨fs, hf, ran⟩
      obtain ⟨l, hl, rfl, len⟩ := fieldsFor_ok hf
      obtain ⟨_, declared, all⟩ := (isHookless_object hl).1 hookless
      obtain ⟨ws, b, rfl, later, agree, kept⟩ :=
        agrees_duplicateFields vs s recursive l.fields len all declared (idle_fresh a) ran
      refine ⟨later, .object agree ?_⟩
      rw [Option.isSome_map, kept.present, Option.isSome_map]
    · cases ran
  | .null, t, recursive, c, h, h', _, silent, ran | .scalar _, t, recursive, c, h, h', _, silent, ran
  | .buffer _, t, recursive, c, h, h', _, silent, ran
  | .reference _ _, t, recursive, c, h, h', _, silent, ran
  | .descriptor _, t, recursive, c, h, h', _, silent, ran => by
    simp only [duplicate] at ran
    exact agrees_duplicatePlain (silent rfl) ran

lemma agrees_duplicateFields : (vs : List Value) → ∀ (type : TypeId) (recursive : Bool)
    (fs : List Field) {built : List Value} {a : Option Tracker} {c : Value} {h h' : Heap},
    vs.length = fs.length → u.areHookless vs = true →
    (∀ f ∈ fs, ∀ t, f.type = some t → u.isSilent t = true) → Idle a →
    (u.duplicateFields type recursive fs built a vs).run.run h = (.ok c, h') →
    ∃ ws b, c = finish type (built ++ ws) b ∧ h.Extends h' ∧
      List.Forall₂ (Value.Agrees h') vs ws ∧ Kept a b
  | [], type, recursive, fs, built, a, c, h, h', _, _, _, idle, ran => by
    rw [duplicateFields] at ran
    cases ran
    exact ⟨[], a, by rw [List.append_nil], .refl h, .nil, .refl idle⟩
  | v :: vs, type, recursive, fs, built, a, c, h, h', len, hookless, silent, idle, ran => by
    cases fs with
    | nil => cases len
    | cons f fs =>
      obtain ⟨first, rest⟩ := areHookless_cons.1 hookless
      obtain ⟨declared, others⟩ := List.forall_mem_cons.1 silent
      rw [duplicateFields, run_outcome] at ran
      obtain ⟨x, b, ok, ran⟩ := settle_ok ran
      obtain ⟨later, agrees, kept⟩ := agrees_duplicateInto
        (fun t c h' able ran => agrees_duplicate v t true first able ran) declared idle
        (Prod.ext ok rfl)
      obtain ⟨ws, d, rfl, later', agree, kept'⟩ :=
        agrees_duplicateFields vs type recursive fs (Nat.succ.inj len) rest others kept.idle ran
      refine ⟨x :: ws, d, ?_, later.trans later', .cons (agrees.later later') agree,
        kept.trans kept'⟩
      rw [List.append_assoc, List.singleton_append]

end

/-! ### Telling values apart -/

/-- Nothing without hooks tells the copy from the value: no comparison with a third value, on either
side and whatever the verdict is, no question for a zero, and no type. -/
structure Indistinct (u : Universe) (h : Heap) (v c : Value) : Prop where
  left : ∀ w, u.isHookless w = true → u.compare h c w = u.compare h v w
  right : ∀ w, u.isHookless w = true → u.compare h w c = u.compare h w v
  zero : c.isZero = v.isZero
  accepted : ∀ t, u.accepts t c = u.accepts t v

lemma indistinct_of_agrees {h : Heap} {v c : Value} (hookless : u.isHookless v = true)
    (agrees : v.Agrees h c) : u.Indistinct h v c where
  left w _ :=
    (compare_congr (isUnruled_of_isHookless hookless) agrees (.refl h w)).symm
  right w silent :=
    (compare_congr (isUnruled_of_isHookless silent) (.refl h w) agrees).symm
  zero := agrees.isZero_eq
  accepted t := (accepts_alike agrees.alike t).symm

/-- Copies of a value without hooks cannot be told from it, be they raw, flat or deep. -/
theorem copies_indistinct {v : Value} (hookless : u.isHookless v = true) :
    (∀ h, u.Indistinct h v v.rawCopy) ∧
    ∀ t recursive h c h', (v.isObject = false → u.isSilent t = true) →
      (u.duplicate t recursive v).run.run h = (.ok c, h') → u.Indistinct h' v c := by
  constructor
  · intro h
    exact indistinct_of_agrees hookless (v.agrees_rawCopy h)
  · intro t recursive h c h' silent ran
    obtain ⟨_, agrees⟩ := agrees_duplicate v t recursive hookless silent ran
    exact indistinct_of_agrees hookless agrees

/-- A label is duplicated deeply, and the copy has a buffer of its own. -/
theorem copies_indistinct_label :
    withLabel.isHookless label = true ∧
      ∃ c h', (withLabel.duplicate 19 true label).run.run labelled.heap = (.ok c, h') ∧
        c.at? [1] = some (.buffer (.to 1)) ∧ label.at? [1] = some (.buffer (.to 0)) ∧
        withLabel.Indistinct h' label c ∧ withLabel.Indistinct h' label label.rawCopy := by
  obtain ⟨h', ran⟩ := exists_duplicate_label
  have copies := copies_indistinct (u := withLabel) (v := label) rfl
  have silent : label.isObject = false → withLabel.isSilent 19 = true :=
    fun other => Bool.noConfusion other
  exact ⟨rfl, _, h', ran, rfl, rfl, copies.2 19 true _ _ h' silent ran, copies.1 h'⟩

end Universe

end Metaobject
