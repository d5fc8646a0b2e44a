import Mathlib.Tactic.Lemma
import Metaobject.Text.Message

/-!
# What a message holds

A text that is put into a message is cut where the capacity ends. `Message.holds_set` says that what
is left is the longest beginning that the capacity allows.
-/

namespace Metaobject

namespace Message

/-- The beginnings of what fits are the beginnings that fit. -/
lemma beginning_fit_iff {room : Nat} {cs ds : List Char} :
    ds <+: fit room cs ↔ ds <+: cs ∧ byteSize ds ≤ room := by
  induction cs generalizing room ds with
  | nil =>
    refine ⟨fun beginning => ⟨beginning, ?_⟩, And.left⟩
    rw [List.prefix_nil.1 beginning]
    exact Nat.zero_le room
  | cons c cs ih =>
    cases ds with
    | nil => exact ⟨fun _ => ⟨List.nil_prefix, Nat.zero_le room⟩, fun _ => List.nil_prefix⟩
    | cons d ds =>
      rw [fit, List.cons_prefix_cons, byteSize]
      split
      · rename_i enough
        rw [List.cons_prefix_cons, ih, and_assoc]
        refine and_congr_right fun same => and_congr_right fun _ => ?_
        rw [same]
        omega
      · rename_i tight
        constructor
        · intro beginning
          exact absurd (List.prefix_nil.1 beginning) (List.cons_ne_nil d ds)
        · rintro ⟨⟨rfl, _⟩, enough⟩
          omega

/-- The message holds the longest beginning of a text that its capacity allows. -/
structure Holds (m : Message) (s : String) : Prop where
  beginning : m.text <+: s.toList
  allowed : byteSize m.text ≤ m.capacity
  longest : ∀ cs, cs <+: s.toList → byteSize cs ≤ m.capacity → cs <+: m.text

lemma holds_set (m : Message) (s : String) : (m.set s).Holds s := by
  have text : (m.set s).text = fit m.capacity s.toList := rfl
  obtain ⟨beginning, allowed⟩ := beginning_fit_iff.1 (List.prefix_refl (fit m.capacity s.toList))
  refine ⟨?_, ?_, ?_⟩
  · rw [text]
    exact beginning
  · rw [text]
    exact allowed
  · intro cs hcs small
    rw [text]
    exact beginning_fit_iff.2 ⟨hcs, small⟩

end Message

end Metaobject
