import Mathlib.Tactic.Lemma
import Metaobject.Proofs.Text.Message

/-!
# Texts that are written in pieces

A message can be written to more than once. Every piece gets the bytes that the pieces before it
left, and is cut between two of its characters if it needs more. `Message.beginning_iff_cutOnce`
says what the message holds after any edits, and when that is a beginning of everything that was
written: a character that is too large leaves room behind it, so that a later and smaller one can
still go there (`Message.cut_continued`).
-/

namespace Metaobject

namespace Message

/-- What can be done to the text of a message. -/
inductive Edit where
  | set (s : String)
  | write (s : String)
  | clear

/-- What an edit makes of a message. -/
def Edit.apply (m : Message) : Edit → Message
  | .set s => m.set s
  | .write s => m.write s
  | .clear => m.clear

/-- Makes the edits, one after the other. -/
def run (m : Message) (edits : List Edit) : Message :=
  edits.foldl Edit.apply m

/-- The pieces since the text was last replaced or removed, after one more edit. -/
def Edit.pieces (ss : List String) : Edit → List String
  | .set s => [s]
  | .write s => ss ++ [s]
  | .clear => []

/-- The pieces that were written since the text was last replaced or removed. -/
def written (edits : List Edit) : List String :=
  edits.foldl Edit.pieces []

/-- Everything that the pieces say. -/
def joined (ss : List String) : List Char :=
  ss.flatMap String.toList

/-- What `room` bytes keep of pieces that come one after the other. -/
def kept (room : Nat) : List String → List Char
  | [] => []
  | s :: ss => fit room s.toList ++ kept (room - byteSize (fit room s.toList)) ss

/-- After the first piece that was cut, every piece begins with a character for which no room is
left. -/
def CutOnce (room : Nat) : List String → Prop
  | [] => True
  | s :: ss =>
    (fit room s.toList = s.toList → CutOnce (room - byteSize s.toList) ss) ∧
      (fit room s.toList ≠ s.toList →
        ∀ t ∈ ss, ∀ c ∈ t.toList.head?, room - byteSize (fit room s.toList) < c.utf8Size)

/-! ## One piece -/

/-- A text fits, or its first character that does not is larger than the room left. -/
lemma fit_eq_or_cut (room : Nat) (cs : List Char) :
    fit room cs = cs ∨
      ∃ c rest, cs = fit room cs ++ c :: rest ∧ room - byteSize (fit room cs) < c.utf8Size := by
  induction cs generalizing room with
  | nil => exact .inl rfl
  | cons c cs ih =>
    rw [fit]
    split
    · obtain whole | ⟨d, rest, parts, large⟩ := ih (room - c.utf8Size)
      · exact .inl (congrArg (c :: ·) whole)
      · refine .inr ⟨d, rest, congrArg (c :: ·) parts, ?_⟩
        rw [byteSize]
        omega
    · rename_i tight
      refine .inr ⟨c, cs, rfl, ?_⟩
      rw [byteSize]
      omega

/-- Characters at the end of a text that does not fit change nothing. -/
lemma fit_append_of_cut {room : Nat} {cs : List Char} (cut : fit room cs ≠ cs) (ds : List Char) :
    fit room (cs ++ ds) = fit room cs := by
  induction cs generalizing room with
  | nil => exact absurd rfl cut
  | cons c cs ih =>
    rw [List.cons_append, fit, fit]
    split
    · rename_i enough
      rw [ih]
      intro whole
      apply cut
      rw [fit, if_pos enough, whole]
    · rfl

/-- Where a text fits, what follows it has the room that it leaves. -/
lemma fit_append_of_fit {room : Nat} {cs : List Char} (whole : fit room cs = cs) (ds : List Char) :
    fit room (cs ++ ds) = cs ++ fit (room - byteSize cs) ds := by
  induction cs generalizing room with
  | nil => rfl
  | cons c cs ih =>
    rw [fit] at whole
    split at whole
    · rename_i enough
      rw [List.cons_append, fit, if_pos enough, ih (List.cons.inj whole).2, byteSize, Nat.sub_sub,
        List.cons_append]
    · exact absurd whole (List.cons_ne_nil c cs).symm

/-- Nothing of a text fits just when its first character does not. -/
lemma fit_eq_nil_iff {room : Nat} {cs : List Char} :
    fit room cs = [] ↔ ∀ c ∈ cs.head?, room < c.utf8Size := by
  cases cs with
  | nil => simp [fit]
  | cons c cs =>
    rw [fit]
    split
    · rename_i enough
      simpa using enough
    · rename_i tight
      simpa using tight

/-! ## Piece after piece -/

/-- One more piece has the room that the others leave. -/
lemma kept_append (room : Nat) (ss : List String) (s : String) :
    kept room (ss ++ [s]) =
      kept room ss ++ fit (room - byteSize (kept room ss)) s.toList := by
  induction ss generalizing room with
  | nil => exact List.append_nil _
  | cons t ss ih =>
    rw [List.cons_append, kept, kept, ih, byteSize_append, List.append_assoc, Nat.sub_sub]

/-- Pieces are kept as far as there is room. -/
lemma byteSize_kept_le (room : Nat) (ss : List String) : byteSize (kept room ss) ≤ room := by
  induction ss generalizing room with
  | nil => exact Nat.zero_le room
  | cons s ss ih =>
    have first := byteSize_fit_le room s.toList
    have others := ih (room - byteSize (fit room s.toList))
    rw [kept, byteSize_append]
    omega

/-- Nothing is kept if not even the first character of a piece has room. -/
lemma kept_eq_nil_iff {room : Nat} {ss : List String} :
    kept room ss = [] ↔ ∀ s ∈ ss, ∀ c ∈ s.toList.head?, room < c.utf8Size := by
  induction ss with
  | nil => exact ⟨fun _ _ h => absurd h List.not_mem_nil, fun _ => rfl⟩
  | cons s ss ih =>
    rw [kept, List.append_eq_nil_iff, List.forall_mem_cons, ← fit_eq_nil_iff, ← ih]
    refine and_congr_right fun nothing => ?_
    rw [nothing]
    rfl

/-- The first character that is kept has room. -/
lemma head_kept_le {room : Nat} {ss : List String} {c : Char} {cs : List Char}
    (h : kept room ss = c :: cs) : c.utf8Size ≤ room := by
  have all := byteSize_kept_le room ss
  rw [h, byteSize] at all
  omega

/-- After a cut nothing that is kept continues the text: the character that was cut off is larger
than the room for any other. -/
lemma beginning_iff_of_cut {room : Nat} {s : String} (ss : List String)
    (cut : fit room s.toList ≠ s.toList) :
    kept room (s :: ss) <+: joined (s :: ss) ↔
      kept (room - byteSize (fit room s.toList)) ss = [] := by
  obtain whole | ⟨c, rest, parts, large⟩ := fit_eq_or_cut room s.toList
  · exact absurd whole cut
  · have text : joined (s :: ss) = fit room s.toList ++ (c :: rest ++ joined ss) := by
      rw [joined, List.flatMap_cons, ← List.append_assoc, ← parts]
      rfl
    rw [text, kept, List.prefix_append_right_inj]
    constructor
    · intro beginning
      cases others : kept (room - byteSize (fit room s.toList)) ss with
      | nil => rfl
      | cons d ds =>
        rw [others, List.cons_append, List.cons_prefix_cons] at beginning
        have small := head_kept_le others
        rw [beginning.1] at small
        omega
    · intro nothing
      rw [nothing]
      exact List.nil_prefix

/-- A piece that fits leaves the question to the others. -/
lemma beginning_iff_of_fit {room : Nat} {s : String} (ss : List String)
    (whole : fit room s.toList = s.toList) :
    kept room (s :: ss) <+: joined (s :: ss) ↔
      kept (room - byteSize s.toList) ss <+: joined ss := by
  rw [kept, whole, joined, List.flatMap_cons, List.prefix_append_right_inj]
  rfl

/-- What is kept is a beginning of what the pieces say if only the first cut leaves anything out. -/
lemma kept_beginning_iff {room : Nat} {ss : List String} :
    kept room ss <+: joined ss ↔ CutOnce room ss := by
  induction ss generalizing room with
  | nil => exact ⟨fun _ => trivial, fun _ => List.nil_prefix⟩
  | cons s ss ih =>
    rw [CutOnce]
    by_cases whole : fit room s.toList = s.toList
    · rw [beginning_iff_of_fit ss whole, ih]
      exact ⟨fun once => ⟨fun _ => once, absurd whole⟩, fun once => once.1 whole⟩
    · rw [beginning_iff_of_cut ss whole, kept_eq_nil_iff]
      exact ⟨fun none_left => ⟨fun h => absurd h whole, fun _ => none_left⟩,
        fun once => once.2 whole⟩

/-- What is kept is then the longest beginning that there is room for. -/
lemma kept_eq_fit_iff {room : Nat} {ss : List String} :
    kept room ss = fit room (joined ss) ↔ CutOnce room ss := by
  constructor
  · intro same
    rw [← kept_beginning_iff, same]
    exact (beginning_fit_iff.1 (List.prefix_refl _)).1
  · induction ss generalizing room with
    | nil => exact fun _ => rfl
    | cons s ss ih =>
      intro once
      rw [CutOnce] at once
      rw [joined, List.flatMap_cons]
      by_cases whole : fit room s.toList = s.toList
      · rw [fit_append_of_fit whole, kept, whole]
        exact congrArg (s.toList ++ ·) (ih (once.1 whole))
      · rw [fit_append_of_cut whole, kept, kept_eq_nil_iff.2 (once.2 whole), List.append_nil]

/-- Characters of one size leave no room that another one could take. -/
lemma cutOnce_of_size {size room : Nat} {ss : List String}
    (same : ∀ c ∈ joined ss, c.utf8Size = size) : CutOnce room ss := by
  induction ss generalizing room with
  | nil => trivial
  | cons s ss ih =>
    rw [joined, List.flatMap_cons] at same
    refine ⟨fun _ => ih fun c h => same c (List.mem_append_right _ h), ?_⟩
    intro cut t ht d hd
    obtain whole | ⟨c, rest, parts, large⟩ := fit_eq_or_cut room s.toList
    · exact absurd whole cut
    · have cut_off : c ∈ s.toList := by
        rw [parts]
        exact List.mem_append_right _ List.mem_cons_self
      have later : d ∈ joined ss := List.mem_flatMap.2 ⟨t, ht, List.mem_of_mem_head? hd⟩
      rw [same d (List.mem_append_right _ later), ← same c (List.mem_append_left _ cut_off)]
      exact large

/-! ## Any edits -/

/-- One edit writes its pieces to what the message holds. -/
lemma apply_kept {capacity : Nat} (ss : List String) (e : Edit) :
    Edit.apply { capacity, text := kept capacity ss } e =
      { capacity, text := kept capacity (e.pieces ss) } := by
  cases e with
  | set s => simp [Edit.apply, Edit.pieces, set, write, clear, kept, byteSize]
  | write s => simp [Edit.apply, Edit.pieces, write, kept_append]
  | clear => rfl

/-- A message that keeps some pieces keeps, after more edits, what is then written. -/
lemma run_kept {capacity : Nat} (ss : List String) (edits : List Edit) :
    run { capacity, text := kept capacity ss } edits =
      { capacity, text := kept capacity (edits.foldl Edit.pieces ss) } := by
  induction edits generalizing ss with
  | nil => rfl
  | cons e edits ih =>
    rw [run, List.foldl_cons, apply_kept]
    exact ih (e.pieces ss)

/-- After any edits a message holds of each piece since the last replacement or removal what the
pieces before it left room for, and never more than its capacity. That is a beginning of all that
was written, and then the longest that the capacity allows, exactly if nothing fits any more after
the first cut; it is so whenever all characters take the same number of bytes. -/
theorem beginning_iff_cutOnce (capacity : Nat) (edits : List Edit) :
    let m := run { capacity } edits
    m.text = kept capacity (written edits) ∧ m.capacity = capacity ∧ byteSize m.text ≤ capacity ∧
      (m.text <+: joined (written edits) ↔ CutOnce capacity (written edits)) ∧
      (m.text = fit capacity (joined (written edits)) ↔ CutOnce capacity (written edits)) ∧
      ∀ size, (∀ c ∈ joined (written edits), c.utf8Size = size) →
        m.text <+: joined (written edits) := by
  have final : run { capacity } edits = { capacity, text := kept capacity (written edits) } :=
    run_kept [] edits
  rw [final]
  exact ⟨rfl, rfl, byteSize_kept_le capacity _, kept_beginning_iff, kept_eq_fit_iff,
    fun _ same => kept_beginning_iff.2 (cutOnce_of_size same)⟩

/-- The second character of `aé` is cut off and leaves one byte, which the next piece then takes. -/
theorem cut_continued :
    let edits := [Edit.set "aé", Edit.write "b"]
    (run { capacity := 2 } edits).text = ['a', 'b'] ∧
      ¬ (run { capacity := 2 } edits).text <+: joined (written edits) := by
  decide

end Message

end Metaobject
