import Mathlib.Tactic.Lemma
import Metaobject.Proofs.Storage.Effects

/-!
# Operations that a manager does not have

A complete manager may lack calloc and realloc. Zeros are then had by filling a block of its malloc,
and a block is resized by giving it back and carrying its beginning over into a new one.
`Action.derived_operations` says what comes of that for any malloc, one that refuses and one that
answers with blocks of any length and contents: what is asked, how often and in which order, and
what the block holds. `Action.reallocateChecked` cuts byte strings only where they are long enough
and fails otherwise; that it never fails is part of the result.
-/

namespace Metaobject

/-- What the malloc of an arena answers right now. -/
def Heap.offer (h : Heap) (a : ArenaId) (size : Nat) : Option Bytes :=
  let arena := h.arena a
  if arena.allocator.serves arena.calls then arena.allocator.malloc arena.calls size else none

/-- From `h` to `h'` the malloc of `s` was asked once, for `size` bytes, it answered with `got`, and
that is all that happened. -/
structure Heap.AskedOnce (s : Service) (size : Nat) (h h' : Heap) (got : Option Block) : Prop where
  answer : got = (h.offer s.malloc size).map (Block.mk h.nextAddress)
  arenas : h'.arenas = (h.countCall s.malloc).arenas
  trace : ∃ served, h'.trace = h.trace.push (.malloc s size served got)
  cells : h'.cells = h.cells
  nextAddress : h'.nextAddress = h.nextAddress + got.toList.length
  processManager : h'.processManager = h.processManager

/-- The bytes are those of `fresh`, but for the first `n`, which are those of `old`. -/
structure Bytes.CarriedOver (n : Nat) (old fresh bytes : Bytes) : Prop where
  length : bytes.length = fresh.length
  carried : ∀ i < n, bytes[i]? = old[i]?
  others : ∀ i, n ≤ i → bytes[i]? = fresh[i]?

namespace Bytes

/-- The first `n` bytes, if there are as many. -/
def beginning? (bytes : Bytes) (n : Nat) : Option Bytes :=
  if n ≤ bytes.length then some (bytes.take n) else none

/-- Puts `new` in place of the first `n` bytes, if there are as many on either side. -/
def overwrite? (bytes : Bytes) (n : Nat) (new : Bytes) : Option Bytes :=
  if n ≤ bytes.length ∧ new.length = n then some (new ++ bytes.drop n) else none

/-- Enough bytes have a beginning of the length. -/
lemma beginning?_of_le {bytes : Bytes} {n : Nat} (enough : n ≤ bytes.length) :
    bytes.beginning? n = some (bytes.take n) :=
  if_pos enough

/-- Enough bytes are overwritten from the first one on. -/
lemma overwrite?_of_le {bytes new : Bytes} {n : Nat} (enough : n ≤ bytes.length)
    (length : new.length = n) : bytes.overwrite? n new = some (new ++ bytes.drop n) :=
  if_pos ⟨enough, length⟩

/-- The old bytes come first, as many as there are, and the fresh ones after them. -/
lemma carriedOver_take {old fresh : Bytes} {n : Nat} (here : n ≤ old.length)
    (there : n ≤ fresh.length) : CarriedOver n old fresh (old.take n ++ fresh.drop n) := by
  have length : (old.take n).length = n := List.length_take_of_le here
  constructor
  case length =>
    rw [List.length_append, length, List.length_drop]
    omega
  case carried =>
    intro i hi
    rw [List.getElem?_append_left (by omega), List.getElem?_take_of_lt hi]
  case others =>
    intro i hi
    rw [List.getElem?_append_right (by omega), length, List.getElem?_drop]
    congr 1
    omega

/-- A string that is cut or lengthened keeps what it has in common with the old one. -/
lemma getElem?_resize {bytes : Bytes} {n i : Nat} (hi : i < min bytes.length n) :
    (bytes.resize n)[i]? = bytes[i]? := by
  rw [resize, List.getElem?_append_left (by rw [List.length_take]; omega),
    List.getElem?_take_of_lt (by omega)]

/-- A block is as long as it was resized to. -/
lemma length_resize (bytes : Bytes) (n : Nat) : (bytes.resize n).length = n := by
  rw [resize, List.length_append, List.length_take, List.length_replicate]
  omega

end Bytes

namespace Action

open Heap

/-- Writes the first `keep` bytes of a saved beginning, or as many as the block has, over the block.
Fails if a cut asks for more bytes than there are. -/
def carryOver? (keep : Nat) (beginning : Bytes) (fresh : Block) : Option Block := do
  let keep := min keep fresh.bytes.length
  let carried ← beginning.beginning? keep
  let bytes ← fresh.bytes.overwrite? keep carried
  return { fresh with bytes }

/-- Resizes a block with the first two operations alone. Every cut is checked, and the answer is
missing altogether if one of them fails. -/
def reallocateChecked (s : Service) (old : Block) (size : Nat) :
    Action (Option (Option Block)) := do
  let keep := min old.bytes.length size
  match old.bytes.beginning? keep with
  | none => return none
  | some beginning =>
    giveBack s old
    match ← malloc s size with
    | none => return some none
    | some fresh => return (carryOver? keep beginning fresh).map some

/-- A complete manager serves with its own operations, and there is nothing to report. -/
lemma serve_of_service? {m : Manager} {s : Service} (complete : m.service? = some s) :
    serve (some m) = pure s := by
  have of : Service.of (some m) = s := by
    rw [Service.of, Option.bind_some, complete]
    rfl
  rw [serve, Option.any_some, complete, of]
  rfl

/-- A malloc is one request, whether it is granted or not. -/
lemma askedOnce_malloc (s : Service) (size : Nat) (h : Heap) :
    AskedOnce s size h ((malloc s size).run h).2 ((malloc s size).run h).1 := by
  have offer : (if (h.arena s.malloc).allocator.serves (h.arena s.malloc).calls then
      (h.arena s.malloc).allocator.malloc (h.arena s.malloc).calls size else none) =
        h.offer s.malloc size := rfl
  -- counting the request changes nothing but the arenas
  have counted : h.countCall s.malloc = { h with arenas := (h.countCall s.malloc).arenas } := by
    cases s.malloc <;> rfl
  rw [malloc, run_request]
  dsimp only
  rw [offer, counted]
  cases answer : h.offer s.malloc size with
  | none => exact ⟨by rw [answer]; rfl, rfl, ⟨_, rfl⟩, rfl, rfl, rfl⟩
  | some bytes => exact ⟨by rw [answer]; rfl, rfl, ⟨_, rfl⟩, rfl, rfl, rfl⟩

/-- Without a calloc nobody is asked for more bytes than there can be. -/
lemma run_allocateZeroed_large {m : Manager} {s : Service} (complete : m.service? = some s)
    (noCalloc : s.calloc = none) {count size : Nat} (large : ¬ count * size < countLimit)
    (h : Heap) :
    (allocateZeroed (some m) count size).run h = (none, h) := by
  rw [allocateZeroed, serve_of_service? complete, pure_bind, noCalloc, checkedProduct, if_neg large]
  rfl

/-- Zeros from a manager without calloc are a block of its malloc, filled with zeros. -/
lemma run_allocateZeroed {m : Manager} {s : Service} (complete : m.service? = some s)
    (noCalloc : s.calloc = none) {count size : Nat} (small : count * size < countLimit) (h : Heap) :
    (allocateZeroed (some m) count size).run h =
      (((malloc s (count * size)).run h).1.map fun b => ⟨b.address, .replicate b.bytes.length 0⟩,
        ((malloc s (count * size)).run h).2) := by
  rw [allocateZeroed, serve_of_service? complete, pure_bind, noCalloc, checkedProduct, if_pos small]
  rfl

/-- What a resized block holds: the new block, with the old bytes as far as both of them reach. -/
def carryOver (old : Block) (size : Nat) (fresh : Block) : Block :=
  let n := min (min old.bytes.length size) fresh.bytes.length
  { fresh with bytes := old.bytes.take n ++ fresh.bytes.drop n }

/-- Without a realloc the old block is given back first, and then another one is asked for. -/
lemma run_reallocate {m : Manager} {s : Service} (complete : m.service? = some s)
    (noRealloc : s.realloc = none) (old : Block) (size : Nat) (h : Heap) :
    (reallocate (some m) old size).run h =
      let asked := (malloc s size).run { h with trace := h.trace.push (.free s old) }
      (asked.1.map (carryOver old size), asked.2) := by
  have bytes : (fun b : Block =>
      let kept := (old.bytes.take size).take b.bytes.length
      ({ b with bytes := kept ++ b.bytes.drop kept.length } : Block)) = carryOver old size := by
    funext b
    have length : ((old.bytes.take size).take b.bytes.length).length =
        min (min old.bytes.length size) b.bytes.length := by
      rw [List.length_take, List.length_take]
      omega
    have taken : (old.bytes.take size).take b.bytes.length =
        old.bytes.take (min (min old.bytes.length size) b.bytes.length) := by
      rw [List.take_take, List.take_eq_take_iff]
      omega
    dsimp only [carryOver]
    rw [length, taken]
  rw [reallocate, serve_of_service? complete, pure_bind, noRealloc, bytes]
  rfl

/-- No cut that a resize makes asks for more bytes than there are. -/
lemma carryOver?_eq (old : Block) (size : Nat) (fresh : Block) :
    carryOver? (min old.bytes.length size) (old.bytes.take (min old.bytes.length size)) fresh =
      some (carryOver old size fresh) := by
  have enough : min (min old.bytes.length size) fresh.bytes.length ≤
      (old.bytes.take (min old.bytes.length size)).length := by
    rw [List.length_take]
    omega
  have taken : ((old.bytes.take (min old.bytes.length size)).take
      (min (min old.bytes.length size) fresh.bytes.length)).length =
        min (min old.bytes.length size) fresh.bytes.length := List.length_take_of_le enough
  rw [carryOver?, Bytes.beginning?_of_le enough, Option.bind_eq_bind, Option.bind_some,
    Bytes.overwrite?_of_le (Nat.min_le_right _ _) taken, Option.bind_some, List.take_take,
    Nat.min_eq_left (Nat.min_le_left _ _)]
  rfl

/-- With a complete manager that is what a checked request comes to. -/
lemma run_reallocateChecked {m : Manager} {s : Service} (complete : m.service? = some s)
    (noRealloc : s.realloc = none) (old : Block) (size : Nat) (h : Heap) :
    (reallocateChecked s old size).run h =
      (some ((reallocate (some m) old size).run h).1,
        ((reallocate (some m) old size).run h).2) := by
  rw [run_reallocate complete noRealloc, reallocateChecked,
    Bytes.beginning?_of_le (Nat.min_le_left old.bytes.length size)]
  dsimp only
  rw [StateT.run_bind]
  change StateT.run (malloc s size >>= _) { h with trace := h.trace.push (.free s old) } = _
  rw [StateT.run_bind]
  cases (malloc s size).run { h with trace := h.trace.push (.free s old) } with | mk got h' =>
  cases got with
  | none => rfl
  | some fresh =>
    show ((carryOver? _ _ fresh).map some, h') = _
    rw [carryOver?_eq]
    rfl

/-- The system resizes a block as it resizes its bytes. -/
lemma run_reallocate_system (old : Block) (size : Nat) (h : Heap) :
    ∃ native, ((reallocate none old size).run h).1 = some native ∧
      native.bytes = old.bytes.resize size :=
  ⟨_, rfl, rfl⟩

/-- A complete manager without calloc and realloc, whatever its malloc answers.

Zeros: if the product is a count, malloc is asked for that many bytes, once, and its block is filled
with zeros; if it is none, nothing happens. A resize: the old block goes back as it is, then malloc
is asked once for the new size, no cut fails, and there is a block just when malloc has one: that
one, with the old bytes as far as the old block, the new size and the new block reach. If malloc
answers with as many bytes as it was asked for, length and common beginning are those of a resize by
the system. -/
theorem derived_operations {m : Manager} {a f : ArenaId} (hasMalloc : m.malloc = some a)
    (hasFree : m.free = some f) (noCalloc : m.calloc = none) (noRealloc : m.realloc = none)
    (h : Heap) :
    let s : Service := ⟨a, f, none, none⟩
    (∀ count size,
      let r := (allocateZeroed (some m) count size).run h
      if count * size < countLimit then
        ∃ got, AskedOnce s (count * size) h r.2 got ∧
          r.1 = got.map fun b => ⟨b.address, .replicate b.bytes.length 0⟩
      else r = (none, h)) ∧
    ∀ (old : Block) (size : Nat),
      let r := (reallocate (some m) old size).run h
      let common := min old.bytes.length size
      (reallocateChecked s old size).run h = (some r.1, r.2) ∧
      ∃ got, AskedOnce s size { h with trace := h.trace.push (.free s old) } r.2 got ∧
        (r.1 = none ↔ got = none) ∧
        (∀ b z, got = some b → r.1 = some z → z.address = b.address ∧
          Bytes.CarriedOver (min common b.bytes.length) old.bytes b.bytes z.bytes) ∧
        ((∀ bytes, h.offer a size = some bytes → bytes.length = size) →
          ∃ native, ((reallocate none old size).run h).1 = some native ∧
            ∀ z, r.1 = some z → z.bytes.length = native.bytes.length ∧
              ∀ i < common, z.bytes[i]? = native.bytes[i]?) := by
  intro s
  have complete : m.service? = some s := by
    rw [Manager.service?, hasMalloc, hasFree, noCalloc, noRealloc]
  refine ⟨fun count size => ?_, fun old size => ?_⟩
  · dsimp only
    split
    · rename_i small
      rw [run_allocateZeroed complete rfl small]
      exact ⟨_, askedOnce_malloc s (count * size) h, rfl⟩
    · rename_i large
      exact run_allocateZeroed_large complete rfl large h
  · have asked := askedOnce_malloc s size { h with trace := h.trace.push (.free s old) }
    have carried : ∀ b : Block, (carryOver old size b).address = b.address ∧
        Bytes.CarriedOver (min (min old.bytes.length size) b.bytes.length) old.bytes b.bytes
          (carryOver old size b).bytes :=
      fun b => ⟨rfl, Bytes.carriedOver_take (by omega) (by omega)⟩
    refine ⟨run_reallocateChecked complete rfl old size h, ?_⟩
    rw [run_reallocate complete rfl]
    dsimp only
    refine ⟨_, asked, Option.map_eq_none_iff, ?_, ?_⟩
    · intro b z got resized
      rw [got] at resized
      cases resized
      exact carried b
    · intro honest
      obtain ⟨native, resized, bytes⟩ := run_reallocate_system old size h
      refine ⟨native, resized, fun z hz => ?_⟩
      obtain ⟨b, got, rfl⟩ := Option.map_eq_some_iff.1 hz
      obtain ⟨_, kept⟩ := carried b
      -- the block that malloc made has the length that was asked for
      have length : b.bytes.length = size := by
        rw [asked.answer] at got
        obtain ⟨offered, offer, rfl⟩ := Option.map_eq_some_iff.1 got
        exact honest offered offer
      rw [kept.length, bytes, length]
      refine ⟨(Bytes.length_resize _ _).symm, fun i hi => ?_⟩
      rw [kept.carried i (by omega), Bytes.getElem?_resize hi]

/-- A malloc that answers with one byte less than it was asked for, and fills blocks with `0xaa`. -/
def stingy : Allocator :=
  .metered 0xaa none (-1)

/-- Two times two zeros are three, and a block of four bytes that is cut to three, or lengthened to
seven, comes to two or to six of which the first are the old ones. -/
theorem derived_operations_stingy :
    let m : Manager := { malloc := some (.custom 0), free := some (.custom 0) }
    let s : Service := ⟨.custom 0, .custom 0, none, none⟩
    let h : Heap := { arenas := #[{ allocator := stingy }], nextAddress := 8 }
    let old : Block := ⟨7, [1, 2, 3, 4]⟩
    ((allocateZeroed (some m) 2 2).run h).1 = some ⟨8, [0, 0, 0]⟩ ∧
      ((reallocate (some m) old 3).run h).1 = some ⟨8, [1, 2]⟩ ∧
      ((reallocate (some m) old 7).run h).1 = some ⟨8, [1, 2, 3, 4, 0xaa, 0xaa]⟩ ∧
      (reallocateChecked s old 3).run h =
        (some ((reallocate (some m) old 3).run h).1, ((reallocate (some m) old 3).run h).2) ∧
      m.malloc = some (.custom 0) ∧ m.free = some (.custom 0) ∧ m.calloc = none ∧
      m.realloc = none :=
  ⟨rfl, rfl, rfl, ((derived_operations rfl rfl rfl rfl _).2 _ _).1, rfl, rfl, rfl, rfl⟩

end Action

end Metaobject
