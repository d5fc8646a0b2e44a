import Mathlib.Logic.Function.Basic
import Metaobject.Proofs.Contract
import Metaobject.Proofs.Storage.Effects

/-!
# The ledger of blocks

Since some moment, `base`, blocks were handed out, tracked and given back. At every address there is
at most one of them: it is in the hands of the program, or in a cell, or gone. `Account` says what
has to be true of an address at each of these places, and `Books` that the books are kept for all
addresses, while the trackers list exactly the buffers of `held`. `Ledger` is the invariant of every
operation on trackers: some way of keeping the books is right.
-/

namespace Metaobject

/-- Where the block of an address is. -/
inductive Place where
  /-- There was no such block since the beginning. -/
  | unknown
  /-- The program has it. -/
  | hand
  | cell (b : BufferId)
  /-- It went back without ever being tracked. -/
  | gone

/-- What is in the hands of the program around the trackers. -/
structure Outside where
  /-- The open readings. -/
  readings : List BufferId := []
  /-- The addresses of its blocks. -/
  blocks : List Nat := []
  /-- The addresses of the blocks that it got by itself, now or earlier. -/
  direct : List Nat := []

/-- What went back from an address. -/
def returnsAt (back : List (Service × Block)) (a : Nat) : List (Service × Block) :=
  back.filter (·.2.address = a)

/-- What was handed out at an address. -/
def answersAt (new : List Answer) (a : Nat) : List Answer :=
  new.filter (·.block.address = a)

/-- What goes back later comes after what went back. -/
lemma returnsAt_append (back back' : List (Service × Block)) (a : Nat) :
    returnsAt (back ++ back') a = returnsAt back a ++ returnsAt back' a :=
  List.filter_append ..

/-- What is handed out later comes after what was handed out. -/
lemma answersAt_append (new new' : List Answer) (a : Nat) :
    answersAt (new ++ new') a = answersAt new a ++ answersAt new' a :=
  List.filter_append ..

/-- Blocks that go back at one address do not at another one. -/
lemma returnsAt_eq_nil {back : List (Service × Block)} {a a' : Nat}
    (all : ∀ r ∈ back, r.2.address = a') (ne : a ≠ a') : returnsAt back a = [] := by
  apply List.filter_eq_nil_iff.2
  intro r hr
  simpa [all r hr] using ne.symm

/-- Blocks that are handed out at one address are not at another one. -/
lemma answersAt_eq_nil {new : List Answer} {a a' : Nat}
    (all : ∀ x ∈ new, x.block.address = a') (ne : a ≠ a') : answersAt new a = [] := by
  apply List.filter_eq_nil_iff.2
  intro x hx
  simpa [all x hx] using ne.symm

namespace Heap

/-- A cell that was made since `base`. -/
def cellSince (base h : Heap) (b : BufferId) : Option Cell :=
  if base.cells.size ≤ b then h.cells[b]? else none

/-- A cell that was made since is none of the earlier ones. -/
lemma le_of_cellSince {base h : Heap} {b : BufferId} {c : Cell}
    (hc : base.cellSince h b = some c) : base.cells.size ≤ b := by
  by_contra lt
  rw [cellSince, if_neg lt] at hc
  cases hc

/-- It is a cell of the heap. -/
lemma getElem?_of_cellSince {base h : Heap} {b : BufferId} {c : Cell}
    (hc : base.cellSince h b = some c) : h.cells[b]? = some c := by
  rwa [cellSince, if_pos (le_of_cellSince hc)] at hc

/-- A step leaves the cells that were made since. -/
lemma Step.cellSince {h h' : Heap} {n : Nat} {new : List Answer} {back : List (Service × Block)}
    (step : Step h h' n new back) (base : Heap) (b : BufferId) :
    base.cellSince h' b = base.cellSince h b := by
  rw [Heap.cellSince, Heap.cellSince, step.cells]

end Heap

/-- The program got the block at an address by itself, or nobody handed one out there, or the one
that was handed out there is as `P` says. -/
def Explained (o : Outside) (new : List Answer) (a : Nat) (P : Answer → Prop) : Prop :=
  a ∈ o.direct ∨ answersAt new a = [] ∨ ∃ x, answersAt new a = [x] ∧ P x

/-- What is true of an address with its block in some place. -/
inductive Account (base h : Heap) (o : Outside) (new : List Answer) (back : List (Service × Block))
    (a : Nat) : Place → Prop
  | unknown (outside : a < base.nextAddress ∨ h.nextAddress ≤ a) (blocks : o.blocks.count a = 0)
      (answers : answersAt new a = []) (returned : returnsAt back a = []) :
      Account base h o new back a .unknown
  | hand (since : base.nextAddress ≤ a) (known : a < h.nextAddress) (blocks : o.blocks.count a = 1)
      (answers : a ∈ o.direct ∨ answersAt new a = []) (returned : returnsAt back a = []) :
      Account base h o new back a .hand
  | cell {b : BufferId} {c : Cell} (since : base.nextAddress ≤ a) (known : a < h.nextAddress)
      (blocks : o.blocks.count a = 0) (holds : Heap.cellSince base h b = some c)
      (address : c.block.address = a)
      (answers : Explained o new a fun x =>
        x.service = .of c.manager ∧ x.block.bytes.length = x.asked)
      (returned : returnsAt back a = if c.isHeld then [] else [c.due]) :
      Account base h o new back a (.cell b)
  | gone (since : base.nextAddress ≤ a) (known : a < h.nextAddress) (blocks : o.blocks.count a = 0)
      (answers : Explained o new a fun x => x.block.bytes.length ≠ x.asked ∧
        ∃ b, b.bytes.length = x.block.bytes.length ∧ returnsAt back a = [(x.service, b)]) :
      Account base h o new back a .gone

/-- What the account of an address depends on is the same. -/
lemma Account.frame {base h h' : Heap} {o o' : Outside} {new new' : List Answer}
    {back back' : List (Service × Block)} {a : Nat} {p : Place}
    (account : Account base h o new back a p) (next : a < h'.nextAddress ↔ a < h.nextAddress)
    (blocks : o'.blocks.count a = o.blocks.count a) (direct : a ∈ o.direct → a ∈ o'.direct)
    (answers : answersAt new' a = answersAt new a)
    (returned : returnsAt back' a = returnsAt back a)
    (cells : ∀ b, p = .cell b → Heap.cellSince base h' b = Heap.cellSince base h b) :
    Account base h' o' new' back' a p := by
  cases account with
  | unknown out none noAnswer noReturn =>
    refine .unknown ?_ (blocks.trans none) (answers.trans noAnswer) (returned.trans noReturn)
    exact out.imp_right fun le => Nat.le_of_not_lt fun lt => Nat.not_lt_of_le le (next.1 lt)
  | hand since known one noAnswer noReturn =>
    refine .hand since (next.2 known) (blocks.trans one) ?_ (returned.trans noReturn)
    exact noAnswer.imp direct answers.trans
  | cell since known none holds address explained returns =>
    refine .cell since (next.2 known) (blocks.trans none) ((cells _ rfl).trans holds) address ?_
      (returned.trans returns)
    exact explained.imp direct (.imp answers.trans (.imp fun x hx => hx.imp_left answers.trans))
  | gone since known none explained =>
    refine .gone since (next.2 known) (blocks.trans none) ?_
    refine explained.imp direct (.imp answers.trans (.imp fun x => ?_))
    rintro ⟨one, wrong, b, length, went⟩
    exact ⟨answers.trans one, wrong, b, length, returned.trans went⟩

/-- The books are right: `place` says where the block of every address is, `new` and `back` are the
blocks that were handed out and that went back, and the cells from before are as they were. -/
structure Books (base : Heap) (held : List BufferId) (o : Outside) (place : Nat → Place)
    (new : List Answer) (back : List (Service × Block)) (h : Heap) : Prop where
  answers : h.answers = base.answers ++ new
  returned : h.returned = base.returned ++ back
  address_le : base.nextAddress ≤ h.nextAddress
  size_le : base.cells.size ≤ h.cells.size
  kept : ∀ b, b < base.cells.size → h.cells[b]? = base.cells[b]?
  account : ∀ a, Account base h o new back a (place a)
  placed : ∀ b c, Heap.cellSince base h b = some c → place c.block.address = .cell b
  owned : ∀ b, held.count b = (Heap.cellSince base h b).elim 0 (·.owned.toNat)
  read : ∀ b, o.readings.count b = (Heap.cellSince base h b).elim 0 (·.borrows)

/-- The books can be kept. -/
def Ledger (base : Heap) (held : List BufferId) (o : Outside) (h : Heap) : Prop :=
  ∃ place new back, Books base held o place new back h

namespace Books

variable {base h h' : Heap} {held held' : List BufferId} {o o' : Outside} {place : Nat → Place}
  {new new' : List Answer} {back back' : List (Service × Block)}

/-- The books stay right when the block of one address comes to another place, and the cell there
changes. -/
lemma move (books : Books base held o place new back h) (a₀ : Nat) (b₀ : BufferId) (p₀ : Place)
    (answers : h'.answers = h.answers ++ new') (returned : h'.returned = h.returned ++ back')
    (newAt : ∀ x ∈ new', x.block.address = a₀) (backAt : ∀ r ∈ back', r.2.address = a₀)
    (next : h.nextAddress ≤ h'.nextAddress)
    (nextAt : ∀ a, a ≠ a₀ → a < h'.nextAddress → a < h.nextAddress)
    (blocks : ∀ a, a ≠ a₀ → o'.blocks.count a = o.blocks.count a)
    (direct : ∀ a ∈ o.direct, a ∈ o'.direct)
    (since : base.cells.size ≤ b₀) (size : h.cells.size ≤ h'.cells.size)
    (cells : ∀ b, b ≠ b₀ → h'.cells[b]? = h.cells[b]?)
    (before : ∀ b, place a₀ = .cell b → b = b₀) (own : ∀ a, place a = .cell b₀ → a = a₀)
    (account : Account base h' o' (new ++ new') (back ++ back') a₀ p₀)
    (placed : ∀ c, h'.cells[b₀]? = some c → c.block.address = a₀ ∧ p₀ = .cell b₀)
    (owned : ∀ b, held'.count b = (Heap.cellSince base h' b).elim 0 (·.owned.toNat))
    (read : ∀ b, o'.readings.count b = (Heap.cellSince base h' b).elim 0 (·.borrows)) :
    Books base held' o' (Function.update place a₀ p₀) (new ++ new') (back ++ back') h' where
  answers := by rw [answers, books.answers, List.append_assoc]
  returned := by rw [returned, books.returned, List.append_assoc]
  address_le := Nat.le_trans books.address_le next
  size_le := Nat.le_trans books.size_le size
  kept b hb := (cells b (Nat.ne_of_lt (Nat.lt_of_lt_of_le hb since))).trans (books.kept b hb)
  account a := by
    by_cases ha : a = a₀
    · subst ha
      rwa [Function.update_self]
    · -- nothing that the account of another address depends on has changed
      rw [Function.update_of_ne ha]
      refine (books.account a).frame ⟨nextAt a ha, fun lt => Nat.lt_of_lt_of_le lt next⟩
        (blocks a ha) (direct a) ?_ ?_ ?_
      · rw [answersAt_append, answersAt_eq_nil newAt ha, List.append_nil]
      · rw [returnsAt_append, returnsAt_eq_nil backAt ha, List.append_nil]
      · intro b hb
        have ne : b ≠ b₀ := by
          rintro rfl
          exact ha (own a hb)
        rw [Heap.cellSince, Heap.cellSince, cells b ne]
  placed b c hc := by
    by_cases hb : b = b₀
    · subst hb
      rw [Heap.cellSince, if_pos since] at hc
      obtain ⟨rfl, rfl⟩ := placed c hc
      exact Function.update_self ..
    · -- only the cell of `b₀` could have held the block that moved
      have old := books.placed b c (by rw [← hc, Heap.cellSince, Heap.cellSince, cells b hb])
      have ne : c.block.address ≠ a₀ := by
        intro ha
        exact hb (before b (ha ▸ old))
      rwa [Function.update_of_ne ne]
  owned := owned
  read := read

/-- The block is where the program says that it is. -/
lemma place_of_mem (books : Books base held o place new back h) {a : Nat} (ha : a ∈ o.blocks) :
    place a = .hand := by
  have account := books.account a
  have one := List.count_pos_iff.2 ha
  cases hp : place a <;> rw [hp] at account <;> cases account <;> first | rfl | omega

/-- Nothing is known yet of the next address. -/
lemma place_next (books : Books base held o place new back h) :
    place h.nextAddress = .unknown := by
  have account := books.account h.nextAddress
  cases hp : place h.nextAddress <;> rw [hp] at account <;> cases account <;> first | rfl | omega

/-- Nothing was ever handed out at the next address, and nothing went back from there. -/
lemma fresh (books : Books base held o place new back h) :
    o.blocks.count h.nextAddress = 0 ∧ answersAt new h.nextAddress = [] ∧
      returnsAt back h.nextAddress = [] := by
  have account := books.account h.nextAddress
  rw [books.place_next] at account
  obtain ⟨_, none, noAnswer, noReturn⟩ := account
  exact ⟨none, noAnswer, noReturn⟩

/-- So no cell has its block there. -/
lemma next_ne_cell (books : Books base held o place new back h) (b : BufferId) :
    place h.nextAddress ≠ .cell b := by
  rw [books.place_next]
  exact Place.noConfusion

/-- A block in the hands of the program is there once, and it never went back. -/
lemma in_hand (books : Books base held o place new back h) {a : Nat} (ha : a ∈ o.blocks) :
    base.nextAddress ≤ a ∧ a < h.nextAddress ∧ o.blocks.count a = 1 ∧
      (a ∈ o.direct ∨ answersAt new a = []) ∧ returnsAt back a = [] := by
  have account := books.account a
  rw [books.place_of_mem ha] at account
  obtain ⟨⟩ | ⟨since, known, one, noAnswer, noReturn⟩ := account
  exact ⟨since, known, one, noAnswer, noReturn⟩

/-- A block in the hands of the program is in no cell. -/
lemma hand_ne_cell (books : Books base held o place new back h) {a : Nat} (ha : a ∈ o.blocks)
    (b : BufferId) : place a ≠ .cell b := by
  rw [books.place_of_mem ha]
  exact Place.noConfusion

/-- An address whose block is in a cell is the address of that cell. -/
lemma address_of_place (books : Books base held o place new back h) {a : Nat} {b : BufferId}
    (hp : place a = .cell b) : ∃ c, Heap.cellSince base h b = some c ∧ c.block.address = a := by
  have account := books.account a
  rw [hp] at account
  cases account with
  | cell _ _ _ holds address => exact ⟨_, holds, address⟩

/-- What went back had been handed out since the beginning. -/
lemma since_of_returned (books : Books base held o place new back h) {r : Service × Block}
    (hr : r ∈ back) : base.nextAddress ≤ r.2.address := by
  have mem : r ∈ returnsAt back r.2.address := List.mem_filter.2 ⟨hr, decide_eq_true rfl⟩
  have account := books.account r.2.address
  cases hp : place r.2.address with
  | unknown =>
    rw [hp] at account
    obtain ⟨_, _, _, none⟩ := account
    rw [none] at mem
    cases mem
  | hand =>
    rw [hp] at account
    obtain ⟨⟩ | ⟨since⟩ := account
    exact since
  | cell b =>
    rw [hp] at account
    obtain ⟨⟩ | ⟨⟩ | ⟨since⟩ := account
    exact since
  | gone =>
    rw [hp] at account
    obtain ⟨⟩ | ⟨⟩ | ⟨⟩ | ⟨since⟩ := account
    exact since

/-- The only answer at an address is the one that was asked about. -/
lemma answer_of_explained {a : Nat} {P : Answer → Prop} (explained : Explained o new a P)
    {x : Answer} (hx : x ∈ new) (address : x.block.address = a) (direct : a ∉ o.direct) :
    answersAt new a = [x] ∧ P x := by
  have mem : x ∈ answersAt new a := List.mem_filter.2 ⟨hx, decide_eq_true address⟩
  obtain mine | none | ⟨x', one, hx'⟩ := explained
  · exact absurd mine direct
  · rw [none] at mem
    cases mem
  · rw [one] at mem
    rw [List.mem_singleton.1 mem]
    exact ⟨one, hx'⟩

/-- A block that was handed out for a tracker is the only one at its address, and it is in a cell
for whom it came from, or it had the wrong length and went back to whom it came from. -/
lemma answered (books : Books base held o place new back h) {x : Answer} (hx : x ∈ new)
    (direct : x.block.address ∉ o.direct) :
    answersAt new x.block.address = [x] ∧
      ((∃ b c, place x.block.address = .cell b ∧ Heap.cellSince base h b = some c ∧
        c.block.address = x.block.address ∧ x.service = .of c.manager ∧
        x.block.bytes.length = x.asked) ∨
      (place x.block.address = .gone ∧ x.block.bytes.length ≠ x.asked ∧
        ∃ b, b.bytes.length = x.block.bytes.length ∧
          returnsAt back x.block.address = [(x.service, b)])) := by
  have account := books.account x.block.address
  have mem : x ∈ answersAt new x.block.address := List.mem_filter.2 ⟨hx, decide_eq_true rfl⟩
  cases hp : place x.block.address with
  | unknown =>
    rw [hp] at account
    obtain ⟨_, _, none, _⟩ := account
    rw [none] at mem
    cases mem
  | hand =>
    rw [hp] at account
    obtain ⟨⟩ | ⟨_, _, _, mine | none, _⟩ := account
    · exact absurd mine direct
    · rw [none] at mem
      cases mem
  | cell b =>
    rw [hp] at account
    obtain ⟨⟩ | ⟨⟩ | ⟨_, _, _, holds, address, explained, _⟩ := account
    obtain ⟨one, service, right⟩ := answer_of_explained explained hx rfl direct
    exact ⟨one, .inl ⟨b, _, rfl, holds, address, service, right⟩⟩
  | gone =>
    rw [hp] at account
    obtain ⟨⟩ | ⟨⟩ | ⟨⟩ | ⟨_, _, _, explained⟩ := account
    obtain ⟨one, wrong, b, length, went⟩ := answer_of_explained explained hx rfl direct
    exact ⟨one, .inr ⟨rfl, wrong, b, length, went⟩⟩

/-- No block is in a cell that is not there yet. -/
lemma cell_next (books : Books base held o place new back h) (a : Nat) :
    place a ≠ .cell h.cells.size := by
  intro hp
  obtain ⟨c, holds, _⟩ := books.address_of_place hp
  rw [Heap.cellSince, if_pos books.size_le, Array.getElem?_eq_none (Nat.le_refl _)] at holds
  cases holds

/-- The books stay right when the block of one address comes to another place and no cell
changes. -/
lemma relocate (books : Books base held o place new back h) (a₀ : Nat) (p₀ : Place) {used : Nat}
    (step : Heap.Step h h' used new' back')
    (newAt : ∀ x ∈ new', x.block.address = a₀) (backAt : ∀ r ∈ back', r.2.address = a₀)
    (nextAt : ∀ a, a ≠ a₀ → a < h.nextAddress + used → a < h.nextAddress)
    (blocks : ∀ a, a ≠ a₀ → o'.blocks.count a = o.blocks.count a)
    (direct : ∀ a ∈ o.direct, a ∈ o'.direct) (readings : o'.readings = o.readings)
    (before : ∀ b, place a₀ ≠ .cell b)
    (account : Account base h' o' (new ++ new') (back ++ back') a₀ p₀) :
    Books base held o' (Function.update place a₀ p₀) (new ++ new') (back ++ back') h' := by
  -- the cell that is allowed to change is one that does not exist
  refine books.move a₀ h.cells.size p₀ step.answers step.returned newAt backAt
    (by rw [step.nextAddress]; omega) (by rwa [step.nextAddress]) blocks direct books.size_le
    (Nat.le_of_eq (by rw [step.cells])) (fun b _ => by rw [step.cells])
    (fun b hb => absurd hb (before b)) (fun a ha => absurd ha (books.cell_next a)) account ?_ ?_ ?_
  · intro c hc
    rw [step.cells, Array.getElem?_eq_none (Nat.le_refl _)] at hc
    cases hc
  · intro b
    rw [step.cellSince, books.owned]
  · intro b
    rw [step.cellSince, readings, books.read]

/-- The books stay right when a block comes into a new cell. -/
lemma put (books : Books base held o place new back h) {c : Cell} {used : Nat}
    (step : Heap.Step h h' used new' []) (newAt : ∀ x ∈ new', x.block.address = c.block.address)
    (nextAt : ∀ a, a ≠ c.block.address → a < h.nextAddress + used → a < h.nextAddress)
    (blocks : ∀ a, a ≠ c.block.address → o'.blocks.count a = o.blocks.count a)
    (direct : ∀ a ∈ o.direct, a ∈ o'.direct) (readings : o'.readings = o.readings)
    (before : ∀ b, place c.block.address ≠ .cell b)
    (since : base.nextAddress ≤ c.block.address) (known : c.block.address < h.nextAddress + used)
    (hand : o'.blocks.count c.block.address = 0)
    (answers : Explained o' (new ++ new') c.block.address fun x =>
      x.service = .of c.manager ∧ x.block.bytes.length = x.asked)
    (returned : returnsAt back c.block.address = [])
    (owned : c.owned = true) (borrows : c.borrows = 0) :
    Ledger base (h.cells.size :: held) o' (h'.withNewCell c) := by
  -- the new cell is the only one that changes, and there was none before
  have cells : (h'.withNewCell c).cells = h.cells.push c := congrArg (·.push c) step.cells
  have at_ne : ∀ b, b ≠ h.cells.size → (h'.withNewCell c).cells[b]? = h.cells[b]? := by
    intro b hb
    rw [cells, Array.getElem?_push, if_neg hb]
  have at_new : Heap.cellSince base (h'.withNewCell c) h.cells.size = some c := by
    rw [Heap.cellSince, if_pos books.size_le, cells, Array.getElem?_push_size]
  have at_old : ∀ b, b ≠ h.cells.size →
      Heap.cellSince base (h'.withNewCell c) b = Heap.cellSince base h b := by
    intro b hb
    rw [Heap.cellSince, Heap.cellSince, at_ne b hb]
  have none_old : Heap.cellSince base h h.cells.size = none := by
    rw [Heap.cellSince, if_pos books.size_le, Array.getElem?_eq_none (Nat.le_refl _)]
  have next : (h'.withNewCell c).nextAddress = h.nextAddress + used := step.nextAddress
  refine ⟨_, _, _, books.move c.block.address h.cells.size _ step.answers step.returned newAt
    (by simp) (by rw [next]; omega) (by rwa [next]) blocks direct books.size_le ?_ at_ne
    (fun b hb => absurd hb (before b)) (fun a ha => absurd ha (books.cell_next a))
    (.cell since (by rwa [next]) hand at_new rfl answers ?_) ?_ ?_ ?_⟩
  · rw [cells, Array.size_push]
    omega
  · rw [List.append_nil, returned]
    simp [Cell.isHeld, owned]
  · intro c' hc'
    rw [cells, Array.getElem?_push_size] at hc'
    cases hc'
    exact ⟨rfl, rfl⟩
  · intro b
    by_cases hb : b = h.cells.size
    · subst hb
      have none_held := books.owned h.cells.size
      rw [none_old] at none_held
      rw [at_new, List.count_cons_self, none_held, Option.elim_some, owned]
      rfl
    · rw [at_old b hb, List.count_cons_of_ne (Ne.symm hb), books.owned]
  · intro b
    rw [readings, books.read]
    by_cases hb : b = h.cells.size
    · subst hb
      rw [at_new, none_old, Option.elim_some, borrows]
      rfl
    · rw [at_old b hb]

end Books

namespace Ledger

variable {base h h' : Heap} {held held' : List BufferId} {o : Outside}

/-- At the start nothing is held, and nothing was handed out. -/
lemma start (h : Heap) : Ledger h [] {} h := by
  have none : ∀ b, Heap.cellSince h h b = none := by
    intro b
    rw [Heap.cellSince]
    split
    · rename_i le
      exact Array.getElem?_eq_none le
    · rfl
  refine ⟨fun _ => .unknown, [], [], (List.append_nil _).symm, (List.append_nil _).symm,
    Nat.le_refl _, Nat.le_refl _, fun _ _ => rfl, fun a => ?_, ?_, ?_, ?_⟩
  · exact .unknown (Nat.lt_or_ge a _) rfl rfl rfl
  · intro b c hc
    rw [none] at hc
    cases hc
  · intro b
    rw [none]
    rfl
  · intro b
    rw [none]
    rfl

/-- It matters only how often each buffer is held. -/
lemma congr (ledger : Ledger base held o h) (same : ∀ b, held'.count b = held.count b) :
    Ledger base held' o h := by
  obtain ⟨place, new, back, books⟩ := ledger
  exact ⟨place, new, back, { books with owned := fun b => (same b).trans (books.owned b) }⟩

/-- In another order the same is held. -/
lemma perm (ledger : Ledger base held o h) (p : held.Perm held') : Ledger base held' o h :=
  ledger.congr fun b => (p.count_eq b).symm

/-- It matters only how often each block is in the hands of the program. -/
lemma congrBlocks (ledger : Ledger base held o h) {blocks : List Nat}
    (same : ∀ a, blocks.count a = o.blocks.count a) : Ledger base held { o with blocks } h := by
  obtain ⟨place, new, back, books⟩ := ledger
  refine ⟨place, new, back, { books with account := fun a => ?_ }⟩
  exact (books.account a).frame .rfl (same a) id rfl rfl fun _ _ => rfl

/-- What is of no concern to blocks is of no concern to the ledger. -/
lemma quiet (ledger : Ledger base held o h) (step : Heap.Step h h' 0 [] []) :
    Ledger base held o h' := by
  obtain ⟨place, new, back, books⟩ := ledger
  refine ⟨place, new, back, ?_, ?_, ?_, ?_, ?_, ?_, ?_, ?_, ?_⟩
  · rw [step.answers, List.append_nil, books.answers]
  · rw [step.returned, List.append_nil, books.returned]
  · exact step.nextAddress ▸ books.address_le
  · exact step.cells ▸ books.size_le
  · exact step.cells ▸ books.kept
  · intro a
    exact (books.account a).frame (by rw [step.nextAddress, Nat.add_zero]) rfl id rfl rfl
      fun b _ => step.cellSince base b
  · intro b c hc
    exact books.placed b c ((step.cellSince base b).symm.trans hc)
  · intro b
    rw [step.cellSince, books.owned]
  · intro b
    rw [step.cellSince, books.read]

/-- A block of the wrong length is gone at once. -/
lemma spoil (ledger : Ledger base held o h) {x : Answer} {b : Block}
    (step : Heap.Step h h' 1 [x] [(x.service, b)]) (wrong : x.block.bytes.length ≠ x.asked)
    (address : b.address = h.nextAddress) (same : x.block.address = b.address)
    (length : x.block.bytes.length = b.bytes.length) : Ledger base held o h' := by
  obtain ⟨place, new, back, books⟩ := ledger
  obtain ⟨none, noAnswer, noReturn⟩ := books.fresh
  refine ⟨_, _, _, books.relocate h.nextAddress .gone step ?_ ?_ ?_ (fun _ _ => rfl)
    (fun _ => id) rfl books.next_ne_cell ?_⟩
  · simp [same, address]
  · simp [address]
  · intro a ne lt
    omega
  · refine .gone books.address_le (by rw [step.nextAddress]; omega) none (.inr (.inr ⟨x, ?_, wrong,
      b, length.symm, ?_⟩))
    · rw [answersAt_append, noAnswer]
      simp [answersAt, same, address]
    · rw [returnsAt_append, noReturn]
      simp [returnsAt, address]

/-- A block that the program gets or makes by itself is in its hands. -/
lemma obtain (ledger : Ledger base held o h) {new' : List Answer} (step : Heap.Step h h' 1 new' [])
    (newAt : ∀ x ∈ new', x.block.address = h.nextAddress) {direct : List Nat}
    (keeps : ∀ a ∈ o.direct, a ∈ direct) (knows : h.nextAddress ∈ direct ∨ new' = []) :
    Ledger base held { o with blocks := h.nextAddress :: o.blocks, direct } h' := by
  obtain ⟨place, new, back, books⟩ := ledger
  obtain ⟨none, noAnswer, noReturn⟩ := books.fresh
  refine ⟨_, _, _, books.relocate h.nextAddress .hand step newAt (by simp) ?_ ?_
    keeps rfl books.next_ne_cell ?_⟩
  · intro a ne lt
    omega
  · intro a ne
    exact List.count_cons_of_ne ne.symm
  · refine .hand books.address_le (by rw [step.nextAddress]; omega) ?_ ?_ ?_
    · rw [List.count_cons_self, none]
    · apply knows.imp_right
      rintro rfl
      rw [List.append_nil, noAnswer]
    · rw [List.append_nil, noReturn]

/-- A block in the hands of the program is gone when the program gives it back. -/
lemma give (ledger : Ledger base held o h) {s : Service} {b : Block}
    (hand : b.address ∈ o.blocks) (step : Heap.Step h h' 0 [] [(s, b)]) :
    Ledger base held { o with blocks := o.blocks.erase b.address } h' := by
  obtain ⟨place, new, back, books⟩ := ledger
  obtain ⟨since, known, one, noAnswer, noReturn⟩ := books.in_hand hand
  refine ⟨_, _, _, books.relocate b.address .gone step (by simp) (by simp)
    (fun a _ => id) ?_ (fun _ => id) rfl (books.hand_ne_cell hand) ?_⟩
  · intro a ne
    exact List.count_erase_of_ne ne
  · refine .gone since (by rwa [step.nextAddress]) ?_ ?_
    · rw [List.count_erase_self, one]
    · rw [List.append_nil]
      exact noAnswer.imp_right .inl

/-- A block in the hands of the program comes into a cell when it is tracked. -/
lemma track (ledger : Ledger base held o h) {b : Block} (hand : b.address ∈ o.blocks)
    (m : Option Manager) :
    Ledger base (h.cells.size :: held) { o with blocks := o.blocks.erase b.address }
      (h.withNewCell { block := b, manager := m }) := by
  obtain ⟨place, new, back, books⟩ := ledger
  obtain ⟨since, known, one, noAnswer, noReturn⟩ := books.in_hand hand
  refine books.put .refl (by simp) (fun a _ => id) ?_ (fun _ => id) rfl (books.hand_ne_cell hand)
    since known ?_ ?_ noReturn rfl rfl
  · intro a ne
    exact List.count_erase_of_ne ne
  · rw [List.count_erase_self, one]
  · rw [List.append_nil]
    exact noAnswer.imp_right .inl

/-- A block that was handed out for a tracker comes into a cell. -/
lemma allot (ledger : Ledger base held o h) {x : Answer} {b : Block} {m : Option Manager}
    (step : Heap.Step h h' 1 [x] []) (service : x.service = .of m)
    (right : x.block.bytes.length = x.asked) (address : b.address = h.nextAddress)
    (same : x.block.address = b.address) :
    Ledger base (h'.cells.size :: held) o (h'.withNewCell { block := b, manager := m }) := by
  obtain ⟨place, new, back, books⟩ := ledger
  obtain ⟨none, noAnswer, noReturn⟩ := books.fresh
  rw [step.cells]
  refine books.put step (by simp [same]) ?_ (fun _ _ => rfl) (fun _ => id) rfl
    (address ▸ books.next_ne_cell) (address ▸ books.address_le) ?_ (address ▸ none)
    (.inr (.inr ⟨x, ?_, service, right⟩))
    (address ▸ noReturn) rfl rfl
  · intro a ne lt
    have ne : a ≠ h.nextAddress := address ▸ ne
    omega
  · show b.address < _
    omega
  · show answersAt _ b.address = _
    rw [answersAt_append, address, noAnswer]
    simp [answersAt, same, address]

/-- A buffer that is alive since `base` is in a cell, and the block goes back when a change of the
cell leaves nobody who needs it. -/
lemma update (ledger : Ledger base held o h) {b : BufferId} {c : Cell} (c' : Cell)
    (hc : Heap.cellSince base h b = some c) (live : c.isHeld = true)
    (block : c'.block = c.block) (manager : c'.manager = c.manager)
    (step : Heap.Step (h.withCell b c') h' 0 [] (if c'.isHeld then [] else [c.due]))
    {readings : List BufferId}
    (held_at : held'.count b = c'.owned.toNat) (read_at : readings.count b = c'.borrows)
    (held_ne : ∀ b', b' ≠ b → held'.count b' = held.count b')
    (read_ne : ∀ b', b' ≠ b → readings.count b' = o.readings.count b') :
    Ledger base held' { o with readings } h' := by
  obtain ⟨place, new, back, books⟩ := ledger
  have since := Heap.le_of_cellSince hc
  have at_b := Heap.getElem?_of_cellSince hc
  have at_ne : ∀ b', b' ≠ b → h'.cells[b']? = h.cells[b']? := by
    intro b' ne
    rw [step.cells]
    exact Array.getElem?_setIfInBounds_ne ne.symm
  have at_new : h'.cells[b]? = some c' := by
    rw [step.cells]
    show (h.cells.setIfInBounds b c')[b]? = _
    rw [Array.getElem?_setIfInBounds_self, if_pos (Array.getElem?_eq_some_iff.1 at_b).1]
  have new_cell : Heap.cellSince base h' b = some c' := by
    rw [Heap.cellSince, if_pos since, at_new]
  have old_cell : ∀ b', b' ≠ b → Heap.cellSince base h' b' = Heap.cellSince base h b' := by
    intro b' ne
    rw [Heap.cellSince, Heap.cellSince, at_ne b' ne]
  have due : c'.due = c.due := by
    rw [Cell.due, Cell.due, block, manager]
  -- the block stays where it is, so its account changes only by what goes back
  have placed := books.placed b c hc
  have account := books.account c.block.address
  rw [placed] at account
  obtain ⟨⟩ | ⟨⟩ | ⟨le, known, none, holds, _, answers, returned⟩ := account
  rw [hc] at holds
  cases holds
  refine ⟨_, _, _, books.move c.block.address b (.cell b) step.answers
    step.returned (by simp) ?_ (Nat.le_of_eq step.nextAddress.symm) ?_ (fun _ _ => rfl)
    (fun _ => id) since ?_ at_ne ?_ ?_ (.cell le ?_ none new_cell (by rw [block]) ?_ ?_) ?_ ?_ ?_⟩
  · intro r hr
    split at hr
    · cases hr
    · rw [List.mem_singleton.1 hr]
      rfl
  · intro a _ lt
    rwa [step.nextAddress] at lt
  · rw [step.cells]
    exact Nat.le_of_eq Array.size_setIfInBounds.symm
  · intro b' hb'
    rw [placed] at hb'
    cases hb'
    rfl
  · intro a ha
    obtain ⟨c', hc', rfl⟩ := books.address_of_place ha
    rw [hc] at hc'
    cases hc'
    rfl
  · rwa [step.nextAddress]
  · rw [List.append_nil, manager]
    exact answers
  · rw [returnsAt_append, returned, if_pos live, due]
    split <;> simp [returnsAt, Cell.due]
  · intro c'' hc''
    rw [at_new] at hc''
    cases hc''
    exact ⟨by rw [block], rfl⟩
  · intro b'
    by_cases ne : b' = b
    · rw [ne, held_at, new_cell]
      rfl
    · rw [held_ne b' ne, books.owned, old_cell b' ne]
  · intro b'
    by_cases ne : b' = b
    · subst ne
      rw [new_cell]
      exact read_at
    · rw [old_cell b' ne, ← books.read]
      exact read_ne b' ne

end Ledger

end Metaobject
