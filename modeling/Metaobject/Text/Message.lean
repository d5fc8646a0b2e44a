/-!
# Bounded messages

A message takes text until its capacity, counted in bytes, is reached. What does not fit is cut,
between two characters and never inside one. `byteSize_write_le` says that the capacity is never
exceeded.
-/

namespace Metaobject

/-- The longest beginning of a text that fits into `room` bytes. -/
def fit (room : Nat) : List Char → List Char
  | [] => []
  | c :: cs => if c.utf8Size ≤ room then c :: fit (room - c.utf8Size) cs else []

/-- A text of at most `capacity` bytes. -/
structure Message where
  capacity : Nat
  text : List Char := []

namespace Message

/-- Bytes that a message holds when nobody says otherwise. -/
def defaultCapacity : Nat := 256

/-- Bytes that a text takes. -/
def byteSize : List Char → Nat
  | [] => 0
  | c :: cs => c.utf8Size + byteSize cs

/-- Appends as much of the text as still fits. -/
def write (m : Message) (s : String) : Message :=
  { m with text := m.text ++ fit (m.capacity - byteSize m.text) s.toList }

/-- Removes the text. -/
def clear (m : Message) : Message :=
  { m with text := [] }

/-- Replaces the text. -/
def set (m : Message) (s : String) : Message :=
  m.clear.write s

/-- The text as it is. -/
def toString (m : Message) : String :=
  String.ofList m.text

/-- The bytes of two texts add up. -/
@[simp] theorem byteSize_append (cs ds : List Char) :
    byteSize (cs ++ ds) = byteSize cs + byteSize ds := by
  induction cs with
  | nil => simp [byteSize]
  | cons c cs ih => simp [byteSize, ih, Nat.add_assoc]

/-- What is kept of a text has room. -/
theorem byteSize_fit_le (room : Nat) (cs : List Char) : byteSize (fit room cs) ≤ room := by
  induction cs generalizing room with
  | nil => exact Nat.zero_le room
  | cons c cs ih =>
    unfold fit
    split
    case isTrue h =>
      have hr := ih (room - c.utf8Size)
      show c.utf8Size + byteSize (fit (room - c.utf8Size) cs) ≤ room
      omega
    case isFalse => exact Nat.zero_le room

/-- What is written has room if what was there had. -/
theorem byteSize_write_le {m : Message} (h : byteSize m.text ≤ m.capacity) (s : String) :
    byteSize (m.write s).text ≤ m.capacity := by
  have hf := byteSize_fit_le (m.capacity - byteSize m.text) s.toList
  show byteSize (m.text ++ fit (m.capacity - byteSize m.text) s.toList) ≤ m.capacity
  rw [byteSize_append]
  omega

end Message

end Metaobject
