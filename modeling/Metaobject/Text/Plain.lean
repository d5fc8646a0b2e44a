/-!
# Plain texts

A text may hold sequences by which a terminal is controlled. Each begins with an escape character;
the next one says whether it is a command with parameters, a string for some device, a title, or a
few characters alone. What is plain in a text is what a terminal would write: neither the sequences
nor the control characters but blanks.

A blank inside a sequence is written, and so is what follows it, up to the next control character;
there the sequence goes on, unless what was written went beyond ASCII.
-/

namespace Metaobject.Plain

/-- What the next character belongs to. -/
inductive Mode where
  | text
  /-- A sequence of which only the escape character was read. -/
  | escape
  /-- A sequence that ends with the next character that is no punctuation mark. -/
  | short
  /-- A command with its parameters. -/
  | command
  /-- The head of a string for a device: nothing of it was read yet. -/
  | device
  /-- The head of a string for a device: parameters. -/
  | parameters
  /-- The head of a string for a device: punctuation marks. -/
  | marks
  /-- A string, up to its terminator. -/
  | string
  /-- A title, up to a bell. -/
  | title
  /-- A text that a blank began inside a sequence. -/
  | inside (sequence : Mode)
  deriving DecidableEq, Repr

def isBlank (c : Char) : Bool :=
  c = '\t' || c = '\n' || c = '\x0c' || c = '\r'

def isAscii (c : Char) : Bool :=
  c ≤ '\x7f'

/-- A control character other than a blank. -/
def isControl (c : Char) : Bool :=
  (c < ' ' || c = '\x7f') && !isBlank c

/-- The terminator of strings is a byte, and counts also where it is a part of a character. -/
def endsString (c : Char) : Bool :=
  (String.singleton c).toUTF8.toList.contains 0x9c

namespace Mode

/-- What comes after a printable ASCII character of a sequence. -/
def next (m : Mode) (c : Char) : Mode :=
  match m with
  | escape =>
    if c = '[' then command
    else if c = ']' then title
    else if c = 'P' then device
    else if c = 'X' || c = '^' || c = '_' then string
    else if c < '0' then short
    else text
  | short => if c < '0' then short else text
  | command => if c < '@' then command else text
  | device => if c < '0' then marks else if c < '@' then parameters else string
  | parameters => if c < '0' then marks else if c < '<' then parameters else string
  | marks => if c < '0' then marks else string
  | m => m

/-- What comes after a character that is neither an escape nor a cancel character, and whether that
character is written. -/
def read (m : Mode) (c : Char) : Mode × Bool :=
  match m with
  | text => (text, !isControl c)
  | inside s => if isControl c then (s, false) else (if isAscii c then m else text, true)
  | string => (if endsString c then text else string, false)
  | title => (if c = '\x07' then text else title, false)
  | escape | short | command =>
    if isBlank c then (inside m, true)
    else (if isControl c || !isAscii c then m else m.next c, false)
  | device | parameters | marks =>
    (if isBlank c || isControl c || !isAscii c then m else m.next c, false)

/-- What comes after a character, and whether the character is written. -/
def step (m : Mode) (c : Char) : Mode × Bool :=
  if c = '\x1b' then (escape, false)
  else if c = '\x18' || c = '\x1a' then (text, false)
  else m.read c

end Mode

/-- The characters that are written. -/
def keep (m : Mode) : List Char → List Char
  | [] => []
  | c :: cs =>
    let (next, written) := m.step c
    if written then c :: keep next cs else keep next cs

/-- What is plain in a text. -/
def text (s : String) : String :=
  String.ofList (keep .text s.toList)

/-- A text that a terminal shows in bold. -/
def bold (s : String) : String :=
  "\x1b[1m" ++ s ++ "\x1b[0m"

end Metaobject.Plain
