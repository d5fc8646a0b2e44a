import Metaobject.Comparison.Operands
import Metaobject.Description.Value
import Metaobject.Inspector.Request
import Metaobject.Registry
import Metaobject.Text.Plain

/-!
# Reports of the inspector

`report` answers a command line with an exit code and what goes to the two outputs: the catalogue of
the builtin types, the layout of one of them, or the verdict on two operands. A failed command ends
with 1 and a command line that makes no sense with 2.
-/

namespace Metaobject.Inspector

/-- What a run comes to. -/
structure Report where
  code : Nat := 0
  out : String := ""
  err : String := ""
  deriving DecidableEq, Repr

/-- Fills a text with blanks on the right. -/
def padRight (width : Nat) (s : String) : String :=
  s ++ String.ofList (List.replicate (width - s.length) ' ')

/-- Fills a text with blanks on the left. -/
def padLeft (width : Nat) (s : String) : String :=
  String.ofList (List.replicate (width - s.length) ' ') ++ s

/-- The lines, each with its end. -/
def lines (ls : List String) : String :=
  String.join (ls.map (· ++ "\n"))

/-! ### Types -/

/-- Bytes that any value of a type takes. -/
def typeSize (u : Universe) (t : TypeId) : String :=
  toString (u.sizeOf {} t none)

/-- The line for a type in the catalogue. -/
def catalogueLine (u : Universe) (t : TypeId) : String :=
  "  " ++ padRight 14 (u.name t) ++ " " ++ padLeft 4 (typeSize u t) ++ " B  " ++
    (u.desc t).info.getD ""

/-- The types of a registry, by name. -/
def catalogue (u : Universe) (r : Registry) : List String :=
  (toString r.size ++ " builtin types") :: (r.names.filterMap r.get?).map (catalogueLine u)

/-- The word for a kind of types. -/
def kindLabel : TypeKind → String
  | .scalar k => "scalar (" ++ k.name ++ ")"
  | .struct l => "struct (" ++ toString l.fields.length ++ " fields)"
  | .bytes => "bytes"
  | .reference .function => "function reference"
  | .reference .object => "object reference"
  | .descriptor => "type"
  | .blackBox size => "opaque (" ++ toString size ++ " B)"

/-- The line for a field. -/
def fieldLine (u : Universe) (f : Field) : String :=
  "    #" ++ padRight 2 (toString f.index) ++ " " ++ padRight 12 f.name ++ " " ++
    padRight 10 (f.type.elim "-" u.name) ++ " " ++ toString f.size ++ " B"

/-- The lines for a layout: whether it is tracked, its base, and its fields. -/
def layoutLines (u : Universe) (l : Layout) : List String :=
  ["  tracked  " ++ Description.flag l.tracked] ++
    (l.base.toList.map fun b => "  base     " ++ u.name b) ++ l.fields.map (fieldLine u)

/-- Everything there is to show of a type. -/
def typeLines (u : Universe) (t : TypeId) : List String :=
  let d := u.desc t
  ["type " ++ d.name] ++ (d.info.toList.map ("  info     " ++ ·)) ++
    ["  parity   " ++ d.parity, "  kind     " ++ kindLabel d.kind,
      "  size     " ++ typeSize u t ++ " B",
      "  default  " ++ d.canonical.elim "none" (u.valueDescription {})] ++
    (u.layout? t).elim [] (layoutLines u)

/-! ### Comparisons -/

/-- Reads an operand. -/
def readOperand {α : Type} (read : String → Except NumberFault α) (s : String) : Except String α :=
  (read s).mapError fun e => "Bad operand '" ++ s ++ "': " ++ e.message

/-- Compares two numbers, read by `read`. -/
def compareNumbers {α : Type} (read : String → Except NumberFault α) (cmp : α → α → Verdict)
    (check baseline : String) : Except String Verdict := do
  let a ← readOperand read check
  let b ← readOperand read baseline
  return cmp a b

/-- The bytes of a text. -/
def bytes (s : String) : Bytes :=
  s.toUTF8.toList

/-- Compares two texts as it was asked. -/
def compare : Comparing → (check baseline : String) → Except String Verdict
  | .terminated, a, b => .ok (Bytes.compareTerminated (bytes a) (bytes b))
  | .bounded n, a, b => .ok (Bytes.compareUpTo n (bytes a) (bytes b))
  | .range n, a, b => .ok (Bytes.compareRange n (bytes a) (bytes b))
  | .signed, a, b => compareNumbers IntKind.i64.read compareInts a b
  | .unsigned, a, b => compareNumbers IntKind.u64.read compareInts a b
  | .float, a, b =>
    compareNumbers FloatKind.double.read
      (fun v w => Scalar.compare (.float .double v) (.float .double w)) a b
where
  compareInts (x y : Int) : Verdict := .ofOrdering (Ord.compare x y)

/-- The word for a verdict. -/
def word : Verdict → String
  | .less => "less"
  | .equal => "equal"
  | .greater => "greater"
  | .lossy => "lossy (only less-than available)"
  | .mismatch => "type mismatch"
  | .invalid => "invalid"

/-! ### Help -/

/-- What a topic is about. -/
def about : Topic → String
  | .program => "Inspect runtime type descriptors"
  | .list => "List every builtin type"
  | .type => "Show one type: kind, size, default, fields"
  | .compare => "Compare two operands with a comparer"
  | .help => "Print this message or the help of the given subcommand(s)"

/-- What may follow a name on the command line. -/
def usage : Topic → String
  | .program => "<COMMAND>"
  | .help => "[COMMAND]..."
  | t => " ".intercalate t.values

/-- Labels under a title, with explanations in a column of their own. -/
def titled (title : String) (entries : List (String × String)) : List String :=
  let width := (entries.map (·.1.length)).foldl max 0
  if entries.isEmpty then []
  else ["", title] ++ entries.map fun (label, text) => "  " ++ padRight width label ++ "  " ++ text

/-- The values that can be given, each with what it means. -/
def values : Topic → List (String × String)
  | .type => [("<NAME>", "Type name (e.g. i32, bytes, template_cons)")]
  | .compare =>
    [("<COMPARER>", "Comparer: strz, strn:<n>, mem:<n>, i64, u64, f64"), ("<CHECK>", ""),
      ("<BASELINE>", "")]
  | .help => [("[COMMAND]...", "Print help for the subcommand(s)")]
  | _ => []

/-- The options, each with what it does. -/
def options : Topic → List (String × String)
  | .program => [("-h, --help", "Print help"), ("-V, --version", "Print version")]
  | .help => []
  | _ => [("-h, --help", "Print help")]

/-- The help on a topic. -/
def helpLines (t : Topic) : List String :=
  let name := if t = .program then [] else [t.name]
  [about t, "",
    "Usage: " ++ " ".intercalate ([Topic.program.name] ++ name ++ [usage t].filter (!·.isEmpty))] ++
  titled "Commands:"
    (if t = .program then Topic.commands.map fun c => (c.name, about c) else []) ++
  titled "Arguments:" (values t) ++ titled "Options:" (options t)

/-! ### Reports -/

/-- The wording of an error, as a terminal shows it. -/
def UsageError.lines : UsageError → List String
  | noCommand => helpLines .program
  | unknownCommand name => fault ("unrecognized subcommand " ++ quoted name) []
  | unexpected argument => fault ("unexpected argument " ++ quoted argument ++ " found") []
  | unexpectedValue value option =>
    fault ("unexpected value " ++ quoted value ++ " for " ++ quoted option ++
      " found; no more were expected") []
  | missing names =>
    fault "the following required arguments were not provided:" (names.map ("  " ++ ·))
  | badComparing text reason =>
    fault ("invalid value " ++ quoted text ++ " for " ++ quoted "<COMPARER>" ++ ": " ++ reason) []
where
  quoted (s : String) : String := "'" ++ Plain.bold s ++ "'"
  fault (what : String) (details : List String) : List String :=
    (Plain.bold "error:" ++ " " ++ what) :: details ++
      ["", "For more information, try " ++ quoted "--help" ++ "."]

/-- Carries out a command. -/
def run : Command → Except String (List String)
  | .list => .ok (catalogue .builtin .builtin)
  | .type name =>
    match Registry.builtin.get? name with
    | some t => .ok (typeLines .builtin t)
    | none => .error ("No such type: " ++ name)
  | .compare how check baseline => (compare how check baseline).map fun v => [word v]

/-- Answers a command line. -/
def report (arguments : List String) : Report :=
  match Request.ofArguments arguments with
  | .run c =>
    match run c with
    | .ok out => { out := lines out }
    | .error e => { code := 1, err := lines ["Error: " ++ e] }
  | .help t => { out := lines (helpLines t) }
  | .version => { out := lines [Topic.program.name ++ " 0.1.0"] }
  | .refuse e => { code := 2, err := Plain.text (lines e.lines) }

end Metaobject.Inspector
