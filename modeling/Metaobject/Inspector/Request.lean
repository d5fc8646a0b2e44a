import Metaobject.Decimal.Reading

/-!
# Command lines of the inspector

`Request.ofArguments` reads a command line: the name of a command and the values it wants, which may
stand behind a double dash, or a request for help. The first argument that makes no sense is
reported, but for one thing: a value is only looked at when the next one begins.
-/

namespace Metaobject.Inspector

/-- How two texts given on the command line are compared. -/
inductive Comparing where
  /-- As zero-terminated texts. -/
  | terminated
  /-- As zero-terminated texts, up to a number of bytes. -/
  | bounded (n : Nat)
  /-- By their first bytes. -/
  | range (n : Nat)
  /-- As signed integers. -/
  | signed
  /-- As unsigned integers. -/
  | unsigned
  /-- As floats. -/
  | float
  deriving DecidableEq, Repr

/-- What the inspector is to do. -/
inductive Command where
  /-- Lists every builtin type. -/
  | list
  /-- Shows one type. -/
  | type (name : String)
  /-- Compares two operands. -/
  | compare (how : Comparing) (check baseline : String)
  deriving DecidableEq, Repr

/-- What there is help on. -/
inductive Topic where
  | program
  | list
  | type
  | compare
  | help
  deriving DecidableEq, Repr

/-- Why a command line makes no sense. -/
inductive UsageError where
  | noCommand
  | unknownCommand (name : String)
  | unexpected (argument : String)
  | unexpectedValue (value option : String)
  | missing (names : List String)
  | badComparing (text reason : String)
  deriving DecidableEq, Repr

/-- What a command line asks for. -/
inductive Request where
  | run (c : Command)
  | help (topic : Topic)
  | version
  | refuse (e : UsageError)
  deriving DecidableEq, Repr

/-- Reads a way of comparing. A number of bytes stands behind a colon. -/
def Comparing.read (s : String) : Except String Comparing :=
  let cs := s.toList
  let name := String.ofList (cs.takeWhile (· ≠ ':'))
  let bounded (f : Nat → Comparing) : Except String Comparing :=
    let rest := String.ofList ((cs.dropWhile (· ≠ ':')).drop 1)
    match IntKind.usize.read rest with
    | .ok n => .ok (f n.toNat)
    | .error e => .error ("Bad length '" ++ rest ++ "': " ++ e.message)
  if cs.contains ':' then
    match name with
    | "strn" => bounded .bounded
    | "mem" => bounded .range
    | _ => .error ("Unknown comparer: " ++ s)
  else
    match name with
    | "strz" => .ok .terminated
    | "i64" => .ok .signed
    | "u64" => .ok .unsigned
    | "f64" => .ok .float
    | _ => .error ("Unknown comparer: " ++ s)

/-- An argument, as it is understood before any double dash. -/
inductive Argument where
  | value (s : String)
  | doubleDash
  | help
  | version
  /-- An option that nobody knows. -/
  | stray (option : String)
  /-- An option with a value that it does not take. -/
  | attached (value option : String)
  deriving DecidableEq, Repr

/-- Looks at one argument. Only the program itself tells its version. -/
def Argument.read (versioned : Bool) (s : String) : Argument :=
  match s.toList with
  | ['-', '-'] => .doubleDash
  | '-' :: '-' :: cs =>
    let option := String.ofList ('-' :: '-' :: cs.takeWhile (· ≠ '='))
    let known (a : Argument) : Argument :=
      match cs.dropWhile (· ≠ '=') with
      | [] => a
      | _ :: text => .attached (String.ofList text) option
    if option = "--help" then known .help
    else if versioned && option = "--version" then known .version
    else .stray option
  | '-' :: c :: _ =>
    if c = 'h' then .help
    else if versioned && c = 'V' then .version
    else .stray (String.ofList ['-', c])
  | _ => .value s

namespace Topic

/-- The commands, in the order of the help. -/
def commands : List Topic :=
  [list, type, compare, help]

def name : Topic → String
  | program => "typedesc-inspect"
  | list => "list"
  | type => "show"
  | compare => "cmp"
  | help => "help"

/-- The command with a name. -/
def ofName? (s : String) : Option Topic :=
  commands.find? (·.name = s)

/-- The values that a command wants. -/
def values : Topic → List String
  | type => ["<NAME>"]
  | compare => ["<COMPARER>", "<CHECK>", "<BASELINE>"]
  | _ => []

/-- The first value of a comparison says how to compare. -/
def fault? : Topic → List String → Option UsageError
  | compare, how :: _ =>
    match Comparing.read how with
    | .ok _ => none
    | .error reason => some (.badComparing how reason)
  | _, _ => none

/-- The command with its values. -/
def request (t : Topic) (given : List String) : Request :=
  match t, given with
  | list, [] => .run .list
  | type, [name] => .run (.type name)
  | compare, [how, check, baseline] =>
    match Comparing.read how with
    | .ok how => .run (.compare how check baseline)
    | .error reason => .refuse (.badComparing how reason)
  | t, given => .refuse (.missing (t.values.drop given.length))

/-- Reads what follows a command; `given` are the values so far, and `raw` says that a double dash
was among the arguments. -/
def read (t : Topic) (raw : Bool) (given : List String) : List String → Request
  | [] => ((t.fault? given).map .refuse).getD (t.request given)
  | s :: rest =>
    match if raw then .value s else Argument.read false s with
    | .doubleDash => t.read true given rest
    | .help | .version => ((t.fault? given).map .refuse).getD (.help t)
    | .stray option => .refuse (.unexpected option)
    | .attached value option => .refuse (.unexpectedValue value option)
    | .value s =>
      if given.length = t.values.length then .refuse (.unexpected s)
      else ((t.fault? given).map .refuse).getD (t.read raw (given ++ [s]) rest)

/-- Reads what follows the command for help: the topic, which has no topics of its own. -/
def readHelp : List String → Request
  | [] => .help program
  | s :: rest =>
    match ofName? s, rest with
    | none, _ => .refuse (.unknownCommand s)
    | some t, [] => .help t
    | some _, s :: _ => .refuse (.unknownCommand s)

end Topic

/-- Reads a command line. -/
def Request.ofArguments : List String → Request
  | [] => .refuse .noCommand
  | s :: rest =>
    match Topic.ofName? s with
    | some .help => Topic.readHelp rest
    | some t => t.read false [] rest
    | none =>
      match Argument.read true s with
      | .help => .help .program
      | .version => .version
      | .stray option => .refuse (.unexpected option)
      | .attached value option => .refuse (.unexpectedValue value option)
      | .value s => .refuse (.unknownCommand s)
      | .doubleDash =>
        match rest with
        | [] => .refuse .noCommand
        | s :: _ =>
          .refuse (if (Topic.ofName? s).isSome then .unexpected s else .unknownCommand s)

end Metaobject.Inspector
