import Metaobject.Error
import Metaobject.Storage.Manager

/-!
# The trace

Whatever an outside observer can see of a run, in the order in which it happens: requests to
allocators with what was handed out, blocks that went back, hooks that were consulted, deferred
setups, and log records.
-/

namespace Metaobject

/-- Something that a setup does to its tracker. -/
inductive SetupStep where
  | bind (manager : Option Manager)
  | mark (onHeap : Bool)
  /-- Allocates zero bytes. -/
  | allocate (size : Nat)
  /-- Allocates a copy of some bytes. -/
  | copy (bytes : Bytes)
  /-- Tracks a block of the setup's own making. -/
  | track (bytes : Bytes)
  | release
  deriving DecidableEq, Repr

/-- What a tracker does right before its first use. -/
structure Setup where
  name : String
  steps : List SetupStep
  deriving DecidableEq, Repr

namespace Setup

/-- Binds the manager of the system. -/
def bindSystem : Setup :=
  ⟨"system", [.bind (some .system)]⟩

/-- Sets the heap flag. -/
def markHeap : Setup :=
  ⟨"heap", [.mark true]⟩

/-- Allocates a copy of some bytes. -/
def preallocate (bytes : Bytes) : Setup :=
  ⟨"prealloc", [.copy bytes]⟩

end Setup

/-- How a type's own hook was asked for help. -/
inductive HookUse where
  | construct
  | free
  | duplicate (recursive : Bool)
  deriving DecidableEq, Repr

/-- How much a log record matters. -/
inductive LogLevel where
  | trace
  | debug
  | warn
  deriving DecidableEq, Repr

def LogLevel.name : LogLevel → String
  | trace => "trace"
  | debug => "debug"
  | warn => "warn"

/-- What is written to the log. -/
inductive LogRecord where
  | incompleteManager
  | wrongLength (got want : Nat)
  | stillBorrowed
  | released (count : Nat)
  | droppedLive (count : Nat)
  | defaultManagerKept
  | fieldFailed (type field : String) (tracked : Nat)
  | constructionFailed (type : String) (error : BuildError)
  | typeReplaced (name : String)
  | baseNotStruct (type base : String)
  deriving DecidableEq, Repr

namespace LogRecord

def level : LogRecord → LogLevel
  | incompleteManager | released _ => .trace
  | wrongLength .. | stillBorrowed | baseNotStruct .. => .warn
  | droppedLive _ | defaultManagerKept | fieldFailed .. | constructionFailed .. | typeReplaced _ =>
    .debug

/-- The wording of a record. -/
def message : LogRecord → String
  | incompleteManager => "[memory] manager lacks malloc/free, using system allocator"
  | wrongLength got want =>
    "[tracker] manager returned " ++ toString got ++ " bytes for a " ++ toString want ++
      " byte request"
  | stillBorrowed => "[tracker] buffer still borrowed at release, deferring to borrower"
  | released count => "[tracker] released " ++ toString count ++ " buffer(s)"
  | droppedLive count =>
    "[tracker] dropped with " ++ toString count ++ " live buffer(s), releasing"
  | defaultManagerKept => "[config] default memory manager already set, ignoring"
  | fieldFailed type field tracked =>
    "[template] " ++ type ++ "." ++ field ++ " failed, releasing " ++ toString tracked ++
      " tracked buffer(s)"
  | constructionFailed type error => "[types] init of " ++ type ++ " failed: " ++ error.message
  | typeReplaced name => "[registry] replaced type " ++ name
  | baseNotStruct type base =>
    "[builder] " ++ type ++ " extends non-struct " ++ base ++
      ", only the subtype relation is kept"

end LogRecord

/-- Something that happened. A request records the operations it was put to, whether it was served
and the block handed out. -/
inductive Event where
  | malloc (service : Service) (size : Nat) (served : Bool) (got : Option Block)
  | calloc (service : Service) (count size : Nat) (served : Bool) (got : Option Block)
  | realloc (service : Service) (old : Block) (size : Nat) (served : Bool) (got : Option Block)
  | free (service : Service) (block : Block)
  | hook (type : TypeId) (use : HookUse)
  | setup (kind : Setup)
  | log (record : LogRecord)
  deriving DecidableEq, Repr

end Metaobject
