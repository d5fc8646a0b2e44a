import Metaobject.Description.Form
import Metaobject.Template
import Metaobject.Universe.Typing

/-!
# Descriptions of types, values and storage

A type is described with the chain of its bases, an object with its type. Hooks, default checks and
canonical instances are only told to be there or not, and buffer handles hide what they lead to.
-/

namespace Metaobject

open Description

/-! ### Storage -/

/-- A block by its bytes. -/
def Block.description (b : Block) : String :=
  record "Block" [("data", list (b.bytes.map fun x => number x.toNat))]

/-- A manager by the operations that it has. -/
def Manager.description (m : Manager) : String :=
  record "MemoryManager"
    [("malloc", flag m.malloc.isSome), ("free", flag m.free.isSome),
      ("calloc", flag m.calloc.isSome), ("realloc", flag m.realloc.isSome),
      ("state_size", number m.state.size)]

/-- A manager that may be absent. -/
def Manager.descriptionOf (m : Option Manager) : String :=
  optional (m.map (·.description))

/-- A handle, which does not show where it leads. -/
def Handle.description (_ref : Handle) : String :=
  call "BufferRef" ["(Weak)"]

/-- A tracked buffer. -/
def Heap.cellDescription (h : Heap) (b : BufferId) : String :=
  let c := h.cell? (.to b)
  record "Tracked"
    [("block", optional (c.map (·.block.description))),
      ("manager", Manager.descriptionOf (c.bind (·.manager)))]

/-- A tracker with what it lists. -/
def Tracker.description (t : Tracker) (h : Heap) : String :=
  record "MemoryTracker"
    [("manager", Manager.descriptionOf t.manager), ("heap_allocated", flag t.onHeap),
      ("buffers", list (t.buffers.map h.cellDescription)),
      ("needs_init", optional (t.setup.map fun _ => "setup"))]

/-! ### Parts of values -/

/-- A kind by its name, with a capital letter. -/
def ScalarKind.description (k : ScalarKind) : String :=
  k.name.capitalize

/-- A scalar with its kind. -/
def Scalar.description (s : Scalar) : String :=
  call s.kind.description
    [match s with
      | .bool b => flag b
      | .char c => Quoted.char c
      | .int k w => toString (k.value w)
      | .float k w => Description.float k w]

/-- A reference by its address. -/
def RefKind.description (k : RefKind) (address : UInt64) : String :=
  call (match k with
    | .object => "ObjectRef"
    | .function => "FunctionRef") [call "Identity" [toString address]]

/-! ### Types -/

namespace Universe

/-- A field with its declared type, and without its check. -/
def fieldDescription (u : Universe) (f : Field) : String :=
  record "FieldDescriptor"
    [("name", Quoted.text f.name), ("index", number f.index), ("size", number f.size),
      ("ty", optional (f.type.map fun t => Quoted.text (u.name t))), ("recurse", flag f.recurse),
      ("custom_default", flag f.check.isSome)]

/-- A layout, the base being described already. -/
def layoutDescription (u : Universe) (l : Layout) (base : Option String) : String :=
  record "StructDescriptor"
    [("fields", list (l.fields.map u.fieldDescription)), ("own", number l.own),
      ("base", optional base), ("tracked", flag l.tracked)]

/-- A kind of types, the base of a struct being described already. -/
def kindDescription (u : Universe) (base : Option String) : TypeKind → String
  | .scalar k => call "Scalar" [k.description]
  | .struct l => call "Struct" [u.layoutDescription l base]
  | .bytes => "Bytes"
  | .reference k => record "Identity" [("function", flag (k = .function))]
  | .descriptor => "Type"
  | .blackBox size => record "Opaque" [("size", number size)]

/-- A type with the chain of its bases. -/
def typeDescription (u : Universe) (t : TypeId) : String :=
  let d := u.desc t
  let base :=
    match _h : u.base? t with
    | some b => some (u.typeDescription b)
    | none => none
  record "TypeDescriptor"
    [("name", Quoted.text d.name), ("parity", Quoted.text d.parity),
      ("kind", u.kindDescription base d.kind), ("has_default", flag d.canonical.isSome),
      ("has_behavior", flag d.behavior.isSome)]
  termination_by t
  decreasing_by exact u.base_lt (by assumption)

/-- The layout of a type, if it has one. -/
def layoutDescriptionOf (u : Universe) (t : TypeId) : String :=
  optional ((u.layout? t).map fun l => u.layoutDescription l (l.base.map u.typeDescription))

/-! ### Values -/

mutual

/-- A value, and what is in its fields. -/
def valueDescription (u : Universe) (h : Heap) : Value → String
  | .null => "Null"
  | .scalar s => s.description
  | .buffer ref => call "Buffer" [ref.description]
  | .object type fields tracker =>
    call "Object" [record "Object"
      [("ty", u.typeDescription type), ("fields", list (u.valueDescriptions h fields)),
        ("tracker", optional (tracker.map (·.description h)))]]
  | .reference k address => k.description address
  | .descriptor t => call "Type" [u.typeDescription t]

/-- The same for the values of an object. -/
def valueDescriptions (u : Universe) (h : Heap) : List Value → List String
  | [] => []
  | v :: vs => u.valueDescription h v :: u.valueDescriptions h vs

end

/-- A template by what it brings with it. -/
def templateDescription (u : Universe) (c : Template) : String :=
  record "TemplateCons"
    [("manager", Manager.descriptionOf c.manager),
      ("initials", optional (c.initials.map fun v => Quoted.text (u.typeName v))),
      ("override_at", flag c.overrideAt.isSome), ("message", flag c.message.isSome)]

/-- A comparer, by what it is bound to. -/
def comparerDescription (u : Universe) (c : Context) : String :=
  partialRecord "Comparer"
    [("ctx", match c with
      | .none => "None"
      | .length n => call "Len" [number n]
      | .ofType t => call "Type" [u.typeDescription t])]

end Universe

end Metaobject
