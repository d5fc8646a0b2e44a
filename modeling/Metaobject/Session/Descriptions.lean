import Metaobject.Description.Value
import Metaobject.Session.Comparisons
import Metaobject.Session.Storage
import Metaobject.Session.Values

/-!
# Steps that describe

A step can ask for the description of anything that has a name, and of temporary values and
templates.
-/

namespace Metaobject

/-- What is to be described. -/
inductive Subject where
  | type (name : String)
  | layout (type : String)
  | manager (m : Option ManagerRef)
  | value (v : Operand)
  /-- The comparer of typed values within a context. -/
  | comparer (c : ContextExpr)
  | tracker (t : TrackerRef)
  | buffer (b : Expr)
  | block (name : String)
  | template (c : TemplateExpr)
  | scalar (kind : ScalarKind)

namespace Step

def describe : Subject → Step String
  | .type name => do return (← schema).typeDescription (← typeNamed name)
  | .layout type => do return (← schema).layoutDescriptionOf (← typeNamed type)
  | .manager m => do return Manager.descriptionOf (← managerAt? m)
  | .value v => withValue v fun v => do return (← schema).valueDescription (← heap) v
  | .comparer c => do return (← schema).comparerDescription (← context c)
  | .tracker t => do return (← trackerAt t).description (← heap)
  | .buffer b => do return (← handleOf b).description
  | .block name => do
    return Description.optional (((← get).blocks.lookup name).map (·.description))
  | .template c => withTemplate c fun template => do
    return (← schema).templateDescription (← template)
  | .scalar kind => return kind.description

end Step

end Metaobject
