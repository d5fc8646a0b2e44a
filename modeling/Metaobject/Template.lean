import Metaobject.Text.Message
import Metaobject.Value

/-!
# Templates

A template tells a construction what to use: a manager, a value to start from, the fields for which
that value is binding even where it is a default, and a place for the description of a failure.
-/

namespace Metaobject

/-- What a construction is asked to use. -/
structure Template where
  /-- Takes precedence over the manager of the type. -/
  manager : Option Manager := none
  /-- A value of the same type that supplies fields. -/
  initials : Option Value := none
  /-- Fields that are taken from the initials in any case. -/
  overrideAt : Option (Nat → Bool) := none
  /-- Receives the wording of a failure. -/
  message : Option Message := none

namespace Template

/-- The initials; null stands for none. -/
def initials? (c : Template) : Option Value :=
  c.initials.filter (!·.isNull)

def overrides (c : Template) (index : Nat) : Bool :=
  c.overrideAt.any (· index)

end Template

end Metaobject
