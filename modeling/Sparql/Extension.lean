import Sparql.Text.Cut
import Sparql.Vocabulary

/-!
Functions bound outside the query. A call names a member of a library, and a registry holds what
is bound to each.
-/

namespace Sparql.Extension

/-! ## Targets -/

structure Target where
  library : String
  member : String
  deriving DecidableEq, Repr

namespace Target

def text (target : Target) : String := s!"{target.library}.{target.member}"

/-- The target of a name such as `function://path.to.library.member`. Both parts must be there. -/
def ofName? (name : String) : Option Target := do
  let target ← Text.dropStart? Vocabulary.extensions.toList name.toList
  let (library, member) ← Text.cutLast? '.' target
  if library.isEmpty || member.isEmpty then none
  else return ⟨String.ofList library, String.ofList member⟩

example : ofName? "Function://org.Geo.distance" = some ⟨"org.Geo", "distance"⟩ := by decide

example : ofName? "function://.member" = none := by decide

end Target

/-! ## The registry -/

/-- One entry for each target that has something bound to it. -/
structure Registry (α : Type) where
  entries : List (Target × α) := []

namespace Registry

variable {α : Type}

def resolve? (registry : Registry α) (target : Target) : Option α :=
  registry.entries.lookup target

def register (registry : Registry α) (target : Target) (value : α) : Registry α :=
  ⟨(target, value) :: registry.entries.filter (·.1 ≠ target)⟩

def contains (registry : Registry α) (target : Target) : Bool :=
  (registry.resolve? target).isSome

def size (registry : Registry α) : Nat := registry.entries.length

def isEmpty (registry : Registry α) : Bool := registry.entries.isEmpty

end Registry

end Sparql.Extension
