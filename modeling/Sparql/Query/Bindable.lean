import Sparql.Query.Basic

/-!
The variables that matching a pattern can bind, in the order in which they are first seen.
-/

namespace Sparql

/-- Blank nodes and the variables of paths are not seen from outside. -/
def Variable.addVisible (found : List Variable) (v : Variable) : List Variable :=
  if v.blank || v.path then found else v.addTo found

namespace Arena

/-- Add what a pattern can bind. Conditions and excluded patterns bind nothing, and of a subquery
only the projection is seen. -/
def addBindable (arena : Arena Query) :
    (levels : Nat) → (found : List Variable) → PatternId → Except Failure (List Variable)
  | 0, _, _ => .error .cyclicPatterns
  | levels + 1, found, id => do
    match ← arena.get id with
    | .triple t => return t.vars.foldl Variable.addVisible found
    | .bind _ target => return Variable.addVisible found target
    | .values table => return table.vars.foldl Variable.addVisible found
    | .graph name body =>
      addBindable arena levels (name.asVariable?.toList.foldl Variable.addVisible found) body
    | .subquery sub => return sub.clauses.selected.foldl Variable.addVisible found
    | .minus _ | .filter _ => return found
    | p => p.children.foldlM (addBindable arena levels) found

def bindable (arena : Arena Query) (root : PatternId) : Except Failure (List Variable) :=
  arena.addBindable arena.levels [] root

end Arena

def Build.bodyVariables : Build (List Variable) := do
  match (← get).clauses.body with
  | some body => inspect (·.bindable body)
  | none => return []

end Sparql
