/-!
Laying out an automaton that reads bytes. Only its size is kept: the number of states and the bytes
of their edges. Nothing is laid out past a limit, so that large counts cost no more than others.
-/

namespace Sparql.Regex

/-- An automaton that reads forwards finds where a match ends, and one that reads backwards finds
where it starts. -/
inductive Direction where
  | forward | backward
  deriving DecidableEq, Repr

/-! ## Sizes -/

/-- The states of an automaton, and the bytes of the edges that are kept apart from them. -/
structure Footprint where
  states : Nat := 0
  edges : Nat := 0
  deriving DecidableEq, Repr

namespace Footprint

instance : Add Footprint where
  add left right := ⟨left.states + right.states, left.edges + right.edges⟩

def bytes (footprint : Footprint) : Nat := footprint.states * 32 + footprint.edges

def limit : Nat := 10 * 1024 * 1024

end Footprint

/-! ## Layouts -/

/-- A layout adds to what is laid out already, and fails past the limit. -/
abbrev Layout (α : Type) := StateT Footprint Option α

/-- The state in which a part ends. A fork keeps all its edges apart, and a plain state has a place
for the one edge that leaves it. -/
inductive Ending where
  | plain | fork
  deriving DecidableEq, Repr

namespace Layout

def add (part : Footprint) : Layout Unit := fun before =>
  if (before + part).bytes ≤ Footprint.limit then some ((), before + part) else none

def plain (part : Footprint) : Layout Ending := do
  add part
  return .plain

def leave : Ending → Layout Unit
  | .plain => pure ()
  | .fork => add { edges := 4 }

/-- Repeat a step, which is given where the one before it ended. -/
def iterate (step : Ending → Layout Ending) : Nat → Ending → Layout Ending
  | 0, ending => pure ending
  | n + 1, ending => fun before =>
    match step ending before with
    | some (ending, after) => iterate step n ending after
    | none => none

def copies (body : Layout Ending) : Nat → Layout Ending
  | 0 => plain { states := 1 }
  | n + 1 => do
    let step (ending : Ending) : Layout Ending := do
      leave ending
      body
    iterate step n (← body)

example : (copies (plain { states := 2 }) 5).run {} = some (.plain, { states := 10 }) := rfl

end Layout

end Sparql.Regex
