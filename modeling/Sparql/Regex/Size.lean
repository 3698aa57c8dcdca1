import Sparql.Regex.Layout.Set
import Sparql.Regex.Layout.Texts
import Sparql.Regex.Reduced

/-!
The size of the automaton that searches for an expression. It is laid out twice, once for each
direction of reading, and an expression fits when both layouts stay within the limit.
-/

namespace Sparql.Regex

namespace Layout

/-! ## Parts -/

def inTurn (direction : Direction) (first rest : Layout Ending) : Layout Ending := do
  match direction with
  | .forward =>
    leave (← first)
    rest
  | .backward =>
    leave (← rest)
    first

/-- A group has a state on each side, which records a place of the text. Nothing is recorded
backwards. -/
def group (direction : Direction) (body : Layout Ending) : Layout Ending :=
  match direction with
  | .forward => do
    add { states := 1 }
    let ending ← body
    add { states := 1 }
    leave ending
    return .plain
  | .backward => body

/-- A branch to be laid out, with its text when it is a literal. -/
structure Branch where
  layout : Layout Ending
  text? : Option (List Char) := none

/-- Two or more branches leave from a fork, and meet in a last state. -/
def branches (direction : Direction) : List Branch → Layout Ending
  | [] => plain { states := 2 }
  | [branch] => branch.layout
  | first :: second :: others =>
    match (first :: second :: others).mapM Branch.text? with
    | some literals => texts direction literals
    | none => do
      let firstEnding ← first.layout
      let secondEnding ← second.layout
      add { states := 2, edges := 8 }
      leave firstEnding
      leave secondEnding
      others.forM fun branch => do
        let ending ← branch.layout
        add { edges := 4 }
        leave ending
      return .plain

/-! ## Loops -/

/-- A loop without a limit goes back by a fork. Around a body that may match nothing, another fork
passes the whole loop by. -/
def unlimited (body : Layout Ending) (consumes : Bool) (least : Nat) : Layout Ending := do
  if least = 0 && consumes then
    add { states := 1, edges := 4 }
    leave (← body)
    return .fork
  else if least = 0 then
    let ending ← body
    add { states := 3, edges := 16 }
    leave ending
    return .plain
  else
    let ending ← copies body least
    add { states := 1, edges := 4 }
    leave ending
    return .fork

/-- Each turn past the least number begins with a fork to the end. -/
def limited (body : Layout Ending) (least most : Nat) : Layout Ending := do
  if least = 0 && most = 1 then
    add { states := 1, edges := 8 }
    let ending ← body
    add { states := 1 }
    leave ending
    return .plain
  else
    let ending ← copies body least
    if least = most then return ending
    add { states := 1 }
    let turn (ending : Ending) : Layout Ending := do
      leave ending
      add { states := 1, edges := 8 }
      body
    leave (← iterate turn (most - least) ending)
    return .plain

end Layout

namespace Reduced

/-! ## Expressions -/

/-- The branches of an expression, ready to be laid out. -/
def branchLayouts (direction : Direction) : Reduced → List Layout.Branch
  | empty | assertion _ => [{ layout := .plain { states := 1 } }]
  | literal chars =>
    [{ layout := .plain { states := (Layout.encoded chars).length }, text? := some chars }]
  | set ranges => [{ layout := .set direction ranges }]
  | group body =>
    [{ layout := .group direction (.branches direction (body.branchLayouts direction)) }]
  | seq first rest =>
    let first := .branches direction (first.branchLayouts direction)
    let rest := .branches direction (rest.branchLayouts direction)
    [{ layout := .inTurn direction first rest }]
  | alt first rest => first.branchLayouts direction ++ rest.branchLayouts direction
  | loop least most body =>
    let body' := .branches direction (body.branchLayouts direction)
    match most with
    | none => [{ layout := .unlimited body' body.consumes least }]
    | some most => [{ layout := .limited body' least most }]

/-- The whole automaton. A search may begin anywhere, unless every match begins where the text does
in the direction of reading; a whole match is a group of its own. -/
def layout (direction : Direction) (regex : Reduced) : Layout Unit := do
  let anchored :=
    match direction with
    | .forward => regex.startsText
    | .backward => regex.endsText
  Layout.add (if anchored then { states := 1 } else { states := 3, edges := 16 })
  let ending ← Layout.branches direction (regex.group.branchLayouts direction)
  Layout.add { states := 1 }
  Layout.leave ending

example : ((literal ['a']).layout .forward).run {} =
    some ((), { states := 7, edges := 16 }) := by
  decide

def fits (direction : Direction) (regex : Reduced) : Bool :=
  ((regex.layout direction).run {}).isSome

end Reduced

/-- Whether an expression can be searched for in both directions within the limit. -/
def fits (regex : Regex) : Bool :=
  let reduced := regex.reduced
  reduced.fits .backward && reduced.fits .forward

end Sparql.Regex
