import Sparql.Diagnostic.Problem
import Sparql.Expr.Text
import Sparql.Options

/-!
Property paths as the engine takes them: the modifiers around a path are peeled off into a mode,
every repetition inside it gets its bounds, and each step is checked.
-/

namespace Sparql.Path

/-! ## Modifiers -/

/-- What is gathered of the modifiers that are peeled off a path. -/
structure Peeling where
  mode : String := ""
  inverse : Bool := false
  distinct : Bool := false

namespace Peeling

def note (peeling : Peeling) (letters : String) : Peeling :=
  { peeling with mode := peeling.mode ++ letters }

def take (peeling : Peeling) : Operator → Peeling
  | .inverse => { peeling.note "i" with inverse := !peeling.inverse }
  | .short => peeling.note "s"
  | .shortAll => peeling.note "sa"
  | .all => peeling.note "a"
  | .depthFirst => peeling.note "d"
  | .breadthFirst => peeling.note "b"
  | .distinctPaths => { peeling with distinct := true }
  | _ => peeling

end Peeling

/-- Peel the modifiers off a path, from the outermost on, down to its core. A modifier has exactly
one operand. -/
def strip (peeling : Peeling) : Expr → Peeling × Expr
  | .call head [operand] =>
    if head.operator.isPathModifier then strip (peeling.take head.operator) operand
    else (peeling, .call head [operand])
  | e => (peeling, e)

/-! ## Repetitions -/

def boundsOf? : Operator → Option Bounds
  | .star => some .star
  | .plus => some .plus
  | .zeroOrOne => some .zeroOrOne
  | _ => none

/-- The call with the bounds of its operator, unless it has bounds. -/
def withBounds (head : Call) : Call :=
  { head with bounds := head.bounds.or (boundsOf? head.operator) }

mutual
/-- Give every repetition of a path its bounds. Arguments of other calls are no steps. -/
def bounded : Expr → Expr
  | .call head args =>
    if head.isPath then .call (withBounds head) (boundedAll args) else .call head args
  | e => e

def boundedAll : List Expr → List Expr
  | [] => []
  | e :: rest => bounded e :: boundedAll rest
end

/-! ## Steps -/

mutual
/-- The steps that are neither IRIs nor variables, left to right. -/
def faults : Expr → List Problem
  | .var _ => []
  | .const c => if c.isIri then [] else [.constantAsPathStep c.text]
  | .call head args => if head.isPath then faultsOf args else [.callAsPathStep head.name]

def faultsOf : List Expr → List Problem
  | [] => []
  | e :: rest => faults e ++ faultsOf rest
end

/-! ## Plans -/

structure Plan where
  core : Expr
  mode : String
  bounds : Bounds
  distinct : Bool

namespace Plan

def isInverse (plan : Plan) : Bool := 'i' ∈ plan.mode.toList

def isShort (plan : Plan) : Bool := 's' ∈ plan.mode.toList

def inverted (e : Expr) : Expr := .call { name := "^", operator := .inverse } [e]

/-- Inverses that do not cancel each other turn the core around, where paths are evaluated by
algebra. The bounds are those of the core before that. -/
def ofExpr (semantics : PathSemantics) (e : Expr) : Plan :=
  let (peeling, core) := strip {} e
  let core := bounded core
  { core := if peeling.inverse && semantics == .algebra then inverted core else core
    mode := peeling.mode
    bounds := core.bounds?.getD .once
    distinct := peeling.distinct }

end Plan

def problems (e : Expr) : List Problem := faults (strip {} e).2

end Sparql.Path
