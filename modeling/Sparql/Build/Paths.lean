import Sparql.Operator.Names
import Sparql.Query.Basic
import Sparql.Text.Blank

/-!
Making property paths.
-/

namespace Sparql.Build

def pathOperator (symbol : String) (operand : Expr) : Build Expr := do
  match Operator.ofPathSymbol? symbol with
  | some operator =>
    if operator = .sequence ∨ operator = .alternative then throw (.unknownPathOperator symbol)
    else return .call { name := symbol, operator } [operand]
  | none => throw (.unknownPathOperator symbol)

/-- A bound that is not written, or is blank, has its default. -/
def bound (text : Option String) (default : Nat) : Except Failure Nat :=
  match Text.trim (text.getD "").toList with
  | [] => .ok default
  | trimmed =>
    match Numeral.count? trimmed with
    | some n => .ok n
    | none => .error (.invalidBound (String.ofList trimmed))

/-- The bounds of a counted repetition. The lower one is read first. -/
def countedBounds (least most : Option String) : Except Failure Path.Bounds := do
  let least ← bound least 0
  let most ← bound most Path.Bounds.unlimited
  if most < least then throw (.invertedBounds least most)
  return .counted least most

example : countedBounds none (some " 5 ") = .ok (.counted 0 5) := rfl

def repeated (least most : Option String) (operand : Expr) : Build Expr :=
  match countedBounds least most with
  | .ok bounds =>
    return .call { name := "\x7b\x7d", operator := .counted, bounds := some bounds } [operand]
  | .error failure => throw failure

/-- Two paths one after the other, or one instead of the other. -/
def pathPair (symbol : String) (left right : Expr) : Build Expr :=
  match symbol with
  | "/" => return .call { name := symbol, operator := .sequence } [left, right]
  | "|" => return .call { name := symbol, operator := .alternative } [left, right]
  | _ => throw (.unknownPathOperator symbol)

/-- The predicate of a path: a made-up variable stands for the path. -/
def pathPredicate (path : Expr) : Build Predicate := do
  let n := (← get).supply.paths
  modify fun query => { query with supply.paths := n + 1 }
  return { node := .var { Variable.ofName s!"_path#{n}" with path := true }, path := some path }

end Sparql.Build
