import Sparql.Expr.Basic

/-!
What an expression mentions: variables, aggregates, and the patterns whose existence it tests.
Each collection adds to what was found before, in the order of the text.
-/

namespace Sparql.Expr

mutual
/-- Add the variables of an expression to those found. -/
def addVariables (found : List Variable) : Expr → List Variable
  | var v => v.addTo found
  | const _ => found
  | call _ args => addVariablesOf found args

def addVariablesOf (found : List Variable) : List Expr → List Variable
  | [] => found
  | e :: rest => addVariablesOf (addVariables found e) rest
end

def vars (e : Expr) : List Variable := e.addVariables []

mutual
def hasAggregate : Expr → Bool
  | var _ => false
  | const _ => false
  | call head args => head.isAggregate || anyHasAggregate args

def anyHasAggregate : List Expr → Bool
  | [] => false
  | e :: rest => e.hasAggregate || anyHasAggregate rest
end

mutual
/-- Add the variables that stand outside every aggregate. -/
def addUnaggregated (found : List Variable) : Expr → List Variable
  | var v => v.addTo found
  | const _ => found
  | call head args => if head.isAggregate then found else addUnaggregatedOf found args

def addUnaggregatedOf (found : List Variable) : List Expr → List Variable
  | [] => found
  | e :: rest => addUnaggregatedOf (addUnaggregated found e) rest
end

mutual
/-- The patterns whose existence the expression tests. -/
def patterns : Expr → List Nat
  | var _ => []
  | const _ => []
  | call head args => head.pattern.toList ++ patternsOf args

def patternsOf : List Expr → List Nat
  | [] => []
  | e :: rest => e.patterns ++ patternsOf rest
end

end Sparql.Expr
