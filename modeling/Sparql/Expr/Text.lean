import Sparql.Expr.Basic

/-!
The text of an expression, as messages show it.
-/

namespace Sparql

/-- The symbol of an operator written between its two operands. -/
def Operator.symbol? : Operator → Option String
  | .and => some "&&"
  | .or => some "||"
  | .eq => some "="
  | .ne => some "!="
  | .lt => some "<"
  | .le => some "<="
  | .gt => some ">"
  | .ge => some ">="
  | .add => some "+"
  | .sub => some "-"
  | .mul => some "*"
  | .div => some "/"
  | _ => none

namespace Call

def applied (call : Call) (args : List String) : String :=
  call.name ++ "(" ++ (if call.distinct then "distinct " else "") ++ ", ".intercalate args ++ ")"

/-- The text of a call, given the texts of its arguments. -/
def text (call : Call) (args : List String) : String :=
  match call.operator, args with
  | .star, [step] | .plus, [step] | .zeroOrOne, [step] | .counted, [step] =>
    step ++ (call.bounds.map (·.text)).getD ""
  | .sequence, args => "(" ++ "/".intercalate args ++ ")"
  | .alternative, args => "(" ++ "|".intercalate args ++ ")"
  | .inverse, [step] => "^" ++ step
  | .negation, [step] => "!" ++ step
  | .not, [operand] => "!" ++ operand
  | .sub, [operand] => "-" ++ operand
  | .patternExists, _ | .patternAbsent, _ =>
    match call.pattern with
    | some id => s!"{call.name} \x7b #{id} \x7d"
    | none => call.name
  | .count, [] => if call.distinct then "count(distinct *)" else "count(*)"
  | .cast, value :: _ => s!"<{call.name}>({value})"
  | operator, args =>
    match operator.symbol?, args with
    | some symbol, [left, right] => s!"({left} {symbol} {right})"
    | _, _ => call.applied args

end Call

namespace Expr

mutual
def text : Expr → String
  | var v => v.text
  | const c => c.text
  | call head args => head.text (texts args)

def texts : List Expr → List String
  | [] => []
  | e :: rest => e.text :: texts rest
end

example :
    (call { name := "+", operator := .add } [var (.ofName "x"), var (.ofName "y")]).text =
      "(?x + ?y)" := by decide

end Expr

end Sparql
