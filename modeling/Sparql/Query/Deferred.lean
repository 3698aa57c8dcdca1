import Sparql.Build.Calls

/-!
Resolving the calls that waited for a definition. It does not matter whether a function is defined
before or after it is called.
-/

namespace Sparql

/-! ## Calls of defined functions -/

/-- The call as one of a function of the query, if its name is defined. -/
def Call.resolved (defined : String → Bool) (call : Call) : Call :=
  if call.operator = .undefined ∧ defined call.key then { call with operator := .userFunction }
  else call

namespace Expr

mutual
def resolved (defined : String → Bool) : Expr → Expr
  | var v => var v
  | const c => const c
  | call head args => call (head.resolved defined) (resolvedAll defined args)

def resolvedAll (defined : String → Bool) : List Expr → List Expr
  | [] => []
  | e :: rest => e.resolved defined :: resolvedAll defined rest
end

end Expr

/-! ## Everywhere in a query -/

/-- Change the conditions and the bound expressions among patterns. -/
def Pattern.mapValues {Sub : Type} (change : Expr → Expr) : Pattern Sub → Pattern Sub
  | filter condition => filter (change condition)
  | bind value target => bind (change value) target
  | p => p

/-- Change the expressions of the projection and of the solution modifiers. -/
def Clauses.mapValues (change : Expr → Expr) (clauses : Clauses) : Clauses :=
  { clauses with
    select := clauses.select.map fun item => { item with value := item.value.map change }
    groupBy := clauses.groupBy.map change
    having := clauses.having.map change
    orderBy := clauses.orderBy.map fun condition =>
      { condition with key := change condition.key } }

def Functions.mapBodies (change : Expr → Expr) (functions : Functions) : Functions :=
  { functions with
    definitions := functions.definitions.map fun (key, definition) =>
      (key, { definition with body := change definition.body }) }

def Query.mapValues (change : Expr → Expr) (query : Query) : Query :=
  { query with
    arena := ⟨query.arena.patterns.map (Pattern.mapValues change)⟩
    clauses := query.clauses.mapValues change
    functions := query.functions.mapBodies change }

namespace Build

/-- Count the arguments of the calls of one name. A name without a definition is reported, and
stays on record. -/
def settle (functions : Functions) (key : String) (counts : List Nat) : Build Unit := do
  match functions.definition? key with
  | some definition => counts.forM (checkParameters key definition.params.length)
  | none =>
    problem (.undefinedFunction key)
    modify fun query =>
      { query with
        functions.deferred := query.functions.deferred ++ [(key, counts)] }

def settleCalls : Build Unit := do
  let functions := (← get).functions
  if functions.deferred.isEmpty then return
  modify fun query =>
    query.mapValues (Expr.resolved fun key => (functions.definition? key).isSome)
  modify fun query => { query with functions.deferred := [] }
  functions.deferred.forM fun (key, counts) => settle functions key counts

end Build

end Sparql
