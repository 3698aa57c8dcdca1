import Sparql.Build.Clauses
import Sparql.Build.Patterns
import Sparql.Pattern.Triples
import Sparql.Query.Bindable
import Sparql.Query.Deferred

/-!
Bringing a query into the shape that the engine takes, once its clauses are set: the subqueries
first, then the calls of its functions, and at last the form of its result.
-/

namespace Sparql

def Expr.visited : Expr → Expr
  | var v => var { v with visited := true }
  | e => e

namespace Build

/-! ## Subqueries -/

/-- Normalize the subqueries among patterns in order, each with the functions around it, up to the
first that fails. -/
def normalizePatterns (normalizeSub : Build Unit) (outer : List (String × Definition)) :
    List (Pattern Query) → List (Pattern Query) × Option Failure
  | [] => ([], none)
  | .subquery sub :: rest =>
    match normalizeSub.run { sub with functions := sub.functions.inherit outer } with
    | .ok _ sub =>
      let (rest, failure) := normalizePatterns normalizeSub outer rest
      (.subquery sub :: rest, failure)
    | .error failure sub => (.subquery sub :: rest, some failure)
  | p :: rest =>
    let (rest, failure) := normalizePatterns normalizeSub outer rest
    (p :: rest, failure)

/-- An error that a strict subquery does not allow is reported here too. -/
def normalizeSubqueries (normalizeSub : Build Unit) : Build Unit := do
  let query ← get
  let (patterns, failure) :=
    normalizePatterns normalizeSub query.functions.definitions query.arena.patterns
  set { query with arena := ⟨patterns⟩ }
  match failure with
  | none => return
  | some (.strict diagnostic) =>
    report diagnostic
    throw (.strict diagnostic)
  | some failure => throw failure

/-! ## Templates -/

def templateOf (root : PatternId) : Build PatternId := do
  group (← inspect (·.triplesBelow root))

/-- Without a template, results are made from the one for insertion, or else from the triples of
the body. -/
def normalizeConstruct : Build Unit := do
  let clauses := (← get).clauses
  match clauses.construct, clauses.insert, clauses.body with
  | some _, _, _ => return
  | none, some insert, _ => modifyClauses fun clauses => { clauses with construct := some insert }
  | none, none, some body =>
    let template ← templateOf body
    modifyClauses fun clauses => { clauses with construct := some template }
  | none, none, none => return

/-- Without a template, the triples of the body are deleted. -/
def normalizeDelete : Build Unit := do
  let clauses := (← get).clauses
  match clauses.delete, clauses.body with
  | none, some body =>
    let template ← templateOf body
    modifyClauses fun clauses => { clauses with delete := some template }
  | _, _ => return

def normalizeUpdate : Build Unit :=
  modifyClauses fun clauses => { clauses with construct := clauses.construct.or clauses.insert }

/-! ## Descriptions

A described term gets all of its triples, in either direction, by an optional union added to the
body. The unions are the template of the result. -/

/-- Describe and project what the body can bind, where all of it is asked for. -/
def describeAll (bound : List Variable) : Build Unit := do
  if (← get).clauses.describe.isEmpty then
    modifyClauses fun clauses => { clauses with describe := bound.map .var }
  bound.forM fun v => select v none

/-- The described terms. A variable is described only if it is projected. -/
def described (clauses : Clauses) : List Expr :=
  clauses.describe.filter fun term => term.asVariable?.all (·.occursIn clauses.selected)

/-- The triples of a term in either direction: their union, and that union as an optional part. -/
def description (term : Expr) : Build (PatternId × PatternId) := do
  let p ← freshVariable
  let v ← freshVariable
  let p' ← freshVariable
  let v' ← freshVariable
  let outgoing ← triple term { node := .var p } (.var v)
  let incoming ← triple (.var v') { node := .var p' } term
  let either ← union (← group [outgoing]) (← group [incoming])
  return (either, ← optional either)

/-- The parts of the body, which is a part of its own unless it is a group. -/
def bodyParts : Build (List PatternId) := do
  match (← get).clauses.body with
  | none => return []
  | some body =>
    match ← pattern body with
    | .group children => return children
    | _ => return [body]

def normalizeDescribe : Build Unit := do
  let bound ← bodyVariables
  if (← get).clauses.selectAll then describeAll bound
  let descriptions ← (described (← get).clauses).mapM description
  modifyClauses fun clauses => { clauses with describe := clauses.describe.map Expr.visited }
  let body ← group ((← bodyParts) ++ descriptions.map (·.2))
  modifyClauses fun clauses => { clauses with body := some body }
  let template ← group (descriptions.map (·.1))
  modifyClauses fun clauses => { clauses with construct := some template }

/-! ## Queries -/

def normalizeForm : Build Unit := do
  match (← get).clauses.form with
  | .select => return
  | .ask => modifyClauses fun clauses => { clauses with limit := 1 }
  | .construct => normalizeConstruct
  | .describe => normalizeDescribe
  | .delete => normalizeDelete
  | .update => normalizeUpdate

def normalizeWith (normalizeSub : Build Unit) : Build Unit := do
  if (← get).normalized then return
  normalizeSubqueries normalizeSub
  settleCalls
  normalizeForm
  modify fun query => { query with normalized := true }

/-- Normalize a query with subqueries down to a level. At level zero there are none. -/
def normalizeAt : (level : Nat) → Build Unit
  | 0 => normalizeWith (return)
  | level + 1 => normalizeWith (normalizeAt level)

def normalize : Build Unit := do normalizeAt (← get).level

end Build

end Sparql
