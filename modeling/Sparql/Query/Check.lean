import Sparql.Expr.Mentions
import Sparql.Pattern.Triples
import Sparql.Query.Bindable

/-!
Checking the scopes of a query: which variables are bound where, which pattern a blank node belongs
to, what ground data may hold, and what a grouped query may project. Problems are reported, and
only a strict query stops at the first.
-/

namespace Sparql

/-! ## Scopes -/

abbrev Scope := List Variable

/-- Bind a variable. The one that stands for a path is bound by nothing. -/
def Scope.bind (scope : Scope) (v : Variable) : Scope :=
  if v.path then scope else v.addTo scope

def Expr.blankLabel? : Expr → Option String
  | var v => if v.blank then some v.name else none
  | const c => if c.isBlank then some c.text else none
  | call _ _ => none

namespace Triple

/-- The labels of the blank nodes at the ends of a triple. -/
def blankLabels (triple : Triple) : List String :=
  [triple.subject, triple.object].filterMap Expr.blankLabel?

end Triple

namespace Build

/-! ## Blank nodes -/

def isReported (log : Log) (label : String) : Bool :=
  log.entries.any fun entry => entry.code == .blankNodeScope && entry.subject == some label

/-- A label belongs to the first pattern that it is seen in. Inserted data may share labels. -/
def checkBlank (label : String) (owner : PatternId) : Build Unit := do
  let query ← get
  match query.blankOwners.lookup label with
  | none => set { query with blankOwners := query.blankOwners ++ [(label, owner)] }
  | some first =>
    if first = owner ∨ query.clauses.dataUpdate = .insertion ∨ isReported query.log label then
      return
    problem (.blankShared label)

def checkTriple (scope : Scope) (triple : Triple) (owner : PatternId) : Build Scope := do
  triple.blankLabels.forM (checkBlank · owner)
  return triple.vars.foldl Scope.bind scope

def checkCells (scope : Scope) (cells : List PatternId) (owner : PatternId) : Build Scope :=
  cells.foldlM (fun scope id => do checkTriple scope (← inspect (·.triple id)) owner) scope

/-! ## Inline data -/

/-- Every row has as many cells as there are variables. Rows are numbered from one. -/
def checkRows (width : Nat) : (row : Nat) → List (List (Option Expr)) → Build Unit
  | _, [] => return
  | row, cells :: rest => do
    unless cells.length = width do
      problem (.rowWidth row cells.length width)
    checkRows width (row + 1) rest

def checkTable (scope : Scope) (table : InlineData) : Build Scope := do
  checkRows table.vars.length 1 table.rows
  return table.vars.foldl Scope.bind scope

/-! ## Subqueries -/

/-- Check a subquery. Its reports become reports of this query, its blank nodes belong to it as a
whole, and its projection is bound. -/
def checkSubquery (checkSub : Build Bool) (scope : Scope) (id : PatternId) (sub : Query) :
    Build Scope := do
  let replace (sub : Query) : Build Unit :=
    modify fun query => { query with arena := query.arena.set id (.subquery sub) }
  match checkSub.run sub with
  | .error failure sub =>
    replace sub
    throw failure
  | .ok _ sub =>
    replace sub
    sub.log.entries.forM report
    sub.blankLabels.forM (checkBlank · id)
    return sub.clauses.selected.foldl Scope.bind scope

/-! ## Patterns -/

/-- Check a pattern, and give the scope after it. What an optional or excluded pattern, a branch of
a union or a tested pattern binds stays inside of it. -/
def checkPattern (checkSub : Build Bool) :
    (levels : Nat) → (scope : Scope) → PatternId → Build Scope
  | 0, _, _ => throw .cyclicPatterns
  | levels + 1, scope, id => do
    match ← pattern id with
    | .triple t => checkTriple scope t id
    | .group children =>
      children.foldlM (fun scope child => do
        match ← pattern child with
        | .triple t => checkTriple scope t id
        | .collection _ cells => checkCells scope cells id
        | _ => checkPattern checkSub levels scope child) scope
    | .collection _ cells => checkCells scope cells id
    | .union left right =>
      discard (checkPattern checkSub levels scope left)
      discard (checkPattern checkSub levels scope right)
      return scope
    | .optional body | .minus body =>
      discard (checkPattern checkSub levels scope body)
      return scope
    | .filter condition =>
      condition.patterns.forM fun tested => discard (checkPattern checkSub levels scope tested)
      return scope
    | .bind value target =>
      value.patterns.forM fun tested => discard (checkPattern checkSub levels scope tested)
      if target.occursIn scope then
        problem (.targetBound target.text)
      return scope.bind target
    | .values table => checkTable scope table
    | .service endpoint _ body =>
      checkPattern checkSub levels (endpoint.asVariable?.toList.foldl Scope.bind scope) body
    | .graph name body =>
      checkPattern checkSub levels (name.asVariable?.toList.foldl Scope.bind scope) body
    | .subquery sub => checkSubquery checkSub scope id sub

/-- Check a pattern with as many levels as there can be. -/
def checkFrom (checkSub : Build Bool) (scope : Scope) (root : PatternId) : Build Scope := do
  checkPattern checkSub (← get).arena.levels scope root

def checkBody (checkSub : Build Bool) : Build Scope := do
  match (← get).clauses.body with
  | some body => checkFrom checkSub [] body
  | none => return []

/-! ## Ground data -/

def checkGroundNode (dataUpdate : DataUpdate) (context : String) (node : Expr) : Build Unit := do
  if node.isBlank then
    if dataUpdate = .deletion then
      problem (.blankInDeleteData node.text)
  else
    match node.asVariable? with
    | some v => problem (.variableInData v.text context)
    | none => return

/-- The template that holds ground data, and what the data is called. -/
def groundTemplate? (clauses : Clauses) : Option (PatternId × String) :=
  match clauses.dataUpdate with
  | .none => none
  | .insertion => clauses.insert.map (·, "INSERT DATA")
  | .deletion => clauses.delete.map (·, "DELETE DATA")

/-- Data to insert or delete has no variables, and data to delete has no blank nodes. -/
def checkGroundData : Build Unit := do
  let clauses := (← get).clauses
  match groundTemplate? clauses with
  | none => return
  | some (template, context) =>
    (← inspect (·.triplesBelow template)).forM fun id => do
      (← inspect (·.triple id)).nodes.forM (checkGroundNode clauses.dataUpdate context)

/-! ## Templates -/

/-- Check the blank nodes of a template. They belong to the group they are in, or else to the
template as a whole. Triples of the body were checked there. -/
def checkTemplate (bodyTriples : List PatternId) :
    (levels : Nat) → (owner : PatternId) → PatternId → Build Unit
  | 0, _, _ => throw .cyclicPatterns
  | levels + 1, owner, id => do
    match ← pattern id with
    | .triple t =>
      unless id ∈ bodyTriples do
        t.blankLabels.forM (checkBlank · owner)
    | p =>
      let owner := if p.isGroup then id else owner
      p.children.forM (checkTemplate bodyTriples levels owner)

def bodyTriples : Build (List PatternId) := do
  match (← get).clauses.body with
  | some body => inspect (·.triplesBelow body)
  | none => return []

def checkTemplates : Build Unit := do
  let bodyTriples ← bodyTriples
  let query ← get
  (query.clauses.insert.toList ++ query.clauses.delete.toList).forM fun template =>
    checkTemplate bodyTriples query.arena.levels template template

/-! ## Projection -/

/-- Check a projected variable, and give the scope after it. -/
def checkItem (checkSub : Build Bool) (bodyVars : List Variable) (scope : Scope)
    (item : Projection) : Build Scope := do
  match item.value with
  | some value =>
    value.patterns.forM fun tested => discard (checkFrom checkSub scope tested)
    if item.target.occursIn scope then
      problem (.selectTargetBound item.target.text)
    return scope.bind item.target
  | none =>
    let isBound := item.target.occursIn bodyVars || item.target.occursIn scope
    unless isBound || (← get).clauses.selectAll do
      problem (.neverBound item.target.text)
    return scope

def projectAll (vars : List Variable) : Build Unit :=
  modifyClauses fun clauses =>
    { clauses with
      select := vars.foldl
        (fun items v =>
          if v.occursIn (items.map (·.target)) then items else items ++ [{ target := v }])
        clauses.select }

/-- Check the table after the body, and give the variables and the scope with those of the table. -/
def checkTrailing (bodyVars : List Variable) (scope : Scope) :
    Build (List Variable × Scope) := do
  match (← get).clauses.values with
  | some table =>
    let scope ← checkTable scope table
    return (table.vars.foldl (fun found v => v.addTo found) bodyVars, scope)
  | none => return (bodyVars, scope)

def checkSelect (checkSub : Build Bool) (scope : Scope) : Build Unit := do
  let (bodyVars, scope) ← checkTrailing (← bodyVariables) scope
  discard ((← get).clauses.select.foldlM (checkItem checkSub bodyVars) scope)
  let clauses := (← get).clauses
  if clauses.selectAll && clauses.form != .describe then
    projectAll bodyVars

/-! ## Grouping -/

/-- The variables that a projection mentions outside of aggregates. -/
def mentioned (items : List Projection) : List Variable :=
  items.foldl
    (fun found item =>
      match item.value with
      | some value => value.addUnaggregated found
      | none => item.target.addTo found) []

/-- A query is grouped if it has a key or projects an aggregate. -/
def isGrouped (clauses : Clauses) : Bool :=
  !clauses.groupBy.isEmpty ||
    (clauses.select.filterMap (·.value)).any Expr.hasAggregate

/-- In a grouped query, only keys are projected outside of aggregates. -/
def checkGrouping : Build Unit := do
  let clauses := (← get).clauses
  if !isGrouped clauses then return
  let keys := clauses.groupBy.filterMap Expr.asVariable?
  ((mentioned clauses.select).filter fun v => !v.occursIn keys).forM fun v =>
    problem (.notGroupKey v.text)

/-! ## Queries -/

def checkWith (checkSub : Build Bool) : Build Bool := do
  if (← get).checked then return (← get).log.correct
  modify fun query => { query with blankOwners := [] }
  let scope ← checkBody checkSub
  checkGroundData
  checkTemplates
  checkSelect checkSub scope
  checkGrouping
  modify fun query => { query with checked := true }
  return (← get).log.correct

/-- Check a query with subqueries down to a level. At level zero there are none. -/
def checkAt : (level : Nat) → Build Bool
  | 0 => checkWith (return true)
  | level + 1 => checkWith (checkAt level)

def check : Build Bool := do checkAt (← get).level

end Build

end Sparql
