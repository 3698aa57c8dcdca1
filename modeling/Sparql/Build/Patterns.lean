import Sparql.Build.Terms

/-!
Making patterns. The parts that a pattern is made of must be there, except for the children that a
group is made with.
-/

namespace Sparql.Build

/-! ## Triples -/

def problems : List Problem → Build Unit
  | [] => return
  | first :: rest => do
    problem first
    problems rest

def planPath (path : Expr) : Build Path.Plan := do
  let plan := Path.Plan.ofExpr (← get).options.pathSemantics path
  problems (Path.problems path)
  return plan

def triple (subject : Expr) (predicate : Predicate) (object : Expr) : Build PatternId := do
  let path ← predicate.path.mapM planPath
  let number := (← get).supply.triples
  modify fun query => { query with supply.triples := number + 1 }
  let triple : Triple := { number, subject, predicate := predicate.node, object, path }
  let id ← push (.triple triple)
  if (← get).registers.submitting then
    modify fun query => { query with registers := query.registers.submit id triple }
  return id

/-- Say whether the triples made from now on are kept in the registers. -/
def setSubmitting (submitting : Bool) : Build Unit :=
  modify fun query => { query with registers.submitting := submitting }

/-! ## Groups -/

def group (children : List PatternId) : Build PatternId := push (.group children)

def addToGroup (id child : PatternId) : Build Unit := do
  known child
  let children ← inspect (·.group id)
  modify fun query => { query with arena := query.arena.set id (.group (children ++ [child])) }

/-! ## Other patterns -/

def union (left right : PatternId) : Build PatternId := do
  known left
  known right
  push (.union left right)

def optional (body : PatternId) : Build PatternId := do
  known body
  push (.optional body)

def minus (body : PatternId) : Build PatternId := do
  known body
  push (.minus body)

def filter (condition : Expr) : Build PatternId := push (.filter condition)

def bind (value : Expr) (target : Variable) : Build PatternId := push (.bind value target)

def values (table : InlineData) : Build PatternId := push (.values table)

def service (endpoint : Expr) (silent : Bool) (body : PatternId) : Build PatternId := do
  known body
  push (.service endpoint silent body)

def graph (name : Expr) (body : PatternId) : Build PatternId := do
  known body
  push (.graph name body)

def subquery (sub : Query) : Build PatternId := push (.subquery sub)

/-! ## Collections

The cells of a collection are blank nodes, each with its item and the cell that comes next. The
last one is followed by `rdf:nil`. -/

def nil : Expr := .const (.iri Vocabulary.rdfNil)

def cell (node item next : Expr) : Build (List PatternId) := do
  let first ← triple node { node := .const (.iri Vocabulary.rdfFirst) } item
  let rest ← triple node { node := .const (.iri Vocabulary.rdfRest) } next
  return [first, rest]

def cells : List (Expr × Expr) → Build (List PatternId)
  | [] => return []
  | (node, item) :: rest => do
    let first ← cell node item ((rest.head?.map (·.1)).getD nil)
    return first ++ (← cells rest)

def collection (items : List Expr) : Build PatternId := do
  let nodes ← items.mapM fun _ => return Expr.var (← blank none)
  let ids ← cells (nodes.zip items)
  push (.collection (nodes.head?.getD nil) ids)

def collectionHead (id : PatternId) : Build Expr := do
  match ← pattern id with
  | .collection head _ => return head
  | _ => throw (.wrongKind id .collection)

end Sparql.Build
