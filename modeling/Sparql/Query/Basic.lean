import Sparql.Namespaces
import Sparql.Options
import Sparql.Pattern.Arena
import Sparql.Regex.Reader

/-!
Queries: their clauses, their patterns, what is known of them so far, and the reports about them.
-/

namespace Sparql

/-! ## Clauses -/

inductive QueryForm where
  | select | ask | construct | describe | delete | update
  deriving DecidableEq, Repr

def QueryForm.text : QueryForm → String
  | select => "SELECT"
  | ask => "ASK"
  | construct => "CONSTRUCT"
  | describe => "DESCRIBE"
  | delete => "DELETE"
  | update => "UPDATE"

inductive DataUpdate where
  | none | insertion | deletion
  deriving DecidableEq, Repr

/-- A projected variable, and the expression bound to it. -/
structure Projection where
  target : Variable
  value : Option Expr := none

structure SortKey where
  key : Expr
  descending : Bool

def unlimitedResults : Nat := 18446744073709551615

structure Clauses where
  form : QueryForm := .select
  dataUpdate : DataUpdate := .none
  body : Option PatternId := none
  construct : Option PatternId := none
  insert : Option PatternId := none
  delete : Option PatternId := none
  select : List Projection := []
  selectAll : Bool := false
  distinct : Bool := false
  reduced : Bool := false
  groupBy : List Expr := []
  having : List Expr := []
  orderBy : List SortKey := []
  limit : Nat := unlimitedResults
  offset : Nat := 0
  describe : List Expr := []
  values : Option InlineData := none

namespace Clauses

def selected (clauses : Clauses) : List Variable := clauses.select.map (·.target)

def selectedValue? (clauses : Clauses) (v : Variable) : Option Expr :=
  (clauses.select.find? (·.target.same v)).bind (·.value)

end Clauses

/-! ## Functions -/

structure Definition where
  name : String
  params : List Variable
  body : Expr

/-- The functions that a query defines, and the calls that wait for a definition. -/
structure Functions where
  definitions : List (String × Definition) := []
  /-- The counts of arguments that each undefined name was called with, by name. -/
  deferred : List (String × List Nat) := []

namespace Functions

def definition? (functions : Functions) (key : String) : Option Definition :=
  functions.definitions.lookup key

/-- Define a function, in place of what its name meant before. -/
def define (functions : Functions) (definition : Definition) : Functions :=
  { functions with
    definitions := (definition.name, definition) ::
      functions.definitions.filter (·.1 ≠ definition.name) }

/-- Add a call to the counts of its name. Names are kept in the order of their characters. -/
def addCall (key : String) (count : Nat) :
    List (String × List Nat) → List (String × List Nat)
  | [] => [(key, [count])]
  | (other, counts) :: rest =>
    if key = other then (other, counts ++ [count]) :: rest
    else if key < other then (key, [count]) :: (other, counts) :: rest
    else (other, counts) :: addCall key count rest

def defer (functions : Functions) (key : String) (count : Nat) : Functions :=
  { functions with deferred := addCall key count functions.deferred }

def undefinedNames (functions : Functions) : List String := functions.deferred.map (·.1)

/-- Take over the definitions of names that are not defined here. -/
def inherit (functions : Functions) (outer : List (String × Definition)) : Functions :=
  { functions with
    definitions := functions.definitions ++
      outer.filter fun (key, _) => (functions.definition? key).isNone }

end Functions

/-! ## Reports -/

/-- The reports about a query, in order, and whether none of them is an error. -/
structure Log where
  entries : List Diagnostic := []
  correct : Bool := true

namespace Log

def add (log : Log) (diagnostic : Diagnostic) : Log :=
  { entries := log.entries ++ [diagnostic]
    correct := log.correct && !diagnostic.isError }

def warnings (log : Log) : List Diagnostic := log.entries.filter (·.isWarning)

end Log

/-! ## Queries -/

/-- How many names of each kind have been made up, and how many triples there are. -/
structure Supply where
  blanks : Nat := 0
  vars : Nat := 0
  paths : Nat := 0
  triples : Nat := 0

/-- The triples that were submitted when they were made, and the predicates among them. -/
structure Registers where
  submitting : Bool := true
  triples : List PatternId := []
  paths : List PatternId := []
  predicates : List Constant := []

namespace Registers

/-- Keep a triple in the registers, and with it either its path or its constant predicate. -/
def submit (registers : Registers) (id : PatternId) (triple : Triple) : Registers :=
  let registers := { registers with triples := registers.triples ++ [id] }
  if triple.isPath then { registers with paths := registers.paths ++ [id] }
  else
    match triple.predicate.asConstant? with
    | some c =>
      if c ∈ registers.predicates then registers
      else { registers with predicates := registers.predicates ++ [c] }
    | none => registers

end Registers

/-- The order in which a table of labels lists them, given the order in which they were added. It
may be any order; a copy of the table lists them in the same one. -/
structure LabelOrder where
  arrange : List String → List String
  perm : ∀ labels, (arrange labels).Perm labels

def LabelOrder.asAdded : LabelOrder := ⟨id, .refl⟩

structure Query where
  arena : Arena Query := {}
  clauses : Clauses := {}
  functions : Functions := {}
  log : Log := {}
  supply : Supply := {}
  registers : Registers := {}
  options : Options := {}
  namespaces : Namespaces := .declared .standard
  library : Regex.Library := .bundled
  /-- The pattern that each blank label was first seen in. -/
  blankOwners : List (String × PatternId) := []
  labelOrder : LabelOrder := .asAdded
  normalized : Bool := false
  checked : Bool := false

namespace Query

/-- An empty query to be nested in this one. Its table of labels has an order of its own. -/
def nested (query : Query) (labelOrder : LabelOrder := .asAdded) : Query :=
  { options := query.options
    namespaces := query.namespaces
    library := query.library
    labelOrder }

/-- The labels of the blank nodes, as their table lists them. -/
def blankLabels (query : Query) : List String :=
  query.labelOrder.arrange (query.blankOwners.map (·.1))

theorem mem_blankLabels {query : Query} {label : String} :
    label ∈ query.blankLabels ↔ label ∈ query.blankOwners.map (·.1) :=
  (query.labelOrder.perm _).mem_iff

/-- Whether the results are made from the construct template. -/
def buildsGraph (query : Query) : Bool :=
  match query.clauses.form with
  | .construct => true
  | .describe => query.normalized && query.clauses.construct.isSome
  | _ => false

end Query

/-! Queries nest: the level of a query is the depth of the subqueries in it. -/

mutual
def Query.level : Query → Nat
  | ⟨arena, _, _, _, _, _, _, _, _, _, _, _, _⟩ => arena.subqueryLevel

def Arena.subqueryLevel : Arena Query → Nat
  | ⟨patterns⟩ => subqueryLevels patterns

def subqueryLevels : List (Pattern Query) → Nat
  | [] => 0
  | p :: rest => max p.subqueryLevel (subqueryLevels rest)

def Pattern.subqueryLevel : Pattern Query → Nat
  | .subquery sub => sub.level + 1
  | _ => 0
end

theorem Query.level_eq (query : Query) :
    query.level = subqueryLevels query.arena.patterns := by
  obtain ⟨⟨_⟩⟩ := query
  simp only [Query.level, Arena.subqueryLevel]

/-! ## Building

An operation on a query may fail. What it did before failing stays done, so that the reports that
led to a failure can be read. -/

abbrev Build := EStateM Failure Query

namespace Build

def report (diagnostic : Diagnostic) : Build Unit := do
  modify fun query => { query with log := query.log.add diagnostic }
  if diagnostic.isError && (← get).options.strict then throw (.strict diagnostic)

def problem (problem : Problem) : Build Unit := report problem.toDiagnostic

def inspect {α : Type} (look : Arena Query → Except Failure α) : Build α := do
  match look (← get).arena with
  | .ok value => return value
  | .error failure => throw failure

def pattern (id : PatternId) : Build (Pattern Query) := inspect (·.get id)

def known (id : PatternId) : Build Unit := discard (pattern id)

def push (p : Pattern Query) : Build PatternId := do
  let id := (← get).arena.size
  modify fun query => { query with arena := query.arena.push p }
  return id

def modifyClauses (change : Clauses → Clauses) : Build Unit :=
  modify fun query => { query with clauses := change query.clauses }

end Build

end Sparql
