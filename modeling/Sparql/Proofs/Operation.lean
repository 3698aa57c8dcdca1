import Sparql.Build.Calls
import Sparql.Build.Clauses
import Sparql.Build.Paths
import Sparql.Build.Patterns
import Sparql.Proofs.Run
import Sparql.Query.Check
import Sparql.Query.Normalize

/-!
The operations that a query offers, as data, and the queries that can be made by them. A query is
reachable if it comes from an empty one by operations, and so do the subqueries put into it.
-/

namespace Sparql

/-! ## Operations -/

inductive Operation where
  | setNamespaces (namespaces : Namespaces)
  | freshVariable
  | blank (label : Option String)
  | blankConstant (label : Option String)
  | prefixedName (name : String)
  | literal (label : String) (datatype lang : Option String)
  | number (label : String)
  | call (name : String) (args : List Expr)
  | aggregate (name : String) (args : List Expr) (distinct : Bool) (separator : Option String)
  | patternExists (id : PatternId) (negated : Bool)
  | pathOperator (symbol : String) (operand : Expr)
  | repeated (least most : Option String) (operand : Expr)
  | pathPair (symbol : String) (left right : Expr)
  | pathPredicate (path : Expr)
  | triple (subject : Expr) (predicate : Predicate) (object : Expr)
  | setSubmitting (submitting : Bool)
  | group (children : List PatternId)
  | addToGroup (id child : PatternId)
  | union (left right : PatternId)
  | optional (body : PatternId)
  | minus (body : PatternId)
  | filter (condition : Expr)
  | bind (value : Expr) (target : Variable)
  | values (table : InlineData)
  | service (endpoint : Expr) (silent : Bool) (body : PatternId)
  | graph (name : Expr) (body : PatternId)
  | subquery (sub : Query)
  | collection (items : List Expr)
  | collectionHead (id : PatternId)
  | setForm (form : QueryForm)
  | setDataUpdate (dataUpdate : DataUpdate)
  | setBody (id : PatternId)
  | setConstruct (id : PatternId)
  | setInsert (id : PatternId)
  | setDelete (id : PatternId)
  | select (target : Variable) (value : Option Expr)
  | setSelectAll (all : Bool)
  | setDistinct (distinct : Bool)
  | setReduced (reduced : Bool)
  | describe (term : Expr)
  | groupBy (key : Expr)
  | having (condition : Expr)
  | orderBy (key : Expr) (descending : Bool)
  | setLimit (limit : Nat)
  | setOffset (offset : Nat)
  | setValues (table : InlineData)
  | define (name : String) (params : List Variable) (body : Expr)
  | normalize
  | check

inductive Answer where
  | done
  | var (v : Variable)
  | const (c : Constant)
  | expr (e : Expr)
  | predicate (predicate : Predicate)
  | pattern (id : PatternId)
  | verdict (correct : Bool)

namespace Operation

def silent (x : Build Unit) : Build Answer := (fun _ => .done) <$> x

def run : Operation → Build Answer
  | setNamespaces namespaces => silent (modify fun query => { query with namespaces })
  | freshVariable => Answer.var <$> Build.freshVariable
  | blank label => Answer.var <$> Build.blank label
  | blankConstant label => Answer.const <$> Build.blankConstant label
  | prefixedName name => Answer.const <$> Build.prefixedName name
  | literal label datatype lang => Answer.const <$> Build.literal label datatype lang
  | number label => Answer.const <$> Build.number label
  | call name args => Answer.expr <$> Build.call name args
  | aggregate name args distinct separator =>
    Answer.expr <$> Build.aggregate name args distinct separator
  | patternExists id negated => Answer.expr <$> Build.patternExists id negated
  | pathOperator symbol operand => Answer.expr <$> Build.pathOperator symbol operand
  | repeated least most operand => Answer.expr <$> Build.repeated least most operand
  | pathPair symbol left right => Answer.expr <$> Build.pathPair symbol left right
  | pathPredicate path => Answer.predicate <$> Build.pathPredicate path
  | triple subject predicate object => Answer.pattern <$> Build.triple subject predicate object
  | setSubmitting submitting => silent (Build.setSubmitting submitting)
  | group children => Answer.pattern <$> Build.group children
  | addToGroup id child => silent (Build.addToGroup id child)
  | union left right => Answer.pattern <$> Build.union left right
  | optional body => Answer.pattern <$> Build.optional body
  | minus body => Answer.pattern <$> Build.minus body
  | filter condition => Answer.pattern <$> Build.filter condition
  | bind value target => Answer.pattern <$> Build.bind value target
  | values table => Answer.pattern <$> Build.values table
  | service endpoint silent body => Answer.pattern <$> Build.service endpoint silent body
  | graph name body => Answer.pattern <$> Build.graph name body
  | subquery sub => Answer.pattern <$> Build.subquery sub
  | collection items => Answer.pattern <$> Build.collection items
  | collectionHead id => Answer.expr <$> Build.collectionHead id
  | setForm form => silent (Build.setForm form)
  | setDataUpdate dataUpdate => silent (Build.setDataUpdate dataUpdate)
  | setBody id => silent (Build.setBody id)
  | setConstruct id => silent (Build.setConstruct id)
  | setInsert id => silent (Build.setInsert id)
  | setDelete id => silent (Build.setDelete id)
  | select target value => silent (Build.select target value)
  | setSelectAll all => silent (Build.setSelectAll all)
  | setDistinct distinct => silent (Build.setDistinct distinct)
  | setReduced reduced => silent (Build.setReduced reduced)
  | describe term => silent (Build.describe term)
  | groupBy key => silent (Build.groupBy key)
  | having condition => silent (Build.having condition)
  | orderBy key descending => silent (Build.orderBy key descending)
  | setLimit limit => silent (Build.setLimit limit)
  | setOffset offset => silent (Build.setOffset offset)
  | setValues table => silent (Build.setValues table)
  | define name params body => silent (Build.define name params body)
  | normalize => silent Build.normalize
  | check => Answer.verdict <$> Build.check

end Operation

/-! ## Reachable queries -/

/-- Queries made from an empty one by operations of some kind, with subqueries that are made so
too. An operation that fails is a step as well. -/
inductive Query.BuiltBy (may : Operation → Prop) : Query → Prop
  | empty (options : Options) (namespaces : Namespaces) (library : Regex.Library)
      (labelOrder : LabelOrder) : BuiltBy may { options, namespaces, library, labelOrder }
  | step {query : Query} (operation : Operation) (before : BuiltBy may query)
      (allowed : may operation)
      (parts : ∀ sub, operation = .subquery sub → BuiltBy may sub) :
      BuiltBy may (operation.run.after query)

def Query.Reachable : Query → Prop := BuiltBy fun _ => True

/-- Queries that are made without checking them or any of their subqueries. -/
def Query.Unchecked : Query → Prop := BuiltBy (· ≠ .check)

theorem Query.BuiltBy.mono {may may' : Operation → Prop} (weaker : ∀ operation,
    may operation → may' operation) {query : Query} (built : query.BuiltBy may) :
    query.BuiltBy may' := by
  induction built with
  | empty options namespaces library labelOrder =>
      exact .empty options namespaces library labelOrder
  | step operation _ allowed _ before parts =>
      exact .step operation before (weaker operation allowed) parts

theorem Query.Unchecked.reachable {query : Query} (unchecked : query.Unchecked) :
    query.Reachable :=
  unchecked.mono fun _ _ => trivial

/-! ## Trees of queries -/

namespace Query

def IsPartOf (sub query : Query) : Prop := ∃ id, query.arena.get? id = some (.subquery sub)

def subqueries (query : Query) : List Query :=
  query.arena.patterns.filterMap fun p =>
    match p with
    | .subquery sub => some sub
    | _ => none

theorem mem_subqueries {query sub : Query} (part : sub.IsPartOf query) :
    sub ∈ query.subqueries := by
  rcases part with ⟨id, found⟩
  exact List.mem_filterMap.mpr ⟨_, List.mem_of_getElem? found, rfl⟩

/-- The property holds of the query and of its subqueries at any depth. -/
inductive Everywhere (property : Query → Prop) : Query → Prop
  | intro {query : Query} (here : property query)
      (parts : ∀ sub, sub.IsPartOf query → Everywhere property sub) : Everywhere property query

namespace Everywhere

variable {property property' : Query → Prop} {query sub : Query}

theorem of_subqueries (here : property query)
    (parts : ∀ sub ∈ query.subqueries, sub.Everywhere property) : query.Everywhere property :=
  .intro here fun sub part => parts sub (mem_subqueries part)

theorem alone (here : property query) (none : query.subqueries = []) :
    query.Everywhere property :=
  .of_subqueries here (none ▸ List.forall_mem_nil _)

theorem here (holds : query.Everywhere property) : property query := by
  cases holds with
  | intro here _ => exact here

theorem part (holds : query.Everywhere property) (part : sub.IsPartOf query) :
    sub.Everywhere property := by
  cases holds with
  | intro _ parts => exact parts sub part

theorem imp (holds : query.Everywhere property)
    (weaker : ∀ query, property query → property' query) : query.Everywhere property' := by
  induction holds with
  | intro here _ induction => exact .intro (weaker _ here) induction

theorem and (left : query.Everywhere property) (right : query.Everywhere property') :
    query.Everywhere fun query => property query ∧ property' query := by
  induction left with
  | intro here _ induction =>
      exact .intro ⟨here, right.here⟩ fun sub part => induction sub part (right.part part)

theorem nested (holds : query.Everywhere property) :
    query.Everywhere (·.Everywhere property) := by
  induction holds with
  | intro here parts induction => exact .intro (.intro here parts) induction

end Everywhere

end Query

end Sparql
