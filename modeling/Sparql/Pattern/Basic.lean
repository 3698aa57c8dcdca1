import Sparql.Path.Plan

/-!
Graph patterns. A pattern refers to its parts by their ids in an arena, and a subquery is held as
it is; patterns are generic in what a subquery is.
-/

namespace Sparql

abbrev PatternId := Nat

/-! ## Triples -/

/-- What is written between subject and object: a node, and the path that it stands for. -/
structure Predicate where
  node : Expr
  path : Option Expr := none

namespace Predicate

def hasPath (predicate : Predicate) : Bool := predicate.path.isSome

end Predicate

structure Triple where
  /-- Triples of a query are numbered as they are made. -/
  number : Nat
  subject : Expr
  predicate : Expr
  object : Expr
  path : Option Path.Plan := none

namespace Triple

def isPath (triple : Triple) : Bool := triple.path.isSome

def nodes (triple : Triple) : List Expr := [triple.subject, triple.predicate, triple.object]

/-- The variables that a match of the triple binds, which the one of a path is not. -/
def vars (triple : Triple) : List Variable :=
  (triple.nodes.filterMap Expr.asVariable?).foldl
    (fun found v => if v.path then found else v.addTo found) []

def text (triple : Triple) : String :=
  let predicate :=
    match triple.path with
    | some path => path.core
    | none => triple.predicate
  s!"{triple.subject.text} {predicate.text} {triple.object.text}"

end Triple

/-- Inline data: a row has a cell for each variable, and a cell may be left undefined. -/
structure InlineData where
  vars : List Variable
  rows : List (List (Option Expr))

/-! ## Patterns -/

inductive Pattern (Sub : Type) where
  | triple (t : Triple)
  /-- A basic graph pattern: all of its children together, sharing their blank nodes. -/
  | group (children : List PatternId)
  | union (left right : PatternId)
  | optional (body : PatternId)
  | minus (body : PatternId)
  | filter (condition : Expr)
  | bind (value : Expr) (target : Variable)
  | values (table : InlineData)
  /-- An RDF collection, by its head and the triples of its cells. -/
  | collection (head : Expr) (cells : List PatternId)
  | service (endpoint : Expr) (silent : Bool) (body : PatternId)
  | graph (name : Expr) (body : PatternId)
  | subquery (sub : Sub)

inductive Pattern.Kind where
  | triple | group | union | optional | minus | filter | bind | values | collection | service
  | graph | subquery
  deriving DecidableEq, Repr

def Pattern.Kind.text : Pattern.Kind → String
  | triple => "triple"
  | group => "basic graph pattern"
  | union => "union"
  | optional => "optional"
  | minus => "minus"
  | filter => "filter"
  | bind => "bind"
  | values => "values"
  | collection => "list"
  | service => "service"
  | graph => "graph"
  | subquery => "subquery"

namespace Pattern

variable {Sub : Type}

def kind : Pattern Sub → Pattern.Kind
  | triple _ => .triple
  | group _ => .group
  | union _ _ => .union
  | optional _ => .optional
  | minus _ => .minus
  | filter _ => .filter
  | bind _ _ => .bind
  | values _ => .values
  | collection _ _ => .collection
  | service _ _ _ => .service
  | graph _ _ => .graph
  | subquery _ => .subquery

def children : Pattern Sub → List PatternId
  | group parts => parts
  | union left right => [left, right]
  | optional body => [body]
  | minus body => [body]
  | service _ _ body => [body]
  | graph _ body => [body]
  | collection _ cells => cells
  | triple _ | filter _ | bind _ _ | values _ | subquery _ => []

def triple? : Pattern Sub → Option Triple
  | triple t => some t
  | _ => none

def isTriple (p : Pattern Sub) : Bool := p.triple?.isSome

def isGroup : Pattern Sub → Bool
  | group _ => true
  | _ => false

end Pattern

end Sparql
