import Sparql.Extension
import Sparql.Operator.Basic
import Sparql.Path.Bounds

/-!
Expressions: variables, constants of RDF, and calls of an operator. Property paths are expressions
too, whose calls are path operators.
-/

namespace Sparql

/-! ## Variables

A variable is known by its name. A blank node of a pattern behaves like a variable too; its name
starts with `_:`, which no name of a written variable does. -/

inductive Variable.Scope where
  | global
  | parameter
  | undetermined
  deriving DecidableEq, Repr

structure Variable where
  name : String
  /-- Whether this is a blank node of a pattern. -/
  blank : Bool := false
  /-- Whether this stands for a property path between two nodes. -/
  path : Bool := false
  visited : Bool := false
  scope : Variable.Scope := .global
  deriving DecidableEq, Repr

namespace Variable

/-- The variable written with a leading `?` or `$`, or with its bare name. -/
def ofName (name : String) : Variable :=
  match name.toList with
  | '?' :: rest => { name := String.ofList rest }
  | '$' :: rest => { name := String.ofList rest }
  | _ => { name }

end Variable

/-- The label of a blank node without its leading `_:`. -/
def bareLabel (label : String) : String :=
  match label.toList with
  | '_' :: ':' :: rest => String.ofList rest
  | _ => label

namespace Variable

def ofBlank (label : String) : Variable := { name := "_:" ++ bareLabel label, blank := true }

def text (v : Variable) : String := if v.blank then v.name else "?" ++ v.name

example : (ofName "$x").text = "?x" := by decide

example : (ofBlank "b").text = "_:b" := by decide

/-- Two variables of one name are the same variable, whatever else is known of them. -/
def same (v w : Variable) : Bool := v.name == w.name

def occursIn (v : Variable) (found : List Variable) : Bool := found.any v.same

def addTo (v : Variable) (found : List Variable) : List Variable :=
  if v.occursIn found then found else found ++ [v]

theorem occursIn_iff {v : Variable} {found : List Variable} :
    v.occursIn found = true ↔ v.name ∈ found.map (·.name) := by
  simp only [occursIn, same, List.any_eq_true, beq_iff_eq, List.mem_map]
  constructor
  · rintro ⟨w, here, equal⟩
    exact ⟨w, here, equal.symm⟩
  · rintro ⟨w, here, equal⟩
    exact ⟨w, here, equal.symm⟩

end Variable

/-! ## Constants -/

inductive Constant.Kind where
  | iri
  | literal
  | blankNode
  deriving DecidableEq, Repr

structure Constant where
  kind : Constant.Kind
  /-- The full IRI, the lexical form of a literal, or the bare label of a blank node. -/
  label : String
  /-- The prefixed name that an IRI was written as. -/
  shortName : Option String := none
  datatype : Option String := none
  lang : Option String := none
  deriving DecidableEq, Repr

namespace Constant

def iri (label : String) : Constant := { kind := .iri, label }

def literal (label datatype : String) : Constant :=
  { kind := .literal, label, datatype := some datatype }

def tagged (label lang : String) : Constant :=
  { kind := .literal, label, datatype := some Vocabulary.langString, lang := some lang }

def ofBlank (label : String) : Constant := { kind := .blankNode, label := bareLabel label }

def isIri (c : Constant) : Bool := c.kind == .iri

def isLiteral (c : Constant) : Bool := c.kind == .literal

def isBlank (c : Constant) : Bool := c.kind == .blankNode

def isNumeric (c : Constant) : Bool := c.datatype.any Vocabulary.isNumeric

/-- Whether this is a literal without a datatype of its own. -/
def isString (c : Constant) : Bool :=
  c.isLiteral && c.datatype == some Vocabulary.xsdString

def quoted (label : String) : String :=
  "\"" ++ String.ofList (label.toList.flatMap fun c => if c = '"' then ['\\', '"'] else [c]) ++ "\""

def text (c : Constant) : String :=
  match c.kind with
  | .iri => s!"<{c.label}>"
  | .blankNode => "_:" ++ c.label
  | .literal =>
    match c.lang, c.datatype with
    | some lang, _ => quoted c.label ++ "@" ++ lang
    | none, some datatype =>
      if datatype = Vocabulary.xsdString then quoted c.label
      else quoted c.label ++ s!"^^<{datatype}>"
    | none, none => quoted c.label

example : (tagged "chat" "fr").text = "\"chat\"@fr" := by decide

end Constant

/-! ## Calls -/

/-- A literal regular expression that was read when its call was built. The source and the flags
tell one expression from another. -/
structure PreparedRegex where
  source : String
  flags : String
  deriving DecidableEq, Repr

def PreparedRegex.same (left right : PreparedRegex) : Bool := left == right

structure Call where
  /-- The name or symbol as written. -/
  name : String
  /-- The full IRI of a name that has one. -/
  longName : Option String := none
  operator : Operator
  distinct : Bool := false
  bounds : Option Path.Bounds := none
  /-- The digest algorithm of a hash function, or the separator of an aggregate. -/
  modality : Option String := none
  regex : Option PreparedRegex := none
  external : Option Extension.Target := none
  /-- The pattern whose existence the call tests. -/
  pattern : Option Nat := none
  deriving DecidableEq, Repr

namespace Call

/-- The name under which the call is matched with a function definition. -/
def key (call : Call) : String := call.longName.getD call.name

def isAggregate (call : Call) : Bool := call.operator.isAggregate

def isPath (call : Call) : Bool := call.operator.isPath

def same (left right : Call) : Bool :=
  { left with regex := none } == { right with regex := none } &&
    match left.regex, right.regex with
    | some l, some r => l.same r
    | none, none => true
    | _, _ => false

end Call

/-! ## Expressions -/

inductive Expr where
  | var (v : Variable)
  | const (c : Constant)
  | call (head : Call) (args : List Expr)

namespace Expr

mutual
/-- Two expressions are the same up to what is known of their variables. -/
def same : Expr → Expr → Bool
  | var v, var w => v.same w
  | const c, const d => c == d
  | call head args, call head' args' => head.same head' && sameAll args args'
  | _, _ => false

def sameAll : List Expr → List Expr → Bool
  | [], [] => true
  | e :: rest, e' :: rest' => e.same e' && sameAll rest rest'
  | _, _ => false
end

def asVariable? : Expr → Option Variable
  | var v => some v
  | _ => none

def asConstant? : Expr → Option Constant
  | const c => some c
  | _ => none

def call? : Expr → Option (Call × List Expr)
  | call head args => some (head, args)
  | _ => none

def isVariable (e : Expr) : Bool := e.asVariable?.isSome

def isConstant (e : Expr) : Bool := e.asConstant?.isSome

def isBlank : Expr → Bool
  | var v => v.blank
  | const c => c.isBlank
  | call _ _ => false

/-- Whether this is a call of anything but a path operator. -/
def isFunction : Expr → Bool
  | call head _ => !head.isPath
  | _ => false

/-- Whether this is a path, or the variable that stands for one. -/
def isPath : Expr → Bool
  | var v => v.path
  | const _ => false
  | call head _ => head.isPath

def isAggregate : Expr → Bool
  | call head _ => head.isAggregate
  | _ => false

def name : Expr → String
  | var v => v.name
  | const c => c.shortName.getD c.label
  | call head _ => head.name

def longName? : Expr → Option String
  | var _ => none
  | const c => if c.isIri then some c.label else none
  | call head _ => head.longName

def bounds? : Expr → Option Path.Bounds
  | call head _ => head.bounds
  | _ => none

def regex? : Expr → Option PreparedRegex
  | call head _ => head.regex
  | _ => none

def family? : Expr → Option Operator.Family
  | call head _ => some head.operator.family
  | _ => none

def literal? : Expr → Option String
  | const c => if c.isLiteral then some c.label else none
  | _ => none

end Expr

end Sparql
