import Sparql.Diagnostic
import Sparql.Operator.Arity
import Sparql.Regex.Flags

/-!
What can be wrong with a query, by cause, and the report that each cause gives rise to.
-/

namespace Sparql

/-- Variables, blank nodes and steps are given by their text. -/
inductive Problem where
  | undefinedPrefix (label name : String)
  | aggregateArity (name : String) (mayBeEmpty : Bool) (found : Nat)
  | nestedAggregate (name : String)
  | functionArity (name : String) (arity : Arity) (found : Nat)
  | invalidRegex (pattern : String) (fault : Regex.Fault)
  | malformedExternal (name : String)
  | undefinedFunction (name : String)
  | callAsPathStep (name : String)
  | constantAsPathStep (constant : String)
  | targetBound (target : String)
  | blankShared (label : String)
  | rowWidth (row found width : Nat)
  | blankInDeleteData (node : String)
  | variableInData (target context : String)
  | selectTargetBound (target : String)
  | neverBound (target : String)
  | notGroupKey (target : String)
  deriving DecidableEq, Repr

namespace Problem

def toDiagnostic : Problem → Diagnostic
  | undefinedPrefix label name =>
    { code := .undefinedPrefix
      message := s!"Undefined prefix '{label}'"
      subject := some name
      help := some s!"Declare it with PREFIX {label}: <...>" }
  | aggregateArity name mayBeEmpty found =>
    let expected := if mayBeEmpty then "at most one argument" else "exactly one argument"
    { code := .aggregateArity
      message := s!"Aggregate {name} takes {expected}, found {found}"
      subject := some name }
  | nestedAggregate name =>
    { code := .nestedAggregate
      message := s!"Aggregate {name} contains another aggregate"
      subject := some name }
  | functionArity name arity found =>
    { code := .functionArity
      message := s!"Function {name} takes {arity.text} argument(s), found {found}"
      subject := some name }
  | invalidRegex pattern fault =>
    { code := .invalidRegex
      message := fault.message
      subject := some pattern
      note := some "Flags are any of s, m, i, x" }
  | malformedExternal name =>
    { code := .malformedExternalCall
      message := s!"External function {name} has no module.member target"
      subject := some name
      help := some "Write the call as <function://module.path.member>(...)" }
  | undefinedFunction name =>
    { code := .undefinedFunction
      message := s!"Undefined function {name}"
      subject := some name }
  | callAsPathStep name =>
    { code := .invalidPathStep
      message := s!"Function call {name} used as a property path step"
      subject := some name }
  | constantAsPathStep constant =>
    { code := .invalidPathStep
      message := s!"{constant} used as a property path step"
      subject := some constant
      help := some "Path steps are IRIs, variables or path operators" }
  | targetBound target =>
    { code := .bindScope
      message := s!"BIND target {target} is already bound"
      subject := some target
      help := some "Choose a variable not used earlier in the group" }
  | blankShared label =>
    { code := .blankNodeScope
      message := s!"Blank node {label} is used in more than one basic graph pattern"
      subject := some label
      help := some "Use a variable to join across graph patterns" }
  | rowWidth row found width =>
    { code := .valuesArity
      message := s!"VALUES row {row} has {found} value(s) for {width} variable(s)"
      note := some "Use UNDEF for a missing value" }
  | blankInDeleteData node =>
    { code := .blankNodeInDeleteData
      message := s!"Blank node {node} not allowed in DELETE DATA"
      subject := some node
      note := some "Blank nodes in DELETE DATA cannot match existing data" }
  | variableInData target context =>
    { code := .variableInGroundData
      message := s!"Variable {target} not allowed in {context}"
      subject := some target
      help := some (context ++
        " requires ground triples (IRIs, literals, blank nodes) with no variables.")
      note := some
        "Use DELETE WHERE or INSERT/DELETE with WHERE clause for patterns with variables." }
  | selectTargetBound target =>
    { code := .duplicateSelectBinding
      message := s!"SELECT binds {target} which is already bound"
      subject := some target
      help := some "Project the expression under a new variable name" }
  | neverBound target =>
    { code := .unboundSelectVariable
      message := s!"{target} is selected but never bound"
      subject := some target }
  | notGroupKey target =>
    { code := .nonGroupKeyVariable
      message := s!"{target} is selected but is not a GROUP BY key"
      subject := some target
      help := some
        s!"Add {target} to GROUP BY or wrap it in an aggregate such as SAMPLE({target})" }

end Problem

end Sparql
