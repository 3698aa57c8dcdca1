/-!
Reports about a query: a stable code, a severity and a sentence, with what they are about and how
to mend it.
-/

namespace Sparql

/-! ## Severities and codes -/

inductive Severity where
  | error
  | warning
  | note
  deriving DecidableEq, Repr

def Severity.text : Severity → String
  | error => "error"
  | warning => "warning"
  | note => "note"

namespace Diagnostic

/-- Codes starting with Q are about scope and shape, F about functions, P about paths, and W are
warnings. -/
inductive Code where
  | duplicateSelectBinding
  | blankNodeScope
  | bindScope
  | nonGroupKeyVariable
  | valuesArity
  | undefinedPrefix
  | variableInGroundData
  | blankNodeInDeleteData
  | undefinedFunction
  | aggregateArity
  | functionArity
  | nestedAggregate
  | invalidRegex
  | malformedExternalCall
  | invalidPathStep
  | unboundSelectVariable
  deriving DecidableEq, Repr

namespace Code

def text : Code → String
  | duplicateSelectBinding => "Q001"
  | blankNodeScope => "Q002"
  | bindScope => "Q003"
  | nonGroupKeyVariable => "Q006"
  | valuesArity => "Q008"
  | undefinedPrefix => "Q009"
  | variableInGroundData => "Q010"
  | blankNodeInDeleteData => "Q011"
  | undefinedFunction => "F001"
  | aggregateArity => "F002"
  | functionArity => "F003"
  | nestedAggregate => "F004"
  | invalidRegex => "F005"
  | malformedExternalCall => "F006"
  | invalidPathStep => "P001"
  | unboundSelectVariable => "W001"

def name : Code → String
  | duplicateSelectBinding => "DuplicateSelectBinding"
  | blankNodeScope => "BlankNodeScope"
  | bindScope => "BindScope"
  | nonGroupKeyVariable => "NonGroupKeyVariable"
  | valuesArity => "ValuesArity"
  | undefinedPrefix => "UndefinedPrefix"
  | variableInGroundData => "VariableInGroundData"
  | blankNodeInDeleteData => "BlankNodeInDeleteData"
  | undefinedFunction => "UndefinedFunction"
  | aggregateArity => "AggregateArity"
  | functionArity => "FunctionArity"
  | nestedAggregate => "NestedAggregate"
  | invalidRegex => "InvalidRegex"
  | malformedExternalCall => "MalformedExternalCall"
  | invalidPathStep => "InvalidPathStep"
  | unboundSelectVariable => "UnboundSelectVariable"

def every : List Code :=
  [duplicateSelectBinding, blankNodeScope, bindScope, nonGroupKeyVariable, valuesArity,
   undefinedPrefix, variableInGroundData, blankNodeInDeleteData, undefinedFunction,
   aggregateArity, functionArity, nestedAggregate, invalidRegex, malformedExternalCall,
   invalidPathStep, unboundSelectVariable]

theorem mem_every (code : Code) : code ∈ every := by cases code <;> decide

def ofText? (text : String) : Option Code := every.find? (·.text == text)

theorem ofText?_text (code : Code) : ofText? code.text = some code := by
  cases code <;> decide

/-- A code is an error unless it is a warning by its letter. -/
def severity : Code → Severity
  | unboundSelectVariable => .warning
  | _ => .error

end Code

end Diagnostic

/-! ## Reports -/

structure Diagnostic where
  code : Diagnostic.Code
  severity : Severity := code.severity
  message : String
  /-- What the report is about, as the query writes it. -/
  subject : Option String := none
  help : Option String := none
  note : Option String := none
  deriving DecidableEq, Repr

namespace Diagnostic

def isError (diagnostic : Diagnostic) : Bool := diagnostic.severity == .error

def isWarning (diagnostic : Diagnostic) : Bool := diagnostic.severity == .warning

def text (diagnostic : Diagnostic) : String :=
  let line := s!"{diagnostic.severity.text}[{diagnostic.code.text}]: {diagnostic.message}"
  match diagnostic.help with
  | some help => s!"{line} (help: {help})"
  | none => line

example : ({ code := .unboundSelectVariable, message := "m" } : Diagnostic).text =
    "warning[W001]: m" := by decide

end Diagnostic

end Sparql
