import Sparql.Build.Terms
import Sparql.Expr.Mentions
import Sparql.Operator.Names
import Sparql.Regex.Widened

/-!
Making calls. The name of a call decides its operator, the arguments are counted, and what the
operator needs is prepared at once: the datatype of a cast, the algorithm of a digest, a literal
regular expression, the target of an external call.
-/

namespace Sparql.Build

/-! ## Counting arguments -/

/-- An aggregate has one argument, which a count may leave out, and none inside of it. -/
def checkAggregate (call : Call) (args : List Expr) : Build Unit := do
  let mayBeEmpty := call.operator == .count
  let fits := if mayBeEmpty then args.length ≤ 1 else args.length = 1
  unless fits do
    problem (.aggregateArity call.name mayBeEmpty args.length)
  if Expr.anyHasAggregate args then
    problem (.nestedAggregate call.name)

def writtenArity? (operator : Operator) : Option Arity :=
  if operator = .cast then some (.exactly 1) else operator.arity?

def checkArguments (call : Call) (args : List Expr) : Build Unit := do
  if call.isAggregate then checkAggregate call args
  else
    match writtenArity? call.operator with
    | some arity =>
      unless arity.accepts args.length do
        problem (.functionArity call.name arity args.length)
    | none => return

/-- A function of the query takes as many arguments as it has parameters. -/
def checkParameters (key : String) (params found : Nat) : Build Unit :=
  unless params = found do
    problem (.functionArity key (.exactly params) found)

/-! ## Preparing -/

/-- A cast of one value is completed by the datatype and the marker of its implementation. -/
def castArgs (call : Call) : List Expr → List Expr
  | [value] =>
    [value, .const (.iri call.key),
     .const (.literal (Vocabulary.castImplementation call.key) Vocabulary.xsdString)]
  | args => args

/-- Read a literal pattern with literal flags. Others are known only when the call is evaluated. -/
def prepareRegex (call : Call) (args : List Expr) (flagsAt : Nat) (widen : Bool) : Build Call := do
  if !(← get).options.prepareRegexes then return call
  let flags? :=
    match args[flagsAt]? with
    | none => some ""
    | some flags => flags.literal?
  match args[1]?.bind Expr.literal?, flags? with
  | some pattern, some flags =>
    let source := if widen then Regex.widened pattern.toList else pattern.toList
    match (← get).library.fault? source flags with
    | none => return { call with regex := some { source := String.ofList source, flags } }
    | some fault =>
      problem (.invalidRegex pattern fault)
      return call
  | _, _ => return call

def linkExternal (call : Call) : Build Call := do
  match Extension.Target.ofName? call.key with
  | some target => return { call with external := some target }
  | none =>
    problem (.malformedExternal call.key)
    return call

/-- A call of a name without a meaning of its own is one of a function that the query defines. If
there is none yet, the call waits for the definition. -/
def resolveUser (call : Call) (args : List Expr) : Build Call := do
  match (← get).functions.definition? call.key with
  | some definition =>
    checkParameters call.key definition.params.length args.length
    return { call with operator := .userFunction }
  | none =>
    modify fun query =>
      { query with functions := query.functions.defer call.key args.length }
    return call

/-! ## Calls -/

def prepare (call : Call) (args : List Expr) : Build Expr := do
  checkArguments call args
  match call.operator with
  | .cast => return .call call (castArgs call args)
  | .hash => return .call { call with modality := Operator.digest? call.key } args
  | .regex => return .call (← prepareRegex call args 2 true) args
  | .replace => return .call (← prepareRegex call args 3 false) args
  | .external => return .call (← linkExternal call) args
  | .undefined => return .call (← resolveUser call args) args
  | _ => return .call call args

/-- An aggregate may be over distinct values, and may have a separator. -/
def aggregate (name : String) (args : List Expr) (distinct : Bool) (separator : Option String) :
    Build Expr := do
  let (written, longName) ← calledName name
  let operator := Operator.ofName (longName.getD written)
  prepare { name := written, longName, operator, distinct, modality := separator } args

def call (name : String) (args : List Expr) : Build Expr := aggregate name args false none

def patternExists (id : PatternId) (negated : Bool) : Build Expr := do
  known id
  if negated then
    return .call { name := "not exists", operator := .patternAbsent, pattern := some id } []
  else
    return .call { name := "exists", operator := .patternExists, pattern := some id } []

end Sparql.Build
