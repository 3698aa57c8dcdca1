import Sparql.Numeral
import Sparql.Query.Basic

/-!
Making variables and constants for a query. Made-up names hold a `#`, which no written name does.
-/

namespace Sparql.Build

/-! ## Full names -/

/-- The IRI that a name stands for: one in angle brackets is resolved against the base, a prefixed
name is expanded, and any other name stays. An undeclared prefix is reported and kept. -/
def expand (name : String) : Build String := do
  let namespaces := (← get).namespaces
  match unbracket? name with
  | some iri => return namespaces.resolve iri
  | none =>
    match splitName? name with
    | none => return name
    | some (label, localName) =>
      match namespaces.expand? label localName with
      | some iri => return iri
      | none =>
        problem (.undefinedPrefix label name)
        return name

/-- The name of a function as written, and its full IRI if it has one. -/
def calledName (name : String) : Build (String × Option String) := do
  match unbracket? name with
  | some iri => return (iri, some ((← get).namespaces.resolve iri))
  | none =>
    if Text.occurs "://".toList name.toList then return (name, some name)
    else if (splitName? name).isSome then return (name, some (← expand name))
    else return (name, none)

/-! ## Variables and blank nodes -/

def freshVariable : Build Variable := do
  let n := (← get).supply.vars
  modify fun query => { query with supply.vars := n + 1 }
  return .ofName s!"_v#{n}"

/-- Blank nodes of patterns and of data share one count. -/
def freshLabel : Build String := do
  let n := (← get).supply.blanks
  modify fun query => { query with supply.blanks := n + 1 }
  return s!"_b#{n}"

/-- A blank node of a pattern, with a made-up label where none is written. -/
def blank (label : Option String) : Build Variable := do
  match label with
  | some label => return .ofBlank label
  | none => return .ofBlank (← freshLabel)

def blankConstant (label : Option String) : Build Constant := do
  match label with
  | some label => return .ofBlank label
  | none => return .ofBlank (← freshLabel)

/-! ## IRIs and literals -/

def iri (text : String) : Build Constant := do
  return .iri ((← get).namespaces.resolve ((unbracket? text).getD text))

def prefixedName (name : String) : Build Constant := do
  let full ← expand name
  return { Constant.iri full with shortName := some name }

/-- A literal with a language tag has a datatype of its own, and a plain one is a string. -/
def literal (label : String) (datatype lang : Option String) : Build Constant := do
  match lang, datatype with
  | some lang, _ => return .tagged label lang
  | none, some datatype => return .literal label (← expand datatype)
  | none, none => return .literal label Vocabulary.xsdString

def number (label : String) : Build Constant := do
  match Numeral.datatype? label.toList with
  | some datatype => return .literal label datatype
  | none => throw (.invalidNumber label)

def boolean (value : Bool) : Constant :=
  .literal (if value then "true" else "false") Vocabulary.xsdBoolean

end Sparql.Build
