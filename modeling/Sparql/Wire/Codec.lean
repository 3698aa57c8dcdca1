import Sparql.Query.Basic
import Sparql.Wire.Value

/-!
How the small types of the library are written as plain values, and read back. Each type that is
written as a word has one word for each of its values.
-/

namespace Sparql

open Wire

/-! ## Words -/

namespace Wire

def word? {α : Type} (every : List α) (word : α → String) (value : Value) : Option α := do
  let text ← value.string?
  every.find? (word · == text)

end Wire

namespace PathSemantics

def word : PathSemantics → String
  | algebra => "algebra"
  | edgeWalk => "legacy"

def ofValue? : Value → Option PathSemantics := word? [algebra, edgeWalk] word

end PathSemantics

namespace QueryForm

def word : QueryForm → String
  | select => "select"
  | ask => "ask"
  | construct => "construct"
  | describe => "describe"
  | delete => "delete"
  | update => "update"

def ofValue? : Value → Option QueryForm :=
  word? [select, ask, construct, describe, delete, update] word

end QueryForm

namespace DataUpdate

def word : DataUpdate → String
  | none => "none"
  | insertion => "insert_data"
  | deletion => "delete_data"

def ofValue? : Value → Option DataUpdate := word? [none, insertion, deletion] word

end DataUpdate

namespace Variable.Scope

def word : Variable.Scope → String
  | global => "global"
  | parameter => "local"
  | undetermined => "undef"

def ofValue? : Value → Option Variable.Scope := word? [global, parameter, undetermined] word

end Variable.Scope

namespace Constant.Kind

def word : Constant.Kind → String
  | iri => "iri"
  | literal => "literal"
  | blankNode => "blanknode"

def ofValue? : Value → Option Constant.Kind := word? [iri, literal, blankNode] word

end Constant.Kind

namespace Path.Repetition

def word : Repetition → String
  | once => "once"
  | star => "star"
  | plus => "plus"
  | zeroOrOne => "zeroorone"
  | counted => "counted"

def ofValue? : Value → Option Repetition := word? [once, star, plus, zeroOrOne, counted] word

end Path.Repetition

namespace Severity

def ofValue? : Value → Option Severity := word? [error, warning, note] text

end Severity

namespace Diagnostic.Code

def ofValue? (value : Value) : Option Code := do ofText? (← value.string?)

end Diagnostic.Code

/-! ## Records -/

namespace Path.Bounds

def count? (value : Value) : Option Nat := do
  let n ← value.natural?
  if n ≤ unlimited then some n else none

def ofValue? (value : Value) : Option Bounds := do
  let fields : Fields ← value.fields?
  return {
    least := ← fields.required "min" count?
    most := ← fields.required "max" count?
    repetition := ← fields.required "kind" Repetition.ofValue? }

def toValue (bounds : Bounds) : Value :=
  .object
    [("min", .natural bounds.least), ("max", .natural bounds.most),
     ("kind", .string bounds.repetition.word)]

end Path.Bounds

namespace Options

def ofValue? (value : Value) : Option Options := do
  let fields : Fields ← value.fields?
  let default : Options := {}
  return {
    strict := ← fields.withDefault "strict" Value.bool? default.strict
    pathSemantics :=
      ← fields.withDefault "path_evaluation" PathSemantics.ofValue? default.pathSemantics
    prepareRegexes :=
      ← fields.withDefault "precompile_regex" Value.bool? default.prepareRegexes }

def toValue (options : Options) : Value :=
  .object
    [("strict", .bool options.strict), ("path_evaluation", .string options.pathSemantics.word),
     ("precompile_regex", .bool options.prepareRegexes)]

end Options

namespace Diagnostic

def ofValue? (value : Value) : Option Diagnostic := do
  let fields : Fields ← value.fields?
  return {
    code := ← fields.required "code" Code.ofValue?
    severity := ← fields.required "severity" Severity.ofValue?
    message := ← fields.required "message" Value.string?
    subject := ← fields.optional "subject" Value.string?
    help := ← fields.optional "help" Value.string?
    note := ← fields.optional "note" Value.string? }

def toValue (diagnostic : Diagnostic) : Value :=
  let part (key : String) (text : Option String) : Fields :=
    text.toList.map fun text => (key, .string text)
  .object <|
    [("code", .string diagnostic.code.text), ("severity", .string diagnostic.severity.text),
     ("message", .string diagnostic.message)] ++
      part "subject" diagnostic.subject ++ part "help" diagnostic.help ++
      part "note" diagnostic.note

theorem ofValue?_toValue (diagnostic : Diagnostic) :
    ofValue? diagnostic.toValue = some diagnostic := by
  obtain ⟨code, severity, message, subject, help, note⟩ := diagnostic
  have code_read : Code.ofValue? (.string code.text) = some code := Code.ofText?_text code
  have severity_read : Severity.ofValue? (.string severity.text) = some severity := by
    cases severity <;> rfl
  cases subject <;> cases help <;> cases note <;>
    simp [ofValue?, toValue, Value.fields?, Value.string?, Fields.required, Fields.optional,
      List.lookup_cons, code_read, severity_read]

end Diagnostic

end Sparql
