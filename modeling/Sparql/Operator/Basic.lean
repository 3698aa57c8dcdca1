/-!
The operators a call can stand for. Each has a numeric code, a printed name and a family.
-/

namespace Sparql

inductive Operator where
  | undefined
  | and | or | not
  | eq | ne | lt | le | gt | ge | oneOf | noneOf
  | add | sub | mul | div
  | bound | isIri | isBlank | isLiteral | isNumeric | str | lang | datatype | iri | blankNode
  | strDatatype | strLang | langMatches | sameTerm | ifThenElse | coalesce | uuid | strUuid
  | patternExists | patternAbsent
  | strLength | substring | upperCase | lowerCase | strStarts | strEnds | contains | strBefore
  | strAfter | encodeForUri | concat | regex | replace
  | abs | round | ceil | floor | rand
  | now | year | month | day | hours | minutes | seconds | timezone | tz
  | hash
  | count | sum | avg | min | max | sample | groupConcat
  | pathLength | depth | index | similarity | graph | skolem | isSkolem
  | applyTemplates | callTemplate | turtle | format | newline | indent | display
  | cast
  | external
  | userFunction
  | star | plus | zeroOrOne | counted | sequence | alternative | inverse | negation | short
  | shortAll | all | distinctPaths | depthFirst | breadthFirst
  deriving DecidableEq, Repr

namespace Operator

/-! ## Families -/

inductive Family where
  | undefined | boolean | comparison | arithmetic | term | string | numeric | date | hash
  | aggregate | introspection | template | cast | external | userFunction | path
  deriving DecidableEq, Repr

def Family.name : Family → String
  | .undefined => "Undefined"
  | .boolean => "Boolean"
  | .comparison => "Comparison"
  | .arithmetic => "Arithmetic"
  | .term => "Term"
  | .string => "String"
  | .numeric => "Numeric"
  | .date => "Date"
  | .hash => "Hash"
  | .aggregate => "Aggregate"
  | .introspection => "Introspection"
  | .template => "Template"
  | .cast => "Cast"
  | .external => "External"
  | .userFunction => "Function"
  | .path => "Path"

def family : Operator → Family
  | .undefined => .undefined
  | .and | .or | .not => .boolean
  | .eq | .ne | .lt | .le | .gt | .ge | .oneOf | .noneOf => .comparison
  | .add | .sub | .mul | .div => .arithmetic
  | .bound | .isIri | .isBlank | .isLiteral | .isNumeric | .str | .lang | .datatype | .iri |
    .blankNode | .strDatatype | .strLang | .langMatches | .sameTerm | .ifThenElse | .coalesce |
    .uuid | .strUuid | .patternExists | .patternAbsent => .term
  | .strLength | .substring | .upperCase | .lowerCase | .strStarts | .strEnds | .contains |
    .strBefore | .strAfter | .encodeForUri | .concat | .regex | .replace => .string
  | .abs | .round | .ceil | .floor | .rand => .numeric
  | .now | .year | .month | .day | .hours | .minutes | .seconds | .timezone | .tz => .date
  | .hash => .hash
  | .count | .sum | .avg | .min | .max | .sample | .groupConcat => .aggregate
  | .pathLength | .depth | .index | .similarity | .graph | .skolem | .isSkolem => .introspection
  | .applyTemplates | .callTemplate | .turtle | .format | .newline | .indent | .display => .template
  | .cast => .cast
  | .external => .external
  | .userFunction => .userFunction
  | .star | .plus | .zeroOrOne | .counted | .sequence | .alternative | .inverse | .negation |
    .short | .shortAll | .all | .distinctPaths | .depthFirst | .breadthFirst => .path

def isDefined (operator : Operator) : Bool := operator != .undefined

def isAggregate (operator : Operator) : Bool := operator.family == .aggregate

def isPath (operator : Operator) : Bool := operator.family == .path

/-- The path operators that change how a path is walked, not which steps it has. -/
def isPathModifier : Operator → Bool
  | .inverse | .short | .shortAll | .all | .distinctPaths | .depthFirst | .breadthFirst => true
  | _ => false

def isRepetition : Operator → Bool
  | .star | .plus | .zeroOrOne | .counted => true
  | _ => false

/-! ## Codes and printed names -/

def code : Operator → Nat
  | .undefined => 0
  | .and => 1
  | .or => 2
  | .not => 3
  | .eq => 4
  | .ne => 5
  | .lt => 6
  | .le => 7
  | .gt => 8
  | .ge => 9
  | .oneOf => 10
  | .noneOf => 11
  | .add => 20
  | .sub => 21
  | .mul => 22
  | .div => 23
  | .bound => 30
  | .isIri => 31
  | .isBlank => 32
  | .isLiteral => 33
  | .isNumeric => 34
  | .str => 35
  | .lang => 36
  | .datatype => 37
  | .iri => 38
  | .blankNode => 39
  | .strDatatype => 40
  | .strLang => 41
  | .langMatches => 42
  | .sameTerm => 43
  | .ifThenElse => 44
  | .coalesce => 45
  | .uuid => 46
  | .strUuid => 47
  | .patternExists => 48
  | .patternAbsent => 49
  | .strLength => 60
  | .substring => 61
  | .upperCase => 62
  | .lowerCase => 63
  | .strStarts => 64
  | .strEnds => 65
  | .contains => 66
  | .strBefore => 67
  | .strAfter => 68
  | .encodeForUri => 69
  | .concat => 70
  | .regex => 71
  | .replace => 72
  | .abs => 80
  | .round => 81
  | .ceil => 82
  | .floor => 83
  | .rand => 84
  | .now => 90
  | .year => 91
  | .month => 92
  | .day => 93
  | .hours => 94
  | .minutes => 95
  | .seconds => 96
  | .timezone => 97
  | .tz => 98
  | .hash => 110
  | .count => 120
  | .sum => 121
  | .avg => 122
  | .min => 123
  | .max => 124
  | .sample => 125
  | .groupConcat => 126
  | .pathLength => 140
  | .depth => 141
  | .index => 142
  | .similarity => 143
  | .graph => 144
  | .skolem => 145
  | .isSkolem => 146
  | .applyTemplates => 160
  | .callTemplate => 161
  | .turtle => 162
  | .format => 163
  | .newline => 164
  | .indent => 165
  | .display => 166
  | .cast => 200
  | .external => 201
  | .userFunction => 202
  | .star => 220
  | .plus => 221
  | .zeroOrOne => 222
  | .counted => 223
  | .sequence => 224
  | .alternative => 225
  | .inverse => 226
  | .negation => 227
  | .short => 228
  | .shortAll => 229
  | .all => 230
  | .distinctPaths => 231
  | .depthFirst => 232
  | .breadthFirst => 233

def label : Operator → String
  | .undefined => "Undef"
  | .and => "And"
  | .or => "Or"
  | .not => "Not"
  | .eq => "Eq"
  | .ne => "Ne"
  | .lt => "Lt"
  | .le => "Le"
  | .gt => "Gt"
  | .ge => "Ge"
  | .oneOf => "In"
  | .noneOf => "NotIn"
  | .add => "Add"
  | .sub => "Sub"
  | .mul => "Mult"
  | .div => "Div"
  | .bound => "Bound"
  | .isIri => "IsIri"
  | .isBlank => "IsBlank"
  | .isLiteral => "IsLiteral"
  | .isNumeric => "IsNumeric"
  | .str => "Str"
  | .lang => "Lang"
  | .datatype => "Datatype"
  | .iri => "Iri"
  | .blankNode => "BNode"
  | .strDatatype => "StrDt"
  | .strLang => "StrLang"
  | .langMatches => "LangMatches"
  | .sameTerm => "SameTerm"
  | .ifThenElse => "If"
  | .coalesce => "Coalesce"
  | .uuid => "Uuid"
  | .strUuid => "StrUuid"
  | .patternExists => "Exist"
  | .patternAbsent => "NotExist"
  | .strLength => "Strlen"
  | .substring => "Substr"
  | .upperCase => "Ucase"
  | .lowerCase => "Lcase"
  | .strStarts => "StrStarts"
  | .strEnds => "StrEnds"
  | .contains => "Contains"
  | .strBefore => "StrBefore"
  | .strAfter => "StrAfter"
  | .encodeForUri => "EncodeForUri"
  | .concat => "Concat"
  | .regex => "Regex"
  | .replace => "StrReplace"
  | .abs => "Abs"
  | .round => "Round"
  | .ceil => "Ceil"
  | .floor => "Floor"
  | .rand => "Rand"
  | .now => "Now"
  | .year => "Year"
  | .month => "Month"
  | .day => "Day"
  | .hours => "Hours"
  | .minutes => "Minutes"
  | .seconds => "Seconds"
  | .timezone => "Timezone"
  | .tz => "Tz"
  | .hash => "Hash"
  | .count => "Count"
  | .sum => "Sum"
  | .avg => "Avg"
  | .min => "Min"
  | .max => "Max"
  | .sample => "Sample"
  | .groupConcat => "GroupConcat"
  | .pathLength => "PathLength"
  | .depth => "Depth"
  | .index => "Index"
  | .similarity => "Similarity"
  | .graph => "Graph"
  | .skolem => "Skolem"
  | .isSkolem => "IsSkolem"
  | .applyTemplates => "ApplyTemplates"
  | .callTemplate => "CallTemplate"
  | .turtle => "Turtle"
  | .format => "Format"
  | .newline => "Nl"
  | .indent => "Indent"
  | .display => "Display"
  | .cast => "Cast"
  | .external => "External"
  | .userFunction => "Function"
  | .star => "Star"
  | .plus => "Plus"
  | .zeroOrOne => "ZeroOrOne"
  | .counted => "Counted"
  | .sequence => "Sequence"
  | .alternative => "Alternative"
  | .inverse => "Inverse"
  | .negation => "Negation"
  | .short => "Short"
  | .shortAll => "ShortAll"
  | .all => "All"
  | .distinctPaths => "PathDistinct"
  | .depthFirst => "DepthFirst"
  | .breadthFirst => "BreadthFirst"

/-- The printed name followed by the code, as in `Count(120)`. -/
def text (operator : Operator) : String := s!"{operator.label}({operator.code})"

def every : List Operator :=
  [.undefined, .and, .or, .not, .eq, .ne, .lt, .le, .gt, .ge, .oneOf, .noneOf, .add, .sub,
   .mul, .div, .bound, .isIri, .isBlank, .isLiteral, .isNumeric, .str, .lang, .datatype, .iri,
   .blankNode, .strDatatype, .strLang, .langMatches, .sameTerm, .ifThenElse, .coalesce, .uuid,
   .strUuid, .patternExists, .patternAbsent, .strLength, .substring, .upperCase, .lowerCase,
   .strStarts, .strEnds, .contains, .strBefore, .strAfter, .encodeForUri, .concat, .regex,
   .replace, .abs, .round, .ceil, .floor, .rand, .now, .year, .month, .day, .hours, .minutes,
   .seconds, .timezone, .tz, .hash, .count, .sum, .avg, .min, .max, .sample, .groupConcat,
   .pathLength, .depth, .index, .similarity, .graph, .skolem, .isSkolem, .applyTemplates,
   .callTemplate, .turtle, .format, .newline, .indent, .display, .cast, .external,
   .userFunction, .star, .plus, .zeroOrOne, .counted, .sequence, .alternative, .inverse,
   .negation, .short, .shortAll, .all, .distinctPaths, .depthFirst, .breadthFirst]

theorem mem_every (operator : Operator) : operator ∈ every := by
  cases operator <;> decide

def ofLabel? (label : String) : Option Operator := every.find? (·.label == label)

example : ofLabel? "Strlen" = some .strLength := by decide

end Operator

end Sparql
