import Sparql.Operator.Basic
import Sparql.Text.Cut
import Sparql.Text.Lowercase
import Sparql.Vocabulary

/-!
Finding the operator that a name stands for. Names are listed in lower case and looked up in lower
case; namespaces are recognised up to ASCII letter case.
-/

namespace Sparql.Operator

/-! ## Built-in names -/

def builtins : List (String × Operator) :=
  [("&&", .and), ("and", .and), ("||", .or), ("or", .or), ("!", .not), ("not", .not),
   ("=", .eq), ("!=", .ne), ("<", .lt), ("<=", .le), (">", .gt), (">=", .ge), ("in", .oneOf),
   ("not in", .noneOf), ("notin", .noneOf), ("+", .add), ("-", .sub), ("*", .mul), ("/", .div),
   ("bound", .bound), ("isiri", .isIri), ("isuri", .isIri), ("isblank", .isBlank),
   ("isliteral", .isLiteral), ("isnumeric", .isNumeric), ("str", .str), ("lang", .lang),
   ("datatype", .datatype), ("iri", .iri), ("uri", .iri), ("bnode", .blankNode),
   ("strdt", .strDatatype), ("strlang", .strLang), ("langmatches", .langMatches),
   ("sameterm", .sameTerm), ("if", .ifThenElse), ("coalesce", .coalesce), ("uuid", .uuid),
   ("struuid", .strUuid), ("exists", .patternExists), ("not exists", .patternAbsent),
   ("strlen", .strLength), ("substr", .substring), ("ucase", .upperCase),
   ("lcase", .lowerCase), ("strstarts", .strStarts), ("strends", .strEnds),
   ("contains", .contains), ("strbefore", .strBefore), ("strafter", .strAfter),
   ("encode_for_uri", .encodeForUri), ("concat", .concat), ("regex", .regex),
   ("replace", .replace), ("abs", .abs), ("round", .round), ("ceil", .ceil), ("floor", .floor),
   ("rand", .rand), ("now", .now), ("year", .year), ("month", .month), ("day", .day),
   ("hours", .hours), ("minutes", .minutes), ("seconds", .seconds), ("timezone", .timezone),
   ("tz", .tz), ("md5", .hash), ("sha1", .hash), ("sha256", .hash), ("sha384", .hash),
   ("sha512", .hash), ("count", .count), ("sum", .sum), ("avg", .avg), ("min", .min),
   ("max", .max), ("sample", .sample), ("group_concat", .groupConcat),
   ("pathlength", .pathLength), ("depth", .depth), ("index", .index),
   ("similarity", .similarity), ("graph", .graph), ("skolem", .skolem),
   ("isskolem", .isSkolem), ("apply-templates", .applyTemplates),
   ("call-template", .callTemplate), ("turtle", .turtle), ("format", .format),
   ("nl", .newline), ("indent", .indent), ("display", .display)]

def builtin? (name : String) : Option Operator :=
  builtins.lookup (String.ofList (Text.lower name.toList))

/-! ## Names in a namespace -/

def local? (space name : String) : Option String :=
  (Text.dropStart? space.toList name.toList).map String.ofList

/-- The operator that a name stands for: a built-in by its plain name or by its IRI, a cast for an
IRI of a datatype namespace, an external call, or else a name without a meaning of its own. -/
def ofName (name : String) : Operator :=
  match builtin? name with
  | some operator => operator
  | none =>
    match (local? Vocabulary.functions name).bind builtin? with
    | some operator => operator
    | none =>
      if (local? Vocabulary.xsd name).isSome || (local? Vocabulary.rdf name).isSome then .cast
      else if (local? Vocabulary.extensions name).isSome then .external
      else .undefined

/-! ## Digests -/

def digests : List (String × String) :=
  [("md5", "MD5"), ("sha1", "SHA-1"), ("sha256", "SHA-256"), ("sha384", "SHA-384"),
   ("sha512", "SHA-512")]

/-- The digest algorithm that a hash function computes. -/
def digest? (name : String) : Option String :=
  let plain := (local? Vocabulary.functions name).getD name
  digests.lookup (String.ofList (Text.lower plain.toList))

/-! ## Path operators -/

def pathSymbols : List (String × Operator) :=
  [("*", .star), ("+", .plus), ("?", .zeroOrOne), ("/", .sequence), ("|", .alternative),
   ("^", .inverse), ("!", .negation), ("short", .short), ("shortall", .shortAll), ("all", .all),
   ("distinct", .distinctPaths), ("depth", .depthFirst), ("breadth", .breadthFirst)]

def ofPathSymbol? (symbol : String) : Option Operator :=
  pathSymbols.lookup (String.ofList (Text.lower symbol.toList))

end Sparql.Operator
