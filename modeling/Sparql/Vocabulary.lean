/-!
The vocabularies a query refers to: namespaces, the terms of RDF lists and literals, and the
families that the XML Schema datatypes fall into.
-/

namespace Sparql.Vocabulary

/-! ## Namespaces -/

def rdf : String := "http://www.w3.org/1999/02/22-rdf-syntax-ns#"

def rdfs : String := "http://www.w3.org/2000/01/rdf-schema#"

def xsd : String := "http://www.w3.org/2001/XMLSchema#"

def owl : String := "http://www.w3.org/2002/07/owl#"

/-- Names in this namespace are built-in functions written as IRIs. -/
def functions : String := "http://ns.inria.fr/sparql-function/"

/-- Names in this namespace are calls bound outside the query. -/
def extensions : String := "function://"

/-- The prefixes every query may use without declaring them. -/
def standardPrefixes : List (String × String) :=
  [("rdf", rdf), ("rdfs", rdfs), ("xsd", xsd), ("owl", owl), ("xt", functions)]

/-! ## Terms of RDF -/

def rdfFirst : String := "http://www.w3.org/1999/02/22-rdf-syntax-ns#first"

def rdfRest : String := "http://www.w3.org/1999/02/22-rdf-syntax-ns#rest"

def rdfNil : String := "http://www.w3.org/1999/02/22-rdf-syntax-ns#nil"

def langString : String := "http://www.w3.org/1999/02/22-rdf-syntax-ns#langString"

def xmlLiteral : String := "http://www.w3.org/1999/02/22-rdf-syntax-ns#XMLLiteral"

/-! ## Datatypes -/

def xsdString : String := "http://www.w3.org/2001/XMLSchema#string"

def xsdInteger : String := "http://www.w3.org/2001/XMLSchema#integer"

def xsdDecimal : String := "http://www.w3.org/2001/XMLSchema#decimal"

def xsdFloat : String := "http://www.w3.org/2001/XMLSchema#float"

def xsdDouble : String := "http://www.w3.org/2001/XMLSchema#double"

def xsdBoolean : String := "http://www.w3.org/2001/XMLSchema#boolean"

def xsdAnyUri : String := "http://www.w3.org/2001/XMLSchema#anyURI"

/-- `xsd:integer` and the datatypes derived from it that are told apart here. -/
def integerFamily : List String :=
  [xsdInteger,
   "http://www.w3.org/2001/XMLSchema#long",
   "http://www.w3.org/2001/XMLSchema#int",
   "http://www.w3.org/2001/XMLSchema#short",
   "http://www.w3.org/2001/XMLSchema#byte",
   "http://www.w3.org/2001/XMLSchema#nonNegativeInteger",
   "http://www.w3.org/2001/XMLSchema#positiveInteger"]

def stringFamily : List String :=
  [xsdString,
   "http://www.w3.org/2001/XMLSchema#normalizedString",
   "http://www.w3.org/2001/XMLSchema#token",
   "http://www.w3.org/2001/XMLSchema#language"]

def temporalFamily : List String :=
  ["http://www.w3.org/2001/XMLSchema#dateTime",
   "http://www.w3.org/2001/XMLSchema#date",
   "http://www.w3.org/2001/XMLSchema#time"]

def isInteger (datatype : String) : Bool := integerFamily.contains datatype

def isNumeric (datatype : String) : Bool :=
  isInteger datatype || [xsdDecimal, xsdFloat, xsdDouble].contains datatype

def isString (datatype : String) : Bool := stringFamily.contains datatype

def isTemporal (datatype : String) : Bool := temporalFamily.contains datatype

/-! A cast to a datatype is carried out by one of a few implementations, named by a marker. -/

/-- The implementation that a cast to `datatype` asks for. -/
def castImplementation (datatype : String) : String :=
  if isInteger datatype then "integer"
  else if datatype = xsdDecimal then "decimal"
  else if datatype = xsdDouble ∨ datatype = xsdFloat then "double"
  else if datatype = xsdBoolean then "boolean"
  else if isTemporal datatype then "datetime"
  else if datatype = xsdAnyUri then "uri"
  else if datatype = xmlLiteral then "xml"
  else if isString datatype then "string"
  else "literal"

example : castImplementation "http://www.w3.org/2001/XMLSchema#byte" = "integer" := by decide

example : castImplementation "http://www.w3.org/2001/XMLSchema#duration" = "literal" := by decide

end Sparql.Vocabulary
