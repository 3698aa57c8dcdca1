import Sparql.Text.Cut
import Sparql.Vocabulary

/-!
Prefixes and the base of a query, and the full IRIs that prefixed names and relative IRIs stand
for.
-/

namespace Sparql

/-! ## Declared prefixes -/

structure PrefixMap where
  base : Option String := none
  declared : List (String × String) := []
  deriving DecidableEq, Repr

namespace PrefixMap

def standard : PrefixMap := { declared := Vocabulary.standardPrefixes }

def declare (map : PrefixMap) (label iri : String) : PrefixMap :=
  { map with declared := (label, iri) :: map.declared }

def get? (map : PrefixMap) (label : String) : Option String := map.declared.lookup label

@[simp] theorem get?_declare (map : PrefixMap) (label iri other : String) :
    (map.declare label iri).get? other = if other = label then some iri else map.get? other := by
  by_cases equal : other = label
  · simp [declare, get?, equal]
  · simp [declare, get?, List.lookup_cons, beq_eq_false_iff_ne.2 equal, equal]

def expand? (map : PrefixMap) (label localName : String) : Option String :=
  (map.get? label).map (· ++ localName)

def resolve (map : PrefixMap) (iri : String) : String :=
  match map.base with
  | some base => if ':' ∈ iri.toList then iri else base ++ iri
  | none => iri

end PrefixMap

/-! ## Resolving names

A query either has a prefix map or leaves every name as it is written. -/

inductive Namespaces where
  | declared (map : PrefixMap)
  | asWritten
  deriving DecidableEq, Repr

namespace Namespaces

def expand? : Namespaces → (label localName : String) → Option String
  | declared map => map.expand?
  | asWritten => fun _ _ => none

def resolve : Namespaces → String → String
  | declared map => map.resolve
  | asWritten => id

end Namespaces

/-- The prefix and the local name of a prefixed name. A name with `://` in it is an IRI. -/
def splitName? (name : String) : Option (String × String) :=
  if Text.occurs "://".toList name.toList then none
  else (Text.cutFirst? ':' name.toList).map fun (label, localName) =>
    (String.ofList label, String.ofList localName)

def unbracket? (name : String) : Option String :=
  (Text.unbracket? name.toList).map String.ofList

/-- The name of a datatype within its namespace, which ends in `#`. -/
def datatypeName? (datatype : String) : Option String :=
  (Text.cutLast? '#' datatype.toList).map fun (_, name) => String.ofList name

example : splitName? ":name" = some ("", "name") := by decide

example : splitName? "function://a.b" = none := by decide

end Sparql
