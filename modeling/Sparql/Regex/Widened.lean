/-!
Widening a pattern, so that a match of the whole text is a match of some part of it.
-/

namespace Sparql.Regex

def anything : List Char := ".*".toList

/-- Whether the pattern already says where a match starts. -/
def startsAnchored (pattern : List Char) : Bool :=
  "^".toList.isPrefixOf pattern || anything.isPrefixOf pattern

/-- Whether the pattern already says where a match ends. A dollar sign after a backslash is an
ordinary character. -/
def endsAnchored (pattern : List Char) : Bool :=
  ("$".toList.isSuffixOf pattern && !"\\$".toList.isSuffixOf pattern)
    || anything.isSuffixOf pattern

/-- The pattern with `.*` on each side where it is not anchored. -/
def widened (pattern : List Char) : List Char :=
  (if startsAnchored pattern then [] else anything) ++ pattern ++
    (if endsAnchored pattern then [] else anything)

example : widened "abc$".toList = ".*abc$".toList := rfl

example : widened "a\\$".toList = ".*a\\$.*".toList := rfl

end Sparql.Regex
