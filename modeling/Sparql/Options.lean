/-!
What the author of a query may choose about how it is treated.
-/

namespace Sparql

/-- How property paths are evaluated: by path algebra, where an inverted path keeps its inverse
operator, or by walking edges, where the mode of the path tells the direction. -/
inductive PathSemantics where
  | algebra
  | edgeWalk
  deriving DecidableEq, Repr

structure Options where
  /-- Whether the first error stops the work. -/
  strict : Bool := false
  pathSemantics : PathSemantics := .algebra
  /-- Whether literal regular expressions are read when their call is built. -/
  prepareRegexes : Bool := true
  deriving DecidableEq, Repr

end Sparql
