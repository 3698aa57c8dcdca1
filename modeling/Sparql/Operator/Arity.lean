import Sparql.Operator.Basic

/-!
How many arguments a call may have.
-/

namespace Sparql

/-- At least `least` arguments, and at most `most` where there is a limit. -/
structure Arity where
  least : Nat
  most : Option Nat
  deriving DecidableEq, Repr

namespace Arity

def exactly (n : Nat) : Arity := ⟨n, some n⟩

def between (least most : Nat) : Arity := ⟨least, some most⟩

def atLeast (least : Nat) : Arity := ⟨least, none⟩

def accepts (arity : Arity) (n : Nat) : Bool :=
  arity.least ≤ n && arity.most.all (n ≤ ·)

theorem accepts_exactly (n found : Nat) : (exactly n).accepts found = true ↔ found = n := by
  change (decide (n ≤ found) && decide (found ≤ n)) = true ↔ found = n
  simp only [Bool.and_eq_true, decide_eq_true_eq]
  omega

def text (arity : Arity) : String :=
  match arity.most with
  | some most => if most = arity.least then s!"{most}" else s!"{arity.least} to {most}"
  | none => s!"at least {arity.least}"

example : (between 2 3).text = "2 to 3" := by decide

end Arity

/-! The arity of an operator is a fact of the language, except for names that it does not define.
A cast holds three arguments once built: the value, the datatype and the implementation marker. -/

def Operator.arity? : Operator → Option Arity
  | .undefined | .external | .userFunction => none
  | .uuid | .strUuid | .patternExists | .patternAbsent | .rand | .now |
    .graph => some (.exactly 0)
  | .not | .bound | .isIri | .isBlank | .isLiteral | .isNumeric | .str |
    .lang | .datatype | .iri | .strLength | .upperCase | .lowerCase |
    .encodeForUri | .abs | .round | .ceil | .floor | .year | .month |
    .day | .hours | .minutes | .seconds | .timezone | .tz | .hash |
    .sum | .avg | .min | .max | .sample | .groupConcat | .pathLength |
    .depth | .index | .skolem | .isSkolem | .turtle | .indent | .display => some (.exactly 1)
  | .and | .or | .eq | .ne | .lt | .le | .gt | .ge | .mul | .div |
    .strDatatype | .strLang | .langMatches | .sameTerm | .strStarts |
    .strEnds | .contains | .strBefore | .strAfter => some (.exactly 2)
  | .ifThenElse | .cast => some (.exactly 3)
  | .blankNode | .count | .newline => some (.between 0 1)
  | .similarity => some (.between 0 2)
  | .add | .sub => some (.between 1 2)
  | .substring | .regex => some (.between 2 3)
  | .replace => some (.between 3 4)
  | .coalesce | .concat | .applyTemplates => some (.atLeast 0)
  | .oneOf | .noneOf | .callTemplate | .format | .star | .plus |
    .zeroOrOne | .counted | .inverse | .negation | .short | .shortAll |
    .all | .distinctPaths | .depthFirst | .breadthFirst => some (.atLeast 1)
  | .sequence | .alternative => some (.atLeast 2)

end Sparql
