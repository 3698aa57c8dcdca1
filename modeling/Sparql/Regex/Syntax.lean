import Sparql.Regex.CharSet

/-!
Regular expressions as trees, and how deep they are nested.
-/

namespace Sparql

namespace Regex

/-! ## Assertions

An assertion holds at a place between two characters, and consumes nothing. -/

inductive Assertion where
  | startText | endText | startLine | endLine
  | wordBoundary | insideWord | startWord | endWord
  deriving DecidableEq, Repr

/-- Whether the assertion holds between the characters `before` and `after`. -/
def Assertion.holds (before after : Option Char) : Assertion → Bool
  | startText => before.isNone
  | endText => after.isNone
  | startLine => before.all (· == '\n')
  | endLine => after.all (· == '\n')
  | wordBoundary => before.any Text.isWord != after.any Text.isWord
  | insideWord => before.any Text.isWord == after.any Text.isWord
  | startWord => !before.any Text.isWord && after.any Text.isWord
  | endWord => before.any Text.isWord && !after.any Text.isWord

end Regex

/-! ## Expressions -/

/-- Every parenthesis is a `group`, so that a sequence or an alternation continues only in its
second part. -/
inductive Regex where
  | empty
  | set (folded : Bool) (chars : Regex.CharSet)
  | assertion (kind : Regex.Assertion)
  | group (captures : Bool) (body : Regex)
  | seq (first rest : Regex)
  | alt (first rest : Regex)
  /-- At least `least` times, and at most `most` times where there is a limit. -/
  | loop (least : Nat) (most : Option Nat) (body : Regex)
  deriving DecidableEq, Repr

namespace Regex

def seqAll : List Regex → Regex
  | [] => empty
  | [r] => r
  | r :: rest => seq r (seqAll rest)

/-- The first branch stands apart, since an alternation has at least one. -/
def altAll (first : Regex) : List Regex → Regex
  | [] => first
  | r :: rest => alt first (altAll r rest)

/-! ## Nesting

The levels of groups, loops, sequences and alternations around the innermost part are counted, and
those inside of a set. A sequence of many parts is one level. -/

def isSeq : Regex → Bool
  | seq _ _ => true
  | _ => false

def isAlt : Regex → Bool
  | alt _ _ => true
  | _ => false

def depth : Regex → Nat
  | set _ chars => chars.depth
  | group _ body => body.depth + 1
  | seq first rest => max (first.depth + 1) (rest.depth + if rest.isSeq then 0 else 1)
  | alt first rest => max (first.depth + 1) (rest.depth + if rest.isAlt then 0 else 1)
  | loop _ _ body => body.depth + 1
  | _ => 0

end Regex

end Sparql
