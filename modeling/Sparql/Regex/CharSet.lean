import Sparql.Text.Blank
import Sparql.Text.Digit
import Sparql.Text.Word

/-!
Sets of characters as they are written, and what they hold.
-/

namespace Sparql.Regex

open Text (CodeRange)

/-! ## Letter case

Only letters of ASCII have variants, two of them beyond ASCII: the kelvin sign and the long s. -/

def caseVariants (c : Char) : List Char :=
  let lower :=
    match c with
    | '\u212A' => 'k'
    | '\u017F' => 's'
    | c => c.toLower
  let others :=
    match lower with
    | 'k' => ['\u212A']
    | 's' => ['\u017F']
    | _ => []
  lower :: lower.toUpper :: others

def asciiLetters : List Char := "abcdefghijklmnopqrstuvwxyz".toList

/-- A set of characters with all forms of the letters in it. -/
def withCaseVariants (ranges : List CodeRange) : List CodeRange :=
  asciiLetters.foldl
    (fun ranges letter =>
      let variants := caseVariants letter
      if variants.any fun c => CodeRange.holds ranges c.toNat then
        CodeRange.union (variants.map CodeRange.ofChar) ranges
      else ranges)
    ranges

example : withCaseVariants [⟨0x6B, 0x6C⟩] = [⟨0x4B, 0x4C⟩, ⟨0x6B, 0x6C⟩, ⟨0x212A, 0x212A⟩] := by
  decide

/-! ## Character sets -/

inductive SetOperator where
  | intersection | difference | symmetricDifference
  deriving DecidableEq, Repr

/-- A set as it is written. Brackets change nothing in it, and count only for the nesting. -/
inductive CharSet where
  | ranges (members : List CodeRange)
  | digit
  | word
  | blank
  | union (left right : CharSet)
  | combine (operator : SetOperator) (left right : CharSet)
  | complement (set : CharSet)
  | bracket (set : CharSet)
  deriving DecidableEq, Repr

namespace SetOperator

def holds : SetOperator → Bool → Bool → Bool
  | intersection, left, right => left && right
  | difference, left, right => left && !right
  | symmetricDifference, left, right => left != right

def ranges : SetOperator → List CodeRange → List CodeRange → List CodeRange
  | intersection, left, right => CodeRange.inter left right
  | difference, left, right => CodeRange.inter left (CodeRange.complement right)
  | symmetricDifference, left, right =>
    CodeRange.union (CodeRange.inter left (CodeRange.complement right))
      (CodeRange.inter right (CodeRange.complement left))

end SetOperator

namespace CharSet

def one (c : Char) : CharSet := ranges [CodeRange.ofChar c]

def range (first last : Char) : CharSet := ranges [CodeRange.ofChars first last]

def any : CharSet := complement (ranges [])

def withinLine : CharSet := complement (one '\n')

def holds : CharSet → Char → Bool
  | ranges members, c => members.any fun range => range.first ≤ c.toNat && c.toNat ≤ range.last
  | digit, c => Text.isDigit c
  | word, c => Text.isWord c
  | blank, c => Text.isBlank c
  | union left right, c => left.holds c || right.holds c
  | combine operator left right, c => operator.holds (left.holds c) (right.holds c)
  | complement set, c => !set.holds c
  | bracket set, c => set.holds c

/-- Membership up to letter case: a set holds a letter when it holds one of its forms. Sets are
combined after that, so that a complement holds what is left. -/
def holdsFolded : CharSet → Char → Bool
  | union left right, c => left.holdsFolded c || right.holdsFolded c
  | combine operator left right, c => operator.holds (left.holdsFolded c) (right.holdsFolded c)
  | complement set, c => !set.holdsFolded c
  | bracket set, c => set.holdsFolded c
  | set, c => (caseVariants c).any set.holds

example : (complement (one 'a')).holdsFolded 'A' = false := by decide

def members (folded : Bool) : CharSet → List CodeRange
  | ranges written =>
    let ranges := CodeRange.collect written
    if folded then withCaseVariants ranges else ranges
  | digit => Text.digitRanges
  | word => Text.wordRanges
  | blank => Text.blankRanges
  | union left right => CodeRange.union (left.members folded) (right.members folded)
  | combine operator left right => operator.ranges (left.members folded) (right.members folded)
  | complement set => CodeRange.complement (set.members folded)
  | bracket set => set.members folded

example : withinLine.members false = [⟨0, 9⟩, ⟨11, 0xD7FF⟩, ⟨0xE000, 0x10FFFF⟩] := by decide

/-! ## Nesting

Brackets and operators are levels, and so are two or more members. -/

def isUnion : CharSet → Bool
  | union _ _ => true
  | _ => false

def depth : CharSet → Nat
  | union left right => max (left.depth + if left.isUnion then 0 else 1) (right.depth + 1)
  | combine _ left right => max left.depth right.depth + 1
  | complement chars => chars.depth
  | bracket chars => chars.depth + 1
  | _ => 0

end CharSet

end Sparql.Regex
