/-!
Sets of characters as lists of ranges of code points. The lists are in order, with a gap between
any two of their ranges.
-/

namespace Sparql.Text

structure CodeRange where
  first : Nat
  last : Nat
  deriving DecidableEq, Repr

namespace CodeRange

def ofChar (c : Char) : CodeRange := ⟨c.toNat, c.toNat⟩

def ofChars (first last : Char) : CodeRange := ⟨first.toNat, last.toNat⟩

def surrogates : CodeRange := ⟨0xD800, 0xDFFF⟩

def holds : List CodeRange → Nat → Bool
  | [], _ => false
  | range :: rest, code => range.first ≤ code && (code ≤ range.last || holds rest code)

example : holds [⟨2, 3⟩, ⟨7, 9⟩] 8 = true := by decide

/-- Add a range to a list. It is joined with the ranges that it meets or touches. -/
def insert (range : CodeRange) : List CodeRange → List CodeRange
  | [] => [range]
  | next :: rest =>
    if range.last + 1 < next.first then range :: next :: rest
    else if next.last + 1 < range.first then next :: insert range rest
    else insert ⟨min range.first next.first, max range.last next.last⟩ rest

example : insert ⟨3, 6⟩ [⟨1, 1⟩, ⟨5, 5⟩, ⟨7, 8⟩] = [⟨1, 1⟩, ⟨3, 8⟩] := by decide

def union (left right : List CodeRange) : List CodeRange := left.foldr insert right

def collect (ranges : List CodeRange) : List CodeRange := union ranges []

/-- The codes from `start` on that stand in none of the ranges. -/
def gaps (start : Nat) : List CodeRange → List CodeRange
  | [] => if start ≤ 0x10FFFF then [⟨start, 0x10FFFF⟩] else []
  | range :: rest =>
    if start < range.first then ⟨start, range.first - 1⟩ :: gaps (range.last + 1) rest
    else gaps (range.last + 1) rest

def complement (ranges : List CodeRange) : List CodeRange := gaps 0 (insert surrogates ranges)

example : complement [⟨0, 9⟩, ⟨11, 0xD7FF⟩] = [⟨10, 10⟩, ⟨0xE000, 0x10FFFF⟩] := by decide

def inter (left right : List CodeRange) : List CodeRange :=
  complement (union (complement left) (complement right))

example : inter [⟨1, 5⟩, ⟨8, 9⟩] [⟨4, 8⟩] = [⟨4, 5⟩, ⟨8, 8⟩] := by decide

end CodeRange

end Sparql.Text
