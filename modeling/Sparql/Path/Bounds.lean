import Sparql.Numeral

/-!
How often a path step is repeated.
-/

namespace Sparql.Path

inductive Repetition where
  | once | star | plus | zeroOrOne | counted
  deriving DecidableEq, Repr

/-- From `least` to `most` steps. The largest count stands for no upper limit. -/
structure Bounds where
  least : Nat
  most : Nat
  repetition : Repetition
  deriving DecidableEq, Repr

namespace Bounds

def unlimited : Nat := Numeral.maxCount

def once : Bounds := ⟨1, 1, .once⟩

def star : Bounds := ⟨0, unlimited, .star⟩

def plus : Bounds := ⟨1, unlimited, .plus⟩

def zeroOrOne : Bounds := ⟨0, 1, .zeroOrOne⟩

def counted (least most : Nat) : Bounds := ⟨least, most, .counted⟩

def isPlus (bounds : Bounds) : Bool := bounds.repetition == .plus

def isCount (bounds : Bounds) : Bool := bounds.repetition == .counted

def isUnbounded (bounds : Bounds) : Bool := bounds.most == unlimited

def text (bounds : Bounds) : String :=
  match bounds.repetition with
  | .once => ""
  | .star => "*"
  | .plus => "+"
  | .zeroOrOne => "?"
  | .counted =>
    if bounds.isUnbounded then s!"\x7b{bounds.least},\x7d"
    else s!"\x7b{bounds.least},{bounds.most}\x7d"

example : (counted 2 5).text = "\x7b2,5\x7d" := by decide

example : (counted 2 unlimited).text = "\x7b2,\x7d" := by decide

end Bounds

end Sparql.Path
