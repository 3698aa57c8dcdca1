import Sparql.Regex.Syntax

/-!
Regular expressions in a reduced form, from which the automaton of a search is laid out. Reducing an
expression joins neighbouring literals, drops what matches nothing but the empty text where that
changes nothing, and takes out what all branches of an alternation begin with.
-/

namespace Sparql.Regex

open Text (CodeRange)

/-- Groups are those that capture. As in `Regex`, a sequence or an alternation continues only in
its second part. -/
inductive Reduced where
  | empty
  | literal (chars : List Char)
  | set (ranges : List CodeRange)
  | assertion (kind : Assertion)
  | group (body : Reduced)
  | seq (first rest : Reduced)
  | alt (first rest : Reduced)
  | loop (least : Nat) (most : Option Nat) (body : Reduced)
  deriving DecidableEq, Repr

namespace Reduced

/-! ## Properties -/

def isZeroWidth : Reduced → Bool
  | empty | assertion _ => true
  | literal _ | set _ => false
  | group body | loop _ _ body => body.isZeroWidth
  | seq first rest | alt first rest => first.isZeroWidth && rest.isZeroWidth

/-- The least number of characters of a match. A set without members leaves it open. -/
def leastLength? : Reduced → Option Nat
  | empty | assertion _ => some 0
  | literal chars => some chars.length
  | set ranges => if ranges.isEmpty then none else some 1
  | group body => body.leastLength?
  | seq first rest => return (← first.leastLength?) + (← rest.leastLength?)
  | alt first rest => return min (← first.leastLength?) (← rest.leastLength?)
  | loop least _ body => return (← body.leastLength?) * least

def consumes (regex : Reduced) : Bool := regex.leastLength?.any (0 < ·)

/-- Whether every match has to start at the start of the text. -/
def startsText : Reduced → Bool
  | assertion kind => kind = .startText
  | group body => body.startsText
  | seq first rest => first.startsText || (first.isZeroWidth && rest.startsText)
  | alt first rest => first.startsText && rest.startsText
  | loop least _ body => 0 < least && body.startsText
  | _ => false

/-- Whether every match has to end at the end of the text. -/
def endsText : Reduced → Bool
  | assertion kind => kind = .endText
  | group body => body.endsText
  | seq first rest => rest.endsText || (rest.isZeroWidth && first.endsText)
  | alt first rest => first.endsText && rest.endsText
  | loop least _ body => 0 < least && body.endsText
  | _ => false

def weight : Reduced → Nat
  | group body | loop _ _ body => body.weight + 1
  | seq first rest | alt first rest => first.weight + rest.weight + 1
  | _ => 1

def captures : Reduced → Bool
  | group _ => true
  | seq first rest | alt first rest => first.captures || rest.captures
  | loop _ _ body => body.captures
  | _ => false

/-- Two groups at different places capture different texts, and so are never the same. -/
def same (left right : Reduced) : Bool := left = right && !left.captures

/-! ## Sets and loops -/

def ofRanges : List CodeRange → Reduced
  | [range] =>
    if range.first = range.last then literal [Char.ofNat range.first] else set [range]
  | ranges => set ranges

/-- What matches only the empty text needs no second turn, and one turn needs no loop. -/
def times (body : Reduced) (least : Nat) (most : Option Nat) : Reduced :=
  let (least, most) :=
    if body.isZeroWidth then (min least 1, some ((most.map (min 1)).getD 1)) else (least, most)
  if most = some 0 then empty
  else if least = 1 && most = some 1 then body
  else loop least most body

example : times empty 0 none = loop 0 (some 1) empty := rfl

/-! ## Sequences -/

def parts : Reduced → List Reduced
  | empty => []
  | seq first rest => first :: rest.parts
  | regex => [regex]

def ofParts : List Reduced → Reduced
  | [] => empty
  | [part] => part
  | part :: rest => seq part (ofParts rest)

/-- Put a part in front of others. A literal is joined with a literal after it. -/
def putBefore : Reduced → List Reduced → List Reduced
  | literal first, literal second :: rest => literal (first ++ second) :: rest
  | part, rest => part :: rest

def concat (regexes : List Reduced) : Reduced :=
  ofParts ((regexes.flatMap parts).foldr putBefore [])

example : concat [literal ['a'], empty, seq (literal ['b']) (set [])] =
    seq (literal ['a', 'b']) (set []) := rfl

/-! ## Alternations -/

def branches : Reduced → List Reduced
  | alt first rest => first :: rest.branches
  | regex => [regex]

def ofBranches : List Reduced → Reduced
  | [] => set []
  | [branch] => branch
  | branch :: rest => alt branch (ofBranches rest)

/-- The characters of a branch that is a literal of one character. -/
def single? : Reduced → Option (List CodeRange)
  | literal [c] => some [CodeRange.ofChar c]
  | _ => none

def set? : Reduced → Option (List CodeRange)
  | set ranges => some ranges
  | _ => none

/-- The one set that stands for all branches, when these are all single characters or all sets. -/
def joint? (branches : List Reduced) : Option (List CodeRange) :=
  (branches.mapM single? <|> branches.mapM set?).map (List.foldr CodeRange.union [])

def sequence? : Reduced → Option (List Reduced)
  | seq first rest => some (first :: rest.parts)
  | _ => none

def shared : List Reduced → List Reduced → List Reduced
  | left :: lefts, right :: rights => if left.same right then left :: shared lefts rights else []
  | _, _ => []

/-- What all branches begin with, and the remainders of the branches. -/
def commonStart? (branches : List Reduced) : Option (List Reduced × List Reduced) := do
  match ← branches.mapM sequence? with
  | [] => none
  | first :: rest =>
    match rest.foldl shared first with
    | [] => none
    | start =>
      let remainders := (first :: rest).map fun parts => concat (parts.drop start.length)
      return (start, remainders)

/-- An alternation of branches. The fuel bounds how often a common start is taken out, each time of
fewer nodes. -/
def chooseWithin (fuel : Nat) (regexes : List Reduced) : Reduced :=
  match fuel, regexes.flatMap branches with
  | _, [branch] => branch
  | 0, branches => ofBranches branches
  | fuel + 1, branches =>
    match joint? branches with
    | some ranges => ofRanges ranges
    | none =>
      match commonStart? branches with
      | some (start, remainders) => concat (start ++ [chooseWithin fuel remainders])
      | none => ofBranches branches

def choose (branches : List Reduced) : Reduced :=
  chooseWithin (branches.foldl (· + ·.weight) 1) branches

example : choose [literal ['a'], literal ['b']] = set [⟨0x61, 0x62⟩] := by decide

example : choose [seq (set []) (literal ['a']), seq (set []) (literal ['b'])] =
    seq (set []) (set [⟨0x61, 0x62⟩]) := by decide

end Reduced

/-! ## Reducing -/

/-- The branches of an expression, each of them reduced. -/
def reducedBranches : Regex → List Reduced
  | empty => [.empty]
  | set folded chars => [.ofRanges (chars.members folded)]
  | assertion kind => [.assertion kind]
  | group captures body =>
    let body := Reduced.choose body.reducedBranches
    [if captures then .group body else body]
  | seq first rest => [.concat [.choose first.reducedBranches, .choose rest.reducedBranches]]
  | alt first rest => .choose first.reducedBranches :: rest.reducedBranches
  | loop least most body => [.times (.choose body.reducedBranches) least most]

def reduced (regex : Regex) : Reduced := .choose regex.reducedBranches

end Sparql.Regex
