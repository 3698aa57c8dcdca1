import Sparql.Numeral
import Sparql.Regex.Bracket
import Sparql.Regex.Library
import Sparql.Regex.Size

/-!
Reading a pattern. The pattern is first cut into tokens, and the tokens are then put together with
a stack of open groups. The library made of this is there to run queries with, and knows a part
of the syntax only: no flags and no names in a group, no character by its number and no class by its
name. About queries in general, it is one library among others.
-/

namespace Sparql.Regex

/-! ## Counts -/

def spacedDigits (flags : Flags) : (fuel : Nat) → List Char → List Char × List Char
  | 0, text => ([], text)
  | _, [] => ([], [])
  | fuel + 1, c :: rest =>
    if Numeral.isDigit c then
      let (digits, rest) := spacedDigits flags fuel (flags.skipGap rest)
      (c :: digits, rest)
    else ([], c :: rest)

/-- A number, which may have blanks around it in any pattern. -/
def count? (flags : Flags) (text : List Char) : Option (Nat × List Char) := do
  let text := text.dropWhile Text.isBlank
  let (digits, rest) := spacedDigits flags text.length text
  let n ← if digits.isEmpty then none else Numeral.count? digits
  return (n, rest.dropWhile Text.isBlank)

/-- The bounds of a counted repetition, from after its opening brace. -/
def counts? (flags : Flags) (text : List Char) : Option ((Nat × Option Nat) × List Char) := do
  let (least, rest) ← count? flags (flags.skipGap text)
  match rest with
  | '}' :: rest => return ((least, some least), rest)
  | ',' :: rest =>
    match flags.skipGap rest with
    | '}' :: rest => return ((least, none), rest)
    | rest =>
      let (most, rest) ← count? flags rest
      match rest with
      | '}' :: rest => if least ≤ most then return ((least, some most), rest) else none
      | _ => none
  | _ => none

example : counts? {} "2, 3\x7dx".toList = some ((2, some 3), ['x']) := by decide

example : counts? {} "3,2\x7d".toList = none := by decide

example : counts? { extended := true } "1 2, #\n\x7d".toList = some ((12, none), []) := by decide

/-! ## Tokens -/

inductive Token where
  | openGroup (captures : Bool)
  | closeGroup
  | bar
  | atom (regex : Regex)
  | times (least : Nat) (most : Option Nat)
  deriving DecidableEq, Repr

/-- A repetition may be marked as reluctant, which changes no answer of a search. The mark stands
right after the repetition. -/
def skipReluctant : List Char → List Char
  | '?' :: rest => rest
  | text => text

def Flags.atom (flags : Flags) (chars : CharSet) : Token :=
  .atom (.set flags.ignoreCase chars)

def token? (flags : Flags) : List Char → Option (Token × List Char)
  | [] => none
  | '(' :: rest =>
    match flags.skipGap rest with
    | '?' :: ':' :: rest => some (.openGroup false, rest)
    | '?' :: _ => none
    | _ => some (.openGroup true, rest)
  | ')' :: rest => some (.closeGroup, rest)
  | '|' :: rest => some (.bar, rest)
  | '[' :: rest => (set? flags rest).map fun (chars, rest) => (flags.atom chars, rest)
  | '*' :: rest => some (.times 0 none, skipReluctant rest)
  | '+' :: rest => some (.times 1 none, skipReluctant rest)
  | '?' :: rest => some (.times 0 (some 1), skipReluctant rest)
  | '{' :: rest =>
    (counts? flags rest).map fun ((least, most), rest) =>
      (.times least most, skipReluctant (flags.skipGap rest))
  | '.' :: rest => some (flags.atom (if flags.dotAll then .any else .withinLine), rest)
  | '^' :: rest =>
    some (.atom (.assertion (if flags.multiLine then .startLine else .startText)), rest)
  | '$' :: rest =>
    some (.atom (.assertion (if flags.multiLine then .endLine else .endText)), rest)
  | ['\\'] => none
  | '\\' :: c :: rest =>
    (escape? c).map fun
      | .literal c => (flags.atom (.one c), rest)
      | .chars held => (flags.atom held, rest)
      | .assertion kind => (.atom (.assertion kind), rest)
  | c :: rest => some (flags.atom (.one c), rest)

/-- The tokens of a pattern. The fuel bounds their number, which is no more than that of the
characters. -/
def tokens? (flags : Flags) (fuel : Nat) (text : List Char) : Option (List Token) :=
  match fuel, flags.skipGap text with
  | _, [] => some []
  | 0, _ => none
  | fuel + 1, text => do
    let (token, rest) ← token? flags text
    return token :: (← tokens? flags fuel rest)

/-! ## Groups -/

/-- A group being read: its finished branches, and the parts of the current one, last first. -/
structure Frame where
  captures : Bool := false
  branches : List Regex := []
  parts : List Regex := []

namespace Frame

def push (frame : Frame) (regex : Regex) : Frame := { frame with parts := regex :: frame.parts }

def endBranch (frame : Frame) : Frame :=
  { frame with branches := seqAll frame.parts.reverse :: frame.branches, parts := [] }

def toRegex (frame : Frame) : Regex :=
  match frame.endBranch.branches.reverse with
  | [] => empty
  | first :: rest => altAll first rest

def toGroup (frame : Frame) : Regex := .group frame.captures frame.toRegex

end Frame

/-- Put tokens together inside the open groups `outer`. Every group must be closed, and a
repetition needs something before it in its branch. -/
def assemble? (outer : List Frame) (current : Frame) : List Token → Option Regex
  | [] => if outer.isEmpty then some current.toRegex else none
  | .openGroup captures :: rest => assemble? (current :: outer) { captures } rest
  | .closeGroup :: rest =>
    match outer with
    | [] => none
    | frame :: outer => assemble? outer (frame.push current.toGroup) rest
  | .bar :: rest => assemble? outer current.endBranch rest
  | .atom regex :: rest => assemble? outer (current.push regex) rest
  | .times least most :: rest =>
    match current.parts with
    | [] => none
    | body :: parts => assemble? outer { current with parts := loop least most body :: parts } rest

def parse? (flags : Flags) (pattern : List Char) : Option Regex := do
  assemble? [] {} (← tokens? flags pattern.length pattern)

def maxDepth : Nat := 250

/-- Whether an expression is within the limits. The size counts only where the depth does not exceed
its own limit. -/
def withinLimits (regex : Regex) : Bool := regex.depth ≤ maxDepth && regex.fits

/-- Read a pattern and its flag letters. A fault of the flags comes first. -/
def read (pattern flags : String) : Except Fault Regex := do
  match parse? (← Flags.read {} flags.toList) pattern.toList with
  | some regex => if regex.withinLimits then return regex else throw (.malformed "")
  | none => throw (.malformed "")

/-- The library that queries are run with. -/
def Library.bundled : Library where
  parses flags pattern := (parse? flags pattern).isSome
  fits flags pattern := (parse? flags pattern).all withinLimits
  complaint _ _ := ""

end Sparql.Regex
