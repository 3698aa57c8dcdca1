import Sparql.Regex.Flags
import Sparql.Regex.Syntax

/-!
Reading the sets of characters that stand between brackets, and the escapes that may stand in them
or alone.
-/

namespace Sparql.Regex

/-! ## Escapes -/

inductive Escape where
  | literal (c : Char)
  | chars (set : CharSet)
  | assertion (kind : Assertion)
  deriving DecidableEq, Repr

/-- The meaning of a character after a backslash. Punctuation stands for itself. -/
def escape? : Char → Option Escape
  | 'd' => some (.chars .digit)
  | 'D' => some (.chars (.complement .digit))
  | 'w' => some (.chars .word)
  | 'W' => some (.chars (.complement .word))
  | 's' => some (.chars .blank)
  | 'S' => some (.chars (.complement .blank))
  | 'n' => some (.literal '\n')
  | 't' => some (.literal '\t')
  | 'r' => some (.literal '\r')
  | 'f' => some (.literal '\x0C')
  | 'v' => some (.literal '\x0B')
  | 'a' => some (.literal '\x07')
  | 'A' => some (.assertion .startText)
  | 'z' => some (.assertion .endText)
  | 'b' => some (.assertion .wordBoundary)
  | 'B' => some (.assertion .insideWord)
  | '<' => some (.assertion .startWord)
  | '>' => some (.assertion .endWord)
  | c => if c.toNat < 0x80 && !c.isAlphanum then some (.literal c) else none

/-! ## Members -/

def member? : List Char → Option (Escape × List Char)
  | '\\' :: c :: rest => (escape? c).map (·, rest)
  | ['\\'] => none
  | c :: rest => some (.literal c, rest)
  | [] => none

namespace Escape

def set? : Escape → Option CharSet
  | literal c => some (.one c)
  | chars held => some held
  | assertion _ => none

/-- A range goes upwards from one character to another. -/
def range? : Escape → Escape → Option CharSet
  | literal first, literal last => if first ≤ last then some (.range first last) else none
  | _, _ => none

end Escape

/-- A member, or a range of two. A hyphen before a closing bracket or before another hyphen makes
no range. -/
def memberOrRange? (flags : Flags) (text : List Char) : Option (CharSet × List Char) := do
  let (first, rest) ← member? text
  match flags.skipGap rest with
  | '-' :: after =>
    if (flags.peekGap after).any fun c => c = ']' || c = '-' then return (← first.set?, rest)
    else
      let (last, rest) ← member? (flags.skipGap after)
      return (← first.range? last, rest)
  | _ => return (← first.set?, rest)

example : memberOrRange? {} "a-c]".toList = some (.range 'a' 'c', [']']) := by decide

example : memberOrRange? {} "a-]".toList = some (.one 'a', ['-', ']']) := by decide

/-- Sets of ASCII characters that have a name, as pairs of a first and a last character. -/
def namedSets : List (String × List (Char × Char)) :=
  [("alnum", [('0', '9'), ('A', 'Z'), ('a', 'z')]),
   ("alpha", [('A', 'Z'), ('a', 'z')]),
   ("ascii", [('\x00', '\x7F')]),
   ("blank", [('\t', '\t'), (' ', ' ')]),
   ("cntrl", [('\x00', '\x1F'), ('\x7F', '\x7F')]),
   ("digit", [('0', '9')]),
   ("graph", [('!', '~')]),
   ("lower", [('a', 'z')]),
   ("print", [(' ', '~')]),
   ("punct", [('!', '/'), (':', '@'), ('[', Char.ofNat 0x60), ('\x7B', '~')]),
   ("space", [('\t', '\r'), (' ', ' ')]),
   ("upper", [('A', 'Z')]),
   ("word", [('0', '9'), ('A', 'Z'), ('_', '_'), ('a', 'z')]),
   ("xdigit", [('0', '9'), ('A', 'F'), ('a', 'f')])]

def CharSet.negatedIf (negated : Bool) (chars : CharSet) : CharSet :=
  if negated then .complement chars else chars

/-- A set by its name, as in `[:alpha:]` or `[:^alpha:]`, from after its opening bracket. -/
def namedSet? : List Char → Option (CharSet × List Char)
  | ':' :: text =>
    let (negated, text) :=
      match text with
      | '^' :: rest => (true, rest)
      | _ => (false, text)
    match text.dropWhile (· != ':') with
    | ':' :: ']' :: rest =>
      (namedSets.lookup (String.ofList (text.takeWhile (· != ':')))).map fun pairs =>
        let named := CharSet.ranges (pairs.map fun (first, last) => .ofChars first last)
        (named.negatedIf negated, rest)
    | _ => none
  | _ => none

/-! ## Operators

The members of a set are joined, and operators are applied to what was joined, from left to
right. -/

/-- The operator at the start of the text, and the text after it. -/
def SetOperator.read? : List Char → Option (SetOperator × List Char)
  | '&' :: '&' :: rest => some (intersection, rest)
  | '-' :: '-' :: rest => some (difference, rest)
  | '~' :: '~' :: rest => some (symmetricDifference, rest)
  | _ => none

/-! ## Sets -/

/-- A set being read: the members since the last operator, and what stands before it. -/
structure OpenSet where
  negated : Bool
  before : Option (CharSet × SetOperator) := none
  members : Option CharSet := none

namespace OpenSet

def add (current : OpenSet) (chars : CharSet) : OpenSet :=
  let members :=
    match current.members with
    | none => chars
    | some members => .union members chars
  { current with members := some members }

def chars (current : OpenSet) : CharSet :=
  let members := current.members.getD (.ranges [])
  match current.before with
  | none => members
  | some (left, operator) => .combine operator left members

def operate (current : OpenSet) (operator : SetOperator) : OpenSet :=
  { negated := current.negated, before := some (current.chars, operator) }

def close (current : OpenSet) : CharSet := .bracket (current.chars.negatedIf current.negated)

/-- Take up hyphens at the start of a set, with gaps between them. -/
def addHyphens (flags : Flags) : (fuel : Nat) → OpenSet → List Char → OpenSet × List Char
  | fuel + 1, current, '-' :: rest =>
    addHyphens flags fuel (current.add (.one '-')) (flags.skipGap rest)
  | _, current, text => (current, text)

/-- Open a set from after its bracket. Hyphens at the start, and a closing bracket in their place,
stand for themselves. -/
def start (flags : Flags) (text : List Char) : OpenSet × List Char :=
  let text := flags.skipGap text
  let (negated, text) :=
    match text with
    | '^' :: rest => (true, flags.skipGap rest)
    | _ => (false, text)
  match text with
  | ']' :: rest => (({ negated } : OpenSet).add (.one ']'), rest)
  | text => addHyphens flags text.length { negated } text

/-- Read an open set up to its closing bracket. The fuel bounds the number of its parts, which are
no more than the characters. -/
def finish? (flags : Flags) : (fuel : Nat) → OpenSet → List Char → Option (CharSet × List Char)
  | 0, _, _ => none
  | fuel + 1, current, text =>
    match flags.skipGap text with
    | [] => none
    | ']' :: rest => some (current.close, rest)
    | '[' :: rest =>
      match namedSet? rest with
      | some (named, rest) => finish? flags fuel (current.add named) rest
      | none => do
        let (inner, rest) := start flags rest
        let (inner, rest) ← finish? flags fuel inner rest
        finish? flags fuel (current.add inner) rest
    | text =>
      match SetOperator.read? text with
      | some (operator, rest) => finish? flags fuel (current.operate operator) rest
      | none => do
        let (chars, rest) ← memberOrRange? flags text
        finish? flags fuel (current.add chars) rest

end OpenSet

def set? (flags : Flags) (text : List Char) : Option (CharSet × List Char) :=
  let (opened, rest) := OpenSet.start flags text
  opened.finish? flags (text.length + 1) rest

end Sparql.Regex
