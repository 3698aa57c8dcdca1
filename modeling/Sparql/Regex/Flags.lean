import Sparql.Text.Blank

/-!
The flags of a regular expression, and the gaps that they allow in its pattern.
-/

namespace Sparql.Regex

/-! ## Flags and faults -/

inductive Fault where
  | unknownFlag (flag : Char)
  | malformed (words : String)
  deriving DecidableEq, Repr

def Fault.message : Fault → String
  | unknownFlag flag => s!"Unknown regex flag: '{flag}'"
  | malformed words => s!"Invalid regex{words}"

structure Flags where
  ignoreCase : Bool := false
  multiLine : Bool := false
  dotAll : Bool := false
  extended : Bool := false
  deriving DecidableEq, Repr

/-- Read flag letters. The first unknown one is the fault. -/
def Flags.read (flags : Flags) : List Char → Except Fault Flags
  | [] => .ok flags
  | 'i' :: rest => { flags with ignoreCase := true }.read rest
  | 'm' :: rest => { flags with multiLine := true }.read rest
  | 's' :: rest => { flags with dotAll := true }.read rest
  | 'x' :: rest => { flags with extended := true }.read rest
  | flag :: _ => .error (.unknownFlag flag)

/-! ## Gaps

An extended pattern may have blanks and comments between its parts, which mean nothing. A comment
runs from `#` to the end of the line. -/

mutual
def skipBlanks : List Char → List Char
  | [] => []
  | '#' :: rest => skipComment rest
  | c :: rest => if Text.isBlank c then skipBlanks rest else c :: rest

def skipComment : List Char → List Char
  | [] => []
  | '\n' :: rest => skipBlanks rest
  | _ :: rest => skipComment rest
end

example : skipBlanks " # a comment\n b c".toList = "b c".toList := by decide

namespace Flags

def skipGap (flags : Flags) (text : List Char) : List Char :=
  if flags.extended then skipBlanks text else text

/-- The character that stands after a gap, for a look ahead. Of a comment only the `#` is passed
over, so that a comment may give its own first character. -/
def peekGap (flags : Flags) (text : List Char) : Option Char :=
  if flags.extended then
    match text.dropWhile Text.isBlank with
    | '#' :: comment => (comment.dropWhile Text.isBlank).head?
    | rest => rest.head?
  else text.head?

example : ({ extended := true } : Flags).peekGap " #] c\n-".toList = some ']' := by decide

end Flags

end Sparql.Regex
