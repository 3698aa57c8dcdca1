import Sparql.Text.Blank
import Sparql.Text.Cut
import Sparql.Vocabulary

/-!
The text of numbers: the three kinds of unquoted numeric literal, and the counts written in a
bounded repetition.
-/

namespace Sparql.Numeral

/-! ## Digits -/

def isDigit (c : Char) : Bool := '0' ≤ c && c ≤ '9'

def isDigits (text : List Char) : Bool := !text.isEmpty && text.all isDigit

def unsigned : List Char → List Char
  | '+' :: rest => rest
  | '-' :: rest => rest
  | text => text

def leadingDigits (text : List Char) : List Char × List Char :=
  (text.takeWhile isDigit, text.dropWhile isDigit)

/-! ## Floating-point numbers -/

def isExponent : List Char → Bool
  | mark :: rest => (mark == 'e' || mark == 'E') && isDigits (unsigned rest)
  | [] => false

/-- Digits with at most one point before, after or between them, and then perhaps an exponent. -/
def isNumber (text : List Char) : Bool :=
  match leadingDigits text with
  | (whole, '.' :: rest) =>
    let (fraction, rest) := leadingDigits rest
    !(whole.isEmpty && fraction.isEmpty) && (rest.isEmpty || isExponent rest)
  | (whole, rest) => !whole.isEmpty && (rest.isEmpty || isExponent rest)

def isNonfinite (text : List Char) : Bool :=
  text.map Char.toLower ∈ ["inf".toList, "infinity".toList, "nan".toList]

/-- What can be read as a floating-point number. It may have one sign. -/
def isFloat (text : List Char) : Bool :=
  isNonfinite (unsigned text) || isNumber (unsigned text)

/-! ## Literals -/

/-- The datatype of an unquoted number. One with an exponent is a double, if it can be read as a
floating-point number. Any other one is an integer, or is cut at its first point to be a decimal. -/
def datatype? (text : List Char) : Option String :=
  let body := unsigned text
  if body.isEmpty then none
  else if body.any (fun c => c == 'e' || c == 'E') then
    if isFloat text then some Vocabulary.xsdDouble else none
  else
    match Text.cutFirst? '.' body with
    | none => if body.all isDigit then some Vocabulary.xsdInteger else none
    | some (whole, fraction) =>
      if whole.all isDigit && isDigits fraction then some Vocabulary.xsdDecimal else none

example : datatype? "-7".toList = some Vocabulary.xsdInteger := by decide

example : datatype? ".5".toList = some Vocabulary.xsdDecimal := by decide

example : datatype? "1.e+9".toList = some Vocabulary.xsdDouble := by decide

example : datatype? "1.".toList = none := by decide

/-! ## Counts -/

/-- The number written by digits, most significant first. -/
def value (digits : List Char) : Nat :=
  digits.foldl (fun total c => total * 10 + (c.toNat - '0'.toNat)) 0

/-- The largest count. Where a repetition has no written maximum this value stands for it. -/
def maxCount : Nat := 4294967295

/-- A count: digits after an optional plus sign, with a value of at most `maxCount`. -/
def count? (text : List Char) : Option Nat :=
  let digits :=
    match text with
    | '+' :: rest => rest
    | _ => text
  if isDigits digits && value digits ≤ maxCount then some (value digits) else none

example : count? "+012".toList = some 12 := by decide

example : count? "4294967296".toList = none := by decide

end Sparql.Numeral
