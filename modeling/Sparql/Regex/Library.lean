import Sparql.Regex.Flags

/-!
The library that reads regular expressions. Which patterns it takes is up to the library. The flag
letters are read before it is asked, so that an unknown one is a fault whatever the pattern is.
-/

namespace Sparql.Regex

/-- A library, by what it answers. -/
structure Library where
  /-- Whether the text is a regular expression under the flags. -/
  parses : Flags → List Char → Bool
  /-- Whether a regular expression stays within the limits of nesting and of size. -/
  fits : Flags → List Char → Bool
  /-- What is said of a text that is not taken. The words follow `Invalid regex`, with a colon. -/
  complaint : Flags → List Char → String

namespace Library

def takes (library : Library) (flags : Flags) (pattern : List Char) : Bool :=
  library.parses flags pattern && library.fits flags pattern

/-- What is wrong with a pattern and its flag letters, if anything is. -/
def fault? (library : Library) (pattern : List Char) (flags : String) : Option Fault :=
  match Flags.read {} flags.toList with
  | .error fault => some fault
  | .ok letters =>
    if library.takes letters pattern then none
    else some (.malformed (library.complaint letters pattern))

end Library

end Sparql.Regex
