/-!
Plain values, in which the small types of the library are written down and read back.
-/

namespace Sparql.Wire

inductive Value where
  | null
  | bool (b : Bool)
  | natural (n : Nat)
  /-- A number that is not a natural number. -/
  | otherNumber
  | string (s : String)
  | list (items : List Value)
  | object (fields : List (String × Value))

namespace Value

def string? : Value → Option String
  | string s => some s
  | _ => none

def bool? : Value → Option Bool
  | bool b => some b
  | _ => none

def natural? : Value → Option Nat
  | natural n => some n
  | _ => none

def fields? : Value → Option (List (String × Value))
  | object fields => some fields
  | _ => none

end Value

/-! ## Fields

A reader looks only at the fields that it knows. A field that is there must be well formed. -/

abbrev Fields := List (String × Value)

namespace Fields

variable {α : Type}

def required (fields : Fields) (key : String) (read : Value → Option α) : Option α :=
  (fields.lookup key).bind read

def withDefault (fields : Fields) (key : String) (read : Value → Option α) (default : α) :
    Option α :=
  match fields.lookup key with
  | none => some default
  | some value => read value

def optional (fields : Fields) (key : String) (read : Value → Option α) : Option (Option α) :=
  match fields.lookup key with
  | none | some .null => some none
  | some value => (read value).map some

end Fields

end Sparql.Wire
