import Sparql.Expr.Basic
import Sparql.Regex.Reader

/-!
Searching text for a match. The search keeps the list of everything that may still have to be
matched, one entry per way to get where it is, and moves all of them over each character.
-/

namespace Sparql

namespace Regex

/-! ## Matching nothing -/

/-- Whether the expression matches the empty text between `before` and `after`. -/
def nullable (before after : Option Char) : Regex → Bool
  | empty => true
  | set _ _ => false
  | assertion kind => kind.holds before after
  | group _ body => body.nullable before after
  | seq first rest => first.nullable before after && rest.nullable before after
  | alt first rest => first.nullable before after || rest.nullable before after
  | loop least _ body => least == 0 || body.nullable before after

/-! ## Moving over one character -/

abbrev Remainder := List Regex

/-- The remainders of the expression after the character `c`, which follows `before`. A turn of a
loop that can match nothing here stands for all the turns it still owes. -/
def moves (before : Option Char) (c : Char) : Regex → List Remainder
  | empty => []
  | set folded chars => if (if folded then chars.holdsFolded c else chars.holds c) then [[]] else []
  | assertion _ => []
  | group _ body => body.moves before c
  | seq first rest =>
    (first.moves before c).map (· ++ [rest]) ++
      (if first.nullable before (some c) then rest.moves before c else [])
  | alt first rest => first.moves before c ++ rest.moves before c
  | loop least most body =>
    if most = some 0 then []
    else
      let least := if body.nullable before (some c) then 0 else least - 1
      (body.moves before c).map (· ++ [loop least (most.map (· - 1)) body])

namespace Remainder

def nullable (before after : Option Char) (remainder : Remainder) : Bool :=
  remainder.all (Regex.nullable before after)

def moves (before : Option Char) (c : Char) : Remainder → List Remainder
  | [] => []
  | first :: rest =>
    (first.moves before c).map (· ++ rest) ++
      (if first.nullable before (some c) then Remainder.moves before c rest else [])

end Remainder

/-! ## Searching -/

/-- Whether a match that has begun, or begins later, ends somewhere in the text. -/
def searchFrom (regex : Regex) (before : Option Char) (begun : List Remainder) :
    List Char → Bool
  | [] => ([regex] :: begun).any (Remainder.nullable before none)
  | c :: rest =>
    let live := [regex] :: begun
    live.any (Remainder.nullable before (some c)) ||
      searchFrom regex (some c) (live.flatMap (Remainder.moves before c)).eraseDups rest

/-- Whether the expression matches some part of the text. -/
def search (regex : Regex) (text : String) : Bool := searchFrom regex none [] text.toList

end Regex

/-- The expression that was read when the call was built. -/
def PreparedRegex.regex (prepared : PreparedRegex) : Regex :=
  (Regex.read prepared.source prepared.flags).toOption.getD .empty

end Sparql
