import Sparql.Regex.Layout
import Sparql.Text.Utf8

/-!
Laying out an alternation of texts: a tree, in which texts share their beginnings. Where a text
ends, its place in the order of the branches is kept, and what follows in the list begins anew.
-/

namespace Sparql.Regex.Layout

def encoded (chars : List Char) : List Nat := chars.flatMap fun c => Text.utf8 c.toNat

def betweenEmpty : List (List Nat) → List (List (List Nat))
  | [] => [[]]
  | [] :: rest => [] :: betweenEmpty rest
  | text :: rest =>
    match betweenEmpty rest with
    | [] => [[text]]
    | texts :: more => (text :: texts) :: more

example : betweenEmpty [[1], [2], [], [1]] = [[[1], [2]], [[1]]] := rfl

/-- What follows the first byte in the texts, for each first byte. -/
def afterFirst (texts : List (List Nat)) : List (List (List Nat)) :=
  (texts.filterMap List.head?).eraseDups.map fun byte =>
    texts.filterMap fun text => if text.head? = some byte then some text.tail else none

example : afterFirst [[1, 2], [3], [1]] = [[[2], []], [[]]] := by decide

/-- A state that reads a byte keeps its edges apart when there is more than one. -/
def reading (choices : Nat) : Footprint :=
  { states := 1, edges := if choices = 1 then 0 else 8 * choices }

/-- A tree for texts of which one is not empty. Its root is a fork, with edges to the states that
read and an edge for each text that ends. No text is longer than `length`. -/
def tree : (length : Nat) → List (List Nat) → Footprint
  | 0, _ => {}
  | length + 1, texts =>
    let texts :=
      match texts with
      | [] :: rest => [] :: rest.dropWhile List.isEmpty
      | texts => texts
    let lists := betweenEmpty texts
    let choices := (lists.map afterFirst).filter (!·.isEmpty)
    let ends := lists.length - 1
    let root : Footprint := { states := 1, edges := 4 * (choices.length + ends) }
    let readers := choices.map fun choice => reading choice.length
    let subtrees := (choices.flatten.filter fun rest => !rest.all List.isEmpty).map (tree length)
    (readers ++ subtrees).foldl (· + ·) root

example : tree 2 [[1, 2], [1, 3]] = { states := 4, edges := 24 } := by decide

def texts (direction : Direction) (texts : List (List Char)) : Layout Ending :=
  let texts := texts.map encoded
  let texts := if direction = .backward then texts.map List.reverse else texts
  let length := texts.foldl (fun length text => max length text.length) 0
  plain (tree length texts + { states := 1 })

end Sparql.Regex.Layout
