import Sparql.Regex.Layout
import Sparql.Text.Utf8

/-!
Laying out sets of characters. A set of ASCII characters takes one state that reads a byte and one
after it. For other sets the encodings of the members are laid out. Forwards, states are joined
where the same bytes may follow. Backwards, the encodings leave from one fork, and steps are shared
only between neighbours that begin with the same bytes.
-/

namespace Sparql.Regex.Layout

open Text (CodeRange ByteRange)

/-! ## Forwards -/

/-- Sequences by the first byte. Neighbours with the same first byte come together. -/
def byFirst : List (List ByteRange) → List (ByteRange × List (List ByteRange))
  | [] => []
  | [] :: rest => byFirst rest
  | (range :: bytes) :: rest =>
    match byFirst rest with
    | [] => [(range, [bytes])]
    | (next, others) :: more =>
      if next = range then (range, bytes :: others) :: more
      else (range, [bytes]) :: (next, others) :: more

/-- The sequences, and what remains of them after each beginning that is not a whole sequence. No
sequence is longer than `length`. -/
def remainders : (length : Nat) → List (List ByteRange) → List (List (List ByteRange))
  | 0, _ => []
  | length + 1, sequences =>
    sequences :: (byFirst sequences).flatMap fun (_, rest) =>
      if rest = [[]] then [] else remainders length rest

/-- One state for each remainder, with an edge for each byte that may follow, and a last state. -/
def joined (sequences : List (List ByteRange)) : Footprint :=
  (remainders 4 sequences).eraseDups.foldl
    (fun footprint rest => footprint + { states := 1, edges := 8 * (byFirst rest).length })
    { states := 1 }

example : joined (CodeRange.sequences ⟨0x80, 0x8FF⟩) = { states := 4, edges := 32 } := by decide

/-! ## Backwards -/

/-- A state that reads one byte backwards. Steps to be shared are kept in a table of a thousand
places, where a new one puts out the one before. -/
structure Step where
  range : ByteRange
  state : Nat
  place : Nat
  kept : Bool := true
  deriving DecidableEq, Repr

namespace Step

/-- The place of a step by a hash of the state after it and of the bytes that it reads. -/
def placeOf (next : Nat) (range : ByteRange) : Nat :=
  let mix (hash : UInt64) (n : Nat) : UInt64 := (hash ^^^ n.toUInt64) * 1099511628211
  (mix (mix (mix 14695981039346656037 next) range.first) range.last % 1000).toNat

def putOutAt (place : Nat) (step : Step) : Step :=
  if step.place = place then { step with kept := false } else step

/-- The steps that a sequence shares with the one before it, and the bytes that are left. -/
def share : List Step → List ByteRange → List Step × List ByteRange
  | step :: steps, range :: bytes =>
    if step.kept && step.range = range then
      let (shared, bytes) := share steps bytes
      (step :: shared, bytes)
    else ([], range :: bytes)
  | _, bytes => ([], bytes)

/-- Add steps for the bytes that are left. They get the states from `state` on. -/
def extend (last state : Nat) : List Step → List ByteRange → List Step
  | steps, [] => steps
  | steps, range :: bytes =>
    let place := placeOf ((steps.getLast?.map Step.state).getD last) range
    extend last (state + 1) (steps.map (putOutAt place) ++ [{ range, state, place }]) bytes

end Step

/-- Lay out sequences after one another, from the steps of the sequence before. An edge of the fork
leads to each. -/
def sequences (last : Nat) : List Step → List (List ByteRange) → Layout Unit
  | _, [] => pure ()
  | before, sequence :: rest => do
    let (shared, bytes) := Step.share before sequence
    let steps := Step.extend last (← get).states shared bytes
    add { states := bytes.length, edges := 4 }
    sequences last steps rest

def separate (encodings : List (List ByteRange)) : Layout Ending := do
  let last := (← get).states + 1
  add { states := 2 }
  sequences last [] encodings
  return .plain

/-! ## Both directions -/

def set (direction : Direction) (ranges : List CodeRange) : Layout Ending :=
  if ranges.all fun range => range.last < 0x80 then
    plain { states := 2, edges := 8 * ranges.length }
  else
    let encodings := ranges.flatMap CodeRange.sequences
    match direction with
    | .forward => plain (joined encodings)
    | .backward => separate encodings

example : (set .backward [⟨0x80, 0x8FF⟩]).run {} =
    some (.plain, { states := 7, edges := 8 }) := by
  decide

end Sparql.Regex.Layout
