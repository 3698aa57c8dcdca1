import Sparql.Pattern.Basic

/-!
The arena that holds the patterns of a query. A pattern keeps its place for good, and patterns are
only added at the end.
-/

namespace Sparql

/-! ## Failures -/

inductive Failure where
  | invalidBound (text : String)
  | invertedBounds (least most : Nat)
  | invalidNumber (text : String)
  | unknownPathOperator (symbol : String)
  | unknownPattern (id : PatternId)
  | wrongKind (id : PatternId) (expected : Pattern.Kind)
  /-- The patterns below some pattern lead back to it. -/
  | cyclicPatterns
  /-- An error was reported, and the query allows none. -/
  | strict (diagnostic : Diagnostic)
  deriving DecidableEq, Repr

def Failure.message : Failure → String
  | invalidBound text =>
    s!"Invalid property path bound '{text}': expected a non-negative integer"
  | invertedBounds least most =>
    s!"Invalid property path bounds \x7b{least},{most}\x7d: min is greater than max"
  | invalidNumber text => s!"Invalid numeric literal '{text}'"
  | unknownPathOperator symbol => s!"Unknown property path operator '{symbol}'"
  | unknownPattern id => s!"Unknown graph pattern id {id}"
  | wrongKind id expected => s!"Graph pattern {id} is not a {expected.text}"
  | cyclicPatterns => "Cyclic graph patterns"
  | strict diagnostic => diagnostic.text

/-! ## The arena -/

structure Arena (Sub : Type) where
  patterns : List (Pattern Sub) := []

namespace Arena

variable {Sub : Type}

def size (arena : Arena Sub) : Nat := arena.patterns.length

def get? (arena : Arena Sub) (id : PatternId) : Option (Pattern Sub) := arena.patterns[id]?

def get (arena : Arena Sub) (id : PatternId) : Except Failure (Pattern Sub) :=
  match arena.get? id with
  | some p => .ok p
  | none => .error (.unknownPattern id)

/-- Add a pattern. Its id is the size of the arena before. -/
def push (arena : Arena Sub) (p : Pattern Sub) : Arena Sub := ⟨arena.patterns ++ [p]⟩

def set (arena : Arena Sub) (id : PatternId) (p : Pattern Sub) : Arena Sub :=
  ⟨arena.patterns.set id p⟩

def triple (arena : Arena Sub) (id : PatternId) : Except Failure Triple := do
  match ← arena.get id with
  | .triple t => return t
  | _ => throw (.wrongKind id .triple)

def group (arena : Arena Sub) (id : PatternId) : Except Failure (List PatternId) := do
  match ← arena.get id with
  | .group children => return children
  | _ => throw (.wrongKind id .group)

@[simp] theorem size_push (arena : Arena Sub) (p : Pattern Sub) :
    (arena.push p).size = arena.size + 1 := by
  simp [push, size]

@[simp] theorem size_set (arena : Arena Sub) (id : PatternId) (p : Pattern Sub) :
    (arena.set id p).size = arena.size := by
  simp [set, size]

theorem get?_push (arena : Arena Sub) (p : Pattern Sub) (id : PatternId) :
    (arena.push p).get? id = if id = arena.size then some p else arena.get? id := by
  by_cases equal : id = arena.size
  · subst equal
    simp [push, get?, size]
  · rw [if_neg equal]
    rcases Nat.lt_or_gt_of_ne equal with below | above
    · exact List.getElem?_append_left below
    · have outside : (arena.push p).patterns.length ≤ id := by
        simpa [push, size] using Nat.succ_le_of_lt above
      rw [get?, get?, List.getElem?_eq_none outside, List.getElem?_eq_none (Nat.le_of_lt above)]

theorem get?_set {arena : Arena Sub} {id : PatternId} {p p' : Pattern Sub}
    (found : arena.get? id = some p) (id' : PatternId) :
    (arena.set id p').get? id' = if id' = id then some p' else arena.get? id' := by
  have inside : id < arena.patterns.length := (List.getElem?_eq_some_iff.mp found).1
  rw [get?, set, List.getElem?_set]
  by_cases equal : id' = id
  · subst equal
    rw [if_pos rfl, if_pos inside, if_pos rfl]
  · rw [if_neg (Ne.symm equal), if_neg equal]
    rfl

/-- As many levels as a descent through patterns can have, when none leads back to itself: every
level has a pattern of its own, and the last may be missing from the arena. -/
def levels (arena : Arena Sub) : Nat := arena.size + 1

end Arena

end Sparql
