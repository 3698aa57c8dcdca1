import Sparql.Pattern.Arena

/-!
The triples below a pattern, from left to right. They are collected with a list of the patterns
still to be visited, each with the number of levels that it may have.
-/

namespace Sparql.Arena

variable {Sub : Type}

/-! ## The measure

A pattern is replaced by its children, which have one level less. A pattern with one level more
counts for more than as many patterns as a pattern can have children, so that the replacement
counts for less than the pattern itself. -/

def breadth (arena : Arena Sub) : Nat :=
  arena.patterns.foldr (fun p most => max p.children.length most) 0

theorem length_children_le_breadth {arena : Arena Sub} {id : PatternId} {p : Pattern Sub}
    (found : arena.get? id = some p) : p.children.length ≤ arena.breadth := by
  have member : p ∈ arena.patterns := List.mem_of_getElem? found
  clear found
  obtain ⟨patterns⟩ := arena
  unfold breadth
  induction patterns with
  | nil => simp at member
  | cons q rest induction =>
      rcases List.mem_cons.1 member with rfl | member
      · exact Nat.le_max_left _ _
      · exact Nat.le_trans (induction member) (Nat.le_max_right _ _)

/-- What a pattern with a number of levels counts for. -/
def bulk (breadth : Nat) : (levels : Nat) → Nat
  | 0 => 1
  | levels + 1 => (breadth + 1) * bulk breadth levels

theorem bulk_pos (breadth levels : Nat) : 0 < bulk breadth levels := by
  induction levels with
  | zero => exact Nat.one_pos
  | succ levels induction => exact Nat.mul_pos (Nat.succ_pos _) induction

def weight (breadth : Nat) : (pending : List (Nat × PatternId)) → Nat
  | [] => 0
  | (levels, _) :: rest => bulk breadth levels + weight breadth rest

theorem weight_append (breadth : Nat) (first second : List (Nat × PatternId)) :
    weight breadth (first ++ second) = weight breadth first + weight breadth second := by
  induction first with
  | nil => simp [weight]
  | cons head rest induction => simp [weight, induction, Nat.add_assoc]

theorem weight_children (breadth levels : Nat) (children : List PatternId) :
    weight breadth (children.map (levels, ·)) = children.length * bulk breadth levels := by
  induction children with
  | nil => simp [weight]
  | cons head rest induction => simp [weight, induction, Nat.succ_mul, Nat.add_comm]

theorem weight_children_lt (breadth levels : Nat) {children : List PatternId}
    (few : children.length ≤ breadth) :
    weight breadth (children.map (levels, ·)) < bulk breadth (levels + 1) := by
  rw [weight_children]
  exact Nat.mul_lt_mul_of_pos_right (Nat.lt_succ_of_le few) (bulk_pos breadth levels)

/-! ## The collection -/

/-- Visit the pending patterns in order. The triples found are kept with the latest first. -/
def collectTriples (arena : Arena Sub) (found : List PatternId) :
    (pending : List (Nat × PatternId)) → Except Failure (List PatternId)
  | [] => .ok found.reverse
  | (0, _) :: _ => .error .cyclicPatterns
  | (levels + 1, id) :: pending =>
    match _known : arena.get? id with
    | none => .error (.unknownPattern id)
    | some p =>
      if p.isTriple then collectTriples arena (id :: found) pending
      else collectTriples arena found (p.children.map (levels, ·) ++ pending)
  termination_by pending => weight arena.breadth pending
  decreasing_by
    · exact Nat.lt_add_of_pos_left (bulk_pos _ _)
    · have smaller := weight_children_lt arena.breadth levels (length_children_le_breadth _known)
      rw [weight_append]
      exact Nat.add_lt_add_right smaller _

theorem collectTriples_cons_none {arena : Arena Sub} {id : PatternId}
    (missing : arena.get? id = none) (found : List PatternId) (levels : Nat)
    (pending : List (Nat × PatternId)) :
    arena.collectTriples found ((levels + 1, id) :: pending) = .error (.unknownPattern id) := by
  rw [collectTriples]
  split
  · rfl
  · next p known =>
      rw [missing] at known
      cases known

theorem collectTriples_cons {arena : Arena Sub} {id : PatternId} {p : Pattern Sub}
    (known : arena.get? id = some p) (found : List PatternId) (levels : Nat)
    (pending : List (Nat × PatternId)) :
    arena.collectTriples found ((levels + 1, id) :: pending) =
      if p.isTriple then arena.collectTriples (id :: found) pending
      else arena.collectTriples found (p.children.map (levels, ·) ++ pending) := by
  rw [collectTriples]
  split
  · next missing =>
      rw [known] at missing
      cases missing
  · next p' known' =>
      rw [known] at known'
      cases known'
      rfl

/-- The ids of the triples below a pattern. Conditions and subqueries are not entered. -/
def triplesBelow (arena : Arena Sub) (root : PatternId) : Except Failure (List PatternId) :=
  arena.collectTriples [] [(arena.levels, root)]

end Sparql.Arena
