import Mathlib.Data.Rel
import Sparql.Proofs.Path.Peeled

/-!
What a property path means: the pairs of nodes that it connects. A plan keeps the meaning of the
path that it is made from. Where paths are evaluated by algebra the core alone has it, and where
edges are walked the core has it up to the turns that the mode records: `meaning_plan`.
-/

namespace Sparql.Path

universe u

variable {Node : Type u}

/-! ## Readings -/

/-- What operators do not settle: which nodes a single step connects, what the negation of a path
connects, and how often a counted repetition is made when it has no bounds. -/
structure Reading (Node : Type u) where
  step : Expr → SetRel Node Node
  negated : SetRel Node Node → SetRel Node Node
  uncounted : Nat → Prop

def Bounds.Allows (bounds : Bounds) (count : Nat) : Prop :=
  bounds.least ≤ count ∧ (bounds.isUnbounded = true ∨ count ≤ bounds.most)

def repetition (counts : Nat → Prop) (relation : SetRel Node Node) : SetRel Node Node :=
  { pair | ∃ count, counts count ∧ pair ∈ relation.comp^[count] .id }

namespace Reading

variable (reading : Reading Node)

/-- How often a repetition may be made: as its bounds allow, or else as its operator does. -/
def Repeats (head : Call) (count : Nat) : Prop :=
  match head.bounds, head.operator with
  | some bounds, _ => bounds.Allows count
  | none, .star => True
  | none, .plus => 1 ≤ count
  | none, .zeroOrOne => count ≤ 1
  | none, _ => reading.uncounted count

/-- What a path operator makes of its operands. A sequence walks them one after the other, and a
modifier other than the inverse changes nothing. -/
def combined (head : Call) (operands : List (SetRel Node Node)) : SetRel Node Node :=
  let walked := operands.foldr SetRel.comp .id
  match head.operator with
  | .alternative => { pair | ∃ operand ∈ operands, pair ∈ operand }
  | .inverse => walked.inv
  | .negation => reading.negated walked
  | .star | .plus | .zeroOrOne | .counted => repetition (reading.Repeats head) walked
  | _ => walked

mutual
def meaning : Expr → SetRel Node Node
  | .call head args =>
    if head.isPath then reading.combined head (meanings args) else reading.step (.call head args)
  | e => reading.step e

def meanings : List Expr → List (SetRel Node Node)
  | [] => []
  | e :: rest => meaning e :: meanings rest
end

theorem combined_modifier {head : Call} (modifier : head.operator.isPathModifier = true)
    (operand : SetRel Node Node) :
    reading.combined head [operand] =
      if head.operator = .inverse then operand.inv else operand := by
  have walked : [operand].foldr SetRel.comp .id = operand := SetRel.comp_id operand
  unfold combined
  rw [walked]
  cases operator : head.operator <;> simp_all [Operator.isPathModifier]

/-! ## Repetitions -/

theorem repeats_withBounds (head : Call) :
    reading.Repeats (withBounds head) = reading.Repeats head := by
  funext count
  unfold Repeats withBounds
  cases head.bounds with
  | some bounds => rfl
  | none =>
      have limited : 1 ≠ Bounds.unlimited := by decide
      cases head.operator <;>
        simp [boundsOf?, Bounds.Allows, Bounds.star, Bounds.plus, Bounds.zeroOrOne,
          Bounds.isUnbounded, limited]

theorem combined_withBounds (head : Call) (operands : List (SetRel Node Node)) :
    reading.combined (withBounds head) operands = reading.combined head operands := by
  unfold combined
  rw [reading.repeats_withBounds]
  rfl

mutual
theorem meaning_bounded (e : Expr) : reading.meaning (bounded e) = reading.meaning e := by
  cases e with
  | var v => rfl
  | const c => rfl
  | call head args =>
      by_cases path : head.isPath = true
      · have path' : (withBounds head).isPath = true := path
        rw [bounded, if_pos path, meaning, if_pos path', meaning, if_pos path,
          reading.combined_withBounds, meanings_boundedAll args]
      · rw [bounded, if_neg path]

theorem meanings_boundedAll (args : List Expr) :
    reading.meanings (boundedAll args) = reading.meanings args := by
  cases args with
  | nil => rfl
  | cons e rest => rw [boundedAll, meanings, meanings, meaning_bounded e, meanings_boundedAll rest]
end

/-! ## Modifiers -/

theorem isPath_of_isPathModifier {operator : Operator}
    (modifier : operator.isPathModifier = true) : operator.isPath = true := by
  cases operator <;> first | rfl | cases modifier

/-- A path is turned around once for each inverse that is peeled off it. The induction is on the
path as it is peeled. -/
theorem meaning_peel (e : Expr) :
    reading.meaning e = SetRel.inv^[(peel e).1.count .inverse] (reading.meaning (peel e).2) := by
  induction e using peel.induct with
  | case1 head operand modifier modifiers core peeled induction =>
      have path : head.isPath = true := isPath_of_isPathModifier modifier
      have around : reading.meaning (.call head [operand]) =
          if head.operator = .inverse then (reading.meaning operand).inv
          else reading.meaning operand := by
        rw [meaning, if_pos path]
        exact reading.combined_modifier modifier _
      rw [peeled] at induction
      rw [around, peel, if_pos modifier, peeled, List.count_cons]
      by_cases inverse : head.operator = .inverse
      · rw [if_pos inverse, induction, if_pos (beq_iff_eq.mpr inverse),
          Function.iterate_succ_apply']
      · rw [if_neg inverse, induction, if_neg (by simpa using inverse), Nat.add_zero]
  | case2 head operand other =>
      rw [peel, if_neg other]
      rfl
  | case3 e other => rw [peel.eq_2 e other]; rfl

theorem count_mode (modifiers : List Operator) :
    (String.join (modifiers.map modeOf)).toList.count 'i' = modifiers.count .inverse := by
  rw [String.toList_join]
  induction modifiers with
  | nil => rfl
  | cons operator rest induction =>
      have here : (modeOf operator).toList.count 'i' = if operator = .inverse then 1 else 0 := by
        cases operator <;> decide
      rw [List.map_cons, List.flatMap_cons, List.count_append, induction, here, List.count_cons,
        Nat.add_comm]
      simp

omit reading in
theorem inv_iterate (relation : SetRel Node Node) (count : Nat) :
    SetRel.inv^[count] relation = if count % 2 = 1 then relation.inv else relation := by
  induction count with
  | zero => rfl
  | succ count induction =>
      rw [Function.iterate_succ_apply', induction]
      by_cases odd : count % 2 = 1
      · rw [if_pos odd, if_neg (by omega), SetRel.inv_inv]
      · rw [if_neg odd, if_pos (by omega)]

/-! ## Plans -/

theorem meaning_inverted (e : Expr) :
    reading.meaning (Plan.inverted e) = (reading.meaning e).inv := by
  have path : ({ name := "^", operator := .inverse } : Call).isPath = true := rfl
  rw [Plan.inverted, meaning, if_pos path, meanings, meanings]
  exact reading.combined_modifier rfl _

/-- The plan of a path has its meaning: by its core where paths are evaluated by algebra, and by its
core turned around for each `i` of its mode where edges are walked. -/
theorem meaning_plan (e : Expr) :
    reading.meaning (Plan.ofExpr .algebra e).core = reading.meaning e ∧
      reading.meaning e =
        SetRel.inv^[(Plan.ofExpr .edgeWalk e).mode.toList.count 'i']
          (reading.meaning (Plan.ofExpr .edgeWalk e).core) := by
  constructor
  · rw [reading.meaning_peel e, inv_iterate]
    simp only [Plan.ofExpr_eq, beq_self_eq_true, Bool.and_true, beq_iff_eq]
    split
    · rw [reading.meaning_inverted, reading.meaning_bounded]
    · exact reading.meaning_bounded _
  · have walked : (Plan.ofExpr .edgeWalk e).core = bounded (peel e).2 := by
      simp [Plan.ofExpr_eq]
    rw [walked, reading.meaning_bounded, Plan.ofExpr_eq, count_mode]
    exact reading.meaning_peel e

end Reading

end Sparql.Path
