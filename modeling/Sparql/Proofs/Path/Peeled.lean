import Mathlib.Data.List.Basic
import Mathlib.Data.List.Count
import Sparql.Path.Plan

/-!
Modifiers around a path. However many there are, and in whatever order, a plan keeps of them the
letters, whether paths are to be distinct, and whether the path is turned around: `plan_wrapped`.
-/

namespace Sparql

namespace Path

/-! ## Peeling

The loop over the modifiers has a closed form, in which each thing that it gathers is a function of
the list of all of them. -/

def modeOf : Operator → String
  | .inverse => "i"
  | .short => "s"
  | .shortAll => "sa"
  | .all => "a"
  | .depthFirst => "d"
  | .breadthFirst => "b"
  | _ => ""

def peel : Expr → List Operator × Expr
  | .call head [operand] =>
    if head.operator.isPathModifier then
      let (modifiers, core) := peel operand
      (head.operator :: modifiers, core)
    else ([], .call head [operand])
  | e => ([], e)

namespace Peeling

theorem mode_take (peeling : Peeling) (modifier : Operator) :
    (peeling.take modifier).mode = peeling.mode ++ modeOf modifier := by
  cases modifier <;> simp [take, note, modeOf]

theorem inverse_take (peeling : Peeling) (modifier : Operator) :
    (peeling.take modifier).inverse = (peeling.inverse ^^ decide (modifier = .inverse)) := by
  cases modifier <;> simp [take, note]

theorem distinct_take (peeling : Peeling) (modifier : Operator) :
    (peeling.take modifier).distinct =
      (peeling.distinct || decide (modifier = .distinctPaths)) := by
  cases modifier <;> simp [take, note]

theorem mode_foldl (peeling : Peeling) (modifiers : List Operator) :
    (modifiers.foldl take peeling).mode = peeling.mode ++ String.join (modifiers.map modeOf) := by
  induction modifiers generalizing peeling with
  | nil => simp
  | cons modifier rest induction => simp [induction, mode_take, String.append_assoc]

theorem inverse_foldl (peeling : Peeling) (modifiers : List Operator) :
    (modifiers.foldl take peeling).inverse =
      (peeling.inverse ^^ modifiers.count .inverse % 2 == 1) := by
  induction modifiers generalizing peeling with
  | nil => simp
  | cons modifier rest induction =>
      rw [List.foldl_cons, induction, inverse_take, List.count_cons]
      by_cases inverse : modifier = .inverse
      · rcases Nat.mod_two_eq_zero_or_one (rest.count .inverse) with even | odd <;>
          simp [Nat.add_mod, *]
      · simp [inverse]

theorem distinct_foldl (peeling : Peeling) (modifiers : List Operator) :
    (modifiers.foldl take peeling).distinct =
      (peeling.distinct || decide (.distinctPaths ∈ modifiers)) := by
  induction modifiers generalizing peeling with
  | nil => simp
  | cons modifier rest induction =>
      rw [List.foldl_cons, induction, distinct_take, Bool.or_assoc]
      simp [eq_comm]

end Peeling

theorem strip_eq (peeling : Peeling) (e : Expr) :
    strip peeling e = ((peel e).1.foldl Peeling.take peeling, (peel e).2) := by
  -- The induction is on the path as it is peeled, for whatever was gathered before.
  induction e using peel.induct generalizing peeling with
  | case1 head operand modifier modifiers core peeled induction =>
      rw [strip, if_pos modifier, induction, peel, if_pos modifier]
      rfl
  | case2 head operand other =>
      rw [strip, if_neg other, peel, if_neg other]
      rfl
  | case3 e other =>
      rw [strip.eq_2 peeling e other, peel.eq_2 e other]
      rfl

theorem Plan.ofExpr_eq (semantics : PathSemantics) (e : Expr) :
    ofExpr semantics e =
      { core :=
          if (peel e).1.count .inverse % 2 == 1 && semantics == .algebra then
            inverted (bounded (peel e).2)
          else bounded (peel e).2
        mode := String.join ((peel e).1.map modeOf)
        bounds := (bounded (peel e).2).bounds?.getD .once
        distinct := .distinctPaths ∈ (peel e).1 } := by
  rw [ofExpr, strip_eq]
  dsimp only
  rw [Peeling.inverse_foldl, Peeling.mode_foldl, Peeling.distinct_foldl]
  simp

theorem problems_eq_faults (e : Expr) : problems e = faults (peel e).2 := by
  rw [problems, strip_eq]

/-! ## Modifiers -/

inductive Modifier where
  | inverse | short | shortAll | all | distinct | depthFirst | breadthFirst
  deriving DecidableEq, Repr

namespace Modifier

def operator : Modifier → Operator
  | inverse => .inverse
  | short => .short
  | shortAll => .shortAll
  | all => .all
  | distinct => .distinctPaths
  | depthFirst => .depthFirst
  | breadthFirst => .breadthFirst

/-- How a mode tells of the modifier. That paths are distinct has a place of its own. -/
def letters : Modifier → String
  | inverse => "i"
  | short => "s"
  | shortAll => "sa"
  | all => "a"
  | distinct => ""
  | depthFirst => "d"
  | breadthFirst => "b"

theorem operator_injective : Function.Injective operator := by
  intro modifier modifier' equal
  cases modifier <;> cases modifier' <;> first | rfl | cases equal

theorem exists_operator_iff {operator : Operator} :
    (∃ modifier : Modifier, modifier.operator = operator) ↔ operator.isPathModifier = true := by
  constructor
  · rintro ⟨modifier, rfl⟩
    cases modifier <;> rfl
  · intro holds
    cases operator with
    | inverse => exact ⟨inverse, rfl⟩
    | short => exact ⟨short, rfl⟩
    | shortAll => exact ⟨shortAll, rfl⟩
    | all => exact ⟨all, rfl⟩
    | distinctPaths => exact ⟨distinct, rfl⟩
    | depthFirst => exact ⟨depthFirst, rfl⟩
    | breadthFirst => exact ⟨breadthFirst, rfl⟩
    | _ => cases holds

theorem modeOf_operator (modifier : Modifier) :
    modeOf modifier.operator = modifier.letters := by
  cases modifier <;> rfl

end Modifier

/-! ## Wrapped paths -/

/-- A call of a modifier. What else the call says does not matter. -/
structure Wrapper where
  modifier : Modifier
  call : Call

namespace Wrapper

def head (wrapper : Wrapper) : Call := { wrapper.call with operator := wrapper.modifier.operator }

theorem isPathModifier_head (wrapper : Wrapper) :
    wrapper.head.operator.isPathModifier = true :=
  Modifier.exists_operator_iff.mp ⟨wrapper.modifier, rfl⟩

end Wrapper

def wrapped : List Wrapper → Expr → Expr
  | [], core => core
  | wrapper :: rest, core => .call wrapper.head [wrapped rest core]

/-- Whether the expression is a modifier around one path. A modifier with no operand, or with more
than one, is a path of its own. -/
def isWrapped : Expr → Bool
  | .call head [_] => head.operator.isPathModifier
  | _ => false

theorem peel_of_not_isWrapped {core : Expr} (bare : isWrapped core = false) :
    peel core = ([], core) := by
  unfold peel
  split
  · next head operand =>
      have other : ¬head.operator.isPathModifier = true := by simpa [isWrapped] using bare
      rw [if_neg other]
  · rfl

theorem peel_wrapped (wrappers : List Wrapper) {core : Expr} (bare : isWrapped core = false) :
    peel (wrapped wrappers core) = (wrappers.map (·.modifier.operator), core) := by
  -- The induction is on the wrappers, from the outermost on.
  induction wrappers with
  | nil => exact peel_of_not_isWrapped bare
  | cons wrapper rest induction =>
      rw [wrapped, peel, if_pos wrapper.isPathModifier_head, induction]
      rfl

theorem exists_wrapped (e : Expr) :
    ∃ wrappers core, e = wrapped wrappers core ∧ isWrapped core = false := by
  induction e using peel.induct with
  | case1 head operand modifier _ _ _ induction =>
      rcases induction with ⟨wrappers, core, rfl, bare⟩
      rcases Modifier.exists_operator_iff.mpr modifier with ⟨known, equal⟩
      refine ⟨⟨known, head⟩ :: wrappers, core, ?_, bare⟩
      rw [wrapped, Wrapper.head, equal]
  | case2 head operand other => exact ⟨[], _, rfl, by simpa [isWrapped] using other⟩
  | case3 e other =>
      refine ⟨[], e, rfl, ?_⟩
      unfold isWrapped
      split
      · next head operand => exact absurd rfl (other head operand)
      · rfl

/-! ## Plans -/

/-- The plan of a wrapped path: the letters of the modifiers from the outermost on, whether one of
them asks for distinct paths, and the core with its bounds. An odd number of inverses turns the core
around, where paths are evaluated by algebra. -/
theorem plan_wrapped (semantics : PathSemantics) (wrappers : List Wrapper) {core : Expr}
    (bare : isWrapped core = false) :
    let modifiers := wrappers.map (·.modifier)
    let plan := Plan.ofExpr semantics (wrapped wrappers core)
    plan.mode = String.join (modifiers.map Modifier.letters) ∧
      (plan.distinct = true ↔ .distinct ∈ modifiers) ∧
      plan.core = (if semantics = .algebra ∧ modifiers.count .inverse % 2 = 1 then
        .call { name := "^", operator := .inverse } [bounded core] else bounded core) ∧
      plan.bounds = (bounded core).bounds?.getD ⟨1, 1, .once⟩ := by
  intro modifiers plan
  have peeled : peel (wrapped wrappers core) = (modifiers.map Modifier.operator, core) := by
    rw [peel_wrapped wrappers bare, List.map_map]
    rfl
  have letters : (modifiers.map Modifier.operator).map modeOf = modifiers.map Modifier.letters := by
    rw [List.map_map]
    exact List.map_congr_left fun modifier _ => modifier.modeOf_operator
  have inverses : (modifiers.map Modifier.operator).count .inverse = modifiers.count .inverse :=
    List.count_map_of_injective modifiers Modifier.operator Modifier.operator_injective .inverse
  simp only [plan, Plan.ofExpr_eq, peeled]
  refine ⟨congrArg String.join letters, ?_, ?_, rfl⟩
  · rw [decide_eq_true_iff]
    exact List.mem_map_of_injective (a := Modifier.distinct) Modifier.operator_injective
  · rw [inverses]
    cases semantics <;> simp [Plan.inverted]

def backAndForth : List Wrapper :=
  [⟨.inverse, { name := "^", operator := .inverse }⟩,
   ⟨.shortAll, { name := "shortall", operator := .shortAll }⟩,
   ⟨.inverse, { name := "^", operator := .inverse }⟩,
   ⟨.distinct, { name := "distinct", operator := .distinctPaths }⟩,
   ⟨.inverse, { name := "^", operator := .inverse }⟩]

def loneModifier : Expr := .call { name := "short", operator := .short } []

theorem backAndForth_plan :
    isWrapped loneModifier = false ∧
      let plan := Plan.ofExpr .algebra (wrapped backAndForth loneModifier)
      plan.mode = "isaii" ∧ plan.distinct = true ∧ plan.core = Plan.inverted loneModifier ∧
        plan.bounds = .once := by
  have bare : isWrapped loneModifier = false := rfl
  rcases plan_wrapped .algebra backAndForth bare with ⟨mode, distinct, core, bounds⟩
  exact ⟨bare, mode, distinct.mpr (by decide), core, bounds⟩

end Path

end Sparql
