import Mathlib.Data.List.Forall2
import Sparql.Build.Paths
import Sparql.Build.Patterns
import Sparql.Proofs.Path.Faults
import Sparql.Proofs.Path.Meaning
import Sparql.Proofs.Path.Written
import Sparql.Proofs.Run

/-!
The repetitions and the steps of a path. A plan gets bounds for the repetitions that have none, at
every depth of the path operators, and changes nothing else. Each step that is neither an IRI nor a
variable is reported once, from left to right: `planPath_law`.
-/

namespace Sparql

namespace Path

/-! ## The operators of a path -/

mutual
def skeleton : Expr → List Call
  | .call head args => if head.isPath then head :: skeletonOf args else []
  | _ => []

def skeletonOf : List Expr → List Call
  | [] => []
  | e :: rest => skeleton e ++ skeletonOf rest
end

theorem leaves_peel (e : Expr) : leaves (peel e).2 = leaves e := by
  induction e using peel.induct with
  | case1 head operand modifier modifiers core peeled induction =>
      have path : head.isPath = true := Reading.isPath_of_isPathModifier modifier
      rw [peel, if_pos modifier, induction, leaves, if_pos path, leavesOf, leavesOf,
        List.append_nil]
  | case2 head operand other => rw [peel, if_neg other]
  | case3 e other => rw [peel.eq_2 e other]

/-! ## Repetitions -/

/-- The two paths differ only in bounds that repetitions of the first one lack. -/
inductive Completes : Expr → Expr → Prop
  | same (e : Expr) : Completes e e
  | call {head : Call} {args args' : List Expr} (path : head.isPath = true)
      (bounds : Option Bounds) (kept : ∀ known, head.bounds = some known → bounds = some known)
      (only : head.operator.isRepetition = false → bounds = head.bounds)
      (inner : List.Forall₂ Completes args args') :
      Completes (.call head args) (.call { head with bounds } args')

theorem boundsOf?_eq_none {operator : Operator} (other : operator.isRepetition = false) :
    boundsOf? operator = none := by
  cases operator <;> first | rfl | cases other

mutual
theorem completes_bounded (e : Expr) : Completes e (bounded e) := by
  cases e with
  | var v => exact .same _
  | const c => exact .same _
  | call head args =>
      rw [bounded]
      split
      · next path =>
          refine .call path _ ?_ ?_ (completes_boundedAll args)
          · intro known equal
            rw [equal, Option.some_or]
          · intro other
            rw [boundsOf?_eq_none other, Option.or_none]
      · exact .same _

theorem completes_boundedAll (args : List Expr) :
    List.Forall₂ Completes args (boundedAll args) := by
  cases args with
  | nil => exact .nil
  | cons e rest => exact .cons (completes_bounded e) (completes_boundedAll rest)
end

/-- A repetition has the bounds that its operator stands for, or that can be written. -/
structure Bounds.Suits (bounds : Bounds) (operator : Operator) : Prop where
  ordered : bounds.least ≤ bounds.most
  star : operator = .star → bounds = ⟨0, unlimited, .star⟩
  plus : operator = .plus → bounds = ⟨1, unlimited, .plus⟩
  zeroOrOne : operator = .zeroOrOne → bounds = ⟨0, 1, .zeroOrOne⟩
  counted : operator = .counted → bounds.repetition = .counted ∧
    ∃ least most, Build.countedBounds least most = .ok bounds

def IsBounded (head : Call) : Prop :=
  head.operator.isRepetition = true →
    ∃ bounds, head.bounds = some bounds ∧ bounds.Suits head.operator

theorem boundsOf?_suits {operator : Operator} {bounds : Bounds}
    (default : boundsOf? operator = some bounds) : bounds.Suits operator := by
  have ordered : Bounds.star.least ≤ Bounds.star.most ∧
      Bounds.plus.least ≤ Bounds.plus.most ∧
      Bounds.zeroOrOne.least ≤ Bounds.zeroOrOne.most := by decide
  cases operator <;> cases default
  · exact ⟨ordered.1, fun _ => rfl, nofun, nofun, nofun⟩
  · exact ⟨ordered.2.1, nofun, fun _ => rfl, nofun, nofun⟩
  · exact ⟨ordered.2.2, nofun, nofun, fun _ => rfl, nofun⟩

theorem countedBounds_suits {least most : Option String} {bounds : Bounds}
    (written : Build.countedBounds least most = .ok bounds) : bounds.Suits .counted := by
  have result : ∃ low high, low ≤ high ∧ bounds = .counted low high := by
    have run := written
    rw [Build.countedBounds_eq] at run
    split at run
    · cases run
    · cases run
    · split at run
      · cases run
      · next ordered => exact ⟨_, _, Nat.le_of_not_lt ordered, (Except.ok.inj run).symm⟩
  rcases result with ⟨low, high, ordered, rfl⟩
  exact ⟨ordered, nofun, nofun, nofun, fun _ => ⟨rfl, least, most, written⟩⟩

mutual
theorem skeleton_bounded (e : Expr) : skeleton (bounded e) = (skeleton e).map withBounds := by
  cases e with
  | var v => rfl
  | const c => rfl
  | call head args =>
      by_cases path : head.isPath = true
      · have path' : (withBounds head).isPath = true := path
        rw [bounded, if_pos path, skeleton, if_pos path', skeleton, if_pos path,
          skeletonOf_boundedAll args, List.map_cons]
      · rw [bounded, if_neg path, skeleton, if_neg path, List.map_nil]

theorem skeletonOf_boundedAll (args : List Expr) :
    skeletonOf (boundedAll args) = (skeletonOf args).map withBounds := by
  cases args with
  | nil => rfl
  | cons e rest =>
      rw [boundedAll, skeletonOf, skeletonOf, skeleton_bounded e, skeletonOf_boundedAll rest,
        List.map_append]
end

/-! ## Paths that are made -/

/-- The path is made of single steps, whatever they are, by the operations on paths. -/
inductive Made : Expr → Prop
  | step {e : Expr} (single : skeleton e = []) : Made e
  | operator {symbol : String} {operand e : Expr} {query query' : Query} (made : Made operand)
      (run : (Build.pathOperator symbol operand).run query = .ok e query') : Made e
  | repeated {least most : Option String} {operand e : Expr} {query query' : Query}
      (made : Made operand)
      (run : (Build.repeated least most operand).run query = .ok e query') : Made e
  | pair {symbol : String} {left right e : Expr} {query query' : Query} (madeLeft : Made left)
      (madeRight : Made right)
      (run : (Build.pathPair symbol left right).run query = .ok e query') : Made e

theorem ofPathSymbol?_ne_counted (symbol : String) :
    Operator.ofPathSymbol? symbol ≠ some .counted := by
  have all : ∀ entry ∈ Operator.pathSymbols, entry.2 ≠ .counted := by decide
  intro found
  rcases List.lookup_eq_some_iff.mp found with ⟨before, after, equal, _⟩
  exact all (_, .counted) (equal ▸ List.mem_append_right _ (List.mem_cons_self ..)) rfl

theorem skeleton_subset (head : Call) (args : List Expr) {call : Call}
    (member : call ∈ skeleton (.call head args)) : call = head ∨ call ∈ skeletonOf args := by
  rw [skeleton] at member
  split at member
  · exact List.mem_cons.mp member
  · cases member

section

variable {symbol : String} {operand left right e : Expr} {query query' : Query}

theorem exists_of_pathOperator
    (run : (Build.pathOperator symbol operand).run query = .ok e query') :
    ∃ operator, operator ≠ .counted ∧ e = .call { name := symbol, operator } [operand] := by
  unfold Build.pathOperator at run
  split at run
  · next operator found =>
      split at run
      · cases run
      · cases run
        refine ⟨operator, ?_, rfl⟩
        rintro rfl
        exact ofPathSymbol?_ne_counted symbol found
  · cases run

theorem exists_of_repeated {least most : Option String}
    (run : (Build.repeated least most operand).run query = .ok e query') :
    ∃ bounds, Build.countedBounds least most = .ok bounds ∧
      e = .call { name := "\x7b\x7d", operator := .counted, bounds := some bounds } [operand] := by
  unfold Build.repeated at run
  split at run
  · next bounds written =>
      cases run
      exact ⟨bounds, written, rfl⟩
  · cases run

theorem exists_of_pathPair (run : (Build.pathPair symbol left right).run query = .ok e query') :
    ∃ operator, (operator = .sequence ∨ operator = .alternative) ∧
      e = .call { name := symbol, operator } [left, right] := by
  unfold Build.pathPair at run
  split at run
  · cases run
    exact ⟨_, .inl rfl, rfl⟩
  · cases run
    exact ⟨_, .inr rfl, rfl⟩
  · cases run

end

theorem isBounded_of_default (name : String) {operator : Operator} (other : operator ≠ .counted) :
    IsBounded (withBounds { name, operator }) := by
  intro repetition
  cases operator with
  | star => exact ⟨_, rfl, @boundsOf?_suits .star _ rfl⟩
  | plus => exact ⟨_, rfl, @boundsOf?_suits .plus _ rfl⟩
  | zeroOrOne => exact ⟨_, rfl, @boundsOf?_suits .zeroOrOne _ rfl⟩
  | counted => exact absurd rfl other
  | _ => cases repetition

/-- Each repetition of a path that is made has bounds, or gets them from its operator. The
induction is on how the path is made. -/
theorem Made.isBounded {e : Expr} (made : Made e) :
    ∀ head ∈ skeleton e, IsBounded (withBounds head) := by
  induction made with
  | step single =>
      rw [single]
      exact fun head member => absurd member List.not_mem_nil
  | operator made run induction =>
      rcases exists_of_pathOperator run with ⟨operator, other, rfl⟩
      intro head member
      rcases skeleton_subset _ _ member with rfl | inside
      · exact isBounded_of_default _ other
      · rw [skeletonOf, skeletonOf, List.append_nil] at inside
        exact induction head inside
  | repeated made run induction =>
      rcases exists_of_repeated run with ⟨bounds, written, rfl⟩
      intro head member
      rcases skeleton_subset _ _ member with rfl | inside
      · exact fun _ => ⟨bounds, rfl, countedBounds_suits written⟩
      · rw [skeletonOf, skeletonOf, List.append_nil] at inside
        exact induction head inside
  | pair madeLeft madeRight run inductionLeft inductionRight =>
      rcases exists_of_pathPair run with ⟨operator, kind, rfl⟩
      intro head member
      rcases skeleton_subset _ _ member with rfl | inside
      · apply isBounded_of_default
        rcases kind with rfl | rfl <;> decide
      · rw [skeletonOf, skeletonOf, skeletonOf, List.append_nil, List.mem_append] at inside
        rcases inside with inLeft | inRight
        · exact inductionLeft head inLeft
        · exact inductionRight head inRight

theorem skeleton_peel (e : Expr) : ∀ head ∈ skeleton (peel e).2, head ∈ skeleton e := by
  induction e using peel.induct with
  | case1 head operand modifier modifiers core peeled induction =>
      have path : head.isPath = true := Reading.isPath_of_isPathModifier modifier
      rw [peel, if_pos modifier, skeleton, if_pos path, skeletonOf, skeletonOf, List.append_nil]
      exact fun call member => List.mem_cons_of_mem _ (induction call member)
  | case2 head operand other =>
      rw [peel, if_neg other]
      exact fun _ => id
  | case3 e other =>
      rw [peel.eq_2 e other]
      exact fun _ => id

theorem Made.isBounded_plan {path : Expr} (made : Made path) (semantics : PathSemantics) :
    ∀ head ∈ skeleton (Plan.ofExpr semantics path).core, IsBounded head := by
  have core : ∀ head ∈ skeleton (bounded (peel path).2), IsBounded head := by
    intro head member
    rw [skeleton_bounded] at member
    rcases List.mem_map.mp member with ⟨call, inside, rfl⟩
    exact made.isBounded call (skeleton_peel path call inside)
  intro head member
  simp only [Plan.ofExpr_eq] at member
  split at member
  · rcases skeleton_subset _ _ member with rfl | inside
    · intro repetition
      cases repetition
    · rw [skeletonOf, skeletonOf, List.append_nil] at inside
      exact core head inside
  · exact core head member

end Path

namespace Build

theorem problems_eq (found : List Problem) :
    problems found = forM (found.map Problem.toDiagnostic) report := by
  induction found with
  | nil => rfl
  | cons first rest induction =>
      rw [problems, induction]
      rfl

open Sparql.Path in
/-- A path is made into a plan by a query that is not strict, whatever the path. Each leaf that
cannot be a step is reported once, from left to right. Of the core, only missing bounds are changed,
and if the path is made by operations then each repetition in it has bounds that suit it. -/
theorem planPath_law {query : Query} (lenient : query.options.strict = false) (path : Expr) :
    ∃ plan core,
      (planPath path).run query = .ok plan (query.reporting
        (((leaves path).filterMap misstep?).map Problem.toDiagnostic)) ∧
      (∀ problem ∈ (leaves path).filterMap misstep?,
        problem.toDiagnostic.code = .invalidPathStep) ∧
      Completes (peel path).2 core ∧ (plan.core = core ∨ plan.core = Plan.inverted core) ∧
      (Made path → ∀ head ∈ skeleton plan.core, IsBounded head) := by
  refine ⟨Plan.ofExpr query.options.pathSemantics path, bounded (peel path).2, ?_, ?_,
    completes_bounded _, ?_, fun made => made.isBounded_plan _⟩
  · have found : Path.problems path = (leaves path).filterMap misstep? := by
      rw [problems_eq_faults, faults_eq_filterMap, leaves_peel]
    rw [planPath, EStateM.run_bind, EStateM.run_get]
    dsimp only
    rw [EStateM.run_bind, problems_eq, run_reports lenient, found]
    rfl
  · intro problem member
    rcases List.mem_filterMap.mp member with ⟨leaf, _, wrong⟩
    exact code_misstep? wrong
  · simp only [Plan.ofExpr_eq]
    split
    · exact .inr rfl
    · exact .inl rfl

def endlessLiteral : Expr :=
  .call { name := "*", operator := .star } [.const (.tagged "a" "en")]

def upToFiveCalls : Expr :=
  .call { name := "\x7b\x7d", operator := .counted, bounds := some (.counted 0 5) }
    [.call { name := "f", operator := .undefined } [.const (.tagged "b" "en")]]

def badSteps : Expr := .call { name := "/", operator := .sequence } [endlessLiteral, upToFiveCalls]

theorem badSteps_made : Path.Made badSteps := by
  have star : Operator.ofPathSymbol? "*" = some .star := by decide +kernel
  have endless :
      (pathOperator "*" (.const (.tagged "a" "en"))).run {} = .ok endlessLiteral {} := by
    rw [pathOperator, star]
    rfl
  have counts : countedBounds none (some " 5 ") = .ok (.counted 0 5) := rfl
  have upTo : (repeated none (some " 5 ") (.call { name := "f", operator := .undefined }
      [.const (.tagged "b" "en")])).run {} = .ok upToFiveCalls {} := by
    rw [repeated, counts]
    rfl
  have both : (pathPair "/" endlessLiteral upToFiveCalls).run {} = .ok badSteps {} := rfl
  exact .pair (.operator (.step rfl) endless) (.repeated (.step rfl) upTo) both

theorem badSteps_law :
    ({} : Query).options.strict = false ∧ ∃ plan core,
      (planPath badSteps).run {} = .ok plan (({} : Query).reporting
        [(Problem.constantAsPathStep (Constant.tagged "a" "en").text).toDiagnostic,
          (Problem.callAsPathStep "f").toDiagnostic]) ∧
      Path.Completes badSteps core ∧ (plan.core = core ∨ plan.core = Path.Plan.inverted core) ∧
      ∀ head ∈ Path.skeleton plan.core, Path.IsBounded head := by
  have lenient : ({} : Query).options.strict = false := rfl
  rcases planPath_law lenient badSteps with
    ⟨plan, core, run, _, completes, turned, bounded⟩
  exact ⟨lenient, plan, core, run, completes, turned, bounded badSteps_made⟩

end Build

end Sparql
