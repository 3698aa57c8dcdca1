import Sparql.Build.Paths
import Sparql.Path.Plan
import Sparql.Proofs.Failures

/-!
What is wrong with a path as it is written. Bounds that cannot be read, or are the wrong way round,
are refused. Steps that are neither IRIs nor variables are reported, each where it stands.
-/

namespace Sparql

/-! ## Bounds -/

namespace Build

theorem isRefusal_of_bound {text : Option String} {default : Nat} {failure : Failure}
    (failed : bound text default = .error failure) : failure.isRefusal = true := by
  unfold bound at failed
  split at failed
  · cases failed
  · split at failed <;> cases failed
    rfl

theorem isRefusal_of_countedBounds {least most : Option String} {failure : Failure}
    (failed : countedBounds least most = .error failure) : failure.isRefusal = true := by
  unfold countedBounds at failed
  cases low : bound least 0 with
  | error failure' =>
      rw [low] at failed
      cases failed
      exact isRefusal_of_bound low
  | ok least =>
      cases high : bound most Path.Bounds.unlimited with
      | error failure' =>
          rw [low, high] at failed
          cases failed
          exact isRefusal_of_bound high
      | ok most =>
          rw [low, high] at failed
          dsimp only [Bind.bind, Except.bind] at failed
          split at failed <;> cases failed
          rfl

end Build

namespace Path

/-! ## Steps -/

mutual
/-- What the operators of a path stand on, left to right. The arguments of other calls are not
looked at. -/
def leaves : Expr → List Expr
  | .call head args => if head.isPath then leavesOf args else [.call head args]
  | e => [e]

def leavesOf : List Expr → List Expr
  | [] => []
  | e :: rest => leaves e ++ leavesOf rest
end

def misstep? : Expr → Option Problem
  | .var _ => none
  | .const c => if c.isIri then none else some (.constantAsPathStep c.text)
  | .call head _ => some (.callAsPathStep head.name)

theorem code_misstep? {e : Expr} {found : Problem} (wrong : misstep? e = some found) :
    found.toDiagnostic.code = .invalidPathStep := by
  cases e with
  | var v => cases wrong
  | const c =>
      rw [misstep?] at wrong
      split at wrong
      · cases wrong
      · rw [← Option.some.inj wrong, Problem.toDiagnostic]
  | call head args => rw [← Option.some.inj wrong, Problem.toDiagnostic]

mutual
theorem faults_eq_filterMap (e : Expr) : faults e = (leaves e).filterMap misstep? := by
  cases e with
  | var v => rfl
  | const c => by_cases iri : c.isIri = true <;> simp [faults, leaves, misstep?, iri]
  | call head args =>
      by_cases path : head.isPath = true
      · rw [faults, if_pos path, leaves, if_pos path]
        exact faultsOf_eq_filterMap args
      · rw [faults, if_neg path, leaves, if_neg path]
        rfl

theorem faultsOf_eq_filterMap (args : List Expr) :
    faultsOf args = (leavesOf args).filterMap misstep? := by
  cases args with
  | nil => rfl
  | cons e rest =>
      rw [faultsOf, leavesOf, List.filterMap_append, faults_eq_filterMap e,
        faultsOf_eq_filterMap rest]
end

theorem code_of_mem_faults {e : Expr} {p : Problem} (member : p ∈ faults e) :
    p.toDiagnostic.code = .invalidPathStep := by
  rw [faults_eq_filterMap] at member
  rcases List.mem_filterMap.mp member with ⟨leaf, _, wrong⟩
  exact code_misstep? wrong

end Path

end Sparql
