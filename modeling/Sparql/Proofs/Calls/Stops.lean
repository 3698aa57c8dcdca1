import Mathlib.Data.List.Basic
import Sparql.Proofs.Calls.Settle

/-!
Settling the calls of a strict query. It stops at the first report, and by then the record of calls
is empty: whatever was on it is forgotten. Without a report nothing was on it that is not defined.
-/

namespace Sparql

namespace Build

variable {α : Type}

/-- On a strict query, the operation does nothing but stop at the first of these reports. -/
def StopsAtFirst (reports : List Diagnostic) (x : Build PUnit) : Prop :=
  ∀ query : Query, query.options.strict = true →
    x.run query = match reports with
      | [] => .ok ⟨⟩ query
      | report :: _ => .error (.strict report) (query.reporting [report])

theorem stopsAtFirst_pure : StopsAtFirst [] (pure ⟨⟩) := fun _ _ => rfl

theorem stopsAtFirst_problem {p : Problem} (isError : p.toDiagnostic.isError = true) :
    StopsAtFirst [p.toDiagnostic] (problem p) := by
  intro query strict
  have ends : Ends (problem p) query (fun _ _ => False) fun failure query' =>
      failure = .strict p.toDiagnostic ∧ query' = query.reporting [p.toDiagnostic] := by
    rw [problem, ends_report, isError, strict, Bool.true_and, if_pos rfl]
    exact ⟨rfl, rfl⟩
  unfold Ends at ends
  split at ends
  · exact ends.elim
  · next run =>
      rcases ends with ⟨rfl, rfl⟩
      exact run

theorem StopsAtFirst.bind {reports reports' : List Diagnostic} {x : Build PUnit}
    {next : PUnit → Build PUnit} (first : StopsAtFirst reports x)
    (rest : StopsAtFirst reports' (next ⟨⟩)) : StopsAtFirst (reports ++ reports') (x >>= next) := by
  intro query strict
  rw [EStateM.run_bind, first query strict]
  cases reports with
  | nil => exact rest query strict
  | cons report others => rfl

theorem StopsAtFirst.stop {report : Diagnostic} {x : Build PUnit}
    (first : StopsAtFirst [report] x) (next : PUnit → Build PUnit) :
    StopsAtFirst [report] (x >>= next) := by
  intro query strict
  rw [EStateM.run_bind, first query strict]

theorem stopsAtFirst_forM {reports : α → List Diagnostic} {body : α → Build PUnit}
    (stops : ∀ value, StopsAtFirst (reports value) (body value)) (values : List α) :
    StopsAtFirst (values.flatMap reports) (forM values body) := by
  induction values with
  | nil => exact stopsAtFirst_pure
  | cons value rest induction =>
      rw [List.forM_cons, List.flatMap_cons]
      exact (stops value).bind induction

end Build

/-! ## Settling -/

theorem Functions.unsettled_of_settlement {functions : Functions}
    (silent : functions.settlement = []) : functions.unsettled = [] := by
  rw [unsettled, List.filter_eq_nil_iff]
  intro entry member
  have none := List.flatMap_eq_nil_iff.mp silent entry member
  rw [settlementOf_eq, List.append_eq_nil_iff, isSome_arity?] at none
  cases isDefined : functions.isDefined entry.1 with
  | true => simp
  | false => simp [isDefined] at none

namespace Build

theorem stopsAtFirst_checkParameters (arity? : String → Option Nat) {key : String} {params : Nat}
    (known : arity? key = some params) (count : Nat) :
    StopsAtFirst (Functions.misfit? arity? (key, count)).toList
      (checkParameters key params count) := by
  rw [checkParameters, Functions.misfit?, known]
  dsimp only
  split
  · exact stopsAtFirst_pure
  · exact stopsAtFirst_problem rfl

theorem stopsAtFirst_settle (functions : Functions) (entry : String × List Nat) :
    StopsAtFirst (Functions.settlementOf functions.arity? entry)
      (settle functions entry.1 entry.2) := by
  rw [settle, Functions.settlementOf, Functions.arity?]
  cases found : functions.definition? entry.1 with
  | none => exact (stopsAtFirst_problem rfl).stop _
  | some definition =>
      have known : functions.arity? entry.1 = some definition.params.length := by
        rw [Functions.arity?, found]
        rfl
      have counts : (entry.2.filterMap fun count =>
          Functions.misfit? functions.arity? (entry.1, count)) =
          entry.2.flatMap fun count =>
            (Functions.misfit? functions.arity? (entry.1, count)).toList :=
        List.filterMap_eq_flatMap_toList ..
      change StopsAtFirst (entry.2.filterMap fun count =>
        Functions.misfit? functions.arity? (entry.1, count)) _
      rw [counts]
      exact stopsAtFirst_forM (stopsAtFirst_checkParameters functions.arity? known) entry.2

/-- A strict query stops at the first report on its calls, when they are resolved and none of them
is on record any more. -/
theorem run_settleCalls_strict {query : Query} (strict : query.options.strict = true) :
    settleCalls.run query =
      match query.functions.settlement with
      | [] => .ok () query.settled
      | report :: _ => .error (.strict report) (query.resolved.reporting [report]) := by
  rw [settleCalls, EStateM.run_bind, EStateM.run_get]
  dsimp only
  split
  · next empty =>
      rw [Functions.settlement, List.isEmpty_iff.mp empty, Query.settled, if_pos empty]
      rfl
  · next waiting =>
      have stops := stopsAtFirst_forM (stopsAtFirst_settle query.functions)
        query.functions.deferred query.resolved strict
      refine stops.trans ?_
      rw [← Functions.settlement]
      cases reports : query.functions.settlement with
      | cons report others => rfl
      | nil =>
          rw [Query.settled, if_neg waiting, reports, Functions.unsettled_of_settlement reports,
            ← Query.reporting_eq_noting, Query.reporting_nil]

theorem ends_settleCalls (query : Query) :
    Ends settleCalls query (fun _ query' => query' = query.settled)
      fun failure query' => ∃ report, failure = .strict report ∧ query.options.strict = true ∧
        query.functions.settlement.head? = some report ∧
        query' = query.resolved.reporting [report] := by
  cases strict : query.options.strict with
  | false => exact .of_run_ok (run_settleCalls strict) rfl
  | true =>
      have run := run_settleCalls_strict strict
      cases reports : query.functions.settlement with
      | nil =>
          rw [reports] at run
          exact .of_run_ok run rfl
      | cons report others =>
          rw [reports] at run
          rw [Ends, run]
          exact ⟨report, rfl, rfl, rfl, rfl⟩

end Build

end Sparql
