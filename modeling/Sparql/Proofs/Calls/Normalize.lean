import Sparql.Proofs.Calls.Settle
import Sparql.Proofs.Operation
import Sparql.Proofs.Steps.Normalize

/-!
What normalizing does to the expressions of a query: it settles the calls that wait, and leaves
everything in its place when it brings the query into form.
-/

namespace Sparql

namespace Build

variable {α : Type}

/-! ## Forms -/

/-- Steps that report nothing and keep expressions and subqueries in their places. -/
def Steps.forming : Steps where
  change := Query.Alike
  report _ := False
  fail _ := True

/-- Expressions and subqueries are in their places, and there are no other reports. -/
structure Formed (query query' : Query) : Prop where
  alike : query.Alike query'
  log : query'.log = query.log

theorem Takes.formed {x : Build α} (takes : Takes .forming x) (query : Query) :
    Ends x query (fun _ => Formed query) fun _ => Formed query := by
  induction takes generalizing query with
  | pure value => exact ⟨.refl query, rfl⟩
  | throw _ => exact ⟨.refl query, rfl⟩
  | report allowed => exact allowed.elim
  | modify quiet allowed => exact ⟨allowed query, quiet.log query⟩
  | ask _ _ induction => exact induction query query
  | bind _ _ first rest =>
      apply (first query).bind
      intro value query' formed
      have onward {query'' : Query} (formed' : Formed query' query'') : Formed query query'' :=
        ⟨formed.alike.trans formed'.alike, formed'.log.trans formed.log⟩
      exact (rest value query').imp (fun _ _ => onward) fun _ _ => onward

def Unformed (query : Query) : Prop :=
  ∃ failure query', normalizeForm.run query = .error failure query'

theorem ends_normalizeForm (query : Query) :
    Ends normalizeForm query (fun _ => Formed query)
      fun _ query' => Formed query query' ∧ Unformed query := by
  have formed := (takes_normalizeForm (fun _ _ => id) fun _ => trivial).formed query
  unfold Ends at formed ⊢
  split
  · next run => rwa [run] at formed
  · next failure query' run =>
      rw [run] at formed
      exact ⟨formed, failure, query', run⟩

/-! ## Queries -/

def normalizeRest : Build Unit := do
  settleCalls
  normalizeForm
  modify fun query => { query with normalized := true }

theorem normalizeWith_eq (normalizeSub : Build Unit) :
    normalizeWith normalizeSub = (do
      if (← get).normalized then return
      normalizeSubqueries normalizeSub
      normalizeRest) := rfl

theorem ends_normalizeSubqueries (normalizeSub : Build Unit) (query : Query) :
    Ends (normalizeSubqueries normalizeSub) query
      (fun _ query' => (normalizePatterns normalizeSub query.functions.definitions
          query.arena.patterns).2 = none ∧
        query' = { query with
          arena := ⟨(normalizePatterns normalizeSub query.functions.definitions
            query.arena.patterns).1⟩ })
      fun _ query' => (normalizePatterns normalizeSub query.functions.definitions
          query.arena.patterns).2 ≠ none ∧
        ∃ log, query' = { query with
          arena := ⟨(normalizePatterns normalizeSub query.functions.definitions
            query.arena.patterns).1⟩
          log } := by
  rw [normalizeSubqueries_eq, ends_bind, ends_get, ends_bind, ends_modify]
  split
  · next none => exact ⟨none, rfl⟩
  · next strict =>
      have failed : (normalizePatterns normalizeSub query.functions.definitions
          query.arena.patterns).2 ≠ none := by simp [strict]
      rw [ends_bind, ends_report]
      split <;> exact ⟨failed, _, rfl⟩
  · next hard => exact ⟨by simp [hard], _, rfl⟩

theorem ends_normalizeRest {query : Query} (lenient : query.options.strict = false) :
    Ends normalizeRest query
      (fun _ query' => ∃ formed, Formed query.settled formed ∧
        query' = { formed with normalized := true })
      fun _ query' => Formed query.settled query' ∧ Unformed query.settled := by
  have settles : Ends settleCalls query (fun _ query' => query' = query.settled)
      fun _ query' => Formed query.settled query' ∧ Unformed query.settled :=
    .of_run_ok (run_settleCalls lenient) rfl
  apply settles.bind
  rintro _ _ rfl
  apply (ends_normalizeForm query.settled).bind
  intro _ formed shape
  exact ⟨formed, shape, rfl⟩

end Build

end Sparql
