import Sparql.Proofs.Bindable.Basic
import Sparql.Proofs.Parallel.Basic

/-!
What a check leaves alone. Whether it returns or fails, and wherever it fails, a query comes out of
it with the patterns and the clauses that it went in with, but for the projection, which may be
completed; and so does each subquery, at every depth: `untouched_check`. All that a check writes
besides are its reports, the owners of the blank labels, and that the query is checked.
-/

namespace Sparql

/-! ## Queries that a check leaves alike -/

namespace Clauses

/-- The clauses after a check. Variables that stand for themselves were added to the projection,
if all variables are projected. -/
def Completes (clauses clauses' : Clauses) : Prop :=
  ∃ added : List Variable,
    clauses' = { clauses with select := clauses.select ++ added.map ({ target := · }) } ∧
      (clauses.projectsAll = false → added = [])

theorem Completes.refl (clauses : Clauses) : clauses.Completes clauses :=
  ⟨[], by rw [List.map_nil, List.append_nil], fun _ => rfl⟩

theorem Completes.trans {first second third : Clauses} (left : first.Completes second)
    (right : second.Completes third) : first.Completes third := by
  rcases left with ⟨added, rfl, none⟩
  rcases right with ⟨added', rfl, none'⟩
  refine ⟨added ++ added', ?_, fun partly => ?_⟩
  · simp only [List.map_append, List.append_assoc]
  · rw [none partly, none' partly, List.append_nil]

end Clauses

namespace Query

/-- The queries have the same patterns, apart from what is in their subqueries, and all else that a
check has no part in is the same too. -/
structure MadeAlike (query query' : Query) : Prop where
  arena : query'.arena.patterns.map Pattern.plain? = query.arena.patterns.map Pattern.plain?
  clauses : query.clauses.Completes query'.clauses
  functions : query'.functions = query.functions
  supply : query'.supply = query.supply
  registers : query'.registers = query.registers
  options : query'.options = query.options
  namespaces : query'.namespaces = query.namespaces
  normalized : query'.normalized = query.normalized

/-- The queries are alike, and so are their subqueries, at every depth. -/
inductive Untouched : Query → Query → Prop where
  | intro {query query' : Query} (alike : query.MadeAlike query')
      (nested : ∀ id sub sub', query.arena.get? id = some (.subquery sub) →
        query'.arena.get? id = some (.subquery sub') → Untouched sub sub') :
      Untouched query query'

theorem MadeAlike.refl (query : Query) : query.MadeAlike query :=
  ⟨rfl, .refl _, rfl, rfl, rfl, rfl, rfl, rfl⟩

theorem MadeAlike.trans {first second third : Query} (left : first.MadeAlike second)
    (right : second.MadeAlike third) : first.MadeAlike third where
  arena := right.arena.trans left.arena
  clauses := left.clauses.trans right.clauses
  functions := right.functions.trans left.functions
  supply := right.supply.trans left.supply
  registers := right.registers.trans left.registers
  options := right.options.trans left.options
  namespaces := right.namespaces.trans left.namespaces
  normalized := right.normalized.trans left.normalized

namespace Untouched

variable {query query' : Query}

theorem alike (untouched : query.Untouched query') : query.MadeAlike query' := by
  cases untouched with
  | intro alike nested => exact alike

theorem refl (query : Query) : query.Untouched query := by
  induction equal : query.level using Nat.strong_induction_on generalizing query with
  | h level induction =>
      refine .intro (.refl query) fun id sub sub' found found' => ?_
      cases found.symm.trans found'
      exact induction _ (equal ▸ Query.level_lt_of_get? found) sub rfl

theorem trans {first second third : Query} (left : first.Untouched second)
    (right : second.Untouched third) : first.Untouched third := by
  induction left generalizing third with
  | intro alike nested induction =>
      cases right with
      | intro alike' nested' =>
          refine .intro (alike.trans alike') fun id sub sub'' found found'' => ?_
          rcases Arena.exists_subquery_of_frame alike'.arena.symm found'' with ⟨sub', found'⟩
          exact induction id sub sub' found found' (nested' id sub' sub'' found' found'')

theorem of_arena (alike : query.MadeAlike query') (same : query'.arena = query.arena) :
    query.Untouched query' := by
  refine .intro alike fun id sub sub' found found' => ?_
  rw [same] at found'
  cases found.symm.trans found'
  exact .refl sub

theorem annotated (query : Query) (log : Log) (owners : List (String × PatternId))
    (checked : Bool) :
    query.Untouched { query with log := log, blankOwners := owners, checked := checked } :=
  .of_arena ⟨rfl, .refl _, rfl, rfl, rfl, rfl, rfl, rfl⟩ rfl

theorem replace {id : PatternId} {sub sub' : Query}
    (found : query.arena.get? id = some (.subquery sub)) (inside : sub.Untouched sub') :
    query.Untouched { query with arena := query.arena.set id (.subquery sub') } := by
  refine .intro ⟨Arena.map_set found rfl, .refl _, rfl, rfl, rfl, rfl, rfl, rfl⟩
    fun other inner inner' before after => ?_
  rw [Arena.get?_set found] at after
  split at after
  · next same =>
      subst same
      cases found.symm.trans before
      cases after
      exact inside
  · cases before.symm.trans after
    exact .refl inner

end Untouched

end Query

namespace Build

/-! ## Checks -/

def Spares {α : Type} (x : Build α) : Prop := ∀ query : Query, query.Untouched (x.after query)

theorem untouched_projection {start query : Query} (bodyVars : List Variable)
    (untouched : start.Untouched query) :
    Ends
      (do
        let clauses := (← get).clauses
        if clauses.selectAll && clauses.form != .describe then
          projectAll bodyVars)
      query (fun _ => start.Untouched) fun _ => start.Untouched := by
  rw [ends_bind, ends_get]
  dsimp only
  split
  · next all =>
      have completes : query.clauses.Completes
          (((projectAll bodyVars).after query).clauses) := by
        refine ⟨Variable.unseen query.clauses.selected bodyVars, ?_, fun partly => ?_⟩
        · exact congrArg ({ query.clauses with select := · }) (items_projectAll _ _)
        · rw [Clauses.projectsAll, all] at partly
          cases partly
      exact untouched.trans (.of_arena ⟨rfl, completes, rfl, rfl, rfl, rfl, rfl, rfl⟩ rfl)
  · exact untouched

section

variable {checkSub : Build Bool} (spares : Spares checkSub) (start : Query)

include spares

theorem Spares.closedUnderVisits :
    ClosedUnderVisits checkSub start.Untouched fun _ => start.Untouched where
  report diagnostic query untouched _ := by
    have reported : start.Untouched { query with log := query.log.add diagnostic } :=
      untouched.trans (.annotated query _ query.blankOwners query.checked)
    rw [ends_report]
    split <;> exact reported
  own query owners untouched := untouched.trans (.annotated query query.log owners query.checked)
  part query id sub untouched found := by
    have inside := spares sub
    unfold Ends
    unfold after at inside
    split
    · next run =>
        rw [run] at inside
        exact untouched.trans (.replace found inside)
    · next run =>
        rw [run] at inside
        exact untouched.trans (.replace found inside)
  other _ _ untouched _ := untouched

theorem Spares.checkSelect (scope : Scope) :
    Preserves start.Untouched (fun _ => start.Untouched) (checkSelect checkSub scope) := by
  have closed := spares.closedUnderVisits start
  refine (preserves_bodyVariables closed).bind fun bodyVars => ?_
  refine (preserves_checkTrailing closed bodyVars scope).bind fun found => ?_
  refine preserves_get_bind fun query untouched => ?_
  refine ((preserves_checkItems closed _ _ _).bind fun _ => ?_) query untouched
  exact fun query untouched => untouched_projection found.1 untouched

omit start in
theorem Spares.checkWith : Spares (checkWith checkSub) := by
  intro start
  have closed := spares.closedUnderVisits start
  suffices preserves : Preserves start.Untouched (fun _ => start.Untouched)
      (Build.checkWith checkSub) from preserves.after (.refl start)
  refine preserves_get_bind fun query untouched => ?_
  split
  · exact untouched
  · refine ((preserves_modify fun query => closed.own query []).bind fun _ => ?_) query untouched
    refine (preserves_checkBody closed).bind fun scope => ?_
    refine (preserves_checkGroundData closed).bind fun _ => ?_
    refine (preserves_checkTemplates closed).bind fun _ => ?_
    refine (spares.checkSelect start scope).bind fun _ => ?_
    refine (preserves_checkGrouping closed).bind fun _ => ?_
    refine (preserves_modify fun query untouched => ?_).bind fun _ => ?_
    · exact Query.Untouched.trans untouched (.annotated query query.log query.blankOwners true)
    · exact preserves_get_bind fun query untouched => untouched

end

theorem spares_checkAt (level : Nat) : Spares (checkAt level) := by
  induction level with
  | zero =>
      have none : Spares (return true) := fun query => .refl query
      exact none.checkWith
  | succ level induction => exact induction.checkWith

/-- However a check ends, the query has the patterns and clauses that it had, but for variables that
complete its projection, and so has each subquery, at every depth. -/
theorem untouched_check (query : Query) : query.Untouched (check.after query) :=
  spares_checkAt query.level query

end Build

end Sparql
