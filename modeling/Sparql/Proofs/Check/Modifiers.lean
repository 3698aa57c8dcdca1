import Sparql.Proofs.Check.Grouped

/-!
What a check makes of the modifiers of the solutions. It looks for no patterns in them: nothing is
asked of HAVING and ORDER BY, and of the keys of a grouping only which variables they are. So a
pattern whose existence is tested there is not checked: `check_modified`.
-/

namespace Sparql

/-- The modifiers of the solutions that are expressions. -/
structure Modifiers where
  groupBy : List Expr := []
  having : List Expr := []
  orderBy : List SortKey := []

def Clauses.modified (modifiers : Modifiers) (clauses : Clauses) : Clauses :=
  { clauses with
    groupBy := modifiers.groupBy
    having := modifiers.having
    orderBy := modifiers.orderBy }

def Query.modified (modifiers : Modifiers) (query : Query) : Query :=
  { query with clauses := query.clauses.modified modifiers }

/-- The modifiers group by the same variables as the clauses, and by something if the clauses do. -/
structure Modifiers.GroupsLike (modifiers : Modifiers) (clauses : Clauses) : Prop where
  vars : modifiers.groupBy.filterMap Expr.asVariable? = clauses.groupBy.filterMap Expr.asVariable?
  isEmpty : modifiers.groupBy.isEmpty = clauses.groupBy.isEmpty

theorem Clauses.ungrouped_modified {modifiers : Modifiers} {clauses : Clauses}
    (like : modifiers.GroupsLike clauses) :
    (clauses.modified modifiers).ungrouped = clauses.ungrouped := by
  have groups : Build.isGrouped (clauses.modified modifiers) = Build.isGrouped clauses :=
    congrArg (fun empty => !empty || _) like.isEmpty
  rw [ungrouped, ungrouped, groups]
  dsimp only [modified]
  rw [like.vars]

theorem Query.sharesFrame_modified (modifiers : Modifiers) (query : Query) :
    query.SharesFrame (query.modified modifiers) := ⟨rfl, rfl⟩

namespace Build

variable {α β : Type} {modifiers : Modifiers}

def modifiedResult (modifiers : Modifiers) :
    EStateM.Result Failure Query α → EStateM.Result Failure Query α
  | .ok value query => .ok value (query.modified modifiers)
  | .error failure query => .error failure (query.modified modifiers)

/-- The operation does the same whatever the modifiers are, and leaves them as they are. -/
def Ignores (modifiers : Modifiers) (x : Build α) : Prop :=
  ∀ query, x.run (query.modified modifiers) = modifiedResult modifiers (x.run query)

theorem ignores_pure (value : α) : Ignores modifiers (pure value) := fun _ => rfl

theorem ignores_throw (failure : Failure) : Ignores modifiers (throw failure : Build α) :=
  fun _ => rfl

theorem ignores_modify {change : Query → Query}
    (same : ∀ query, change (query.modified modifiers) = (change query).modified modifiers) :
    Ignores modifiers (modify change) := by
  intro query
  rw [EStateM.run_modify, EStateM.run_modify, same]
  rfl

theorem Ignores.bind {x : Build α} {next : α → Build β} (first : Ignores modifiers x)
    (rest : ∀ value, Ignores modifiers (next value)) : Ignores modifiers (x >>= next) := by
  intro query
  rw [EStateM.run_bind, EStateM.run_bind, first query]
  cases x.run query with
  | ok value query' => exact rest value query'
  | error failure query' => rfl

theorem ignores_get_bind {next : Query → Build α}
    (same : ∀ query, next (query.modified modifiers) = next query)
    (rest : ∀ query, Ignores modifiers (next query)) : Ignores modifiers (get >>= next) := by
  intro query
  rw [Retraces.run_get_bind, Retraces.run_get_bind, same]
  exact rest query query

theorem ignores_inspect (look : Arena Query → Except Failure α) :
    Ignores modifiers (inspect look) := by
  refine ignores_get_bind (fun _ => rfl) fun query => ?_
  cases look query.arena with
  | ok value => exact ignores_pure value
  | error failure => exact ignores_throw failure

theorem ignores_report (diagnostic : Diagnostic) : Ignores modifiers (report diagnostic) := by
  refine .bind (ignores_modify fun _ => rfl) fun _ => ?_
  refine ignores_get_bind (fun _ => rfl) fun query => ?_
  split
  · exact ignores_throw _
  · exact ignores_pure _

theorem ignores_forM {values : List α} {body : α → Build PUnit}
    (ignores : ∀ value, Ignores modifiers (body value)) : Ignores modifiers (forM values body) := by
  induction values with
  | nil => exact ignores_pure _
  | cons value rest induction =>
      rw [List.forM_cons]
      exact (ignores value).bind fun _ => induction

theorem ignores_checkBlank (label : String) (owner : PatternId) :
    Ignores modifiers (checkBlank label owner) := by
  intro query
  have owners : (query.modified modifiers).blankOwners = query.blankOwners := rfl
  have update : (query.modified modifiers).clauses.dataUpdate = query.clauses.dataUpdate := rfl
  have log : (query.modified modifiers).log = query.log := rfl
  rw [run_checkBlank, run_checkBlank, owners, update, log]
  cases query.blankOwners.lookup label with
  | none => rfl
  | some first =>
      dsimp only
      split
      · rfl
      · exact ignores_report _ query

theorem ignores_hear (checkSub : Build Bool) (id : PatternId) :
    Ignores modifiers (hear checkSub id) := by
  refine (ignores_inspect _).bind fun p => ?_
  split
  · split
    · exact .bind (ignores_modify fun _ => rfl) fun _ => ignores_throw _
    · refine .bind (ignores_modify fun _ => rfl) fun _ => ?_
      exact (ignores_forM ignores_report).bind fun _ => ignores_pure _
  · exact ignores_pure _

theorem Surveys.ignores {checkSub : Build Bool} {x : Build α} (surveys : Surveys checkSub x) :
    Ignores modifiers x := by
  induction surveys with
  | pure value => exact ignores_pure value
  | throw _ => exact ignores_throw _
  | problem _ => exact ignores_report _
  | blank label owner => exact ignores_checkBlank label owner
  | hear id => exact ignores_hear checkSub id
  | ask framed _ rest =>
      exact ignores_get_bind (fun query => framed _ _ (query.sharesFrame_modified modifiers)) rest
  | bind _ _ first rest => exact first.bind rest

theorem ignores_bodyVariables : Ignores modifiers bodyVariables := by
  refine ignores_get_bind (fun _ => rfl) fun query => ?_
  cases query.clauses.body with
  | none => exact ignores_pure []
  | some body => exact ignores_inspect _

theorem ignores_checkItems (found : List Variable × Scope) :
    Ignores modifiers (checkItems check found) :=
  ignores_get_bind (fun _ => rfl) fun _ => (surveys_checkItems found.1 _ found.2).ignores

theorem ignores_completeProjection (vars : List Variable) :
    Ignores modifiers (completeProjection vars) := by
  refine ignores_get_bind (fun _ => rfl) fun query => ?_
  dsimp only
  split
  · exact ignores_modify fun _ => rfl
  · exact ignores_pure _

theorem ignores_checkScopes : Ignores modifiers (checkScopes check) := by
  have trailing (bodyVars : List Variable) (scope : Scope) :
      Surveys check (checkTrailing bodyVars scope) := surveys_checkTrailing bodyVars scope
  have leads : Ignores modifiers (checkLeading check) :=
    surveys_checkMatched.ignores.bind fun scope =>
      ignores_bodyVariables.bind fun bodyVars => (trailing bodyVars scope).ignores
  exact leads.bind fun found =>
    (ignores_checkItems found).bind fun _ => ignores_completeProjection found.1

theorem run_checkGrouping_modified {query : Query} (like : modifiers.GroupsLike query.clauses) :
    checkGrouping.run (query.modified modifiers) =
      modifiedResult modifiers (checkGrouping.run query) := by
  have same : (query.modified modifiers).clauses.groupingReports =
      query.clauses.groupingReports := by
    rw [Clauses.groupingReports, Clauses.groupingReports, ← Clauses.ungrouped_modified like]
    rfl
  rw [run_checkGrouping, run_checkGrouping, same]
  exact ignores_forM ignores_report query

theorem run_checkClauses_modified {query : Query} (like : modifiers.GroupsLike query.clauses) :
    (checkClauses check).run (Query.modified modifiers { query with blankOwners := [] }) =
      modifiedResult modifiers ((checkClauses check).run { query with blankOwners := [] }) := by
  rw [checkClauses, EStateM.run_bind, EStateM.run_bind, ignores_checkScopes]
  cases first : (checkScopes check).run { query with blankOwners := [] } with
  | error failure between => rfl
  | ok _ between =>
      have keys : between.clauses.groupBy = query.clauses.groupBy := by
        rw [(ends_checkScopes query).of_ok first, Query.completed]
        split <;> rfl
      refine run_checkGrouping_modified ⟨?_, ?_⟩
      · rw [keys, like.vars]
      · rw [keys, like.isEmpty]

theorem run_check_of_checkScopes {query between : Query} (unchecked : query.checked = false)
    (lenient : between.Lenient)
    (run : (checkScopes check).run { query with blankOwners := [] } = .ok ⟨⟩ between) :
    check.run query = .ok (between.reporting between.clauses.groupingReports).log.correct
      { between.reporting between.clauses.groupingReports with checked := true } := by
  rw [run_check_first unchecked, checkClauses, EStateM.run_bind, run]
  dsimp only
  rw [run_checkGrouping, run_reports lenient]

theorem run_check_modified {query : Query} (like : modifiers.GroupsLike query.clauses) :
    check.run (query.modified modifiers) = modifiedResult modifiers (check.run query) := by
  have state : (query.modified modifiers).checked = query.checked := rfl
  by_cases checked : query.checked = true
  · rw [run_check_of_checked checked, run_check_of_checked (state.trans checked)]
    rfl
  · have unchecked := Bool.eq_false_iff.mpr checked
    generalize equal : query.modified modifiers = changed at state ⊢
    have clauses : (checkClauses check).run { changed with blankOwners := [] } =
        modifiedResult modifiers ((checkClauses check).run { query with blankOwners := [] }) := by
      rw [← equal]
      exact run_checkClauses_modified like
    rw [run_check_first unchecked, run_check_first (state.trans unchecked), clauses]
    cases (checkClauses check).run { query with blankOwners := [] } <;> rfl

theorem exists_run_check_modified (modifiers : Modifiers) {query query' : Query} {correct : Bool}
    (unchecked : query.checked = false) (lenient : query.Lenient)
    (run : check.run query = .ok correct query') :
    ∃ correct' query'' told,
      check.run (query.modified modifiers) = .ok correct' query'' ∧
      query''.clauses = query'.clauses.modified modifiers ∧
      query'.log.entries = query.log.entries ++ told ++ query'.clauses.groupingReports ∧
      query''.log.entries = query.log.entries ++ told ++ query''.clauses.groupingReports := by
  have state : (query.modified modifiers).checked = false := unchecked
  rcases retraces_checkScopes (partsFailAgain query) with ⟨told, scopes⟩
  cases first : (checkScopes check).run { query with blankOwners := [] } with
  | error failure between =>
      rw [run_check_first unchecked, checkClauses, EStateM.run_bind, first] at run
      cases run
  | ok _ between =>
      have tells := scopes.tells
      have options := scopes.onward.options
      rw [after_of_run_ok first] at tells options
      have entries := tells.entries
      have lenient : between.Lenient := (congrArg Options.strict options).trans lenient
      have lenient' : (between.modified modifiers).Lenient := lenient
      have modified :
          (checkScopes check).run { query.modified modifiers with blankOwners := [] } =
            .ok ⟨⟩ (between.modified modifiers) :=
        (ignores_checkScopes _).trans (congrArg (modifiedResult modifiers) first)
      have run' := run_check_of_checkScopes state lenient' modified
      cases (run_check_of_checkScopes unchecked lenient first).symm.trans run
      refine ⟨_, _, told.map Told.report, run', rfl, ?_, ?_⟩
      · exact (Query.entries_reporting between _).trans (congrArg (· ++ _) entries)
      · exact (Query.entries_reporting between _).trans (congrArg (· ++ _) entries)

/-- The modifiers do not matter to a check, but for the variables among the keys of the grouping.
With other keys the grouping is judged by those keys, and all else that is reported stays the same.
-/
theorem check_modified (query : Query) (modifiers : Modifiers) :
    (modifiers.GroupsLike query.clauses →
      check.run (query.modified modifiers) = modifiedResult modifiers (check.run query)) ∧
    (query.checked = false → query.Lenient → ∀ correct query',
      check.run query = .ok correct query' → ∃ correct' query'' told,
        check.run (query.modified modifiers) = .ok correct' query'' ∧
        query''.clauses = query'.clauses.modified modifiers ∧
        query'.log.entries = query.log.entries ++ told ++ query'.clauses.groupingReports ∧
        query''.log.entries = query.log.entries ++ told ++ query''.clauses.groupingReports) :=
  ⟨run_check_modified, fun unchecked lenient _ _ run =>
    exists_run_check_modified modifiers unchecked lenient run⟩

def matchingSubject : Query :=
  (Operation.setBody 1).run.after
    ((Operation.group [2]).run.after
      ((Operation.bind (.const (.iri "a")) (.ofName "s")).run.after
        ((Operation.group [0]).run.after
          ((Operation.triple (.var (.ofName "s")) { node := .const (.iri "p") }
            (.var (.ofName "o"))).run.after {}))))

def bindsSubject : Expr :=
  .call { name := "exists", operator := .patternExists, pattern := some 3 } []

def testingSubject : Query :=
  (Operation.addToGroup 1 4).run.after ((Operation.filter bindsSubject).run.after matchingSubject)

theorem matchingSubject_unchecked : matchingSubject.Unchecked := by
  have empty : Query.Unchecked {} := .empty {} _ _ _
  exact .step _ (.step _ (.step _ (.step _ (.step _ empty nofun nofun) nofun nofun) nofun nofun)
    nofun nofun) nofun nofun

theorem matchingSubject_modified :
    Modifiers.GroupsLike { having := [bindsSubject] } matchingSubject.clauses ∧
      matchingSubject.checked = false ∧ matchingSubject.Lenient ∧
      (∃ correct, check.run matchingSubject = .ok correct (check.after matchingSubject)) ∧
      check.run (matchingSubject.modified { having := [bindsSubject] }) =
        modifiedResult { having := [bindsSubject] } (check.run matchingSubject) ∧
      ∃ correct query' told,
        check.run (matchingSubject.modified { groupBy := [bindsSubject] }) = .ok correct query' ∧
        (check.after matchingSubject).log.entries =
          told ++ (check.after matchingSubject).clauses.groupingReports ∧
        query'.log.entries = told ++ query'.clauses.groupingReports := by
  have like : Modifiers.GroupsLike { having := [bindsSubject] } matchingSubject.clauses :=
    ⟨rfl, rfl⟩
  have run : ∃ correct, check.run matchingSubject = .ok correct (check.after matchingSubject) :=
    exists_run_of_returns (by decide +kernel)
  rcases run with ⟨correct, run⟩
  rcases (check_modified matchingSubject { groupBy := [bindsSubject] }).2 rfl rfl correct _ run with
    ⟨correct', query', told, run', _, entries, entries'⟩
  exact ⟨like, rfl, rfl, ⟨correct, run⟩, (check_modified matchingSubject _).1 like,
    correct', query', told, run', entries, entries'⟩

/-- A check reports the target of the other pattern if the test is a part of the body, but not if it
is one of the modifiers. -/
theorem modifiers_unheard :
    matchingSubject.Reachable ∧ matchingSubject.Lenient ∧
      (check.after testingSubject).log.entries = [(Problem.targetBound "?s").toDiagnostic] ∧
      (check.after testingSubject).log.correct = false ∧
      ∀ operation ∈ [Operation.having bindsSubject, .orderBy bindsSubject false,
          .groupBy bindsSubject],
        (∃ correct, check.run (operation.run.after matchingSubject) =
          .ok correct (check.after (operation.run.after matchingSubject))) ∧
        (check.after (operation.run.after matchingSubject)).log.correct = true := by
  refine ⟨matchingSubject_unchecked.reachable, rfl, by decide +kernel, by decide +kernel, ?_⟩
  rw [List.forall_mem_cons, List.forall_mem_cons, List.forall_mem_singleton]
  exact ⟨⟨exists_run_of_returns (by decide +kernel), by decide +kernel⟩,
    ⟨exists_run_of_returns (by decide +kernel), by decide +kernel⟩,
    exists_run_of_returns (by decide +kernel), by decide +kernel⟩

end Build

end Sparql
