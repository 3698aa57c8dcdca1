import Sparql.Proofs.Describe.Returns

/-!
Two answers to the question what the body binds. A query that projects all is asked when it is
checked, and a query of descriptions when it is normalized, before any subquery is checked. The
answers agree if no subquery still lacks what it is to project: `exists_agreeing`.
-/

namespace Sparql

namespace Query

def inForm (form : QueryForm) (query : Query) : Query :=
  { query with clauses := { query.clauses with form } }

def Becomes (query query' : Query) : Prop :=
  ∃ normalized correct, Build.normalize.run query = .ok () normalized ∧
    Build.check.run normalized = .ok correct query'

theorem Unchecked.inForm {query : Query} (unchecked : query.Unchecked) (form : QueryForm) :
    (query.inForm form).Unchecked :=
  BuiltBy.step (.setForm form) unchecked (by simp) (by simp)

theorem Unchecked.normalize {query query' : Query} (unchecked : query.Unchecked)
    (run : Build.normalize.run query = .ok () query') : query'.Unchecked := by
  have after : Operation.normalize.run.after query = query' := by
    rw [Operation.run, Operation.silent, Build.after_map, Build.after_of_run_ok run]
  exact after ▸ BuiltBy.step .normalize unchecked (by simp) (by simp)

theorem Everywhere.inForm {query : Query} (checkable : query.Everywhere Checkable)
    (form : QueryForm) : (query.inForm form).Everywhere Checkable :=
  .intro ⟨checkable.here.lenient, checkable.here.sound⟩ fun _ => checkable.part

theorem exists_becomes {query : Query} (unchecked : query.Unchecked)
    (checkable : query.Everywhere Checkable) :
    ∃ normalized query', Build.normalize.run query = .ok () normalized ∧
      query.Becomes query' ∧ normalized.Projects query'.clauses := by
  rcases Build.exists_run_normalize checkable with ⟨normalized, run, checkable'⟩
  have unchecked' := unchecked.normalize run
  have ready := checkable'.ready unchecked'.reachable.cellsAreTriples
  rcases ready.checks checkable'.here.lenient with ⟨correct, run', _⟩
  have fresh : normalized.Everywhere (·.checked = false) :=
    unchecked'.fresh.imp fun _ fresh => fresh.unchecked
  exact ⟨normalized, normalized.afterCheck, run, ⟨normalized, correct, run, run'⟩,
    Build.projects_of_run_check fresh run'⟩

end Query

namespace Build

/-! ## The answers -/

theorem offered_of_select {query query' : Query} (form : query.clauses.form = .select)
    (new : query.normalized = false) (run : normalize.run query = .ok () query') :
    query'.offered = (withNormalized query).offered := by
  rcases exists_formed new run with ⟨settled, formed, rephrased, run', arena, clauses, _⟩
  have binds := rephrased.binds Query.offered
  rcases rephrased with ⟨change, _, _, settledClauses, _⟩
  have same : formed = settled := by
    have form' : settled.clauses.form = .select := by
      rw [settledClauses]
      exact form
    rw [normalizeForm, EStateM.run_bind, EStateM.run_get] at run'
    simp only [form'] at run'
    cases run'
    rfl
  have clauses' : query'.clauses = (withNormalized query).clauses.mapValues change := by
    rw [clauses, same, settledClauses]
  rw [Query.offered_eq, Query.offered_eq, Query.offering, Query.offering, Query.bodyBinds,
    Query.bodyBinds, arena, same, binds, Query.tableVars, clauses', Clauses.selected_mapValues]
  rfl

theorem offered_of_describe {query : Query} (form : query.clauses.form = .describe) :
    query.offered = query.clauses.selected := by
  simp [Query.offered_eq, Query.offering, Clauses.projectsAll, form]

/-- A query that projects all is normalized and checked in both forms. As a query of solutions it
projects the variables that the body binds when each subquery offers all that it projects in the
end, and as a query of descriptions it projects and describes those that the body binds when each
offers what it projects so far. So they agree, and all variables that the body can bind are
described, unless the body draws on a subquery that projects all and still lacks some. -/
theorem exists_agreeing {query : Query} (unchecked : query.Unchecked)
    (checkable : query.Everywhere Query.Checkable) (new : query.normalized = false)
    (all : query.clauses.selectAll = true) (undescribed : query.clauses.describe = [])
    (untabled : query.clauses.values = none) :
    ∃ selected described : Query,
      (query.inForm .select).Becomes selected ∧ (query.inForm .describe).Becomes described ∧
      selected.clauses.selected = query.clauses.selected ++
        Variable.unseen query.clauses.selected ((withNormalized query).bodyBinds Query.offered) ∧
      described.clauses.selected = query.clauses.selected ++
        Variable.unseen query.clauses.selected (withNormalized query).bound ∧
      described.clauses.describe = ((withNormalized query).bound.map .var).map Expr.visited ∧
      ((withNormalized query).DrawsPlainly →
        selected.clauses.selected = described.clauses.selected ∧
        described.clauses.describe =
          (((withNormalized query).bodyBinds Query.offered).map .var).map Expr.visited) := by
  rcases Query.exists_becomes (unchecked.inForm .select) (checkable.inForm .select) with
    ⟨normalized, selected, run, becomes, _, projects⟩
  rcases Query.exists_becomes (unchecked.inForm .describe) (checkable.inForm .describe) with
    ⟨normalized', described, run', becomes', clauses', projects'⟩
  have new (form : QueryForm) : (query.inForm form).normalized = false := new
  rcases exists_described rfl (new .describe) run' with ⟨_, projected, describe, form, _⟩
  have selects : selected.clauses.selected = query.clauses.selected ++
      Variable.unseen query.clauses.selected ((withNormalized query).bodyBinds Query.offered) := by
    rw [projects, offered_of_select rfl (new .select) run, Query.offered_eq]
    simp [Query.offering, Clauses.projectsAll, Query.tableVars, withNormalized, Query.inForm,
      Query.bodyBinds, Clauses.selected, all, untabled]
  have describes : described.clauses.selected = query.clauses.selected ++
      Variable.unseen query.clauses.selected (withNormalized query).bound := by
    rw [projects', offered_of_describe form, projected]
    exact congrArg _ (if_pos all)
  have terms : described.clauses.describe =
      ((withNormalized query).bound.map .var).map Expr.visited := by
    have named : (query.inForm .describe).named (withNormalized query).bound =
        (withNormalized query).bound.map .var := by
      simp [Query.named, Query.inForm, all, undescribed]
    rw [clauses', ← named]
    exact describe
  refine ⟨selected, described, becomes, becomes', selects, describes, terms, fun plainly => ?_⟩
  rw [selects, describes, terms, plainly.bound_eq]
  exact ⟨rfl, rfl⟩

theorem allOfTriple_checkable : allOfTriple.Everywhere Query.Checkable := by
  exact .alone ⟨rfl, Query.sound_of_descends (by decide) (by decide)⟩ rfl

theorem allOfTriple_agreeing :
    ∃ selected described : Query,
      (allOfTriple.inForm .select).Becomes selected ∧
      (allOfTriple.inForm .describe).Becomes described ∧
      selected.clauses.selected = described.clauses.selected ∧
      described.clauses.describe =
        (((withNormalized allOfTriple).bodyBinds Query.offered).map .var).map Expr.visited ∧
      ((withNormalized allOfTriple).bodyBinds Query.offered).map (·.name) = ["x", "y"] := by
  have plainly : (withNormalized allOfTriple).DrawsPlainly := by
    intro id _ sub found
    match id with
    | 0 => cases found
  rcases exists_agreeing allOfTriple_unchecked allOfTriple_checkable rfl rfl rfl rfl with
    ⟨selected, described, becomes, becomes', _, _, _, agrees⟩
  exact ⟨selected, described, becomes, becomes', (agrees plainly).1, (agrees plainly).2,
    by decide +kernel⟩

theorem becomes_of_returns {query : Query} (normalizes : normalize.returns query = true)
    (checks : check.returns (normalize.after query) = true) :
    query.Becomes (check.after (normalize.after query)) := by
  rcases exists_run_of_returns normalizes with ⟨⟨⟩, run⟩
  rcases exists_run_of_returns checks with ⟨correct, run'⟩
  exact ⟨_, correct, run, run'⟩

/-- A query of all that another offers, which itself projects all, in the end. -/
def aroundAll (form : QueryForm) : Query :=
  check.after (normalize.after ((around allOfTriple).inForm form))

/-- Both variables of the triple are projected in one form, and none is described in the other. -/
theorem aroundAll_disagrees :
    (around allOfTriple).Unchecked ∧ (around allOfTriple).clauses.selectAll = true ∧
      (around allOfTriple).clauses.describe = [] ∧
      (around allOfTriple).clauses.values.isNone = true ∧
      ((around allOfTriple).inForm .select).Becomes (aroundAll .select) ∧
      ((around allOfTriple).inForm .describe).Becomes (aroundAll .describe) ∧
      (aroundAll .select).clauses.selected.map (·.name) = ["x", "y"] ∧
      (aroundAll .describe).clauses.selected.map (·.name) = [] ∧
      (aroundAll .describe).clauses.describe.isEmpty = true ∧
      ((around allOfTriple).bodyBinds Query.offered).map (·.name) = ["x", "y"] := by
  refine ⟨around_unchecked allOfTriple_unchecked, rfl, rfl, rfl, becomes_of_returns ?_ ?_,
    becomes_of_returns ?_ ?_, ?_, ?_, ?_, ?_⟩ <;> decide +kernel

end Build

end Sparql
