import Sparql.Proofs.Bindable.Basic
import Sparql.Proofs.Check.Entered
import Sparql.Proofs.Check.Visits

/-!
What a check makes of the projection. It comes to the projection with every subquery that the body
draws on checked before, so that what it adds is what the body binds when each subquery, however
deeply nested, offers all that it projects: `selected_check`.
-/

namespace Sparql

/-! ## The projection -/

namespace Query.Midway

variable {start query : Query} {done : Set PatternId} {id : PatternId}

theorem get?_done (midway : start.Midway done query) (member : id ∈ done) {sub : Query}
    (found : start.arena.get? id = some (.subquery sub)) :
    query.arena.get? id = some (.subquery sub.afterCheck) ∧
      ∃ correct, Build.check.run sub = .ok correct sub.afterCheck := by
  rcases midway.kept id _ found with same | ⟨_, correct, sub', ⟨⟩, run, replaced⟩
  · have run := Build.run_check_of_checked (midway.checked id member sub same)
    rw [Query.afterCheck, Build.after_of_run_ok run]
    exact ⟨same, _, run⟩
  · rw [Query.afterCheck, Build.after_of_run_ok run]
    exact ⟨replaced, correct, run⟩

theorem get?_plain (midway : start.Midway done query) {p : Pattern Query}
    (found : start.arena.get? id = some p) (plain : p.isSubquery = false) :
    query.arena.get? id = some p := by
  rcases midway.kept id p found with same | ⟨_, _, _, rfl, _⟩
  · exact same
  · cases plain

theorem binds_eq {body : PatternId} (midway : start.Midway (start.arena.entered [body]) query) :
    query.arena.binds (·.clauses.selected) body =
      start.arena.binds (·.afterCheck.clauses.selected) body := by
  refine (Arena.binds_congr midway.size.symm fun next draws => ?_).symm
  cases before : start.arena.get? next with
  | none => rw [midway.get?_none before]; rfl
  | some p =>
      cases p with
      | subquery sub =>
          have entered : next ∈ start.arena.entered [body] :=
            ⟨⟨body, List.mem_singleton_self _, Arena.Draws.reaches draws⟩, sub, before⟩
          rw [(midway.get?_done entered before).1]
          rfl
      | _ => rw [midway.get?_plain before rfl]; rfl

theorem binds_offered {body : PatternId} (midway : start.Midway (start.arena.entered [body]) query)
    (nested : ∀ id sub correct sub', start.arena.get? id = some (.subquery sub) →
      Build.check.run sub = .ok correct sub' → sub'.clauses.selected = sub.offered) :
    query.arena.binds (·.clauses.selected) body = start.arena.binds Query.offered body := by
  refine midway.binds_eq.trans (Arena.binds_congr rfl fun next draws => ?_)
  cases before : start.arena.get? next with
  | none => rfl
  | some p =>
      cases p with
      | subquery sub =>
          have entered : next ∈ start.arena.entered [body] :=
            ⟨⟨body, List.mem_singleton_self _, Arena.Draws.reaches draws⟩, sub, before⟩
          rcases (midway.get?_done entered before).2 with ⟨correct, run⟩
          rw [Option.map_some, Option.map_some, Pattern.outline, Pattern.outline, Pattern.own,
            Pattern.own, nested next sub correct _ before run]
      | _ => rfl

theorem bodyBinds_offered
    (midway : start.Midway (start.arena.entered start.clauses.body.toList) query)
    (nested : ∀ id sub correct sub', start.arena.get? id = some (.subquery sub) →
      Build.check.run sub = .ok correct sub' → sub'.clauses.selected = sub.offered) :
    start.bodyBinds (·.afterCheck.clauses.selected) = start.bodyBinds Query.offered := by
  rw [Query.bodyBinds, Query.bodyBinds]
  cases here : start.clauses.body with
  | none => rfl
  | some body =>
      rw [here] at midway
      have same := midway.binds_eq.symm.trans (midway.binds_offered nested)
      simp [same]

end Query.Midway

namespace Query

/-- The clauses of the query after a check: only the projection is changed, and is completed if all
is projected, given what each subquery offers. -/
def ProjectsBy (offered : Query → List Variable) (query : Query) (clauses : Clauses) : Prop :=
  clauses = { query.clauses with select := clauses.select } ∧
    clauses.selected = query.offering offered

def Projects (query : Query) (clauses : Clauses) : Prop :=
  clauses = { query.clauses with select := clauses.select } ∧ clauses.selected = query.offered

end Query

namespace Build

variable {start query : Query}

theorem ends_checkTrailing (bodyVars : List Variable) (scope : Scope)
    (same : query.clauses = start.clauses) :
    Ends (checkTrailing bodyVars scope) query
      (fun found query' => found.1 = bodyVars ++ Variable.unseen bodyVars start.tableVars ∧
        query'.clauses = start.clauses)
      fun _ _ => True := by
  have closed := closedUnderVisits_clauses check (· = start.clauses)
  rw [checkTrailing, ends_bind, ends_get, same, Query.tableVars]
  cases start.clauses.values with
  | none => exact ⟨(List.append_nil bodyVars).symm, same⟩
  | some table =>
      apply (preserves_checkTable closed scope table query same).bind
      intro scope query' same'
      refine ⟨?_, same'⟩
      simp [Variable.foldl_addTo]

theorem unseen_trailing (known bodyVars tableVars : List Variable) :
    Variable.unseen known (bodyVars ++ Variable.unseen bodyVars tableVars) =
      Variable.unseen known (bodyVars ++ tableVars) := by
  have covers (v : Variable) (occurs : v.occursIn bodyVars = true) :
      v.occursIn (known ++ Variable.unseen known bodyVars) = true := by
    rw [Variable.occursIn_unseen, occurs, Bool.or_true]
  rw [Variable.unseen_append, Variable.unseen_append, Variable.unseen_unseen covers]

theorem ends_projection {offered : Query → List Variable} (bodyVars : List Variable)
    (same : query.clauses = start.clauses)
    (binds : Variable.unseen start.clauses.selected bodyVars =
      Variable.unseen start.clauses.selected (start.bodyBinds offered ++ start.tableVars)) :
    Ends
      (do
        let clauses := (← get).clauses
        if clauses.selectAll && clauses.form != .describe then
          projectAll bodyVars)
      query (fun _ query' => start.ProjectsBy offered query'.clauses) fun _ _ => True := by
  rw [ends_bind, ends_get, same]
  dsimp only
  unfold Query.ProjectsBy Query.offering Clauses.projectsAll
  split
  · next all =>
      rw [projectAll, modifyClauses, ends_modify, same, ← binds]
      exact ⟨rfl, targets_projectAll _ _⟩
  · next partly =>
      refine ⟨?_, ?_⟩
      · rw [same]
      · rw [same, List.append_nil]

theorem ends_bodyVariables_midway
    (midway : start.Midway (start.arena.entered start.clauses.body.toList) query) :
    Ends bodyVariables query
      (fun vars query' => vars = start.bodyBinds (·.afterCheck.clauses.selected) ∧ query' = query)
      fun _ _ => True := by
  rw [bodyVariables, ends_bind, ends_get, midway.clauses, Query.bodyBinds]
  cases here : start.clauses.body with
  | none => exact ⟨rfl, rfl⟩
  | some body =>
      rw [here] at midway
      dsimp only
      rw [ends_inspect]
      split
      · next vars looked =>
          rw [Arena.bindable_eq looked, midway.binds_eq]
          exact ⟨by simp, rfl⟩
      · trivial

theorem ends_checkSelect_projects (scope : Scope)
    (midway : start.Midway (start.arena.entered start.clauses.body.toList) query) :
    Ends (checkSelect check scope) query
      (fun _ query' => start.ProjectsBy (·.afterCheck.clauses.selected) query'.clauses)
      fun _ _ => True := by
  apply (ends_bodyVariables_midway midway).bind
  rintro _ _ ⟨rfl, rfl⟩
  apply (ends_checkTrailing _ scope midway.clauses).bind
  rintro ⟨_, scope'⟩ query₂ ⟨rfl, same₂⟩
  have closed := closedUnderVisits_clauses check (· = start.clauses)
  rw [ends_bind, ends_get]
  apply (preserves_checkItems closed _ _ _ query₂ same₂).bind
  intro _ query₃ same₃
  exact ends_projection _ same₃ (unseen_trailing _ _ _)

theorem exists_run_checkBody {query query' : Query} {correct : Bool} (new : query.checked = false)
    (run : check.run query = .ok correct query') :
    ∃ scope mid, (checkBody check).run { query with blankOwners := [] } = .ok scope mid ∧
      query.Midway (query.arena.entered query.clauses.body.toList) mid ∧
      query.ProjectsBy (·.afterCheck.clauses.selected) query'.clauses := by
  suffices ends : Ends (checkWith check) query
      (fun _ query' => ∃ scope mid,
        (checkBody check).run { query with blankOwners := [] } = .ok scope mid ∧
        query.Midway (query.arena.entered query.clauses.body.toList) mid ∧
        query.ProjectsBy (·.afterCheck.clauses.selected) query'.clauses)
      fun _ _ => True by
    rw [check_eq] at run
    exact ends.of_ok run
  rw [checkWith, ends_bind, ends_get, if_neg (Bool.eq_false_iff.mp new), ends_bind, ends_modify]
  apply ((ends_run (checkBody check) _).and (ends_checkBody_midway query)).imp (fun _ _ => id)
    (fun _ _ _ => trivial) |>.bind
  rintro scope mid ⟨through, midway₁⟩
  have closed := closedUnderVisits_midway query (query.arena.entered query.clauses.body.toList)
  apply (preserves_checkGroundData closed mid midway₁).bind
  intro _ query₂ midway₂
  apply (preserves_checkTemplates closed query₂ midway₂).bind
  intro _ query₃ midway₃
  apply (ends_checkSelect_projects scope midway₃).bind
  intro _ query₄ projects
  have closed := closedUnderVisits_clauses check
    (query.ProjectsBy (·.afterCheck.clauses.selected))
  apply (preserves_checkGrouping closed query₄ projects).bind
  intro _ query₅ projects
  exact ⟨scope, mid, through, midway₁, projects⟩

/-- The induction is on the level of the query: what subqueries offer is what their checks make of
their projections. -/
theorem projects_of_run_check {query query' : Query} {correct : Bool}
    (fresh : query.Everywhere (·.checked = false)) (run : check.run query = .ok correct query') :
    query.Projects query'.clauses := by
  induction equal : query.level using Nat.strong_induction_on
    generalizing query query' correct with
  | h level induction =>
      have nested (id : PatternId) (sub : Query) (correct : Bool) (sub' : Query)
          (found : query.arena.get? id = some (.subquery sub))
          (run : check.run sub = .ok correct sub') : sub'.clauses.selected = sub.offered :=
        (induction _ (equal ▸ Query.level_lt_of_get? found) (fresh.part ⟨id, found⟩) run rfl).2
      rcases exists_run_checkBody fresh.here run with ⟨_, _, _, midway, same, selected⟩
      refine ⟨same, selected.trans ?_⟩
      rw [query.offered_eq, Query.offering, Query.offering, midway.bodyBinds_offered nested]

/-- A check completes the projection of a query that projects all: after the variables that are
projected already come the others that the body can bind and those of the table after it, each once.
None of all these is a blank node or a path. -/
theorem selected_check {query query' : Query} {correct : Bool}
    (fresh : query.Everywhere (·.checked = false)) (all : query.clauses.selectAll = true)
    (form : query.clauses.form ≠ .describe)
    (plain : ∀ v ∈ query.clauses.selected ++ query.tableVars, v.isVisible = true)
    (run : check.run query = .ok correct query') :
    ∃ added, query'.clauses.selected = query.clauses.selected ++ added ∧
      added = Variable.unseen query.clauses.selected
        (query.bodyBinds Query.offered ++ query.tableVars) ∧
      (added.map (·.name)).Nodup ∧
      (∀ v ∈ added, v.occursIn query.clauses.selected = false) ∧
      ∀ v ∈ query'.clauses.selected, v.blank = false ∧ v.path = false := by
  have projectsAll : query.clauses.projectsAll = true := by
    simp [Clauses.projectsAll, all, form]
  have selected := (projects_of_run_check fresh run).2
  rw [query.offered_eq, Query.offering, if_pos projectsAll] at selected
  rcases Variable.nodup_unseen query.clauses.selected
    (query.bodyBinds Query.offered ++ query.tableVars) with ⟨distinct, others⟩
  refine ⟨_, selected, rfl, distinct, others, fun v member => ?_⟩
  suffices visible : v.isVisible = true by
    simpa [Variable.isVisible] using visible
  rw [selected] at member
  rcases List.mem_append.mp member with written | added
  · exact plain v (List.mem_append_left _ written)
  · rcases List.mem_append.mp ((Variable.unseen_sublist _ _).subset added) with bound | trailing
    · rcases List.mem_flatMap.mp bound with ⟨body, _, bound⟩
      exact (List.mem_filter.mp ((Variable.unseen_sublist _ _).subset bound)).2
    · exact plain v (List.mem_append_right _ trailing)

def allOfTriple : Query :=
  (Operation.setSelectAll true).run.after
    ((Operation.setBody 0).run.after
      ((Operation.triple (.var (.ofName "x")) { node := .const (.iri "p") }
        (.var (.ofName "y"))).run.after {}))

def around (sub : Query) : Query :=
  (Operation.setSelectAll true).run.after
    ((Operation.setBody 0).run.after ((Operation.subquery sub).run.after {}))

/-- A query that projects a variable, all that a query inside of it offers, and a table. -/
def allAround (sub : Query) (written trailing : String) : Query :=
  (Operation.setValues { vars := [.ofName trailing], rows := [] }).run.after
    ((Operation.select (.ofName written) none).run.after (around sub))

def allTwiceAround : Query := allAround (allAround allOfTriple "z" "y") "y" "w"

theorem allOfTriple_unchecked : allOfTriple.Unchecked := by
  have empty : Query.Unchecked {} := .empty {} _ _ _
  exact .step _ (.step _ (.step _ empty nofun nofun) nofun nofun) nofun nofun

theorem around_unchecked {sub : Query} (unchecked : sub.Unchecked) : (around sub).Unchecked := by
  have empty : Query.Unchecked {} := .empty {} _ _ _
  refine .step _ (.step _ (.step _ empty nofun ?_) nofun nofun) nofun nofun
  intro sub' equal
  cases equal
  exact unchecked

theorem allAround_unchecked {sub : Query} (unchecked : sub.Unchecked)
    (written trailing : String) : (allAround sub written trailing).Unchecked :=
  .step _ (.step _ (around_unchecked unchecked) nofun nofun) nofun nofun

theorem allTwiceAround_selected :
    allTwiceAround.Everywhere (·.checked = false) ∧
      (∃ correct, check.run allTwiceAround = .ok correct (check.after allTwiceAround)) ∧
      (∃ added, (check.after allTwiceAround).clauses.selected =
          allTwiceAround.clauses.selected ++ added ∧
        added = Variable.unseen allTwiceAround.clauses.selected
          (allTwiceAround.bodyBinds Query.offered ++ allTwiceAround.tableVars) ∧
        (added.map (·.name)).Nodup ∧
        (∀ v ∈ added, v.occursIn allTwiceAround.clauses.selected = false) ∧
        ∀ v ∈ (check.after allTwiceAround).clauses.selected,
          v.blank = false ∧ v.path = false) ∧
      (check.after allTwiceAround).clauses.selected.map (·.name) = ["y", "z", "x", "w"] := by
  have unchecked := allAround_unchecked (allAround_unchecked allOfTriple_unchecked "z" "y") "y" "w"
  have fresh : allTwiceAround.Everywhere (·.checked = false) :=
    unchecked.fresh.imp fun _ fresh => fresh.unchecked
  have run : ∃ correct, check.run allTwiceAround = .ok correct (check.after allTwiceAround) :=
    exists_run_of_returns (by decide +kernel)
  refine ⟨fresh, run, ?_, by decide +kernel⟩
  rcases run with ⟨correct, run⟩
  exact selected_check fresh rfl nofun (by decide) run

end Build

end Sparql
