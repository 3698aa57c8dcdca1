import Sparql.Proofs.Build.Operations
import Sparql.Proofs.Check.Retraced
import Sparql.Proofs.Check.Written
import Sparql.Proofs.Parallel.Body

/-!
A check of a query after another. When the first returned, the second returns the same and changes
nothing. When the first failed, and did not stop at a shared label, the second fails in the same
way, and reports the same once more, but for the shared labels: `repeated_check`.
-/

namespace Sparql

/-! ## What the body binds -/

namespace Arena

theorem bindable_congr {arena arena' : Arena Query} {root : PatternId}
    (size : arena.size = arena'.size)
    (same : ∀ next, arena.Draws root next → arena.get? next = arena'.get? next) :
    arena.bindable root = arena'.bindable root := by
  have levels : arena.levels = arena'.levels := congrArg (· + 1) size
  rw [bindable, bindable, ← levels]
  have collected (levels : Nat) (found : List Variable) {id : PatternId}
      (draws : arena.Draws root id) :
      arena.addBindable levels found id = arena'.addBindable levels found id := by
    induction levels generalizing found id with
    | zero => rfl
    | succ levels induction =>
        rw [addBindable, addBindable, get, get, ← same id draws]
        cases known : arena.get? id with
        | none => rfl
        | some p =>
            have onward {next : PatternId} (member : next ∈ p.sources) : arena.Draws root next :=
              draws.tail ⟨p, known, member⟩
            have children (sources : p.sources = p.children) :
                p.children.foldlM (arena.addBindable levels) found =
                  p.children.foldlM (arena'.addBindable levels) found := by
              rw [← sources]
              exact foldlM_congr (fun next member found => induction found (onward member)) found
            cases p with
            | triple _ | bind _ _ | values _ | subquery _ | minus _ | filter _ => rfl
            | graph name body => exact induction _ (onward (List.mem_singleton_self body))
            | group _ | union _ _ | optional _ | collection _ _ | service _ _ _ =>
                exact children rfl
  exact collected arena.levels [] .refl

end Arena

theorem Query.Midway.draws {start query : Query} {done : Set PatternId}
    (midway : start.Midway done query) {root id : PatternId} (draws : query.arena.Draws root id) :
    start.arena.Draws root id := by
  induction draws with
  | refl => exact .refl
  | tail _ step induction =>
      rcases step with ⟨p, found, member⟩
      refine induction.tail ⟨p, midway.found_plain found ?_, member⟩
      cases p with
      | subquery _ => cases member
      | _ => rfl

theorem Query.Midway.bindable_onward {start query later : Query} {vars : List Variable}
    {body : PatternId} (midway : start.Midway (start.arena.entered [body]) query)
    (onward : query.Onward vars later) :
    later.arena.bindable body = query.arena.bindable body := by
  refine (Arena.bindable_congr onward.arena.size.symm fun next draws => ?_).symm
  cases found : query.arena.get? next with
  | none => exact (onward.arena.get?_none found).symm
  | some p =>
      by_cases plain : p.isSubquery = false
      · exact (onward.arena.get?_plain found plain).symm
      · obtain ⟨sub, rfl⟩ : ∃ sub, p = .subquery sub := by
          cases p with
          | subquery sub => exact ⟨sub, rfl⟩
          | _ => exact absurd rfl plain
        have before : ∃ sub, start.arena.get? next = some (.subquery sub) := by
          rcases midway.cases_found found with same | ⟨sub, _, _, found', _⟩
          · exact ⟨_, same⟩
          · exact ⟨sub, found'⟩
        have entered : next ∈ start.arena.entered [body] :=
          ⟨⟨body, List.mem_singleton_self _, (midway.draws draws).reaches⟩, before⟩
        exact (onward.arena.get?_checked found (midway.checked next entered sub found)).symm

namespace Build

variable {vars : List Variable} {allowed : Problem → Prop} {start query : Query}
  {told : List Told}

/-! ## The parts of a check -/

def checkMatched (checkSub : Build Bool) : Build Scope := do
  let scope ← checkBody checkSub
  checkGroundData
  checkTemplates
  return scope

def checkLeading (checkSub : Build Bool) : Build (List Variable × Scope) := do
  let scope ← checkMatched checkSub
  let bodyVars ← bodyVariables
  checkTrailing bodyVars scope

def checkItems (checkSub : Build Bool) (found : List Variable × Scope) : Build Unit := do
  discard ((← get).clauses.select.foldlM (checkItem checkSub found.1) found.2)

def completeProjection (vars : List Variable) : Build Unit := do
  let clauses := (← get).clauses
  if clauses.selectAll && clauses.form != .describe then
    projectAll vars

def checkScopes (checkSub : Build Bool) : Build Unit := do
  let found ← checkLeading checkSub
  checkItems checkSub found
  completeProjection found.1

def checkClauses (checkSub : Build Bool) : Build Unit := do
  checkScopes checkSub
  checkGrouping

theorem checkRest_eq (checkSub : Build Bool) :
    Comparison.checkRest checkSub = (do
      checkClauses checkSub
      modify fun query => { query with checked := true }
      return (← get).log.correct) := by
  simp only [Comparison.checkRest, checkClauses, checkScopes, checkItems, completeProjection,
    checkLeading, checkMatched, checkSelect, bind_assoc, pure_bind]

theorem run_check_first (unchecked : query.checked = false) :
    check.run query =
      match (checkClauses check).run { query with blankOwners := [] } with
      | .ok _ query' => .ok query'.log.correct { query' with checked := true }
      | .error failure query' => .error failure query' := by
  rw [Comparison.run_check_of_unchecked unchecked, checkRest_eq, EStateM.run_bind]
  cases (checkClauses check).run { query with blankOwners := [] } <;> rfl

theorem surveys_checkMatched {checkSub : Build Bool} : Surveys checkSub (checkMatched checkSub) :=
  surveys_checkBody.bind fun scope => surveys_checkGroundData.bind fun _ =>
    surveys_checkTemplates.returning scope

theorem midway_checkMatched {scope : Scope} {query : Query}
    (run : (checkMatched check).run { start with blankOwners := [] } = .ok scope query) :
    start.Midway (start.arena.entered start.clauses.body.toList) query := by
  have closed := closedUnderVisits_midway start (start.arena.entered start.clauses.body.toList)
  suffices ends : Ends (checkMatched check) { start with blankOwners := [] }
      (fun _ query => start.Midway (start.arena.entered start.clauses.body.toList) query)
      fun _ _ => True from
    ends.of_ok run
  refine (ends_checkBody_midway start).bind fun scope query midway => ?_
  refine (preserves_checkGroundData closed query midway).bind fun _ query midway => ?_
  exact (preserves_checkTemplates closed query midway).bind fun _ _ midway => midway

/-! ## Up to the projection -/

def collectBody : Option PatternId → Build (List Variable)
  | some body => inspect (·.bindable body)
  | none => pure []

theorem bodyVariables_eq : bodyVariables = (do collectBody (← get).clauses.body) := by
  refine congrArg (get >>= ·) (funext fun query => ?_)
  cases query.clauses.body <;> rfl

theorem retraces_bodyVariables
    (midway : start.Midway (start.arena.entered start.clauses.body.toList) query) :
    Retraces vars allowed bodyVariables query [] := by
  have collects : Retraces vars allowed (collectBody query.clauses.body) query [] := by
    cases here : query.clauses.body with
    | none => exact .pure []
    | some body =>
        rw [midway.clauses] at here
        rw [here] at midway
        rw [collectBody]
        exact .inspect fun later onward => midway.bindable_onward onward
  rw [bodyVariables_eq]
  refine collects.of_run rfl rfl (.refl query) (Retraces.run_get_bind _ query) ?_
  intro later onward
  rw [Retraces.run_get_bind]
  dsimp only
  rw [(collects.onward.trans onward).sharesFrame.body]

theorem retraces_checkLeading (vars : List Variable) (nested : start.PartsFailAgain) :
    ∃ told, Retraces vars Problem.BeforeGrouping (checkLeading check)
      { start with blankOwners := [] } told := by
  have closed := closedUnderVisits_partsFailAgain
  have matched : ∃ told, Retraces vars Problem.BeforeGrouping (checkMatched check)
      { start with blankOwners := [] } told :=
    surveys_checkMatched.retraces nested
  rcases matched with ⟨told, matched⟩
  refine matched.bind fun scope query run => ?_
  have nested : query.PartsFailAgain :=
    (surveys_checkMatched.preserves closed { start with blankOwners := [] } nested).of_ok run
  have collects : Retraces vars Problem.BeforeGrouping bodyVariables query [] :=
    retraces_bodyVariables (midway_checkMatched run)
  refine collects.bind fun bodyVars query' run' => ?_
  have nested := (preserves_bodyVariables closed query nested).of_ok run'
  exact (surveys_checkTrailing bodyVars scope).retraces nested

/-! ## The projection -/

theorem run_checkItems_append (found : List Variable × Scope) (items : List Projection)
    (added : List Variable) (selectAll : query.clauses.selectAll = true) :
    (discard ((items ++ added.map fun v => ({ target := v } : Projection)).foldlM
        (checkItem check found.1) found.2)).run query =
      (discard (items.foldlM (checkItem check found.1) found.2)).run query := by
  have idle (scope : Scope) (query : Query) (selectAll : query.clauses.selectAll = true) :
      ((added.map fun v => ({ target := v } : Projection)).foldlM
        (checkItem check found.1) scope).run query = .ok scope query := by
    induction added generalizing scope with
    | nil => rfl
    | cons v rest induction =>
        have item : (checkItem check found.1 scope { target := v }).run query =
            .ok scope query := by
          rw [checkItem]
          dsimp only
          rw [EStateM.run_bind, EStateM.run_get]
          dsimp only
          rw [selectAll, Bool.or_true, if_pos rfl]
          rfl
        rw [List.map_cons, List.foldlM_cons, EStateM.run_bind, item]
        exact induction scope
  have discarded (x : Build Scope) : discard x = x >>= fun _ => pure ⟨⟩ := map_eq_pure_bind _ x
  rw [List.foldlM_append, discarded, discarded, bind_assoc, EStateM.run_bind, EStateM.run_bind]
  have surveys : Surveys check (items.foldlM (checkItem check found.1) found.2) :=
    surveys_foldlM (surveys_checkItem found.1) found.2
  have keeps := surveys.preserves (closedUnderVisits_clauses check (·.selectAll = true)) query
    selectAll
  cases run : (items.foldlM (checkItem check found.1) found.2).run query with
  | error failure query' => rfl
  | ok scope query' =>
      dsimp only
      rw [EStateM.run_bind, idle scope query' (keeps.of_ok run)]

theorem retraces_checkItems (found : List Variable × Scope) (nested : query.PartsFailAgain) :
    ∃ told, Retraces vars Problem.BeforeGrouping (checkItems check found) query
      told := by
  rcases (surveys_checkItems found.1 query.clauses.select found.2).retraces nested with
    ⟨told, items⟩
  refine ⟨told, items.of_run rfl rfl (.refl query) (Retraces.run_get_bind _ query) ?_⟩
  intro later onward
  rw [checkItems, Retraces.run_get_bind]
  dsimp only
  rcases (items.onward.trans onward).clauses with same | completed
  · rw [same]
  · by_cases all : query.clauses.projectsAll = true
    · rw [completed, Clauses.completedBy, if_pos all]
      refine run_checkItems_append found _ _ ?_
      exact (Bool.and_eq_true_iff.mp all).1
    · rw [completed, Clauses.completedBy, if_neg all]

theorem run_completeProjection (added : List Variable) (query : Query) :
    (completeProjection added).run query =
      .ok ⟨⟩ { query with clauses := query.clauses.completedBy added } := by
  rw [completeProjection, Retraces.run_get_bind]
  dsimp only
  rw [Clauses.completedBy, Clauses.projectsAll]
  split
  · rw [projectAll, modifyClauses, EStateM.run_modify, items_projectAll]
    rfl
  · cases query
    rfl

theorem retraces_completeProjection :
    Retraces vars allowed (completeProjection vars) query [] := by
  have run := run_completeProjection vars query
  refine ⟨?_, ?_, nofun, ?_⟩
  · rw [after_of_run_ok run]
    exact .nil rfl
  · rw [after_of_run_ok run]
    exact ⟨rfl, rfl, List.Subset.refl _, .refl _, .inr rfl⟩
  · rw [Repeats, run]
    intro later onward
    have same : later.clauses.completedBy vars = later.clauses := by
      rcases onward.clauses with same | completed
      · rw [same, Clauses.completedBy_completedBy]
      · rw [completed, Clauses.completedBy_completedBy, Clauses.completedBy_completedBy]
    rw [run_completeProjection]
    dsimp only
    rw [same]
    rfl

/-! ## Grouping -/

theorem retraces_forM {α : Type} {values : List α} {body : α → Build PUnit}
    (retraces : ∀ value (query : Query), ∃ told, Retraces vars allowed (body value) query told) :
    ∃ told, Retraces vars allowed (forM values body) query told := by
  induction values generalizing query with
  | nil => exact ⟨[], .pure _⟩
  | cons value rest induction =>
      rcases retraces value query with ⟨told, first⟩
      rw [List.forM_cons]
      exact first.bind fun _ _ _ => induction

theorem retraces_checkGrouping (completed : query.clauses.completedBy vars = query.clauses) :
    ∃ told, Retraces vars (fun _ => True) checkGrouping query told := by
  have reports : ∃ told, Retraces vars (fun _ => True)
      (if (!isGrouped query.clauses) = true then pure ()
      else
        ((mentioned query.clauses.select).filter fun v =>
          !v.occursIn (query.clauses.groupBy.filterMap Expr.asVariable?)).forM fun v =>
            problem (.notGroupKey v.text)) query told := by
    split
    · exact ⟨[], .pure _⟩
    · exact retraces_forM fun v _ => ⟨_, retraces_problem rfl trivial⟩
  rcases reports with ⟨told, reports⟩
  refine ⟨told, reports.of_run rfl rfl (.refl query) (Retraces.run_get_bind _ query) ?_⟩
  intro later onward
  have same : later.clauses = query.clauses := by
    rcases (reports.onward.trans onward).clauses with same | completed'
    · exact same
    · rw [completed', completed]
  rw [checkGrouping, Retraces.run_get_bind]
  dsimp only
  rw [same]

/-! ## Queries -/

theorem preserves_checkLeading {invariant : Query → Prop} {fails : Failure → Query → Prop}
    (closed : ClosedUnderVisits check invariant fails) :
    Preserves invariant fails (checkLeading check) := by
  refine (surveys_checkMatched.preserves closed).bind fun scope => ?_
  refine (preserves_bodyVariables closed).bind fun bodyVars => ?_
  exact (surveys_checkTrailing bodyVars scope).preserves closed

theorem ends_checkLeading (start : Query) :
    Ends (checkLeading check) { start with blankOwners := [] }
      (fun found query => found.1 = start.boundVars ∧ query.clauses = start.clauses)
      fun _ _ => True := by
  refine (ends_run (checkMatched check) _).bind fun scope query run => ?_
  have midway := midway_checkMatched run
  refine (ends_bodyVariables_midway midway).bind ?_
  rintro _ _ ⟨rfl, rfl⟩
  exact ends_checkTrailing _ scope midway.clauses

theorem retraces_checkScopes (nested : start.PartsFailAgain) :
    ∃ told, Retraces start.boundVars Problem.BeforeGrouping (checkScopes check)
      { start with blankOwners := [] } told := by
  rcases retraces_checkLeading start.boundVars nested with ⟨told, leads⟩
  refine leads.bind fun found query run => ?_
  have nested' : query.PartsFailAgain :=
    (preserves_checkLeading closedUnderVisits_partsFailAgain
      { start with blankOwners := [] } nested).of_ok run
  rcases retraces_checkItems found nested' with ⟨told', items⟩
  rw [((ends_checkLeading start).of_ok run).1]
  exact items.bind fun _ _ _ => ⟨[], retraces_completeProjection⟩

theorem ends_checkScopes (start : Query) :
    Ends (checkScopes check) { start with blankOwners := [] }
      (fun _ query => query.clauses = start.completed) fun _ _ => True := by
  refine (ends_checkLeading start).bind ?_
  rintro found query ⟨bound, same⟩
  have items := (surveys_checkItems found.1 query.clauses.select found.2).preserves
    (closedUnderVisits_clauses check (· = start.clauses)) query same
  have unchanged : Ends (checkItems check found) query
      (fun _ query => query.clauses = start.clauses) fun _ _ => True :=
    (ends_bind get _ _).mpr items
  refine unchanged.bind fun _ query' same' => ?_
  refine Ends.of_run_ok (run_completeProjection found.1 query') ?_
  rw [same', bound]
  rfl

theorem retraces_checkClauses (nested : start.PartsFailAgain) :
    ∃ told, Retraces start.boundVars (fun _ => True) (checkClauses check)
      { start with blankOwners := [] } told := by
  rcases retraces_checkScopes nested with ⟨told, scopes⟩
  refine (scopes.imp fun _ _ => trivial).bind fun _ query run => ?_
  refine retraces_checkGrouping ?_
  rw [(ends_checkScopes start).of_ok run]
  exact Clauses.completedBy_completedBy _ _

theorem fails_again (nested : start.PartsFailAgain) {failure : Failure}
    (run : check.run start = .error failure query) :
    ∃ told, start.Tells told query ∧ (failure.isShared = false →
      ∃ query', check.run query = .error failure query' ∧
        query'.log.entries = query.log.entries ++ (Told.again told).map Told.report) := by
  have unchecked : start.checked = false := by
    refine Bool.eq_false_iff.mpr fun checked => ?_
    rw [run_check_of_checked checked] at run
    cases run
  have first (query' : Query) (unchecked : query'.checked = false) := run_check_first unchecked
  rw [run_check_first unchecked] at run
  rcases retraces_checkClauses nested with ⟨told, retraces⟩
  cases run' : (checkClauses check).run { start with blankOwners := [] } with
  | ok _ query' =>
      rw [run'] at run
      cases run
  | error failure' query' =>
      rw [run'] at run
      cases run
      have tells := retraces.tells
      have onward := retraces.onward
      have repeats := retraces.repeats
      rw [after_of_run_error run'] at tells onward
      rw [Repeats, run'] at repeats
      refine ⟨told, ⟨tells.entries, tells.relayed, tells.once⟩, fun unshared => ?_⟩
      rcases repeats unshared query (.refl query) rfl with ⟨query', again, entries⟩
      refine ⟨query', ?_, entries⟩
      rw [run_check_first (onward.checked.trans unchecked), again]

theorem failsAgain (query : Query) : query.FailsAgain := by
  -- The induction is on the level of the query.
  induction equal : query.level using Nat.strong_induction_on generalizing query with
  | h level induction =>
      have nested : query.PartsFailAgain := fun id sub found =>
        induction _ (equal ▸ Query.level_lt_of_get? found) sub rfl
      intro failure query' run unshared
      rcases fails_again nested run with ⟨_, _, again⟩
      rcases again unshared with ⟨query'', run', _⟩
      exact ⟨query'', run'⟩

theorem partsFailAgain (query : Query) : query.PartsFailAgain := fun _ sub _ => failsAgain sub

theorem exists_tells_check (query : Query) : ∃ told, query.Tells told (check.after query) := by
  by_cases checked : query.checked = true
  · refine ⟨[], ?_⟩
    rw [after_of_run_ok (run_check_of_checked checked)]
    exact .nil rfl
  rcases retraces_checkClauses (partsFailAgain query) with ⟨told, retraces⟩
  have tells := retraces.tells
  refine ⟨told, ?_⟩
  rw [Build.after] at tells ⊢
  rw [run_check_first (Bool.eq_false_iff.mpr checked)]
  cases run : (checkClauses check).run { query with blankOwners := [] } with
  | ok _ query' =>
      rw [run] at tells
      exact ⟨tells.entries, tells.relayed, tells.once⟩
  | error failure query' =>
      rw [run] at tells
      exact ⟨tells.entries, tells.relayed, tells.once⟩

theorem correct_of_run_check {correct : Bool} (run : check.run start = .ok correct query) :
    correct = query.log.correct := by
  by_cases checked : start.checked = true
  · rw [run_check_of_checked checked] at run
    cases run
    rfl
  · rw [run_check_first (Bool.eq_false_iff.mpr checked)] at run
    cases run' : (checkClauses check).run { start with blankOwners := [] } with
    | ok _ query' =>
        rw [run'] at run
        cases run
        rfl
    | error failure query' =>
        rw [run'] at run
        cases run

/-- A check after one that returned returns the same and changes nothing. A check after one that
failed fails in the same way, unless the first stopped at a shared label. It reports once more what
the first reported, but for the shared labels that the query found itself; so it reports nothing
exactly if the first reported nothing else. -/
theorem repeated_check (query : Query) :
    (∀ correct query', check.run query = .ok correct query' →
      check.run query' = .ok correct query') ∧
    ∀ failure query', check.run query = .error failure query' →
      ∃ told, query.Tells told query' ∧ (failure.isShared = false →
        ∃ query'', check.run query' = .error failure query'' ∧
          query''.log.entries = query'.log.entries ++ (Told.again told).map Told.report ∧
          (query''.log.entries = query'.log.entries ↔ ∀ here ∈ told, here.isShared = true)) := by
  refine ⟨fun correct query' run => ?_, fun failure query' run => ?_⟩
  · rw [correct_of_run_check run]
    exact run_check_of_checked (checked_of_run_check run)
  · rcases fails_again (partsFailAgain query) run with ⟨told, tells, again⟩
    refine ⟨told, tells, fun unshared => ?_⟩
    rcases again unshared with ⟨query'', run', entries⟩
    refine ⟨query'', run', entries, ?_⟩
    rw [entries, List.append_right_eq_self, List.map_eq_nil_iff, Told.again, List.filter_eq_nil_iff]
    simp

def sharingLabel (options : Options) : Query :=
  (Operation.setBody 4).run.after
    ((Operation.group [1, 3]).run.after
      ((Operation.group [2]).run.after
        ((Operation.triple (.var (.ofBlank "b")) { node := .const (.iri "p") }
          (.var (.ofName "x"))).run.after
          ((Operation.group [0]).run.after
            ((Operation.triple (.var (.ofBlank "b")) { node := .const (.iri "p") }
              (.var (.ofName "x"))).run.after { options })))))

theorem sharingLabel_unchecked (options : Options) : (sharingLabel options).Unchecked := by
  have empty : Query.Unchecked { options } := .empty options _ _ _
  exact .step _ (.step _ (.step _ (.step _ (.step _ (.step _ empty nofun nofun) nofun nofun)
    nofun nofun) nofun nofun) nofun nofun) nofun nofun

theorem rebinding_repeats :
    (∃ correct, check.run (sharingLabel {}) = .ok correct (check.after (sharingLabel {})) ∧
      check.run (check.after (sharingLabel {})) = .ok correct (check.after (sharingLabel {}))) ∧
    check.run rebinding =
      .error (.strict (Problem.targetBound "?x").toDiagnostic) (check.after rebinding) ∧
    ∃ told query', rebinding.Tells told (check.after rebinding) ∧
      check.run (check.after rebinding) =
        .error (.strict (Problem.targetBound "?x").toDiagnostic) query' ∧
      query'.log.entries =
        (check.after rebinding).log.entries ++ (Told.again told).map Told.report := by
  have returns : ∃ correct,
      check.run (sharingLabel {}) = .ok correct (check.after (sharingLabel {})) :=
    exists_run_of_returns (by decide +kernel)
  have fails : check.run rebinding =
      .error (.strict (Problem.targetBound "?x").toDiagnostic) (check.after rebinding) := rfl
  rcases returns with ⟨correct, run⟩
  refine ⟨⟨correct, run, (repeated_check (sharingLabel {})).1 correct _ run⟩, fails, ?_⟩
  rcases (repeated_check rebinding).2 _ _ fails with ⟨told, tells, again⟩
  rcases again rfl with ⟨query', run', entries, _⟩
  exact ⟨told, query', tells, run', entries⟩

theorem sharingLabel_returns :
    (sharingLabel { strict := true }).Reachable ∧
      check.run (sharingLabel { strict := true }) =
        .error (.strict (Problem.blankShared "_:b").toDiagnostic)
          (check.after (sharingLabel { strict := true })) ∧
      check.run (check.after (sharingLabel { strict := true })) =
        .ok false (check.after (check.after (sharingLabel { strict := true }))) := by
  refine ⟨(sharingLabel_unchecked _).reachable, rfl, ?_⟩
  have run : ∃ correct, check.run (check.after (sharingLabel { strict := true })) =
      .ok correct (check.after (check.after (sharingLabel { strict := true }))) :=
    exists_run_of_returns (by decide +kernel)
  rcases run with ⟨correct, run⟩
  have incorrect :
      (check.after (check.after (sharingLabel { strict := true }))).log.correct = false := by
    decide +kernel
  rw [run, correct_of_run_check run, incorrect]

end Build

end Sparql
