import Sparql.Proofs.Calls.Resolved
import Sparql.Proofs.Check.Repeated
import Sparql.Proofs.Closed.Runs

/-!
What a check reports of the grouping: each variable that a grouped query mentions in its projection
outside of aggregates, and that is no key, where it is first mentioned, and nothing else:
`grouped_check`.
-/

namespace Sparql

/-! ## Variables outside of aggregates -/

namespace Expr

mutual
def bareVars : Expr → List Variable
  | var v => [v]
  | const _ => []
  | call head args => if head.isAggregate then [] else bareVarsOf args

def bareVarsOf : List Expr → List Variable
  | [] => []
  | e :: rest => e.bareVars ++ bareVarsOf rest
end

/-- The variable stands in the expression, and in no call of an aggregate. -/
inductive Bare (v : Variable) : Expr → Prop
  | var : Bare v (.var v)
  | call {head : Call} {args : List Expr} {e : Expr} (plain : head.isAggregate = false)
      (member : e ∈ args) (inside : Bare v e) : Bare v (.call head args)

mutual
theorem mem_bareVars {v : Variable} (e : Expr) : v ∈ e.bareVars ↔ Bare v e := by
  cases e with
  | var w =>
      rw [bareVars, List.mem_singleton]
      constructor
      · rintro rfl
        exact .var
      · rintro ⟨⟩
        rfl
  | const c => exact ⟨nofun, nofun⟩
  | call head args =>
      rw [bareVars]
      split
      · next aggregate =>
          refine ⟨nofun, fun bare => ?_⟩
          cases bare with
          | call plain _ _ => exact absurd (plain.symm.trans aggregate) Bool.false_ne_true
      · next plain =>
          rw [mem_bareVarsOf args]
          constructor
          · rintro ⟨e, member, inside⟩
            exact .call (Bool.eq_false_iff.mpr plain) member inside
          · intro bare
            cases bare with
            | call _ member inside => exact ⟨_, member, inside⟩

theorem mem_bareVarsOf {v : Variable} (args : List Expr) :
    v ∈ bareVarsOf args ↔ ∃ e ∈ args, Bare v e := by
  cases args with
  | nil => exact ⟨nofun, by simp⟩
  | cons e rest => rw [bareVarsOf, List.mem_append, mem_bareVars e, mem_bareVarsOf rest]; simp
end

mutual
theorem addUnaggregated_eq (found : List Variable) (e : Expr) :
    e.addUnaggregated found = e.bareVars.foldl (fun found v => v.addTo found) found := by
  cases e with
  | var v => rfl
  | const c => rfl
  | call head args =>
      rw [addUnaggregated, bareVars]
      split
      · rfl
      · exact addUnaggregatedOf_eq found args

theorem addUnaggregatedOf_eq (found : List Variable) (args : List Expr) :
    addUnaggregatedOf found args =
      (bareVarsOf args).foldl (fun found v => v.addTo found) found := by
  cases args with
  | nil => rfl
  | cons e rest =>
      rw [addUnaggregatedOf, bareVarsOf, List.foldl_append, ← addUnaggregated_eq found e]
      exact addUnaggregatedOf_eq _ rest
end

end Expr

/-! ## First mentions -/

namespace Variable

theorem not_same_of_unseen {known vars : List Variable} {seen v : Variable}
    (here : seen.occursIn known = true) (member : v ∈ unseen known vars) : seen.same v = false := by
  refine Bool.eq_false_iff.mpr fun same => ?_
  have apart := (nodup_unseen known vars).2 v member
  rw [occursIn_iff, beq_iff_eq.mp same, ← occursIn_iff, apart] at here
  cases here

theorem self_occursIn (known : List Variable) (v : Variable) :
    v.occursIn (known ++ [v]) = true := by
  simp [occursIn, same]

theorem find?_unseen {known vars : List Variable} {v : Variable} (member : v ∈ unseen known vars) :
    vars.find? (·.same v) = some v := by
  induction vars generalizing known with
  | nil => cases member
  | cons first rest induction =>
      rw [unseen] at member
      split at member
      · next here => rw [List.find?_cons, not_same_of_unseen here member, induction member]
      · rcases List.mem_cons.mp member with rfl | member
        · rw [List.find?_cons]
          simp [same]
        · rw [List.find?_cons, not_same_of_unseen (self_occursIn known first) member,
            induction member]

theorem pairwise_unseen (known vars : List Variable) :
    (unseen known vars).Pairwise fun v w => vars.findIdx (·.same v) < vars.findIdx (·.same w) := by
  induction vars generalizing known with
  | nil => exact .nil
  | cons first rest induction =>
      have later {known : List Variable} {v : Variable} (here : first.occursIn known = true)
          (member : v ∈ unseen known rest) :
          (first :: rest).findIdx (·.same v) = rest.findIdx (·.same v) + 1 := by
        rw [List.findIdx_cons, not_same_of_unseen here member, cond_false]
      have shifted {known : List Variable} (here : first.occursIn known = true) :
          (unseen known rest).Pairwise fun v w =>
            (first :: rest).findIdx (·.same v) < (first :: rest).findIdx (·.same w) := by
        refine (induction known).imp_of_mem fun member member' less => ?_
        rw [later here member, later here member']
        exact Nat.succ_lt_succ less
      rw [unseen]
      split
      · next here => exact shifted here
      · have here := self_occursIn known first
        refine List.pairwise_cons.mpr ⟨fun v member => ?_, shifted here⟩
        rw [later here member, List.findIdx_cons]
        simp [same]

end Variable

namespace Projection

/-- The variables that a projected item mentions, as they stand in the text. -/
def mentions (item : Projection) : List Variable :=
  match item.value with
  | some value => value.bareVars
  | none => [item.target]

/-- The item projects the variable itself, or an expression in which it stands outside of every
aggregate. -/
inductive Mentions (v : Variable) (item : Projection) : Prop
  | itself (plain : item.value = none) (equal : v = item.target)
  | inside {value : Expr} (computed : item.value = some value) (bare : Expr.Bare v value)

theorem mem_mentions {item : Projection} {v : Variable} : v ∈ item.mentions ↔ item.Mentions v := by
  rw [mentions]
  split
  · next value computed =>
      rw [Expr.mem_bareVars]
      refine ⟨.inside computed, fun mentions => ?_⟩
      cases mentions with
      | itself plain _ => cases computed.symm.trans plain
      | inside computed' bare =>
          cases computed.symm.trans computed'
          exact bare
  · next plain =>
      rw [List.mem_singleton]
      refine ⟨.itself plain, fun mentions => ?_⟩
      cases mentions with
      | itself _ equal => exact equal
      | inside computed _ => cases plain.symm.trans computed

end Projection

namespace Clauses

/-- The variables that the projection mentions, as they stand in the text. -/
def mentions (clauses : Clauses) : List Variable := clauses.select.flatMap Projection.mentions

/-- The solutions are grouped: there is a key, or an aggregate in a projected expression. -/
def Groups (clauses : Clauses) : Prop :=
  clauses.groupBy ≠ [] ∨
    ∃ item ∈ clauses.select, ∃ value, item.value = some value ∧
      ∃ call ∈ value.calls, call.isAggregate = true

def IsKey (clauses : Clauses) (v : Variable) : Prop :=
  ∃ w, .var w ∈ clauses.groupBy ∧ v.name = w.name

/-- The variables are those that the projection mentions and that are no keys. Each is there once,
as it is mentioned first, and in the order in which they are mentioned first. -/
structure Ungrouped (clauses : Clauses) (vars : List Variable) : Prop where
  mentioned : ∀ v ∈ vars, ∃ item ∈ clauses.select, item.Mentions v
  noKey : ∀ v ∈ vars, ¬ clauses.IsKey v
  all : ∀ item ∈ clauses.select, ∀ v, item.Mentions v → ¬ clauses.IsKey v →
    v.name ∈ vars.map (·.name)
  distinct : (vars.map (·.name)).Nodup
  first : ∀ v ∈ vars, clauses.mentions.find? (·.same v) = some v
  order : vars.Pairwise fun v w =>
    clauses.mentions.findIdx (·.same v) < clauses.mentions.findIdx (·.same w)

def ungrouped (clauses : Clauses) : List Variable :=
  if Build.isGrouped clauses then
    (Build.mentioned clauses.select).filter fun v =>
      !v.occursIn (clauses.groupBy.filterMap Expr.asVariable?)
  else []

def groupingReports (clauses : Clauses) : List Diagnostic :=
  clauses.ungrouped.map fun v => (Problem.notGroupKey v.text).toDiagnostic

variable {clauses : Clauses}

theorem mentioned_eq (clauses : Clauses) :
    Build.mentioned clauses.select = Variable.unseen [] clauses.mentions := by
  have collected (items : List Projection) (found : List Variable) :
      items.foldl
        (fun found item =>
          match item.value with
          | some value => value.addUnaggregated found
          | none => item.target.addTo found) found =
        (items.flatMap Projection.mentions).foldl (fun found v => v.addTo found) found := by
    induction items generalizing found with
    | nil => rfl
    | cons item rest induction =>
        rw [List.foldl_cons, induction, List.flatMap_cons, List.foldl_append, Projection.mentions]
        cases item.value with
        | none => rfl
        | some value =>
            dsimp only
            rw [Expr.addUnaggregated_eq]
  refine (collected clauses.select []).trans ?_
  rw [Variable.foldl_addTo, List.nil_append]
  rfl

theorem isGrouped_iff : Build.isGrouped clauses = true ↔ clauses.Groups := by
  rw [Build.isGrouped, Bool.or_eq_true, Groups]
  refine or_congr (by simp) ?_
  rw [List.any_eq_true]
  constructor
  · rintro ⟨value, member, aggregates⟩
    rcases List.mem_filterMap.mp member with ⟨item, here, equal⟩
    rw [Expr.hasAggregate_eq, List.any_eq_true] at aggregates
    exact ⟨item, here, value, equal, aggregates⟩
  · rintro ⟨item, here, value, equal, aggregates⟩
    refine ⟨value, List.mem_filterMap.mpr ⟨item, here, equal⟩, ?_⟩
    rw [Expr.hasAggregate_eq, List.any_eq_true]
    exact aggregates

theorem occursIn_keys_iff (v : Variable) :
    v.occursIn (clauses.groupBy.filterMap Expr.asVariable?) = true ↔ clauses.IsKey v := by
  have asVariable_iff {key : Expr} {w : Variable} : key.asVariable? = some w ↔ key = .var w := by
    cases key <;> simp [Expr.asVariable?]
  simp only [Variable.occursIn_iff, List.mem_map, List.mem_filterMap, asVariable_iff, IsKey]
  constructor
  · rintro ⟨w, ⟨_, member, rfl⟩, equal⟩
    exact ⟨w, member, equal.symm⟩
  · rintro ⟨w, member, equal⟩
    exact ⟨w, ⟨_, member, rfl⟩, equal.symm⟩

theorem ungrouped_ok (groups : clauses.Groups) : clauses.Ungrouped clauses.ungrouped := by
  have equal : clauses.ungrouped = (Variable.unseen [] clauses.mentions).filter fun v =>
      !v.occursIn (clauses.groupBy.filterMap Expr.asVariable?) := by
    rw [ungrouped, if_pos (isGrouped_iff.mpr groups), mentioned_eq]
  have kept : clauses.ungrouped.Sublist (Variable.unseen [] clauses.mentions) :=
    equal ▸ List.filter_sublist
  have noKey {v : Variable} : (!v.occursIn (clauses.groupBy.filterMap Expr.asVariable?)) = true ↔
      ¬ clauses.IsKey v := by
    rw [← occursIn_keys_iff, Bool.not_eq_true', Bool.not_eq_true]
  have mem_mentions {v : Variable} :
      v ∈ clauses.mentions ↔ ∃ item ∈ clauses.select, item.Mentions v := by
    simp only [mentions, List.mem_flatMap, Projection.mem_mentions]
  refine ⟨fun v member => ?_, fun v member => ?_, fun item here v mentions other => ?_, ?_,
    fun v member => Variable.find?_unseen (kept.subset member), ?_⟩
  · exact mem_mentions.mp ((Variable.unseen_sublist _ _).subset (kept.subset member))
  · rw [equal] at member
    exact noKey.mp (List.mem_filter.mp member).2
  · have occurs : v.occursIn (Variable.unseen [] clauses.mentions) = true := by
      have found := Variable.occursIn_unseen v [] clauses.mentions
      rw [List.nil_append] at found
      refine found.trans ((Bool.or_eq_true _ _).mpr (.inr (Variable.occursIn_iff.mpr ?_)))
      exact List.mem_map_of_mem (mem_mentions.mpr ⟨item, here, mentions⟩)
    rcases List.mem_map.mp (Variable.occursIn_iff.mp occurs) with ⟨w, member, same⟩
    rw [← same]
    refine List.mem_map_of_mem ?_
    rw [equal]
    refine List.mem_filter.mpr ⟨member, noKey.mpr fun key => other ?_⟩
    rcases key with ⟨key, member, named⟩
    exact ⟨key, member, same ▸ named⟩
  · exact (Variable.nodup_unseen [] _).1.sublist (kept.map _)
  · exact (Variable.pairwise_unseen [] _).sublist kept

end Clauses

namespace Build

/-! ## Checks -/

theorem run_checkGrouping (query : Query) :
    checkGrouping.run query = (forM query.clauses.groupingReports report).run query := by
  rw [checkGrouping, Retraces.run_get_bind, Clauses.groupingReports, List.forM_map,
    Clauses.ungrouped]
  dsimp only
  by_cases groups : isGrouped query.clauses = true
  · rw [groups, if_pos rfl]
    rfl
  · rw [Bool.eq_false_iff.mpr groups, if_neg Bool.false_ne_true]
    rfl

theorem ends_checkGrouping (query : Query) :
    Ends checkGrouping query
      (fun _ query' => query' = query.reporting query.clauses.groupingReports) fun _ _ => True := by
  rw [Ends, run_checkGrouping]
  exact ends_reports query.clauses.groupingReports query

theorem grouped_of_run_check {query query' : Query} {correct : Bool}
    (unchecked : query.checked = false) (run : check.run query = .ok correct query') :
    query'.clauses = query.completed ∧ ∃ told : List Told,
      query'.log.entries =
        query.log.entries ++ told.map Told.report ++ query'.clauses.groupingReports ∧
      (∀ p, .own p ∈ told → p.BeforeGrouping) ∧
      ∀ id report, .relayed id report ∈ told → ∃ sub,
        query'.arena.get? id = some (.subquery sub) ∧ report ∈ sub.log.entries := by
  rcases retraces_checkScopes (partsFailAgain query) with ⟨told, scopes⟩
  rw [run_check_first unchecked, checkClauses, EStateM.run_bind] at run
  cases first : (checkScopes check).run { query with blankOwners := [] } with
  | error failure between =>
      rw [first] at run
      cases run
  | ok _ between =>
      have completed : between.clauses = query.completed := (ends_checkScopes query).of_ok first
      have tells := scopes.tells
      rw [after_of_run_ok first] at tells
      rw [first] at run
      dsimp only at run
      cases grouped : checkGrouping.run between with
      | error failure query'' =>
          rw [grouped] at run
          cases run
      | ok _ query'' =>
          rw [grouped] at run
          cases run
          obtain rfl := (ends_checkGrouping between).of_ok grouped
          refine ⟨completed, told, ?_, scopes.own, fun id report member => ?_⟩
          · exact (Query.entries_reporting between _).trans (congrArg (· ++ _) tells.entries)
          · rcases tells.relayed id report member with ⟨sub, found, _, reported⟩
            exact ⟨sub, found, reported⟩

/-- A check of a query that was not checked before reports each variable that a grouped projection
mentions outside of aggregates and that is no key, once, where it is first mentioned; and it reports
nothing else of the kind, but for what it passes on from subqueries. By then the projection is
completed. -/
theorem grouped_check {query : Query} (reachable : query.Reachable)
    (unchecked : query.checked = false) :
    (query.Everywhere Query.Checkable → ∃ correct query', check.run query = .ok correct query') ∧
      ∀ correct query', check.run query = .ok correct query' →
        query'.clauses = query.completed ∧ ∃ (told : List Told) (vars : List Variable),
          query'.log.entries = query.log.entries ++ told.map Told.report ++
            vars.map (fun v => (Problem.notGroupKey v.text).toDiagnostic) ∧
          (∀ here ∈ told, here.report.code = .nonGroupKeyVariable →
            ∃ id sub, here = .relayed id here.report ∧
              query'.arena.get? id = some (.subquery sub) ∧ here.report ∈ sub.log.entries) ∧
          (query.completed.Groups → query.completed.Ungrouped vars) ∧
          (¬ query.completed.Groups → vars = []) := by
  refine ⟨fun checkable => ?_, fun correct query' run => ?_⟩
  · have ready := checkable.ready reachable.cellsAreTriples
    rcases ready.checks checkable.here.lenient with ⟨correct, run, _⟩
    exact ⟨correct, _, run⟩
  · rcases grouped_of_run_check unchecked run with ⟨completed, told, entries, own, relayed⟩
    rw [completed] at entries
    refine ⟨completed, told, _, entries, fun here member code => ?_, Clauses.ungrouped_ok,
      fun plain => if_neg (mt Clauses.isGrouped_iff.mp plain)⟩
    cases here with
    | own p =>
        cases p with
        | notGroupKey v => exact absurd rfl (own _ member v)
        | _ => cases code
    | relayed id report =>
        rcases relayed id report member with ⟨sub, found, reported⟩
        exact ⟨id, sub, rfl, found, reported⟩

def selectingObject : Query :=
  (Operation.select (.ofName "o") none).run.after
    ((Operation.setBody 1).run.after
      ((Operation.group [0]).run.after
        ((Operation.triple (.var (.ofName "s")) { node := .const (.iri "p") }
          (.var (.ofName "o"))).run.after {})))

def groupingBySubject (query : Query) : Query :=
  (Operation.groupBy (.var (.ofName "s"))).run.after query

theorem assembled_selectingObject : selectingObject.Assembled := by
  have empty : Query.Assembled {} := .empty {} _ _ _ rfl
  have triple := empty.step (.triple (.var (.ofName "s")) { node := .const (.iri "p") }
    (.var (.ofName "o"))) ⟨by simp [NamesBelow, Operation.written, Expr.patterns], by simp, by simp⟩
    (by simp)
  have group := triple.step (.group [0]) ⟨namesBelow_nil, fun _ equal => ?_, by simp⟩ (by simp)
  · have body := group.step (.setBody 1) ⟨namesBelow_nil, by simp, by simp⟩ (by simp)
    exact body.step _ ⟨namesBelow_nil, by simp, by simp⟩ (by simp)
  · cases equal
    decide

theorem assembled_groupingBySubject {query : Query} (assembled : query.Assembled) :
    (groupingBySubject query).Assembled :=
  assembled.step _ ⟨by simp [NamesBelow, Operation.written, Expr.patterns], by simp, by simp⟩
    (by simp)

theorem groupingBySubject_grouped :
    (groupingBySubject selectingObject).Reachable ∧
      (groupingBySubject selectingObject).checked = false ∧
      (∃ correct query' vars, check.run (groupingBySubject selectingObject) = .ok correct query' ∧
        query'.clauses.Ungrouped vars) ∧
      (check.after (groupingBySubject selectingObject)).log.entries =
        [(Problem.notGroupKey "?o").toDiagnostic] := by
  have reachable := (assembled_groupingBySubject assembled_selectingObject).reachable
  have unchecked : (groupingBySubject selectingObject).checked = false := rfl
  have run : ∃ correct, check.run (groupingBySubject selectingObject) =
      .ok correct (check.after (groupingBySubject selectingObject)) :=
    exists_run_of_returns (by decide +kernel)
  rcases run with ⟨correct, run⟩
  rcases (grouped_check reachable unchecked).2 correct _ run with
    ⟨completed, told, vars, _, _, ungrouped, _⟩
  refine ⟨reachable, unchecked, ⟨correct, _, vars, run, ?_⟩, by decide +kernel⟩
  rw [completed]
  exact ungrouped (.inl (by decide))

def groupedTooLate : Query := groupingBySubject (Operation.check.run.after selectingObject)

theorem clauses_groupedTooLate :
    groupedTooLate.clauses =
      { selectingObject.clauses with groupBy := [.var (.ofName "s")] } := by
  have grouping (query : Query) : (groupingBySubject query).clauses =
      { query.clauses with groupBy := query.clauses.groupBy ++ [.var (.ofName "s")] } := rfl
  have run : ∃ correct, check.run selectingObject = .ok correct (check.after selectingObject) :=
    exists_run_of_returns (by decide +kernel)
  rcases run with ⟨correct, run⟩
  have same : (check.after selectingObject).clauses = selectingObject.clauses :=
    (grouped_of_run_check rfl run).1
  rw [groupedTooLate, grouping, Operation.run, after_map, same]
  rfl

theorem groupedTooLate_unasked :
    groupedTooLate.Reachable ∧ groupedTooLate.Everywhere Query.Checkable ∧
      check.run groupedTooLate = .ok true groupedTooLate ∧ groupedTooLate.log.entries = [] ∧
      groupedTooLate.clauses.Groups ∧ ¬ groupedTooLate.clauses.Ungrouped [] := by
  have checked : groupedTooLate.checked = true := by decide +kernel
  have correct : groupedTooLate.log.correct = true := by decide +kernel
  have assembled : groupedTooLate.Assembled :=
    assembled_groupingBySubject (assembled_selectingObject.step .check
      ⟨namesBelow_nil, by simp, by simp⟩ (by simp))
  refine ⟨assembled.reachable, assembled.closed.checkable, ?_, by decide +kernel, ?_, ?_⟩
  · rw [run_check_of_checked checked, correct]
  · rw [clauses_groupedTooLate]
    exact .inl (List.cons_ne_nil _ _)
  · rw [clauses_groupedTooLate]
    intro ungrouped
    have noKey : ¬ Clauses.IsKey
        { selectingObject.clauses with groupBy := [.var (.ofName "s")] } (.ofName "o") := by
      rintro ⟨w, key, named⟩
      cases List.mem_singleton.mp key
      exact absurd named (by decide)
    exact absurd (ungrouped.all _ (List.mem_singleton_self _) _ (.itself rfl rfl) noKey)
      List.not_mem_nil

end Build

end Sparql
