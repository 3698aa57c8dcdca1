import Sparql.Proofs.Check.Entered
import Sparql.Proofs.Check.Untouched
import Sparql.Proofs.Reports

/-!
No report about a subquery is lost. Once a query is checked, so is every subquery that the check
came to, and the reports about it stand among those of the query, all together and in their order;
and so at every depth: `relays_of_run_check`. A query that is checked already is not checked again,
so that a subquery put into it later is not heard.
-/

namespace Sparql

namespace Query

/-! ## What a check leaves to be met -/

namespace MadeAlike

variable {query query' : Query}

theorem selectTested_eq (alike : query.MadeAlike query') :
    query'.selectTested = query.selectTested := by
  rcases alike.clauses with ⟨added, equal, _⟩
  have none : (added.map fun v => ({ target := v } : Projection)).flatMap
      (fun item => item.value.toList.flatMap Expr.patterns) = [] := by
    simp
  rw [selectTested, selectTested, equal, List.flatMap_append, none, List.append_nil]

theorem matched_eq (alike : query.MadeAlike query') : query'.matched = query.matched := by
  rw [matched, matched, alike.selectTested_eq]
  rcases alike.clauses with ⟨added, equal, _⟩
  rw [equal]

theorem reaches_iff (alike : query.MadeAlike query') (id next : PatternId) :
    query'.arena.Reaches id next ↔ query.arena.Reaches id next :=
  ⟨(Arena.keepsParts_of_frame alike.arena.symm).reaches,
    (Arena.keepsParts_of_frame alike.arena).reaches⟩

end MadeAlike

def ComesTo (query : Query) (id : PatternId) (sub : Query) : Prop :=
  ∃ root ∈ query.matched, query.arena.Reaches root id ∧
    query.arena.get? id = some (.subquery sub)

/-! ## Relays -/

/-- Each subquery that is used is checked, and its reports are reports of the query, all together
and in their order; and so for the subqueries of that one. -/
inductive Relays : Query → Prop
  | intro {query : Query}
      (told : ∀ id sub, query.ComesTo id sub →
        sub.checked = true ∧ sub.log.entries <:+: query.log.entries)
      (inside : ∀ id sub, query.ComesTo id sub → Relays sub) : Relays query

/-- The subqueries with these ids are checked, have the property, and have their reports among those
of the query. -/
def Told (property : Query → Prop) (done : Set PatternId) (query : Query) : Prop :=
  ∀ id ∈ done, ∀ sub, query.arena.get? id = some (.subquery sub) →
    sub.checked = true ∧ property sub ∧ sub.log.entries <:+: query.log.entries

variable {property : Query → Prop} {done done' : Set PatternId} {query query' sub : Query}

theorem Told.mono (told : query.Told property done) (subset : done' ⊆ done) :
    query.Told property done' :=
  fun id member => told id (subset member)

theorem Told.enter {id : PatternId} (told : query.Told property done)
    (found : query.arena.get? id = some (.subquery sub)) (checked : sub.checked = true)
    (holds : property sub) :
    (query.reporting sub.log.entries).Told property (done ∪ {id}) := by
  intro id' member sub' found'
  rw [entries_reporting]
  rcases member with old | rfl
  · rcases told id' old sub' found' with ⟨checked', holds', inside⟩
    exact ⟨checked', holds', inside.trans (List.prefix_append _ _).isInfix⟩
  · cases found.symm.trans found'
    exact ⟨checked, holds, (List.suffix_append _ _).isInfix⟩

end Query

namespace Build

theorem closedUnderVisits_told (property : Query → Prop) (done : Set PatternId) :
    ClosedUnderVisits check (Query.Told property done) fun _ _ => True where
  report diagnostic query told _ := by
    rw [ends_report]
    split
    · trivial
    · intro id member sub found
      rcases told id member sub found with ⟨checked, holds, inside⟩
      exact ⟨checked, holds, inside.trans (List.prefix_append _ _).isInfix⟩
  own _ _ told := told
  part query id sub told found := by
    unfold Ends
    split
    · next run =>
        intro id' member sub' found'
        rw [Arena.get?_set found] at found'
        split at found'
        · next same =>
            -- It was checked when it was entered, so that it is not changed again.
            subst same
            cases found'
            have before := told id' member sub found
            rw [run_check_of_checked before.1] at run
            cases run
            exact before
        · exact told id' member sub' found'
    · trivial
  other _ _ _ _ := trivial

variable {start : Query} {property : Query → Prop}

theorem visiting_told
    (nested : ∀ id sub correct sub', start.arena.get? id = some (.subquery sub) →
      check.run sub = .ok correct sub' → property sub') :
    Visiting start fun done query => start.Midway done query ∧ query.Told property done where
  midway holds := holds.1
  mono holds subset := ⟨holds.1.mono subset, holds.2.mono subset⟩
  closed done := (closedUnderVisits_midway start done).and (closedUnderVisits_told property done)
  visit {done query id sub} scope holds found := by
    rcases holds with ⟨midway, told⟩
    unfold checkSubquery
    split
    · rw [ends_bind, ends_modify]
      trivial
    · next correct sub' run =>
        have closed := (closedUnderVisits_midway start (done ∪ {id})).and
          (closedUnderVisits_told property (done ∪ {id}))
        rw [ends_bind, ends_modify]
        have replaced := midway.replace found run
        have holds' : property sub' := by
          rcases midway.cases_found found with before | ⟨first, correct₀, sub₀, before, run₀, equal⟩
          · exact nested id sub correct sub' before run
          · cases equal
            rw [run_check_of_checked (checked_of_run_check run₀)] at run
            cases run
            exact nested id first correct₀ sub before run₀
        have kept : Query.Told property done
            { query with arena := query.arena.set id (.subquery sub') } :=
          ((closedUnderVisits_told property done).part query id sub told found).of_ok run
        refine (ends_reports sub'.log.entries _).bind ?_
        rintro _ query' rfl
        have here : (query.arena.set id (.subquery sub')).get? id = some (.subquery sub') := by
          rw [Arena.get?_set found, if_pos rfl]
        have told' := kept.enter here (checked_of_run_check run) holds'
        refine ((preserves_forM fun label _ => preserves_checkBlank closed label id).bind
          fun _ => preserves_pure _) _ ⟨?_, told'⟩
        exact ⟨replaced.clauses, replaced.size, replaced.kept, replaced.checked⟩

theorem told_checkSelect {done : Set PatternId} (visiting : Visiting start fun done query =>
    start.Midway done query ∧ query.Told property done) (scope : Scope) (query : Query)
    (holds : start.Midway done query ∧ query.Told property done) :
    Ends (checkSelect check scope) query
      (fun _ => Query.Told property (done ∪ start.arena.entered start.selectTested))
      fun _ _ => True := by
  have closed := visiting.closed done
  apply (preserves_bodyVariables closed query holds).bind
  intro bodyVars query₁ holds
  apply (preserves_checkTrailing closed bodyVars scope query₁ holds).bind
  intro found query₂ holds
  rw [ends_bind, ends_get, holds.1.clauses]
  apply (covers_checkItems visiting found.1 start.clauses.select found.2 done query₂ holds).bind
  intro _ query₃ holds
  rw [ends_bind, ends_get]
  dsimp only
  split
  · exact holds.2
  · exact holds.2

theorem told_of_run_check {query' : Query} {correct : Bool} (unchecked : start.checked = false)
    (nested : ∀ id sub correct sub', start.arena.get? id = some (.subquery sub) →
      check.run sub = .ok correct sub' → property sub')
    (run : check.run start = .ok correct query') :
    query'.Told property (start.arena.entered start.matched) := by
  rw [check_eq] at run
  suffices ends : Ends (checkWith check) start
      (fun _ query' => query'.Told property (start.arena.entered start.matched))
      fun _ _ => True from
    ends.of_ok run
  have visiting := visiting_told nested
  have closed := closedUnderVisits_told property (start.arena.entered start.matched)
  rw [checkWith, ends_bind, ends_get, unchecked, if_neg Bool.false_ne_true, ends_bind, ends_modify]
  have none : ({ start with blankOwners := [] } : Query).Told property ∅ :=
    fun id member => absurd member (Set.notMem_empty id)
  apply (covers_checkBody visiting ∅ _ ⟨.begun start, none⟩).bind
  intro scope query₁ holds
  rw [Set.empty_union] at holds
  apply (preserves_checkGroundData (visiting.closed _) query₁ holds).bind
  intro _ query₂ holds
  apply (preserves_checkTemplates (visiting.closed _) query₂ holds).bind
  intro _ query₃ holds
  apply (told_checkSelect visiting scope query₃ holds).bind
  intro _ query₄ told
  rw [← Arena.entered_append] at told
  apply (preserves_checkGrouping closed query₄ told).bind
  intro _ query₅ told
  exact told

end Build

/-! ## Trees of queries -/

namespace Query

variable {query query' sub : Query} {id : PatternId}

theorem Relays.told (relays : query.Relays) (comes : query.ComesTo id sub) :
    sub.checked = true ∧ sub.log.entries <:+: query.log.entries := by
  cases relays with
  | intro told inside => exact told id sub comes

theorem Relays.inside (relays : query.Relays) (comes : query.ComesTo id sub) : sub.Relays := by
  cases relays with
  | intro told inside => exact inside id sub comes

theorem Relays.correct_of_meets (relays : query.Relays)
    (faithful : query.Everywhere (·.log.Faithful)) (correct : query.log.correct = true)
    {root : PatternId} (matched : root ∈ query.matched) (meets : query.Meets root sub) :
    sub.log.correct = true := by
  have step {query sub : Query} {root id : PatternId} (relays : query.Relays)
      (faithful : query.Everywhere (·.log.Faithful)) (correct : query.log.correct = true)
      (matched : root ∈ query.matched) (reaches : query.arena.Reaches root id)
      (found : query.arena.get? id = some (.subquery sub)) : sub.log.correct = true := by
    rw [← Bool.not_eq_false]
    intro incorrect
    rcases (faithful.part ⟨id, found⟩).here.mp incorrect with ⟨diagnostic, member, isError⟩
    have told := (relays.told ⟨root, matched, reaches, found⟩).2.subset member
    rw [faithful.here.mpr ⟨diagnostic, told, isError⟩] at correct
    cases correct
  induction meets with
  | here reaches found => exact step relays faithful correct matched reaches found
  | inside reaches found matched' _ induction =>
      exact induction (relays.inside ⟨_, matched, reaches, found⟩) (faithful.part ⟨_, found⟩)
        (step relays faithful correct matched reaches found) matched'

theorem MadeAlike.comesTo (alike : query.MadeAlike query') (comes : query.ComesTo id sub) :
    ∃ sub', query'.ComesTo id sub' := by
  rcases comes with ⟨root, matched, reaches, found⟩
  rcases Arena.exists_subquery_of_frame alike.arena found with ⟨sub', found'⟩
  exact ⟨sub', root, alike.matched_eq ▸ matched, (alike.reaches_iff root id).mpr reaches, found'⟩

theorem MadeAlike.mem_entered (alike : query.MadeAlike query') (comes : query'.ComesTo id sub) :
    id ∈ query.arena.entered query.matched := by
  rcases comes with ⟨root, matched, reaches, found⟩
  refine ⟨⟨root, alike.matched_eq ▸ matched, (alike.reaches_iff root id).mp reaches⟩, ?_⟩
  exact Arena.exists_subquery_of_frame alike.arena.symm found

end Query

namespace Build

theorem madeAlike_of_run_check {query query' : Query} {correct : Bool}
    (run : check.run query = .ok correct query') : query.MadeAlike query' := by
  rw [← after_of_run_ok run]
  exact (spares_checkAt _ query).alike

/-- The induction is on the level of the query. A query that was checked before relays already, or
else its first check enters all subqueries that it comes to. -/
theorem relays_of_run_check {query query' : Query} {correct : Bool}
    (before : query.Everywhere fun there => there.checked = true → there.Relays)
    (run : check.run query = .ok correct query') : query'.Relays := by
  induction equal : query.level using Nat.strong_induction_on
    generalizing query query' correct with
  | h level induction =>
      by_cases checked : query.checked = true
      · rw [run_check_of_checked checked] at run
        cases run
        exact before.here checked
      · have nested (id : PatternId) (sub : Query) (correct : Bool) (sub' : Query)
            (found : query.arena.get? id = some (.subquery sub))
            (run : check.run sub = .ok correct sub') : sub'.Relays :=
          induction _ (equal ▸ Query.level_lt_of_get? found) (before.part ⟨id, found⟩) run rfl
        have told := told_of_run_check (Bool.eq_false_iff.mpr checked) nested run
        have heard (id : PatternId) (sub : Query) (comes : query'.ComesTo id sub) :
            sub.checked = true ∧ sub.Relays ∧ sub.log.entries <:+: query'.log.entries := by
          have entered := (madeAlike_of_run_check run).mem_entered comes
          rcases comes with ⟨_, _, _, found⟩
          exact told id entered sub found
        refine .intro (fun id sub comes => ?_) fun id sub comes => (heard id sub comes).2.1
        exact ⟨(heard id sub comes).1, (heard id sub comes).2.2⟩

/-- No report about a subquery that a check comes to is lost. When a check returns, every such
subquery is checked, and its reports are reports of the query, all together and in their order, and
so at every depth; therefore none of them is incorrect if the query is correct. It is enough that
the queries that were checked before are in this order already. -/
theorem relayed_check {query : Query} (reachable : query.Reachable)
    (before : query.Everywhere fun there => there.checked = true → there.Relays) :
    (query.Everywhere Query.Checkable → ∃ correct query', check.run query = .ok correct query') ∧
      ∀ correct query', check.run query = .ok correct query' →
        (∀ id sub, query.ComesTo id sub → ∃ sub', query'.ComesTo id sub') ∧ query'.Relays ∧
          (query'.log.correct = true → ∀ root ∈ query'.matched, ∀ sub, query'.Meets root sub →
            sub.log.correct = true) := by
  refine ⟨fun checkable => ?_, fun correct query' run => ?_⟩
  · have ready := checkable.ready reachable.cellsAreTriples
    rcases ready.checks checkable.here.lenient with ⟨correct, run, _⟩
    exact ⟨correct, _, run⟩
  · have relays := relays_of_run_check before run
    have faithful : query'.Everywhere (·.log.Faithful) := by
      have step : (Operation.check.run.after query).Reachable :=
        .step .check reachable trivial nofun
      rw [Operation.run, after_map, after_of_run_ok run] at step
      exact Query.Reachable.faithful step
    refine ⟨fun id sub comes => (madeAlike_of_run_check run).comesTo comes, relays, ?_⟩
    exact fun correct root matched sub => relays.correct_of_meets faithful correct matched

def bindsTwice : Query :=
  (Operation.setBody 2).run.after
    ((Operation.group [0, 1]).run.after
      ((Operation.bind (.const (.iri "b")) (.ofName "x")).run.after
        ((Operation.bind (.const (.iri "a")) (.ofName "x")).run.after {})))

def excluding (sub : Query) : Query :=
  (Operation.setBody 1).run.after
    ((Operation.minus 0).run.after ((Operation.subquery sub).run.after {}))

theorem bindsTwice_unchecked : bindsTwice.Unchecked := by
  have empty : Query.Unchecked {} := .empty {} _ _ _
  exact .step _ (.step _ (.step _ (.step _ empty nofun nofun) nofun nofun) nofun nofun) nofun nofun

theorem excluding_unchecked {sub : Query} (unchecked : sub.Unchecked) :
    (excluding sub).Unchecked := by
  refine .step _ (.step _ (.step _ (.empty _ _ _ _) nofun ?_) nofun nofun) nofun nofun
  intro sub' equal
  cases equal
  exact unchecked

theorem excludingTwice_relayed :
    (excluding (excluding bindsTwice)).Reachable ∧
      ((excluding (excluding bindsTwice)).Everywhere fun there =>
        there.checked = true → there.Relays) ∧
      (∃ correct query', check.run (excluding (excluding bindsTwice)) = .ok correct query' ∧
        query'.Relays) ∧
      (check.after (excluding (excluding bindsTwice))).log.entries =
        [(Problem.targetBound "?x").toDiagnostic] := by
  have unchecked := excluding_unchecked (excluding_unchecked bindsTwice_unchecked)
  have before : (excluding (excluding bindsTwice)).Everywhere fun there =>
      there.checked = true → there.Relays :=
    unchecked.fresh.imp fun _ fresh checked =>
      absurd (fresh.unchecked.symm.trans checked) Bool.false_ne_true
  have run : ∃ correct, check.run (excluding (excluding bindsTwice)) =
      .ok correct (check.after (excluding (excluding bindsTwice))) :=
    exists_run_of_returns (by decide +kernel)
  rcases run with ⟨correct, run⟩
  refine ⟨unchecked.reachable, before, ⟨correct, _, run, ?_⟩, by decide +kernel⟩
  exact ((relayed_check unchecked.reachable before).2 correct _ run).2.1

def misnaming : Query := (Operation.prefixedName "no:name").run.after {}

/-- A query that was checked when it was empty, and now has such a query for its body. -/
def addedTooLate : Query :=
  (Operation.setBody 0).run.after
    ((Operation.subquery misnaming).run.after (Operation.check.run.after {}))

theorem addedTooLate_unheard :
    addedTooLate.Reachable ∧ addedTooLate.Everywhere Query.Checkable ∧
      check.run addedTooLate = .ok true addedTooLate ∧ addedTooLate.log.entries = [] ∧
      addedTooLate.ComesTo 0 misnaming ∧ misnaming.checked = false ∧
      misnaming.log.correct = false ∧ ¬ addedTooLate.Relays := by
  have named : misnaming.Reachable := .step _ (.empty _ _ _ _) trivial nofun
  have reachable : addedTooLate.Reachable := by
    refine .step _ (.step _ (.step _ (.empty _ _ _ _) trivial nofun) trivial ?_) trivial nofun
    intro sub equal
    cases equal
    exact named
  have comes : addedTooLate.ComesTo 0 misnaming := ⟨0, by decide, .refl, rfl⟩
  have inner : misnaming.Everywhere Query.Checkable :=
    .alone ⟨rfl, Query.sound_of_descends (by decide) (by decide)⟩ rfl
  have checkable : addedTooLate.Everywhere Query.Checkable :=
    .of_subqueries ⟨rfl, Query.sound_of_descends (by decide) (by decide)⟩
      (List.forall_mem_singleton.mpr inner)
  refine ⟨reachable, checkable, run_check_of_checked rfl, rfl, comes, rfl, by decide, ?_⟩
  intro relays
  exact absurd (relays.told comes).1 (by decide)

end Build

end Sparql
