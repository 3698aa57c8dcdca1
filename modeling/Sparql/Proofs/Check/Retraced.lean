import Sparql.Proofs.Check.Told

/-!
The steps of a check that goes the same way again. Reports are repeated, but for those of shared
labels; a subquery that was heard is checked, and reports the same: `Surveys.retraces`.
-/

namespace Sparql.Build

variable {α : Type} {vars : List Variable} {allowed : Problem → Prop}

/-! ## Single steps -/

theorem after_report (diagnostic : Diagnostic) (query : Query) :
    (report diagnostic).after query = { query with log := query.log.add diagnostic } := by
  by_cases stops : (diagnostic.isError && query.options.strict) = true
  · exact after_of_run_error ((run_report diagnostic query).trans (if_pos stops))
  · exact after_of_run_ok ((run_report diagnostic query).trans (if_neg stops))

theorem run_checkBlank (label : String) (owner : PatternId) (query : Query) :
    (checkBlank label owner).run query =
      match query.blankOwners.lookup label with
      | none => .ok ⟨⟩ { query with blankOwners := query.blankOwners ++ [(label, owner)] }
      | some first =>
        if first = owner ∨ query.clauses.dataUpdate = .insertion ∨ isReported query.log label then
          .ok ⟨⟩ query
        else (problem (.blankShared label)).run query := by
  rw [checkBlank, EStateM.run_bind, EStateM.run_get]
  dsimp only
  cases query.blankOwners.lookup label with
  | none => rfl
  | some first =>
      dsimp only
      split <;> rfl

section

variable {query : Query}

theorem onward_report (diagnostic : Diagnostic) (query : Query) :
    query.Onward vars { query with log := query.log.add diagnostic } :=
  ⟨rfl, rfl, List.subset_append_left _ _, .refl _, .inl rfl⟩

theorem tells_report {told : Told}
    (new : ∀ label, told = .own (.blankShared label) → isReported query.log label = false)
    (relayed : ∀ id report, told = .relayed id report → ∃ sub,
      query.arena.get? id = some (.subquery sub) ∧ sub.checked = true ∧
        report ∈ sub.log.entries) :
    query.Tells [told] { query with log := query.log.add told.report } where
  entries := rfl
  relayed id report member := relayed id report (List.mem_singleton.mp member).symm
  once before label rest equal := by
    cases before with
    | nil =>
        cases equal
        rw [List.map_nil, List.append_nil]
        exact new label rfl
    | cons head before => cases before <;> cases equal

theorem retraces_report (told : Told) (unshared : told.isShared = false)
    (own : ∀ p, told = .own p → allowed p)
    (relayed : ∀ id report, told = .relayed id report → ∃ sub,
      query.arena.get? id = some (.subquery sub) ∧ sub.checked = true ∧
        report ∈ sub.log.entries) :
    Retraces vars allowed (report told.report) query [told] := by
  have again : (Told.again [told]).map Told.report = [told.report] := by
    simp [Told.again, unshared]
  refine ⟨?_, ?_, fun p member => own p (List.mem_singleton.mp member).symm, ?_⟩
  · rw [after_report]
    refine tells_report (fun label equal => ?_) relayed
    subst equal
    cases unshared
  · rw [after_report]
    exact onward_report _ query
  · rw [Repeats, run_report]
    by_cases stops : (told.report.isError && query.options.strict) = true
    · rw [if_pos stops]
      intro _ later onward _
      refine ⟨{ later with
        blankOwners := query.blankOwners, log := later.log.add told.report }, ?_, ?_⟩
      · rw [run_report, onward.options]
        exact if_pos stops
      · rw [again]
        rfl
    · rw [if_neg stops]
      intro later onward
      rw [run_report, onward.options, again]
      exact if_neg stops

theorem retraces_problem {p : Problem} (unshared : (Told.own p).isShared = false)
    (own : allowed p) : Retraces vars allowed (problem p) query [.own p] := by
  refine retraces_report (.own p) unshared (fun p' equal => ?_) fun id report equal => ?_
  · cases equal
    exact own
  · cases equal

/-! ## Blank nodes -/

theorem retraces_newLabel {label : String} (owner : PatternId)
    (new : query.blankOwners.lookup label = none) :
    Retraces vars allowed (checkBlank label owner) query [] := by
  have run : (checkBlank label owner).run query =
      .ok ⟨⟩ { query with blankOwners := query.blankOwners ++ [(label, owner)] } := by
    rw [run_checkBlank, new]
  refine ⟨?_, ?_, nofun, ?_⟩
  · rw [after_of_run_ok run]
    exact .nil rfl
  · rw [after_of_run_ok run]
    exact ⟨rfl, rfl, List.Subset.refl _, .refl _, .inl rfl⟩
  · rw [Repeats, run]
    intro later _
    rw [run_checkBlank]
    dsimp only
    rw [new]
    rfl

theorem retraces_sharedLabel {label : String} {owner first : PatternId}
    (known : query.blankOwners.lookup label = some first)
    (misused : ¬ (first = owner ∨ query.clauses.dataUpdate = .insertion ∨
      isReported query.log label = true)) (own : allowed (.blankShared label)) :
    Retraces vars allowed (checkBlank label owner) query [.own (.blankShared label)] := by
  have run : (checkBlank label owner).run query = (problem (.blankShared label)).run query := by
    rw [run_checkBlank, known]
    exact if_neg misused
  have after : (checkBlank label owner).after query =
      { query with log := query.log.add (Problem.blankShared label).toDiagnostic } := by
    rw [Build.after, run]
    exact after_report _ query
  refine ⟨?_, ?_, fun p member => ?_, ?_⟩
  · rw [after]
    have new (label' : String)
        (equal : Told.own (.blankShared label) = .own (.blankShared label')) :
        isReported query.log label' = false := by
      cases equal
      exact Bool.eq_false_iff.mpr fun reported => misused (.inr (.inr reported))
    refine tells_report new fun id report equal => ?_
    cases equal
  · rw [after]
    exact onward_report _ query
  · cases List.mem_singleton.mp member
    exact own
  · rw [Repeats, run, problem, run_report]
    by_cases stops :
        ((Problem.blankShared label).toDiagnostic.isError && query.options.strict) = true
    · rw [if_pos stops]
      intro unshared
      have impossible : true = false := unshared
      cases impossible
    · rw [if_neg stops]
      intro later onward
      have reported : isReported later.log label = true := by
        refine isReported_of_subset onward.entries ?_
        simp [isReported, Log.add, Problem.toDiagnostic]
      rw [run_checkBlank]
      dsimp only
      rw [known]
      exact if_pos (.inr (.inr reported))

theorem retraces_checkBlank (shared : ∀ label, allowed (.blankShared label)) (label : String)
    (owner : PatternId) : ∃ told, Retraces vars allowed (checkBlank label owner) query told := by
  cases known : query.blankOwners.lookup label with
  | none => exact ⟨[], retraces_newLabel owner known⟩
  | some first =>
      by_cases excused : first = owner ∨ query.clauses.dataUpdate = .insertion ∨
          isReported query.log label = true
      · have run : (checkBlank label owner).run query = .ok ⟨⟩ query := by
          rw [run_checkBlank, known]
          exact if_pos excused
        refine ⟨[], (Retraces.pure ()).of_run rfl rfl (.refl query) run fun later onward => ?_⟩
        rw [run_checkBlank]
        dsimp only
        rw [known]
        refine if_pos (excused.imp_right (Or.imp ?_ (isReported_of_subset onward.entries)))
        rw [onward.sharesFrame.dataUpdate]
        exact id
      · exact ⟨_, retraces_sharedLabel known excused (shared label)⟩

/-! ## Subqueries -/

theorem retraces_relay {sub : Query} {id : PatternId}
    (found : query.arena.get? id = some (.subquery sub)) (checked : sub.checked = true)
    {entries : List Diagnostic} (reported : entries ⊆ sub.log.entries) :
    ∃ told, Retraces vars allowed (forM entries report) query told := by
  induction entries generalizing query with
  | nil => exact ⟨[], .pure _⟩
  | cons entry rest induction =>
      have first : Retraces vars allowed (report entry) query [.relayed id entry] := by
        refine retraces_report (.relayed id entry) rfl nofun fun id' report equal => ?_
        cases equal
        exact ⟨sub, found, checked, reported (List.mem_cons_self ..)⟩
      rw [List.forM_cons]
      refine first.bind fun _ query' run => ?_
      have after := after_of_run_ok run
      rw [after_report] at after
      subst after
      exact induction found fun entry' member => reported (List.mem_cons_of_mem _ member)

theorem run_hear_subquery (checkSub : Build Bool) (query : Query) {sub : Query} {id : PatternId}
    (found : query.arena.get? id = some (.subquery sub)) :
    (hear checkSub id).run query =
      match checkSub.run sub with
      | .error failure sub' =>
        .error failure { query with arena := query.arena.set id (.subquery sub') }
      | .ok _ sub' =>
        (do sub'.log.entries.forM report; return sub' : Build Query).run
          { query with arena := query.arena.set id (.subquery sub') } := by
  have here : (pattern id).run query = .ok (.subquery sub) query :=
    run_pattern_ok.mpr ⟨found, rfl⟩
  rw [hear, EStateM.run_bind, here]
  dsimp only
  cases checkSub.run sub with
  | error failure sub' => rfl
  | ok correct sub' => rfl

theorem onward_hear {sub sub' : Query} {id : PatternId}
    (found : query.arena.get? id = some (.subquery sub)) (after : check.after sub = sub') :
    query.Onward vars { query with arena := query.arena.set id (.subquery sub') } := by
  refine ⟨rfl, rfl, List.Subset.refl _, ?_, .inl rfl⟩
  by_cases checked : sub.checked = true
  · rw [after_of_run_ok (run_check_of_checked checked)] at after
    rw [← after, Arena.set_same found]
    exact .refl _
  · exact .set found sub' (Bool.eq_false_iff.mpr checked)

theorem retraces_hear_error {sub sub' : Query} {id : PatternId} {failure : Failure}
    (found : query.arena.get? id = some (.subquery sub)) (nested : sub.FailsAgain)
    (run : check.run sub = .error failure sub') :
    Retraces vars allowed (hear check id) query [] := by
  have run₁ : (hear check id).run query =
      .error failure { query with arena := query.arena.set id (.subquery sub') } := by
    rw [run_hear_subquery check _ found, run]
  refine ⟨?_, ?_, nofun, ?_⟩
  · rw [after_of_run_error run₁]
    exact .nil rfl
  · rw [after_of_run_error run₁]
    exact onward_hear found (after_of_run_error run)
  · rw [Repeats, run₁]
    intro unshared later _ same
    have here : later.arena.get? id = some (.subquery sub') := by
      rw [same, Arena.get?_set found, if_pos rfl]
    rcases nested failure sub' run unshared with ⟨sub'', run'⟩
    refine ⟨{ later with
      blankOwners := query.blankOwners, arena := later.arena.set id (.subquery sub'') }, ?_,
      (List.append_nil _).symm⟩
    rw [run_hear_subquery check { later with blankOwners := query.blankOwners } here, run']

theorem retraces_hear_ok {sub sub' : Query} {id : PatternId} {correct : Bool}
    (found : query.arena.get? id = some (.subquery sub))
    (run : check.run sub = .ok correct sub') :
    ∃ told, Retraces vars allowed (hear check id) query told := by
  let relay : Build Query := do
    sub'.log.entries.forM report
    return sub'
  let replaced : Query := { query with arena := query.arena.set id (.subquery sub') }
  have checked := checked_of_run_check run
  have here : replaced.arena.get? id = some (.subquery sub') :=
    (Arena.get?_set found id).trans (if_pos rfl)
  have relays : ∃ told, Retraces vars allowed relay replaced told := by
    rcases retraces_relay here checked (List.Subset.refl _) with ⟨told, relays⟩
    exact relays.bind fun _ _ _ => ⟨[], .pure sub'⟩
  rcases relays with ⟨told, relays⟩
  refine ⟨told, relays.of_run rfl rfl (onward_hear found (after_of_run_ok run)) ?_ ?_⟩
  · rw [run_hear_subquery check _ found, run]
  · intro later onward
    have kept := (relays.onward.trans onward).arena.get?_checked here checked
    rw [run_hear_subquery check { later with blankOwners := query.blankOwners } kept,
      run_check_of_checked checked]
    dsimp only
    rw [Arena.set_same kept]

theorem retraces_hear (id : PatternId)
    (nested : ∀ sub, query.arena.get? id = some (.subquery sub) → sub.FailsAgain) :
    ∃ told, Retraces vars allowed (hear check id) query told := by
  cases found : query.arena.get? id with
  | none =>
      have run (query : Query) (missing : query.arena.get? id = none) :
          (hear check id).run query = (throw (.unknownPattern id) : Build Query).run query := by
        rw [hear, EStateM.run_bind, pattern, run_inspect, Arena.get, missing]
        rfl
      refine ⟨[], (Retraces.throw _).of_run rfl rfl (.refl query) (run query found) ?_⟩
      exact fun later onward => run _ (onward.arena.get?_none found)
  | some p =>
      by_cases plain : p.isSubquery = false
      · have run (query : Query) (found : query.arena.get? id = some p) :
            (hear check id).run query = (pure {} : Build Query).run query := by
          rw [hear, EStateM.run_bind, run_pattern_ok.mpr ⟨found, rfl⟩]
          cases p with
          | subquery _ => cases plain
          | _ => rfl
        refine ⟨[], (Retraces.pure {}).of_run rfl rfl (.refl query) (run query found) ?_⟩
        exact fun later onward => run _ (onward.arena.get?_plain found plain)
      · obtain ⟨sub, rfl⟩ : ∃ sub, p = .subquery sub := by
          cases p with
          | subquery sub => exact ⟨sub, rfl⟩
          | _ => exact absurd rfl plain
        cases run : check.run sub with
        | error failure sub' => exact ⟨[], retraces_hear_error found (nested sub found) run⟩
        | ok correct sub' => exact retraces_hear_ok found run

theorem failsAgain_of_checked {query : Query} (checked : query.checked = true) :
    query.FailsAgain := by
  intro failure query' run
  rw [run_check_of_checked checked] at run
  cases run

theorem closedUnderVisits_partsFailAgain :
    ClosedUnderVisits check Query.PartsFailAgain fun _ _ => True where
  report diagnostic query holds _ := by
    rw [ends_report]
    split
    · trivial
    · exact holds
  own _ _ holds := holds
  part query id sub holds found := by
    unfold Ends
    split
    · next correct sub' run =>
        intro id' part found'
        rw [Arena.get?_set found] at found'
        split at found'
        · cases found'
          exact failsAgain_of_checked (checked_of_run_check run)
        · exact holds id' part found'
    · trivial
  other _ _ _ _ := trivial

theorem Surveys.retraces {x : Build α} (surveys : Surveys check x)
    (nested : query.PartsFailAgain) :
    ∃ told, Retraces vars Problem.BeforeGrouping x query told := by
  induction surveys generalizing query with
  | pure value => exact ⟨[], .pure value⟩
  | throw _ => exact ⟨[], .throw _⟩
  | @problem p found =>
      have plain : (Told.own p).isShared = false ∧ p.BeforeGrouping := by
        cases p with
        | blankShared label => cases found
        | notGroupKey v => cases found
        | _ => exact ⟨rfl, nofun⟩
      exact ⟨_, retraces_problem plain.1 plain.2⟩
  | blank label owner => exact retraces_checkBlank (fun _ _ => nofun) label owner
  | hear id => exact retraces_hear id (nested id)
  | ask framed rest induction =>
      rcases induction query nested with ⟨told, retraces⟩
      exact ⟨told, retraces.ask framed⟩
  | bind first rest induction inductionRest =>
      rcases induction nested with ⟨told, retraces⟩
      refine retraces.bind fun value query' run => inductionRest value ?_
      exact (first.preserves closedUnderVisits_partsFailAgain query nested).of_ok run

end

end Sparql.Build
