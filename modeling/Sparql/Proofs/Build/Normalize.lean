import Sparql.Proofs.Build.Patterns

/-!
Normalizing builds: the subqueries change in their places, and what a strict one reports is reported
by the query around it too.
-/

namespace Sparql.Build

variable {α : Type} {rights : Rights} {may : Query → Prop} {start : Query}

/-! ## Calls -/

theorem builds_settle (functions : Functions) (key : String) (counts : List Nat) :
    Builds rights may start (settle functions key counts) := by
  rw [settle]
  split
  · exact preserves_forM fun count _ => builds_checkParameters _ _ _
  · exact (builds_problem (by nofun)).bind fun _ =>
      builds_modify fun _ => ⟨rfl, rfl, rfl, rfl, rfl⟩

theorem builds_settleCalls : Builds rights may start settleCalls := by
  refine preserves_get_bind fun query changes => ?_
  dsimp only
  split
  · exact changes
  · refine Preserves.bind (preserves_modify fun query changes => ?_) (fun _ => ?_) query changes
    · exact changes.trans (.values query _)
    · refine Preserves.bind ?_ fun _ => preserves_forM fun call _ => builds_settle _ _ _
      exact builds_modify fun _ => ⟨rfl, rfl, rfl, rfl, rfl⟩

/-! ## Subqueries -/

/-- Subqueries are normalized in their places, one after the other. What each of these steps does to
a query they do together, and a failure is one of a step. -/
theorem chain_normalizePatterns {normalizeSub : Build Unit} {outer : List (String × Definition)}
    {relation : Query → Query → Prop} {raised : Failure → Prop}
    (refl : ∀ query, relation query query)
    (trans : ∀ {first second third}, relation first second → relation second third →
      relation first third)
    (step : ∀ (query : Query) (id : PatternId) (sub : Query),
      query.arena.get? id = some (.subquery sub) →
      Ends normalizeSub { sub with functions := sub.functions.inherit outer }
        (fun _ sub' => relation query { query with arena := query.arena.set id (.subquery sub') })
        fun failure sub' =>
          relation query { query with arena := query.arena.set id (.subquery sub') } ∧
            raised failure)
    (query : Query) :
    relation query
        { query with arena := ⟨(normalizePatterns normalizeSub outer query.arena.patterns).1⟩ } ∧
      ∀ failure, (normalizePatterns normalizeSub outer query.arena.patterns).2 = some failure →
        raised failure := by
  suffices chain : ∀ before rest : List (Pattern Query),
      relation { query with arena := ⟨before ++ rest⟩ }
          { query with arena := ⟨before ++ (normalizePatterns normalizeSub outer rest).1⟩ } ∧
        ∀ failure, (normalizePatterns normalizeSub outer rest).2 = some failure → raised failure by
    have whole : { query with arena := ⟨query.arena.patterns⟩ } = query := by cases query; rfl
    simpa only [List.nil_append, whole] using chain [] query.arena.patterns
  intro before rest
  induction rest generalizing before with
  | nil =>
      refine ⟨refl _, fun failure failed => ?_⟩
      cases failed
  | cons p rest induction =>
      -- The patterns that are done, or are no subqueries, are put in front.
      have onward (p : Pattern Query) := induction (before ++ [p])
      simp only [List.append_assoc, List.singleton_append] at onward
      cases p with
      | subquery sub =>
          have found : (⟨before ++ .subquery sub :: rest⟩ : Arena Query).get? before.length =
              some (.subquery sub) := by
            simp [Arena.get?]
          have place (sub' : Query) :
              (⟨before ++ .subquery sub :: rest⟩ : Arena Query).set before.length
                (.subquery sub') = ⟨before ++ .subquery sub' :: rest⟩ := by
            simp [Arena.set]
          have ends := step { query with arena := ⟨before ++ .subquery sub :: rest⟩ } _ sub found
          simp only [place] at ends
          rw [normalizePatterns]
          split
          · next sub' run =>
              rcases onward (.subquery sub') with ⟨rest, failed⟩
              exact ⟨trans (ends.of_ok run) rest, failed⟩
          · next failure sub' run =>
              rcases ends.of_error run with ⟨holds, raised⟩
              refine ⟨holds, fun failure' equal => ?_⟩
              cases equal
              exact raised
      | _ => exact onward _

theorem changesTo_normalizePatterns {normalizeSub : Build Unit}
    (builds : ∀ sub, Builds rights may sub normalizeSub) (outer : List (String × Definition))
    (query : Query) :
    query.ChangesTo rights may
        { query with arena := ⟨(normalizePatterns normalizeSub outer query.arena.patterns).1⟩ } ∧
      ∀ failure, (normalizePatterns normalizeSub outer query.arena.patterns).2 = some failure →
        ∃ sub, failure.RaisedIn rights sub := by
  refine chain_normalizePatterns .refl .trans (fun query id sub found => ?_) query
  have inherited : sub.ChangesTo rights may { sub with functions := sub.functions.inherit outer } :=
    .similar ⟨rfl, rfl, rfl, rfl, rfl⟩
  apply (builds sub _ inherited).imp
  · exact fun _ _ changes => .part query found changes
  · exact fun _ sub' raised => ⟨.part query found raised.1, sub', raised.2⟩

theorem builds_normalizeSubqueries {normalizeSub : Build Unit}
    (builds : ∀ sub, Builds rights may sub normalizeSub) :
    Builds rights may start (normalizeSubqueries normalizeSub) := by
  refine preserves_get_bind fun query changes => ?_
  have normalizes := changesTo_normalizePatterns builds query.functions.definitions query
  rcases normalizes with ⟨within, failed⟩
  dsimp only
  rw [ends_bind, ends_set]
  have changes' := changes.trans within
  split
  · exact changes'
  · next diagnostic equal =>
      rcases failed _ equal with ⟨sub, raised⟩
      rcases raised diagnostic rfl with ⟨isError, fits, _⟩
      rw [ends_bind, ends_report]
      have reported := changes'.trans (.report _ diagnostic fits)
      have raised' (query : Query) : (Failure.strict diagnostic).RaisedIn rights
          { query with log := query.log.add diagnostic } := by
        intro diagnostic' equal
        cases equal
        exact ⟨isError, fits, query.log, rfl⟩
      split <;> exact ⟨reported, raised' _⟩
  · next failure notStrict equal =>
      refine ⟨changes', raisedIn_of_not_strict ?_ _⟩
      cases failure with
      | strict diagnostic => exact absurd rfl (notStrict diagnostic)
      | _ => rfl

/-! ## Forms -/

theorem builds_templateOf (root : PatternId) : Builds rights may start (templateOf root) :=
  (builds_look (plain_triplesBelow root)).bind fun _ => builds_push (by nofun) (by nofun)

theorem builds_normalizeConstruct : Builds rights may start normalizeConstruct := by
  refine preserves_get_bind fun query changes => ?_
  dsimp only
  split
  · exact changes
  · exact builds_modifyClauses _ query changes
  · exact ((builds_templateOf _).bind fun _ => builds_modifyClauses _) query changes
  · exact changes

theorem builds_normalizeDelete : Builds rights may start normalizeDelete := by
  refine preserves_get_bind fun query changes => ?_
  dsimp only
  split
  · exact ((builds_templateOf _).bind fun _ => builds_modifyClauses _) query changes
  · exact changes

theorem builds_describeAll (bound : List Variable) :
    Builds rights may start (describeAll bound) := by
  refine preserves_get_bind fun query changes => ?_
  have projected : Builds rights may start (bound.forM fun v => select v none) :=
    preserves_forM fun v _ => builds_modifyClauses _
  exact builds_ite ((builds_modifyClauses _).bind fun _ => projected) projected query changes

theorem builds_description (names : rights.naming = true) (term : Expr) :
    Builds rights may start (description term) := by
  have fresh {start : Query} : Builds rights may start freshVariable := builds_freshVariable names
  refine fresh.bind fun p => fresh.bind fun v => fresh.bind fun p' => fresh.bind fun v' => ?_
  refine (builds_triple _ _ _).bind fun outgoing => (builds_triple _ _ _).bind fun incoming => ?_
  refine (builds_group _).bind fun left => (builds_group _).bind fun right => ?_
  refine (builds_union _ _).bind fun either => ?_
  exact (builds_optional either).bind fun _ => preserves_pure _

theorem builds_bodyParts : Builds rights may start bodyParts := by
  refine preserves_get_bind fun query changes => ?_
  split
  · exact changes
  · refine ((builds_look (plain_get _)).bind fun p => ?_) query changes
    split <;> exact preserves_pure _

theorem builds_bodyVariables : Builds rights may start bodyVariables := by
  refine preserves_get_bind fun query changes => ?_
  split
  · exact builds_look (plain_bindable _) query changes
  · exact changes

theorem builds_normalizeDescribe (names : rights.naming = true) :
    Builds rights may start normalizeDescribe := by
  refine builds_bodyVariables.bind fun bound => preserves_get_bind fun query changes => ?_
  have described : Builds rights may start (do
      let descriptions ← (described (← get).clauses).mapM description
      modifyClauses fun clauses => { clauses with describe := clauses.describe.map Expr.visited }
      let body ← group ((← bodyParts) ++ descriptions.map (·.2))
      modifyClauses fun clauses => { clauses with body := some body }
      let template ← group (descriptions.map (·.1))
      modifyClauses fun clauses => { clauses with construct := some template }) := by
    refine preserves_get_bind fun query changes => ?_
    have describing (terms : List Expr) : Builds rights may start (terms.mapM description) :=
      preserves_mapM fun term _ => builds_description names term
    refine ((describing _).bind fun descriptions => ?_) query changes
    refine (builds_modifyClauses _).bind fun _ => builds_bodyParts.bind fun parts => ?_
    refine (builds_group _).bind fun body => (builds_modifyClauses _).bind fun _ => ?_
    exact (builds_group _).bind fun template => builds_modifyClauses _
  exact builds_ite ((builds_describeAll bound).bind fun _ => described) described query changes

theorem builds_normalizeForm (names : rights.naming = true) :
    Builds rights may start normalizeForm := by
  refine preserves_get_bind fun query changes => ?_
  split
  · exact changes
  · exact builds_modifyClauses _ query changes
  · exact builds_normalizeConstruct query changes
  · exact builds_normalizeDescribe names query changes
  · exact builds_normalizeDelete query changes
  · exact builds_modifyClauses _ query changes

theorem builds_normalizeWith (names : rights.naming = true) {normalizeSub : Build Unit}
    (builds : ∀ sub, Builds rights may sub normalizeSub) :
    Builds rights may start (normalizeWith normalizeSub) := by
  refine preserves_get_bind fun query changes => ?_
  split
  · exact changes
  · refine ((builds_normalizeSubqueries builds).bind fun _ => ?_) query changes
    refine builds_settleCalls.bind fun _ => (builds_normalizeForm names).bind fun _ => ?_
    exact builds_modify fun _ => ⟨rfl, rfl, rfl, rfl, rfl⟩

theorem builds_normalizeAt (names : rights.naming = true) (level : Nat) :
    Builds rights may start (normalizeAt level) := by
  induction level generalizing start with
  | zero => exact builds_normalizeWith names fun _ => preserves_pure _
  | succ level induction => exact builds_normalizeWith names fun _ => induction

theorem builds_normalize (names : rights.naming = true) : Builds rights may start normalize :=
  preserves_get_bind fun query changes => builds_normalizeAt names _ query changes

end Sparql.Build
