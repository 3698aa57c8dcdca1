import Sparql.Proofs.Parallel.Check

/-!
Queries with the same body. More patterns, and templates whose checks do nothing, do not show in
what a check reports and projects: `Query.check_of_sameBody`.
-/

namespace Sparql

open Build

/-! ## What patterns bind -/

theorem foldlM_congr {α β : Type} {look look' : α → β → Except Failure α} {values : List β}
    (same : ∀ value ∈ values, ∀ found, look found value = look' found value) (found : α) :
    values.foldlM look found = values.foldlM look' found := by
  induction values generalizing found with
  | nil => rfl
  | cons value rest induction =>
      rw [List.foldlM_cons, List.foldlM_cons, same value (List.mem_cons_self ..)]
      refine congrArg _ (funext fun found => ?_)
      exact induction (fun value member => same value (List.mem_cons_of_mem _ member)) found

theorem Arena.addBindable_of_added {arena arena' : Arena Query}
    (added : arena.patterns <+: arena'.patterns) {levels levels' : Nat} {id : PatternId}
    (fits : arena.Fits levels id) (le : levels ≤ levels') (found : List Variable) :
    arena.addBindable levels found id = arena'.addBindable levels' found id := by
  induction levels generalizing levels' id found with
  | zero => exact fits.elim
  | succ levels induction =>
      obtain ⟨levels', rfl⟩ := Nat.exists_eq_add_one_of_ne_zero (Nat.ne_zero_of_lt le)
      have le := Nat.le_of_succ_le_succ le
      rcases fits with ⟨p, known, fit⟩
      have looked : arena.get id = .ok p := by rw [Arena.get, known]
      have looked' : arena'.get id = .ok p := by rw [Arena.get, Arena.get?_of_added added known]
      have inner {child : PatternId} (member : child ∈ p.children) (found : List Variable) :=
        induction (fit child (List.mem_append_left _ member)) le found
      have children (found : List Variable) :
          p.children.foldlM (arena.addBindable levels) found =
            p.children.foldlM (arena'.addBindable levels') found :=
        foldlM_congr (fun child member found => inner member found) found
      rw [Arena.addBindable, Arena.addBindable, looked, looked']
      cases p with
      | triple _ | bind _ _ | values _ | subquery _ | minus _ | filter _ => rfl
      | graph name body => exact inner (List.mem_cons_self ..) _
      | group _ | union _ _ | optional _ | collection _ _ | service _ _ _ => exact children found

namespace Comparison

variable {c : Comparison} {query query' : Query}

/-! ## Bodies -/

theorem Holds.body_eq (holds : c.Holds query query') :
    query.clauses.body = c.clauses.body ∧ query'.clauses.body = c.clauses'.body := by
  rw [holds.clauses, holds.clauses']
  exact ⟨rfl, rfl⟩

section

variable (body : c.clauses'.body = c.clauses.body)
  (sound : ∀ root, c.clauses.body = some root → c.arena.Sound root)

include body

theorem parallel_checkBody (checkSub : Build Bool)
    (covers : ∀ root, c.clauses.body = some root → c.Covers c.arena.levels root) :
    c.Parallel (checkBody checkSub) (checkBody checkSub) (· = ·) := by
  refine parallel_get_bind fun query query' holds => ?_
  rw [holds.body_eq.1, holds.body_eq.2, body]
  split
  · next root here => exact parallel_checkFrom checkSub (covers root here) [] query query' holds
  · exact parallel_pure rfl query query' holds

include sound

theorem parallel_bodyTriples :
    ∃ ids, (∀ root, c.clauses.body = some root → c.arena.triplesBelow root = .ok ids) ∧
      c.Parallel bodyTriples bodyTriples fun found found' => found = ids ∧ found' = ids := by
  cases here : c.clauses.body with
  | none =>
      refine ⟨[], nofun, parallel_get_bind fun query query' holds => ?_⟩
      rw [holds.body_eq.1, holds.body_eq.2, body, here]
      exact ⟨⟨rfl, rfl⟩, holds⟩
  | some root =>
      have sound := sound root here
      rcases Arena.triplesBelow_ok sound.fits with ⟨ids, collected, _⟩
      have collected' : c.whole.triplesBelow root = .ok ids :=
        Arena.triplesBelow_of_added (List.prefix_append _ _) sound collected
      refine ⟨ids, ?_, parallel_get_bind fun query query' holds => ?_⟩
      · rintro _ ⟨rfl⟩
        exact collected
      · rw [holds.body_eq.1, holds.body_eq.2, body, here]
        exact parallel_triplesBelow collected collected' query query' holds

theorem parallel_bodyVariables : c.Parallel bodyVariables bodyVariables c.Binds := by
  refine parallel_get_bind fun query query' holds => ?_
  rw [holds.body_eq.1, holds.body_eq.2, body]
  split
  · next root here =>
      have fits := ((sound root here).of_keepsParts holds.keepsParts.1).fits
      have levels : query.arena.levels ≤ query'.arena.levels := by
        rw [holds.levels_eq.1, holds.levels_eq.2]
        exact c.levels_le
      have same := Arena.addBindable_of_added ⟨_, holds.arena.symm⟩ fits levels []
      rcases Arena.addBindable_ok fits [] with ⟨vars, bindable⟩
      have found : query.arena.bindable root = .ok vars := bindable
      have found' : query'.arena.bindable root = .ok vars := same.symm.trans bindable
      rw [Agrees, run_inspect, run_inspect, found, found']
      exact ⟨.inl rfl, holds⟩
  · exact ⟨.inl rfl, holds⟩

end

end Comparison

/-! ## Queries -/

namespace Query

/-- The query beside one that has more patterns, and other clauses. All reports count. -/
def beside (query : Query) (extra : List (Pattern Query)) {clauses' : Clauses}
    (asks : query.clauses.AsksAlike clauses') : Comparison where
  arena := query.arena
  extra := extra
  clauses := query.clauses
  clauses' := clauses'
  owner := id
  counts _ := true
  owner_injective := Function.injective_id
  counts_of_isError _ _ := rfl
  counts_of_shared _ _ := rfl
  asks := asks

/-- The other query has the same clauses but for its form and the templates of its result, and more
patterns after those of this one. -/
structure SharesBody (query : Query) (extra : List (Pattern Query)) (query' : Query) : Prop where
  patterns : query'.arena.patterns = query.arena.patterns ++ extra
  asks : query.clauses.AsksAlike query'.clauses
  select : query'.clauses.select = query.clauses.select
  body : query'.clauses.body = query.clauses.body
  log : query'.log = query.log
  options : query'.options = query.options
  checked : query'.checked = query.checked
  ground : groundTemplate? query'.clauses = groundTemplate? query.clauses
  projects : query.clauses.selectAll = true →
    (query'.clauses.form != .describe) = (query.clauses.form != .describe)

variable {query query' : Query} {extra : List (Pattern Query)}

theorem Sound.covers {asks : query.clauses.AsksAlike query'.clauses} (sound : query.Sound)
    {root : PatternId} (member : root ∈ query.matched ++ query.templates) :
    (query.beside extra asks).Covers query.arena.levels root :=
  Comparison.covers_of_fits (c := query.beside extra asks) (sound root member).fits fun _ _ => rfl

/-- The queries have the same reports and project the same. -/
structure LooksLike (query query' : Query) : Prop where
  log : query'.log = query.log
  select : query'.clauses.select = query.clauses.select

theorem LooksLike.symm (looks : query.LooksLike query') : query'.LooksLike query :=
  ⟨looks.log.symm, looks.select.symm⟩

theorem LooksLike.trans {query'' : Query} (looks : query.LooksLike query')
    (looks' : query'.LooksLike query'') : query.LooksLike query'' :=
  ⟨looks'.log.trans looks.log, looks'.select.trans looks.select⟩

theorem check_of_sameBody (shares : query.SharesBody extra query') (sound : query.Sound)
    {more : List PatternId} (templates : query'.templates = query.templates ++ more)
    (idle : ∀ ids,
      (∀ body, query.clauses.body = some body → query.arena.triplesBelow body = .ok ids) →
      ∀ template ∈ more, (query.beside extra shares.asks).Idle
        (checkTemplate ids query'.arena.levels template template) ⟨⟩) :
    (check.after query).LooksLike (check.after query') := by
  let c := query.beside extra shares.asks
  have holds : c.Holds { query with blankOwners := [] } { query' with blankOwners := [] } := by
    refine ⟨rfl, shares.patterns, rfl, ?_, ?_, ?_, ?_, shares.options, rfl⟩
    · dsimp only
      rw [← shares.select]
      rfl
    · intro id member
      exact sound.covers (List.mem_append_left _ (List.mem_append_right _ member))
    · rw [shares.log]
    · rw [shares.log]
  have soundBody (body : PatternId) (here : query.clauses.body = some body) :
      query.arena.Sound body := sound body (by simp [matched, here])
  have covered {template : PatternId} (member : template ∈ query.templates) :
      c.Covers query.arena.levels template := sound.covers (List.mem_append_right _ member)
  have coveredBody (body : PatternId) (here : query.clauses.body = some body) :
      c.Covers query.arena.levels body := sound.covers (by simp [matched, here])
  have whole : c.whole.levels = query'.arena.levels := by
    have patterns : c.whole.patterns = query'.arena.patterns := shares.patterns.symm
    rw [Arena.levels, Arena.levels, Arena.size, Arena.size, patterns]
  rcases c.parallel_bodyTriples shares.body soundBody with ⟨ids, collected, triples⟩
  have resembles : c.Resembles (check.after query) (check.after query') := by
    refine c.resembles_check (c.parallel_checkRest ?_ ?_ ?_ fun scope => ?_) holds shares.checked
    · exact c.parallel_checkBody shares.body check coveredBody
    · refine c.parallel_checkGroundData shares.ground fun template context here => ?_
      exact sound template (List.mem_append_right _ (groundTemplate_mem here))
    · refine c.parallel_checkTemplates triples (.refl c ids) (fun _ => covered) templates ?_
      rw [whole]
      exact idle ids collected
    · exact c.parallel_checkSelect check scope (c.parallel_bodyVariables shares.body soundBody)
        shares.projects
  have all (diagnostics : List Diagnostic) : diagnostics.filter c.counts = diagnostics :=
    List.filter_true diagnostics
  have entries := resembles.reports
  rw [all, all] at entries
  have correct := resembles.correct
  refine ⟨?_, resembles.select⟩
  cases log : (check.after query).log
  cases log' : (check.after query').log
  rw [log, log'] at entries correct
  cases entries
  cases correct
  rfl

end Query

end Sparql
