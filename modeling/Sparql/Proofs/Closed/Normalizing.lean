import Sparql.Proofs.Closed.Building
import Sparql.Proofs.Describe.Shape
import Sparql.Proofs.Normalize.Frame
import Sparql.Proofs.Pattern.Gathered

/-!
Normalizing keeps a query closed: the templates and unions that it adds name only patterns that are
there. A subquery takes over the functions of the query, and with them the names of patterns that
may not be its own.
-/

namespace Sparql

/-! ## Settled calls -/

section

variable {change : Expr → Expr} (keeps : ∀ e, (change e).patterns = e.patterns)

include keeps

theorem Pattern.names_mapValues (p : Pattern Query) : (p.mapValues change).names = p.names := by
  cases p <;> simp [names, mapValues, children, written, keeps]

theorem Clauses.names_mapValues (clauses : Clauses) :
    (clauses.mapValues change).names = clauses.names := by
  have written : (clauses.mapValues change).written.map Expr.patterns =
      clauses.written.map Expr.patterns := by
    simp [Clauses.written, mapValues, List.filterMap_map, List.map_filterMap, keeps,
      Function.comp_def]
  rw [names, names, List.flatMap_def, List.flatMap_def, written]
  rfl

end

theorem Query.size_settled (query : Query) : query.settled.arena.size = query.arena.size := by
  rw [settled]
  split
  · rfl
  · exact List.length_map ..

theorem Query.ClosedAs.settled {handed : Bool} {outer : List Nat} {query : Query}
    (closed : query.ClosedAs handed outer) : query.settled.ClosedAs handed outer := by
  have parts (sub : Query) (part : sub.IsPartOf query.settled) :
      sub.Closed (sizesBelow handed outer query.arena.size) := by
    rcases part with ⟨id, found⟩
    exact closed.part ⟨id, (get?_settled_subquery query sub id).mp found⟩
  rw [Query.settled] at parts ⊢
  split at parts
  · next empty =>
      rw [if_pos empty]
      exact closed
  · next waiting =>
      have keeps := Expr.patterns_resolved query.functions.isDefined
      rw [if_neg waiting]
      refine closed.rephrase rfl ?_ (query.clauses.names_mapValues keeps) rfl ?_ parts
      · refine (List.map_map ..).trans (List.map_congr_left fun p _ => ?_)
        exact Prod.ext (p.names_mapValues keeps) (p.parts_mapValues keeps)
      · refine (List.map_map ..).trans (List.map_congr_left fun definition _ => ?_)
        exact keeps definition.2.body

namespace Build

variable {handed : Bool} {outer : List Nat} {least : Nat}

/-! ## Forms -/

theorem keepsClosed_templateOf (root : PatternId) :
    KeepsClosed handed outer least (fun id => [id]) (templateOf root) := by
  have triples : KeepsClosed handed outer least id (inspect (·.triplesBelow root)) := by
    apply keepsClosed_inspect
    intro query ids _ found id member
    rcases (Arena.gathers_of_triplesBelow found).mem_iff.mp member with ⟨_, _, _, _, here⟩
    exact Arena.lt_of_get? here
  exact triples.bind fun _ _ _ below => keepsClosed_group below

theorem keepsClosed_normalizeConstruct :
    KeepsClosed handed outer least nowhere normalizeConstruct := by
  apply keepsClosed_get_bind
  intro query closed _
  dsimp only
  split
  · exact keepsClosed_pure (List.forall_mem_nil _)
  · next insert _ here =>
      apply keepsClosed_construct
      exact closed.here.clauses insert (by simp [Clauses.names, Clauses.roots, here])
  · exact (keepsClosed_templateOf _).made fun _ _ _ below => keepsClosed_construct below
  · exact keepsClosed_pure (List.forall_mem_nil _)

theorem keepsClosed_normalizeDelete : KeepsClosed handed outer least nowhere normalizeDelete := by
  apply keepsClosed_get_bind
  intro query closed _
  dsimp only
  split
  · exact (keepsClosed_templateOf _).made fun _ _ _ below => keepsClosed_delete below
  · exact keepsClosed_pure (List.forall_mem_nil _)

theorem keepsClosed_normalizeUpdate : KeepsClosed handed outer least nowhere normalizeUpdate := by
  apply keepsClosed_modifyClauses
  intro clauses id named
  rcases List.mem_append.mp named with root | tested
  · refine .inl (List.mem_append_left _ ?_)
    rw [Clauses.mem_roots, Option.or_eq_some_iff] at root
    rw [Clauses.mem_roots]
    grind
  · exact .inl (List.mem_append_right _ tested)

/-! ## Descriptions -/

theorem keepsClosed_describeAll (bound : List Variable) :
    KeepsClosed handed outer least nowhere (describeAll bound) := by
  have projected (more : Nat) :
      KeepsClosed handed outer more nowhere (bound.forM fun v => select v none) :=
    keepsClosed_forM fun v _ _ _ => keepsClosed_select v namesBelow_nil
  apply keepsClosed_get_bind
  intro query _ _
  refine keepsClosed_ite (KeepsClosed.seq ?_ fun _ more _ => projected more) (projected _)
  have untested : NamesBelow query.arena.size (bound.map .var) := by
    intro e member
    rcases List.mem_map.mp member with ⟨v, _, rfl⟩
    exact List.forall_mem_nil _
  refine keepsClosed_write (fun _ => rfl) (fun clauses e member => ?_) untested
  rw [Clauses.mem_written] at member ⊢
  grind

theorem keepsClosed_description {term : Expr} (below : ∀ id ∈ term.patterns, id < least) :
    KeepsClosed handed outer least (fun described => [described.1, described.2])
      (description term) := by
  have nodes {v v' : Variable} {more : Nat} (enough : least ≤ more) :
      NamesBelow more [term, .var v, .var v'] ∧ NamesBelow more [.var v, .var v', term] := by
    have tested : ∀ id ∈ term.patterns, id < more :=
      fun id member => Nat.lt_of_lt_of_le (below id member) enough
    simpa [NamesBelow, Expr.patterns] using tested
  apply keepsClosed_freshVariable.seq
  intro p more₁ enough₁
  apply keepsClosed_freshVariable.seq
  intro v more₂ enough₂
  apply keepsClosed_freshVariable.seq
  intro p' more₃ enough₃
  apply keepsClosed_freshVariable.seq
  intro v' more₄ enough₄
  have enough := enough₁.trans (enough₂.trans (enough₃.trans enough₄))
  apply (keepsClosed_triple (nodes enough).1 namesBelow_nil).made
  intro outgoing more₅ enough₅ there
  apply (keepsClosed_triple (nodes (enough.trans enough₅)).2 namesBelow_nil).made
  intro incoming more₆ enough₆ there'
  have there := Nat.lt_of_lt_of_le there enough₆
  apply (keepsClosed_group (List.forall_mem_singleton.mpr there)).made
  intro left more₇ enough₇ _
  have there' := Nat.lt_of_lt_of_le there' enough₇
  apply (keepsClosed_group (List.forall_mem_singleton.mpr there')).made
  intro right more₈ _ _
  apply (keepsClosed_union left right).made
  intro either more₉ _ here
  apply (keepsClosed_optional either).made
  intro wrapped more₁₀ enough₁₀ here'
  apply keepsClosed_pure
  intro id member
  rcases List.mem_pair.mp member with rfl | rfl
  · exact Nat.lt_of_lt_of_le here enough₁₀
  · exact here'

theorem keepsClosed_bodyParts : KeepsClosed handed outer least id bodyParts := by
  apply keepsClosed_get_bind
  intro query closed _
  split
  · exact keepsClosed_pure (List.forall_mem_nil _)
  · next body here =>
      have below : body < query.arena.size :=
        closed.here.clauses body (by simp [Clauses.names, Clauses.roots, here])
      apply (keepsClosed_pattern body).bind
      intro p more enough known
      split
      · exact keepsClosed_pure fun id member => known id (List.mem_append_left _
          (List.mem_append_left _ member))
      · exact keepsClosed_pure (List.forall_mem_singleton.mpr (Nat.lt_of_lt_of_le below enough))

theorem keepsClosed_bodyVariables : KeepsClosed handed outer least nowhere bodyVariables := by
  apply keepsClosed_get_bind
  intro query _ _
  split
  · exact keepsClosed_inspect fun _ _ _ _ => List.forall_mem_nil _
  · exact keepsClosed_pure (List.forall_mem_nil _)

theorem keepsClosed_visited :
    KeepsClosed handed outer least nowhere (modifyClauses fun clauses =>
      { clauses with describe := clauses.describe.map Expr.visited }) := by
  apply keepsClosed_modifyClauses
  intro clauses id named
  have visited (e : Expr) : e.visited.patterns = e.patterns := by cases e <;> rfl
  left
  rcases List.mem_append.mp named with root | tested
  · exact List.mem_append_left _ root
  · apply List.mem_append_right
    simpa [Clauses.written, visited] using tested

theorem keepsClosed_placeDescriptions {ids : List (PatternId × PatternId)}
    (known : ∀ description ∈ ids, description.1 < least ∧ description.2 < least) :
    KeepsClosed handed outer least nowhere (placeDescriptions ids) := by
  apply keepsClosed_bodyParts.bind
  intro parts more enough known'
  have children : ∀ id ∈ parts ++ ids.map (·.2), id < more := by
    intro id member
    rcases List.mem_append.mp member with old | new
    · exact known' id old
    · rcases List.mem_map.mp new with ⟨description, isThere, rfl⟩
      exact Nat.lt_of_lt_of_le (known description isThere).2 enough
  apply (keepsClosed_group children).made
  intro body more' enough' below
  apply (keepsClosed_body below).seq
  intro _ more'' enough''
  have unions : ∀ id ∈ ids.map (·.1), id < more'' := by
    intro id member
    rcases List.mem_map.mp member with ⟨description, isThere, rfl⟩
    have later := enough.trans (enough'.trans enough'')
    exact Nat.lt_of_lt_of_le (known description isThere).1 later
  exact (keepsClosed_group unions).made fun _ _ _ below => keepsClosed_construct below

theorem keepsClosed_describeNamed : KeepsClosed handed outer least nowhere describeNamed := by
  apply keepsClosed_get_bind
  intro query closed _
  have describing : KeepsClosed handed outer query.arena.size (·.flatMap fun ids => [ids.1, ids.2])
      ((described query.clauses).mapM description) := by
    apply keepsClosed_mapM
    intro term member more enough
    apply keepsClosed_description
    intro id tested
    apply Nat.lt_of_lt_of_le (closed.here.clauses id _) enough
    apply List.mem_append_right
    apply List.mem_flatMap.mpr ⟨term, _, tested⟩
    rw [Clauses.mem_written]
    grind [described]
  apply describing.bind
  intro ids more enough known
  apply keepsClosed_visited.seq
  intro _ more' enough'
  apply keepsClosed_placeDescriptions
  intro description isThere
  have below {id : PatternId} (member : id ∈ [description.1, description.2]) : id < more' :=
    Nat.lt_of_lt_of_le (known id (List.mem_flatMap.mpr ⟨description, isThere, member⟩)) enough'
  exact ⟨below (List.mem_cons_self ..), below (List.mem_cons_of_mem _ (List.mem_cons_self ..))⟩

theorem keepsClosed_normalizeDescribe :
    KeepsClosed handed outer least nowhere normalizeDescribe := by
  rw [normalizeDescribe_eq]
  apply keepsClosed_bodyVariables.seq
  intro bound more _
  apply keepsClosed_get_bind
  intro query _ _
  apply keepsClosed_ite _ keepsClosed_describeNamed
  exact (keepsClosed_describeAll bound).seq fun _ _ _ => keepsClosed_describeNamed

theorem keepsClosed_normalizeForm : KeepsClosed handed outer least nowhere normalizeForm := by
  apply keepsClosed_get_bind
  intro query _ _
  split
  · exact keepsClosed_pure (List.forall_mem_nil _)
  · exact keepsClosed_modifyClauses fun _ _ => .inl
  · exact keepsClosed_normalizeConstruct
  · exact keepsClosed_normalizeDescribe
  · exact keepsClosed_normalizeDelete
  · exact keepsClosed_normalizeUpdate

/-! ## Subqueries -/

theorem closed_inheriting {query sub : Query} (closed : query.ClosedAs handed outer)
    (part : sub.IsPartOf query) :
    (sub.inheriting query.functions.definitions).Closed (query.arena.size :: outer) := by
  refine (closed.part_below part).update rfl rfl (fun _ => .inl) (fun _ => .inl)
    fun definition member => ?_
  rcases List.mem_append.mp member with own | inherited
  · exact .inl own
  · rcases closed.here.functions definition (List.mem_of_mem_filter inherited) with
      ⟨size, around, tested⟩
    exact .inr ⟨size, List.mem_cons_of_mem _ around, tested⟩

theorem exists_subquery_of_normalizePatterns {normalizeSub : Build Unit}
    {functions : List (String × Definition)} {arena : Arena Query} {id : PatternId} {sub' : Query}
    (found : Arena.get? ⟨(normalizePatterns normalizeSub functions arena.patterns).1⟩ id =
      some (.subquery sub')) :
    ∃ sub, arena.get? id = some (.subquery sub) ∧
      (sub' = sub ∨ sub' = normalizeSub.after (sub.inheriting functions)) := by
  have kinds : (normalizePatterns normalizeSub functions arena.patterns).1.map Pattern.kind =
      arena.patterns.map Pattern.kind := map_normalizePatterns _ fun _ _ => rfl
  rcases Arena.exists_get?_of_map kinds.symm found with ⟨p, here, kind⟩
  cases p with
  | subquery sub =>
      rcases exists_normalized here with ⟨sub'', found', equal⟩
      cases found.symm.trans found'
      exact ⟨sub, here, equal.imp And.right And.left⟩
  | _ => cases kind

/-- Whichever way a subquery ends, it is closed, and so is the query around it, which has handed its
functions down. -/
theorem closed_normalizePatterns {normalizeSub : Build Unit} {query : Query}
    (keeps : ∀ sub : Query, sub.IsPartOf query →
      (normalizeSub.after (sub.inheriting query.functions.definitions)).Closed
        (query.arena.size :: outer))
    (closed : query.ClosedAs handed outer) :
    { query with
      arena := ⟨(normalizePatterns normalizeSub query.functions.definitions
        query.arena.patterns).1⟩ }.ClosedAs true outer := by
  refine closed.rephrase rfl (map_normalizePatterns _ fun _ _ => rfl) rfl rfl rfl ?_
  intro sub' part
  rcases part with ⟨id, found⟩
  rcases exists_subquery_of_normalizePatterns found with ⟨sub, here, rfl | rfl⟩
  · exact closed.part_below ⟨id, here⟩
  · exact keeps sub ⟨id, here⟩

/-! ## Queries -/

theorem keepsClosed_settleCalls : KeepsClosed handed outer least nowhere settleCalls := by
  intro query closed _
  exact .of_run_ok (run_settleCalls closed.here.lenient)
    ⟨closed.settled, query.size_settled.ge, List.forall_mem_nil _⟩

theorem keepsClosed_normalizeRest : KeepsClosed handed outer least nowhere normalizeRest := by
  apply keepsClosed_settleCalls.seq
  intro _ _ _
  apply keepsClosed_normalizeForm.seq
  intro _ _ _
  exact keepsClosed_similar fun _ => ⟨rfl, rfl, rfl, rfl, rfl⟩

theorem ends_closed_normalize {query : Query} (new : query.normalized = false)
    (closed : query.ClosedAs handed outer)
    (keeps : ∀ sub : Query, sub.IsPartOf query →
      (normalize.after (sub.inheriting query.functions.definitions)).Closed
        (query.arena.size :: outer)) :
    Ends normalize query (fun _ query' => query'.ClosedAs true outer) fun _ _ => True := by
  have ends : Ends (normalizeWith normalize) query (fun _ query' => query'.ClosedAs true outer)
      fun _ _ => True := by
    rw [normalizeWith_eq, ends_bind, ends_get, new, if_neg Bool.false_ne_true, ends_bind]
    refine (ends_normalizeSubqueries normalize query).imp (fun _ query' ends => ?_)
      fun _ _ _ => trivial
    rcases ends with ⟨_, rfl⟩
    have handedDown := closed_normalizePatterns keeps closed
    exact (keepsClosed_normalizeRest _ handedDown (Nat.zero_le _)).imp (fun _ _ => And.left)
      fun _ _ _ => trivial
  rwa [Ends, run_normalize_eq]

theorem closed_normalize {query : Query} (closed : query.Closed outer) :
    (normalize.after query).Closed outer := by
  -- The induction is on the level of the query.
  induction equal : query.level using Nat.strong_induction_on generalizing query outer with
  | h level induction =>
      rcases exists_run_normalize closed.checkable with ⟨query', run, _⟩
      rw [after_of_run_ok run]
      by_cases old : query.normalized = true
      · rw [run_normalize_of_normalized old] at run
        cases run
        exact closed
      · have keeps (sub : Query) (part : sub.IsPartOf query) :=
          induction _ (equal ▸ level_inheriting_lt part query.functions.definitions)
            (closed_inheriting closed part) rfl
        have ends := ends_closed_normalize (Bool.eq_false_iff.mpr old) closed keeps
        exact (ends.of_ok run).closed fun _ => normalized_of_run_normalize run

end Build

end Sparql
