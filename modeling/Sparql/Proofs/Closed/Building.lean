import Sparql.Proofs.Calls.Kept
import Sparql.Proofs.Closed.Basic
import Sparql.Proofs.Path.Peeled

/-!
Building keeps a query closed when the patterns that are named in what it is given are there.
`KeepsClosed` says this of an operation, and it says of the patterns that are named in its value
that they are there as well, so that the next operation may be given these.
-/

namespace Sparql

/-! ## Paths -/

namespace Path

theorem patterns_peel_subset (e : Expr) : (peel e).2.patterns ⊆ e.patterns := by
  induction e using peel.induct with
  | case1 head operand modifier _ _ _ induction =>
      rw [peel, if_pos modifier]
      intro id tested
      simp [Expr.patterns, Expr.patternsOf, induction tested]
  | case2 head operand other =>
      rw [peel, if_neg other]
      exact List.Subset.refl _
  | case3 e other =>
      rw [peel]
      · exact List.Subset.refl _
      · exact other

mutual
theorem patterns_bounded (e : Expr) : (bounded e).patterns = e.patterns := by
  cases e with
  | var _ => rfl
  | const _ => rfl
  | call head args =>
      rw [bounded]
      split
      · rw [Expr.patterns, Expr.patterns, withBounds, patternsOf_boundedAll]
      · rfl

theorem patternsOf_boundedAll (args : List Expr) :
    Expr.patternsOf (boundedAll args) = Expr.patternsOf args := by
  cases args with
  | nil => rfl
  | cons e rest =>
      rw [boundedAll, Expr.patternsOf, Expr.patternsOf, patterns_bounded, patternsOf_boundedAll]
end

theorem Plan.patterns_core_subset (semantics : PathSemantics) (e : Expr) :
    (ofExpr semantics e).core.patterns ⊆ e.patterns := by
  have inside : (bounded (peel e).2).patterns ⊆ e.patterns := by
    rw [patterns_bounded]
    exact patterns_peel_subset e
  rw [ofExpr_eq]
  dsimp only
  split
  · simpa [inverted, Expr.patterns, Expr.patternsOf] using inside
  · exact inside

end Path

namespace Build

variable {α β : Type}

/-! ## Compositions -/

/-- From a closed query of at least so many patterns the operation comes to a closed query of no
fewer patterns, in which those are that its value names. -/
def KeepsClosed (handed : Bool) (outer : List Nat) (least : Nat) (names : α → List PatternId)
    (x : Build α) : Prop :=
  ∀ query : Query, query.ClosedAs handed outer → least ≤ query.arena.size →
    Ends x query
      (fun value query' => query'.ClosedAs handed outer ∧ query.arena.size ≤ query'.arena.size ∧
        ∀ id ∈ names value, id < query'.arena.size)
      fun _ query' => query'.ClosedAs handed outer

def nowhere (_ : α) : List PatternId := []

section

variable {handed : Bool} {outer : List Nat} {least : Nat}
variable {names : α → List PatternId} {names' : β → List PatternId}

theorem KeepsClosed.preserves {x : Build α} (keeps : KeepsClosed handed outer 0 names x) :
    Preserves (·.ClosedAs handed outer) (fun _ query => query.ClosedAs handed outer) x :=
  fun query closed =>
    (keeps query closed (Nat.zero_le _)).imp (fun _ _ => And.left) fun _ _ => id

theorem keepsClosed_pure {value : α} (known : ∀ id ∈ names value, id < least) :
    KeepsClosed handed outer least names (pure value) :=
  fun _ closed enough =>
    ⟨closed, Nat.le_refl _, fun id named => Nat.lt_of_lt_of_le (known id named) enough⟩

theorem keepsClosed_returned {id : PatternId} (below : id < least) :
    KeepsClosed handed outer least (fun id => [id]) (pure id) :=
  keepsClosed_pure (List.forall_mem_singleton.mpr below)

theorem KeepsClosed.bind {x : Build α} {next : α → Build β}
    (first : KeepsClosed handed outer least names x)
    (rest : ∀ value more, least ≤ more → (∀ id ∈ names value, id < more) →
      KeepsClosed handed outer more names' (next value)) :
    KeepsClosed handed outer least names' (x >>= next) := by
  intro query closed enough
  apply (first query closed enough).bind
  intro value query' holds
  rcases holds with ⟨closed', grown, known⟩
  have ends := rest value _ (enough.trans grown) known query' closed' (Nat.le_refl _)
  apply ends.imp _ fun _ _ => id
  intro _ query'' holds
  rcases holds with ⟨closed'', grown', known'⟩
  exact ⟨closed'', grown.trans grown', known'⟩

theorem KeepsClosed.seq {x : Build α} {next : α → Build β}
    (first : KeepsClosed handed outer least nowhere x)
    (rest : ∀ value more, least ≤ more → KeepsClosed handed outer more names' (next value)) :
    KeepsClosed handed outer least names' (x >>= next) :=
  first.bind fun value more enough _ => rest value more enough

theorem KeepsClosed.made {x : Build PatternId} {next : PatternId → Build β}
    (first : KeepsClosed handed outer least (fun id => [id]) x)
    (rest : ∀ id more, least ≤ more → id < more → KeepsClosed handed outer more names' (next id)) :
    KeepsClosed handed outer least names' (x >>= next) :=
  first.bind fun id more enough below => rest id more enough (below id (List.mem_singleton_self id))

theorem keepsClosed_get_bind {next : Query → Build α}
    (rest : ∀ query : Query, query.ClosedAs handed outer → least ≤ query.arena.size →
      KeepsClosed handed outer query.arena.size names (next query)) :
    KeepsClosed handed outer least names (get >>= next) := by
  intro query closed enough
  rw [ends_bind, ends_get]
  exact rest query closed enough query closed (Nat.le_refl _)

theorem KeepsClosed.map {x : Build α} (keeps : KeepsClosed handed outer least names x)
    {change : α → β} (fewer : ∀ value, names' (change value) ⊆ names value) :
    KeepsClosed handed outer least names' (change <$> x) := by
  rw [map_eq_pure_bind]
  exact keeps.bind fun value _ _ known =>
    keepsClosed_pure fun id named => known id (fewer value named)

theorem keepsClosed_ite {condition : Prop} [Decidable condition] {x y : Build α}
    (yes : KeepsClosed handed outer least names x) (no : KeepsClosed handed outer least names y) :
    KeepsClosed handed outer least names (if condition then x else y) := by
  split
  · exact yes
  · exact no

theorem keepsClosed_forM {values : List β} {body : β → Build PUnit}
    (keeps : ∀ value ∈ values, ∀ more, least ≤ more →
      KeepsClosed handed outer more nowhere (body value)) :
    KeepsClosed handed outer least nowhere (forM values body) := by
  induction values generalizing least with
  | nil => exact keepsClosed_pure (List.forall_mem_nil _)
  | cons value rest induction =>
      rw [List.forM_cons]
      apply (keeps value (List.mem_cons_self ..) least (Nat.le_refl _)).seq
      intro _ more enough
      exact induction fun value member more' enough' =>
        keeps value (List.mem_cons_of_mem _ member) more' (enough.trans enough')

theorem keepsClosed_mapM {values : List β} {body : β → Build α}
    (keeps : ∀ value ∈ values, ∀ more, least ≤ more →
      KeepsClosed handed outer more names (body value)) :
    KeepsClosed handed outer least (·.flatMap names) (values.mapM body) := by
  induction values generalizing least with
  | nil => exact keepsClosed_pure (List.forall_mem_nil _)
  | cons value rest induction =>
      rw [List.mapM_cons]
      apply (keeps value (List.mem_cons_self ..) least (Nat.le_refl _)).bind
      intro first more enough known
      have others := induction fun value member more' enough' =>
        keeps value (List.mem_cons_of_mem _ member) more' (enough.trans enough')
      apply others.bind
      intro others more' enough' known'
      apply keepsClosed_pure
      intro id named
      rw [List.flatMap_cons] at named
      rcases List.mem_append.mp named with here | there
      · exact Nat.lt_of_lt_of_le (known id here) enough'
      · exact known' id there

theorem keepsClosed_inspect {look : Arena Query → Except Failure α}
    (known : ∀ (query : Query) value, query.ClosedAs handed outer → look query.arena = .ok value →
      ∀ id ∈ names value, id < query.arena.size) :
    KeepsClosed handed outer least names (inspect look) := by
  intro query closed _
  rw [ends_inspect]
  split
  · next value found => exact ⟨closed, Nat.le_refl _, known query value closed found⟩
  · exact closed

theorem keepsClosed_pattern (id : PatternId) :
    KeepsClosed handed outer least (fun p => p.names ++ [id]) (pattern id) := by
  apply keepsClosed_inspect
  intro query p closed found id' member
  dsimp only [Arena.get] at found
  split at found
  · next here =>
      cases found
      rcases List.mem_append.mp member with named | same
      · exact closed.here.arena.names p (List.mem_of_getElem? here) id' named
      · exact List.mem_singleton.mp same ▸ Arena.lt_of_get? here
  · cases found

theorem keepsClosed_known_bind {id : PatternId} {next : Unit → Build α}
    (rest : ∀ more, least ≤ more → id < more → KeepsClosed handed outer more names (next ())) :
    KeepsClosed handed outer least names (known id >>= next) := by
  have here : KeepsClosed handed outer least (fun _ => [id]) (known id) :=
    (keepsClosed_pattern id).map fun _ => List.subset_append_right _ _
  apply here.bind
  intro _ more enough below
  exact rest more enough (below id (List.mem_singleton_self id))

/-! ## Changes -/

theorem keepsClosed_modify {change : Query → Query}
    (keeps : ∀ query : Query, query.ClosedAs handed outer → least ≤ query.arena.size →
      (change query).ClosedAs handed outer)
    (arena : ∀ query, (change query).arena = query.arena) :
    KeepsClosed handed outer least nowhere (modify change) := by
  intro query closed enough
  rw [ends_modify, arena]
  exact ⟨keeps query closed enough, Nat.le_refl _, List.forall_mem_nil _⟩

theorem keepsClosed_similar {change : Query → Query}
    (similar : ∀ query : Query, query.NamesAlike (change query)) :
    KeepsClosed handed outer least nowhere (modify change) :=
  keepsClosed_modify (fun query closed _ => closed.similar (similar query))
    fun query => (similar query).arena

def Steps.aside : Steps := ⟨Query.NamesAlike, fun _ => True, fun _ => True⟩

theorem Takes.keepsClosed {x : Build α} (takes : Takes .aside x) :
    KeepsClosed handed outer least nowhere x := by
  intro query closed _
  have kept : Preserves (query.NamesAlike ·) (fun _ => (query.NamesAlike ·)) x :=
    takes.preserves (fun _ _ step _ before => before.trans step)
      fun _ _ before => ⟨before.options, before.arena, before.clauses, before.registers,
        before.functions⟩
  apply (kept query (.refl query)).imp
  · intro _ query' similar
    refine ⟨closed.similar similar, ?_, List.forall_mem_nil _⟩
    rw [similar.arena]
  · exact fun _ _ similar => closed.similar similar

end

/-! ## Patterns and clauses -/

section

variable {handed : Bool} {outer : List Nat} {least : Nat}

theorem keepsClosed_push {p : Pattern Query} (children : ∀ id ∈ p.children, id < least)
    (written : NamesBelow least p.written) (part : ∀ sub, p = .subquery sub → sub.Closed []) :
    KeepsClosed handed outer least (fun id => [id]) (push p) := by
  intro query closed enough
  have named : ∀ id ∈ p.names, id < query.arena.size := by
    intro id member
    apply Nat.lt_of_lt_of_le _ enough
    exact (List.mem_append.mp member).elim (children id) (written.flatMap id)
  refine ⟨closed.push named part, ?_, fun id member => ?_⟩
  · rw [Arena.size_push]
    exact Nat.le_succ _
  · rw [List.mem_singleton.mp member, Arena.size_push]
    exact Nat.lt_succ_self _

theorem keepsClosed_modifyClauses {change : Clauses → Clauses}
    (known : ∀ clauses, ∀ id ∈ (change clauses).names, id ∈ clauses.names ∨ id < least) :
    KeepsClosed handed outer least nowhere (modifyClauses change) := by
  refine keepsClosed_modify (fun query closed enough => ?_) fun _ => rfl
  refine closed.update rfl rfl (fun id named => ?_) (fun _ => .inl) fun _ => .inl
  exact (known _ id named).imp_right fun below => Nat.lt_of_lt_of_le below enough

theorem keepsClosed_write {change : Clauses → Clauses} {added : List Expr}
    (roots : ∀ clauses, (change clauses).roots = clauses.roots)
    (written : ∀ clauses, ∀ e ∈ (change clauses).written, e ∈ clauses.written ∨ e ∈ added)
    (below : NamesBelow least added) :
    KeepsClosed handed outer least nowhere (modifyClauses change) := by
  apply keepsClosed_modifyClauses
  intro clauses id named
  rcases List.mem_append.mp named with root | tested
  · rw [roots] at root
    exact .inl (List.mem_append_left _ root)
  · rcases List.mem_flatMap.mp tested with ⟨e, member, tested⟩
    rcases written clauses e member with old | new
    · exact .inl (List.mem_append_right _ (List.mem_flatMap.mpr ⟨e, old, tested⟩))
    · exact .inr (below e new id tested)

theorem keepsClosed_select (target : Variable) {value : Option Expr}
    (below : NamesBelow least value.toList) :
    KeepsClosed handed outer least nowhere (select target value) := by
  refine keepsClosed_write (fun clauses => ?_) (fun clauses e member => ?_) below
  · split <;> rfl
  · rw [Clauses.mem_written] at member ⊢
    grind

theorem keepsClosed_root {id : PatternId} {change : Clauses → Clauses}
    (roots : ∀ clauses, ∀ id' ∈ (change clauses).roots, id' = id ∨ id' ∈ clauses.roots)
    (written : ∀ clauses, (change clauses).written = clauses.written) (below : id < least) :
    KeepsClosed handed outer least nowhere (modifyClauses change) := by
  apply keepsClosed_modifyClauses
  intro clauses id' named
  rw [Clauses.names, written] at named
  rcases List.mem_append.mp named with root | tested
  · rcases roots clauses id' root with rfl | old
    · exact .inr below
    · exact .inl (List.mem_append_left _ old)
  · exact .inl (List.mem_append_right _ tested)

theorem keepsClosed_body {id : PatternId} (below : id < least) :
    KeepsClosed handed outer least nowhere
      (modifyClauses fun clauses => { clauses with body := some id }) :=
  keepsClosed_root (by grind [Clauses.mem_roots]) (fun _ => rfl) below

theorem keepsClosed_construct {id : PatternId} (below : id < least) :
    KeepsClosed handed outer least nowhere
      (modifyClauses fun clauses => { clauses with construct := some id }) :=
  keepsClosed_root (by grind [Clauses.mem_roots]) (fun _ => rfl) below

theorem keepsClosed_delete {id : PatternId} (below : id < least) :
    KeepsClosed handed outer least nowhere
      (modifyClauses fun clauses => { clauses with delete := some id }) :=
  keepsClosed_root (by grind [Clauses.mem_roots]) (fun _ => rfl) below

end

/-! ## Triples -/

section

variable {handed : Bool} {outer : List Nat} {least : Nat}

theorem changes_defers_aside : Steps.aside.Changes Defers := by
  intro query query' defers
  rcases defers with ⟨key, count, rfl⟩
  exact ⟨rfl, rfl, rfl, rfl, rfl⟩

theorem complains_aside : Steps.aside.Complains := fun _ _ => trivial

theorem refuses_aside : Steps.aside.Refuses := fun _ _ => trivial

theorem keepsClosed_planPath {path : Expr} (below : ∀ id ∈ path.patterns, id < least) :
    KeepsClosed handed outer least (·.core.patterns) (planPath path) := by
  apply keepsClosed_get_bind
  intro query _ enough
  have problems : Takes .aside (problems (Path.problems path)) :=
    takes_problems complains_aside (faults_bound _)
  apply problems.keepsClosed.seq
  intro _ more enough'
  apply keepsClosed_pure
  intro id tested
  have inside := below id (Path.Plan.patterns_core_subset _ path tested)
  exact Nat.lt_of_lt_of_le inside (enough.trans enough')

theorem names_submit_subset (registers : Registers) (id : PatternId) (t : Triple) :
    (registers.submit id t).names ⊆ id :: registers.names := by
  intro id' member
  unfold Registers.submit at member
  simp only [Registers.names, List.mem_append, List.mem_cons] at member ⊢
  grind

theorem keepsClosed_submit {id : PatternId} (below : id < least) (t : Triple) :
    KeepsClosed handed outer least nowhere
      (modify fun query => { query with registers := query.registers.submit id t }) := by
  refine keepsClosed_modify (fun query closed enough => ?_) fun _ => rfl
  refine closed.update rfl rfl (fun _ => .inl) (fun id' named => ?_) fun _ => .inl
  rcases List.mem_cons.mp (names_submit_subset _ id t named) with rfl | old
  · exact .inr (Nat.lt_of_lt_of_le below enough)
  · exact .inl old

theorem keepsClosed_placeTriple {subject predicate object : Expr} {path : Option Path.Plan}
    (nodes : NamesBelow least [subject, predicate, object])
    (core : NamesBelow least (path.toList.map (·.core))) :
    KeepsClosed handed outer least (fun id => [id])
      (placeTriple subject predicate object path) := by
  apply keepsClosed_get_bind
  intro query _ enough
  apply (keepsClosed_similar ?_).seq
  · intro _ more enough'
    have pushed : KeepsClosed handed outer more (fun id => [id])
        (push (.triple { number := query.supply.triples, subject, predicate, object, path })) := by
      apply keepsClosed_push (List.forall_mem_nil _) _ (by simp)
      intro e member id tested
      apply Nat.lt_of_lt_of_le _ (enough.trans enough')
      exact (List.mem_append.mp member).elim (nodes e · id tested) (core e · id tested)
    apply pushed.made
    intro id more' _ below
    apply keepsClosed_get_bind
    intro query' _ enough''
    apply keepsClosed_ite
    · apply (keepsClosed_submit (Nat.lt_of_lt_of_le below enough'') _).seq
      exact fun _ _ grown => keepsClosed_returned (Nat.lt_of_lt_of_le below (enough''.trans grown))
    · exact keepsClosed_returned (Nat.lt_of_lt_of_le below enough'')
  · exact fun _ => ⟨rfl, rfl, rfl, rfl, rfl⟩

theorem keepsClosed_triple {subject : Expr} {predicate : Predicate} {object : Expr}
    (nodes : NamesBelow least [subject, predicate.node, object])
    (path : NamesBelow least predicate.path.toList) :
    KeepsClosed handed outer least (fun id => [id]) (triple subject predicate object) := by
  rw [triple_eq]
  have planned : KeepsClosed handed outer least (·.toList.flatMap (·.core.patterns))
      (predicate.path.mapM planPath) := by
    cases here : predicate.path with
    | none => exact keepsClosed_pure (List.forall_mem_nil _)
    | some written =>
        have below : ∀ id ∈ written.patterns, id < least := path written (by simp [here])
        exact (keepsClosed_planPath below).map fun plan => by simp
  apply planned.bind
  intro plan more enough known
  apply keepsClosed_placeTriple (nodes.mono enough)
  intro e member id tested
  rcases List.mem_map.mp member with ⟨plan', here, rfl⟩
  exact known id (List.mem_flatMap.mpr ⟨plan', here, tested⟩)

/-! ## Made-up names -/

theorem keepsClosed_counted {change : Query → Query → Query} {value : Query → α}
    (alike : ∀ query query' : Query, query'.NamesAlike (change query query')) :
    KeepsClosed handed outer least nowhere (do
      let query ← get
      modify (change query)
      return value query) := by
  apply keepsClosed_get_bind
  intro query _ _
  apply (keepsClosed_similar (alike query)).seq
  exact fun _ _ _ => keepsClosed_pure (List.forall_mem_nil _)

theorem keepsClosed_freshVariable : KeepsClosed handed outer least nowhere freshVariable :=
  keepsClosed_counted fun _ _ => ⟨rfl, rfl, rfl, rfl, rfl⟩

theorem keepsClosed_freshLabel : KeepsClosed handed outer least nowhere freshLabel :=
  keepsClosed_counted fun _ _ => ⟨rfl, rfl, rfl, rfl, rfl⟩

theorem keepsClosed_pathPredicate (path : Expr) :
    KeepsClosed handed outer least nowhere (pathPredicate path) :=
  keepsClosed_counted fun _ _ => ⟨rfl, rfl, rfl, rfl, rfl⟩

theorem keepsClosed_blank (label : Option String) :
    KeepsClosed handed outer least nowhere (blank label) := by
  cases label with
  | some label => exact keepsClosed_pure (List.forall_mem_nil _)
  | none =>
      exact keepsClosed_freshLabel.seq fun _ _ _ => keepsClosed_pure (List.forall_mem_nil _)

theorem keepsClosed_blankConstant (label : Option String) :
    KeepsClosed handed outer least nowhere (blankConstant label) := by
  cases label with
  | some label => exact keepsClosed_pure (List.forall_mem_nil _)
  | none =>
      exact keepsClosed_freshLabel.seq fun _ _ _ => keepsClosed_pure (List.forall_mem_nil _)

/-! ## Groups and other patterns -/

theorem keepsClosed_group {children : List PatternId} (below : ∀ id ∈ children, id < least) :
    KeepsClosed handed outer least (fun id => [id]) (group children) :=
  keepsClosed_push below namesBelow_nil (by simp)

theorem keepsClosed_union (left right : PatternId) :
    KeepsClosed handed outer least (fun id => [id]) (union left right) := by
  apply keepsClosed_known_bind
  intro more _ below
  apply keepsClosed_known_bind
  intro more' enough below'
  apply keepsClosed_push _ namesBelow_nil (by simp)
  intro id member
  rcases List.mem_pair.mp member with rfl | rfl
  · exact Nat.lt_of_lt_of_le below enough
  · exact below'

theorem keepsClosed_around {body : PatternId} {p : Pattern Query} (children : p.children = [body])
    (written : NamesBelow least p.written) (whole : p.kind ≠ .subquery) :
    KeepsClosed handed outer least (fun id => [id]) (do known body; push p) := by
  apply keepsClosed_known_bind
  intro more enough below
  apply keepsClosed_push _ (written.mono enough)
  · intro sub equal
    exact absurd (congrArg Pattern.kind equal) whole
  · rw [children]
    exact List.forall_mem_singleton.mpr below

theorem keepsClosed_optional (body : PatternId) :
    KeepsClosed handed outer least (fun id => [id]) (optional body) :=
  keepsClosed_around rfl namesBelow_nil (by simp [Pattern.kind])

/-! ## Collections -/

theorem keepsClosed_cell {node item next : Expr} (below : NamesBelow least [node, item, next]) :
    KeepsClosed handed outer least id (cell node item next) := by
  rw [namesBelow_cons, namesBelow_cons, namesBelow_cons] at below
  rcases below with ⟨inNode, inItem, inNext, _⟩
  have nodes {iri : String} {e : Expr} (inside : ∀ id ∈ e.patterns, id < least) :
      NamesBelow least [node, .const (.iri iri), e] :=
    namesBelow_cons.mpr ⟨inNode, namesBelow_cons.mpr ⟨List.forall_mem_nil _,
      namesBelow_cons.mpr ⟨inside, namesBelow_nil⟩⟩⟩
  apply (keepsClosed_triple (nodes inItem) namesBelow_nil).made
  intro first more enough below
  apply (keepsClosed_triple ((nodes inNext).mono enough) namesBelow_nil).made
  intro rest more' enough' below'
  apply keepsClosed_pure
  intro id member
  rcases List.mem_pair.mp member with rfl | rfl
  · exact Nat.lt_of_lt_of_le below enough'
  · exact below'

theorem keepsClosed_cells {pairs : List (Expr × Expr)}
    (nodes : NamesBelow least (pairs.map (·.1))) (items : NamesBelow least (pairs.map (·.2))) :
    KeepsClosed handed outer least id (cells pairs) := by
  induction pairs generalizing least with
  | nil => exact keepsClosed_pure (List.forall_mem_nil _)
  | cons pair rest induction =>
      have next : ∀ id ∈ ((rest.head?.map (·.1)).getD nil).patterns, id < least := by
        cases rest with
        | nil => exact List.forall_mem_nil _
        | cons second rest => exact nodes second.1 (by simp)
      rw [List.map_cons, namesBelow_cons] at nodes items
      have cell : NamesBelow least [pair.1, pair.2, (rest.head?.map (·.1)).getD nil] :=
        namesBelow_cons.mpr ⟨nodes.1, namesBelow_cons.mpr ⟨items.1,
          namesBelow_cons.mpr ⟨next, namesBelow_nil⟩⟩⟩
      apply (keepsClosed_cell cell).bind
      intro first more enough here
      apply (induction (nodes.2.mono enough) (items.2.mono enough)).bind
      intro others more' enough' here'
      apply keepsClosed_pure
      intro id member
      rcases List.mem_append.mp member with member | member
      · exact Nat.lt_of_lt_of_le (here id member) enough'
      · exact here' id member

theorem keepsClosed_collection {items : List Expr} (below : NamesBelow least items) :
    KeepsClosed handed outer least (fun id => [id]) (collection items) := by
  have node (more : Nat) : KeepsClosed handed outer more Expr.patterns
      (do return Expr.var (← blank none)) :=
    (keepsClosed_blank none).seq fun _ _ _ => keepsClosed_pure (List.forall_mem_nil _)
  apply (keepsClosed_mapM fun _ _ more _ => node more).bind
  intro nodes more enough here
  have known : NamesBelow more nodes := fun e member id tested =>
    here id (List.mem_flatMap.mpr ⟨e, member, tested⟩)
  have inside : NamesBelow more ((nodes.zip items).map (·.1)) := fun e member => by
    rcases List.mem_map.mp member with ⟨pair, zipped, rfl⟩
    exact known _ (List.of_mem_zip zipped).1
  have inside' : NamesBelow more ((nodes.zip items).map (·.2)) := fun e member => by
    rcases List.mem_map.mp member with ⟨pair, zipped, rfl⟩
    exact below.mono enough _ (List.of_mem_zip zipped).2
  apply (keepsClosed_cells inside inside').bind
  intro ids more' enough' here'
  have head : NamesBelow more' [nodes.head?.getD nil] := by
    cases nodes with
    | nil => exact namesBelow_cons.mpr ⟨List.forall_mem_nil _, namesBelow_nil⟩
    | cons first rest =>
        have inFirst := (known.mono enough') first (List.mem_cons_self ..)
        exact namesBelow_cons.mpr ⟨inFirst, namesBelow_nil⟩
  exact keepsClosed_push here' head (by simp)

end

end Build

end Sparql
