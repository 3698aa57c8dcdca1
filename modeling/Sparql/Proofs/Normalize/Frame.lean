import Sparql.Proofs.Describe.Returns
import Sparql.Proofs.Describe.Unlabelled
import Sparql.Proofs.Normalize.Resolved
import Sparql.Proofs.Registers.Runs

/-!
What normalizing leaves alone. It never edits a pattern in its place, but for the calls that it
resolves and for subqueries, which it normalizes; the clauses that it sets are those that the form
of the query has it set; and once it has returned, it does nothing any more: `normalize_frame`.
-/

namespace Sparql

/-! ## Forms -/

/-- The clauses that bringing a query into form may set, each for the forms that it is set for. -/
structure Clauses.Reshapes (clauses clauses' : Clauses) : Prop where
  select : ∃ added : List Variable,
    clauses'.select = clauses.select ++ added.map ({ target := · }) ∧
      (clauses.form ≠ .describe → added = [])
  describe : clauses.form ≠ .describe → clauses'.describe = clauses.describe
  body : clauses.form ≠ .describe → clauses'.body = clauses.body
  construct : clauses.form ≠ .construct → clauses.form ≠ .describe → clauses.form ≠ .update →
    clauses'.construct = clauses.construct
  delete : clauses.form ≠ .delete → clauses'.delete = clauses.delete
  limit : clauses'.limit = clauses.limit ∨ clauses.form = .ask ∧ clauses'.limit = 1
  rest : clauses' = { clauses with
    select := clauses'.select
    describe := clauses'.describe
    body := clauses'.body
    construct := clauses'.construct
    delete := clauses'.delete
    limit := clauses'.limit }

/-- All patterns stay, and others are added. Names and triples are made only for descriptions. -/
structure Query.Reshapes (query query' : Query) : Prop where
  patterns : query.arena.patterns <+: query'.arena.patterns
  clauses : query.clauses.Reshapes query'.clauses
  made : query.clauses.form ≠ .describe →
    query'.supply = query.supply ∧ query'.registers = query.registers
  rest : query'.rest = query.rest

theorem Clauses.Reshapes.refl (clauses : Clauses) : clauses.Reshapes clauses where
  select := ⟨[], by simp, fun _ => rfl⟩
  describe _ := rfl
  body _ := rfl
  construct _ _ _ := rfl
  delete _ := rfl
  limit := .inl rfl
  rest := rfl

namespace Query

variable {query : Query}

theorem Reshapes.refl (query : Query) : query.Reshapes query :=
  ⟨List.prefix_refl _, .refl _, fun _ => ⟨rfl, rfl⟩, rfl⟩

theorem reshapes_of_clauses {arena : Arena Query} {clauses : Clauses}
    (patterns : query.arena.patterns <+: arena.patterns)
    (reshapes : query.clauses.Reshapes clauses) :
    query.Reshapes { query with arena, clauses } :=
  ⟨patterns, reshapes, fun _ => ⟨rfl, rfl⟩, rfl⟩

end Query

namespace Build

variable {query : Query}

theorem ends_frame_templateOf (root : PatternId) (query : Query) :
    Ends (templateOf root) query
      (fun _ query' => ∃ ids, query' = { query with arena := query.arena.push (.group ids) })
      fun _ query' => query' = query := by
  rw [templateOf, ends_bind, ends_inspect]
  split
  · next ids _ => exact ⟨ids, rfl⟩
  · rfl

theorem ends_reshapes_template (root : PatternId) {change : PatternId → Clauses → Clauses}
    (reshapes : ∀ template, query.clauses.Reshapes (change template query.clauses)) :
    Ends (do let template ← templateOf root; modifyClauses (change template)) query
      (fun _ => query.Reshapes) fun _ => query.Reshapes := by
  rw [ends_bind]
  apply (ends_frame_templateOf root query).imp
  · intro template query' made
    rcases made with ⟨ids, rfl⟩
    rw [modifyClauses, ends_modify]
    exact Query.reshapes_of_clauses (List.prefix_append _ _) (reshapes template)
  · intro _ query' same
    exact same ▸ .refl query

theorem ends_reshapes_normalizeConstruct (form : query.clauses.form = .construct) :
    Ends normalizeConstruct query (fun _ => query.Reshapes) fun _ => query.Reshapes := by
  have set (template : PatternId) :
      query.clauses.Reshapes { query.clauses with construct := some template } :=
    { Clauses.Reshapes.refl query.clauses with
      construct := fun other => absurd form other
      rest := rfl }
  rw [normalizeConstruct, ends_bind, ends_get]
  dsimp only
  split
  · exact .refl query
  · exact Query.reshapes_of_clauses (List.prefix_refl _) (set _)
  · exact ends_reshapes_template _ set
  · exact .refl query

theorem ends_reshapes_normalizeDelete (form : query.clauses.form = .delete) :
    Ends normalizeDelete query (fun _ => query.Reshapes) fun _ => query.Reshapes := by
  have set (template : PatternId) :
      query.clauses.Reshapes { query.clauses with delete := some template } :=
    { Clauses.Reshapes.refl query.clauses with
      delete := fun other => absurd form other
      rest := rfl }
  rw [normalizeDelete, ends_bind, ends_get]
  dsimp only
  split
  · exact ends_reshapes_template _ set
  · exact .refl query

theorem ends_unchanged_normalizeDescribe (query : Query) :
    Ends normalizeDescribe query (fun _ _ => True) fun _ query' => query' = query := by
  have unchanged : Ends bodyVariables query (fun _ query' => query' = query)
      fun _ query' => query' = query := by
    rw [bodyVariables, ends_bind, ends_get]
    split
    · rw [ends_inspect]
      split <;> rfl
    · rfl
  rw [normalizeDescribe_eq]
  apply ((ends_bodyVariables query).and unchanged).imp (fun _ _ => And.left) (fun _ _ => And.right)
    |>.bind
  rintro vars query ⟨_, rfl, known⟩
  rw [ends_bind, ends_get]
  split
  · rw [ends_bind]
    refine .of_run_ok (run_describeAll vars query) ?_
    refine (ends_describeNamed ?_).imp (fun _ _ _ => trivial) fun _ _ => False.elim
    exact known
  · exact (ends_describeNamed known).imp (fun _ _ _ => trivial) fun _ _ => False.elim

theorem ends_reshapes_normalizeDescribe (form : query.clauses.form = .describe) :
    Ends normalizeDescribe query (fun _ => query.Reshapes) fun _ => query.Reshapes := by
  have rest := keepsRest_normalizeDescribe query rfl
  apply (((ends_normalizeDescribe query).and (ends_unchanged_normalizeDescribe query)).and rest).imp
  · rintro _ query' ⟨⟨⟨_, rebuilt⟩, _⟩, kept⟩
    refine ⟨rebuilt.patterns, ?_, fun other => absurd form other, kept⟩
    rw [rebuilt.clauses]
    exact
      { select := ⟨_, rfl, fun other => absurd form other⟩
        describe := fun other => absurd form other
        body := fun other => absurd form other
        construct := fun _ other => absurd form other
        delete := fun _ => rfl
        limit := .inl rfl
        rest := rfl }
  · rintro _ query' ⟨⟨_, same⟩, _⟩
    exact same ▸ .refl query

theorem ends_reshapes_normalizeForm (query : Query) :
    Ends normalizeForm query (fun _ => query.Reshapes) fun _ => query.Reshapes := by
  have set {clauses : Clauses} (reshapes : query.clauses.Reshapes clauses) :
      query.Reshapes { query with clauses } :=
    Query.reshapes_of_clauses (List.prefix_refl _) reshapes
  rw [normalizeForm, ends_bind, ends_get]
  split
  · exact .refl query
  · next form =>
      exact set
        { Clauses.Reshapes.refl query.clauses with
          limit := .inr ⟨form, rfl⟩
          rest := rfl }
  · next form => exact ends_reshapes_normalizeConstruct form
  · next form => exact ends_reshapes_normalizeDescribe form
  · next form => exact ends_reshapes_normalizeDelete form
  · next form =>
      exact set
        { Clauses.Reshapes.refl query.clauses with
          construct := fun _ _ other => absurd form other
          rest := rfl }

end Build

/-! ## Queries -/

/-- What may become of a pattern: its calls are resolved, or it is a subquery and is normalized with
the functions around it. -/
inductive Pattern.Normalizes (functions : Functions) : Pattern Query → Pattern Query → Prop
  | resolves {p p' : Pattern Query} (resolves : p.Resolves (functions.isDefined ·) p') :
      Normalizes functions p p'
  | subquery (sub : Query) :
      Normalizes functions (.subquery sub)
        (.subquery (Build.normalize.after (sub.inheriting functions.definitions)))

/-- What may become of a query: what it had is kept, but for the calls that are resolved, the
subqueries that are normalized, and the clauses that its form has set. -/
structure Query.Normalizes (query query' : Query) : Prop where
  patterns : ∀ id p, query.arena.get? id = some p →
    ∃ p', query'.arena.get? id = some p' ∧ p.Normalizes query.functions p'
  clauses : ∃ resolved, query.clauses.Resolves (query.functions.isDefined ·) resolved ∧
    resolved.Reshapes query'.clauses
  definitions : List.Forall₂ (fun entry entry' =>
      entry'.1 = entry.1 ∧ entry.2.Resolves (query.functions.isDefined ·) entry'.2)
    query.functions.definitions query'.functions.definitions
  made : query.clauses.form ≠ .describe →
    query'.supply = query.supply ∧ query'.registers = query.registers
  options : query'.options = query.options
  namespaces : query'.namespaces = query.namespaces
  owners : query'.blankOwners = query.blankOwners
  checked : query'.checked = query.checked

namespace Query

variable {query between query' : Query}

theorem Normalizes.refl (query : Query) : query.Normalizes query where
  patterns _ p found := ⟨p, found, .resolves (.same p)⟩
  clauses := ⟨_, .refl _, .refl _⟩
  definitions := (Resolves.refl query).definitions
  made _ := ⟨rfl, rfl⟩
  options := rfl
  namespaces := rfl
  owners := rfl
  checked := rfl

theorem Normalizes.annotated (normalizes : query.Normalizes query') (log : Log)
    (normalized : Bool) : query.Normalizes { query' with log, normalized } :=
  { normalizes with }

theorem exists_get?_withNormalized {id : PatternId} {p : Pattern Query}
    (found : query.arena.get? id = some p) :
    ∃ p', (Build.withNormalized query).arena.get? id = some p' ∧ (p' = p ∨
      ∃ sub, p = .subquery sub ∧
        p' = .subquery (Build.normalize.after (sub.inheriting query.functions.definitions))) := by
  have plain : (Build.withNormalized query).arena.patterns.map Pattern.plain? =
      query.arena.patterns.map Pattern.plain? := Build.map_normalizePatterns _ fun _ _ => rfl
  cases p with
  | subquery sub =>
      rcases Build.exists_normalized found with ⟨sub', found', ⟨_, equal⟩ | ⟨equal, _⟩⟩
      · exact ⟨_, found', .inl (congrArg _ equal)⟩
      · exact ⟨_, found', .inr ⟨sub, rfl, congrArg _ equal⟩⟩
  | _ => exact ⟨_, Arena.get?_of_plain plain found rfl, .inl rfl⟩

theorem normalizes_of_stages
    (resolves : (Build.withNormalized query).Resolves (query.functions.isDefined ·) between)
    (reshapes : between.Reshapes query') : query.Normalizes query' := by
  have form : between.clauses.form = query.clauses.form := by rw [resolves.clauses.rest]; rfl
  have supply : between.supply = query.supply := by rw [resolves.rest]; rfl
  have registers : between.registers = query.registers := by rw [resolves.rest]; rfl
  have rest : query'.rest.options = query.options ∧ query'.rest.namespaces = query.namespaces ∧
      query'.rest.blankOwners = query.blankOwners ∧ query'.rest.checked = query.checked := by
    rw [reshapes.rest, resolves.rest]
    exact ⟨rfl, rfl, rfl, rfl⟩
  have functions : query'.functions = between.functions :=
    (congrArg Query.functions reshapes.rest :)
  refine ⟨fun id p found => ?_, ⟨_, resolves.clauses, reshapes.clauses⟩, ?_, fun other => ?_,
    rest.1, rest.2.1, rest.2.2.1, rest.2.2.2⟩
  · rcases exists_get?_withNormalized found with ⟨p₁, found₁, here⟩
    rcases resolves.patterns id p₁ found₁ with ⟨p₂, found₂, resolved⟩
    refine ⟨p₂, Arena.get?_of_added reshapes.patterns found₂, ?_⟩
    rcases here with rfl | ⟨sub, rfl, rfl⟩
    · exact .resolves resolved
    · cases resolved
      exact .subquery sub
  · rw [functions]
    exact resolves.definitions
  · rcases reshapes.made (form ▸ other) with ⟨made, made'⟩
    exact ⟨made.trans supply, made'.trans registers⟩

end Query

namespace Build

theorem ends_normalizes (query : Query) :
    Ends normalize query (fun _ => query.Normalizes) fun _ => query.Normalizes := by
  have same : Ends normalize query (fun _ => query.Normalizes) (fun _ => query.Normalizes) ↔
      Ends (normalizeWith normalize) query (fun _ => query.Normalizes)
        fun _ => query.Normalizes := by
    rw [Ends, Ends, run_normalize_eq]
  have subqueries : (withNormalized query).Resolves (query.functions.isDefined ·)
      (withNormalized query) := .refl _
  rw [same, normalizeWith_eq, ends_bind, ends_get]
  split
  · exact .refl query
  · -- Each stage may fail. The stages after it are then left out of the frame.
    apply ((ends_normalizeSubqueries normalize query).imp (fun _ _ => And.right) ?_).bind
    · rintro _ _ rfl
      apply ((ends_resolves_settleCalls (withNormalized query)).imp (fun _ _ => id) ?_).bind
      · intro _ settled resolves
        apply ((ends_reshapes_normalizeForm settled).imp (fun _ _ => id) ?_).bind
        · intro _ formed reshapes
          exact (Query.normalizes_of_stages resolves reshapes).annotated formed.log true
        · exact fun _ _ reshapes => Query.normalizes_of_stages resolves reshapes
      · exact fun _ stopped resolves => Query.normalizes_of_stages resolves (.refl stopped)
    · rintro _ _ ⟨_, log, rfl⟩
      exact (Query.normalizes_of_stages subqueries (.refl _)).annotated log query.normalized

theorem normalized_of_run_normalize {query query' : Query}
    (run : normalize.run query = .ok () query') : query'.normalized = true := by
  by_cases old : query.normalized = true
  · rw [run_normalize_of_normalized old] at run
    cases run
    exact old
  · rcases exists_formed (Bool.eq_false_iff.mpr old) run with ⟨_, _, _, _, _, _, normalized⟩
    exact normalized

/-- However normalizing ends, each pattern of the query keeps its place, its kind and all that is in
it, but for calls in conditions and bound expressions that become calls of functions, and for
subqueries, which are normalized with the functions around them. The same calls are all that changes
in the projection, the solution modifiers and the bodies of functions, and besides these it is only
clauses of the form of the query that change. If normalizing returned, it changes nothing any more,
whatever is done in between. -/
theorem normalize_frame (query : Query) :
    query.Normalizes (normalize.after query) ∧
      ∀ query', normalize.run query = .ok () query' → ∀ (script : Script) (known : List Outcome),
        normalize.run (script.play known query').2 = .ok () (script.play known query').2 := by
  refine ⟨(ends_normalizes query).after, fun query' run script known => ?_⟩
  apply run_normalize_of_normalized
  have keeps (operation : Operation) (query : Query) (normalized : query.normalized = true) :
      (operation.run.after query).normalized = true := operation.normalized_after normalized
  exact script.play_keeps keeps known (normalized_of_run_normalize run)

def callingLater : Query :=
  let x : Variable := .ofName "x"
  (Operation.define "f" [x] (.var x)).run.after
    ((Operation.filter (.call { name := "f", operator := .undefined } [.var x])).run.after
      ((Operation.call "f" [.var x]).run.after {}))

theorem callingLater_frame :
    callingLater.Normalizes (normalize.after callingLater) ∧
      (callingLater.expressions.flatMap Expr.calls).map (·.operator) = [.undefined] ∧
      ((normalize.after callingLater).expressions.flatMap Expr.calls).map (·.operator) =
        [.userFunction] ∧
      ∃ query', normalize.run callingLater = .ok () query' ∧
        ∀ (script : Script) (known : List Outcome),
          normalize.run (script.play known query').2 = .ok () (script.play known query').2 := by
  have run : ∃ value, normalize.run callingLater = .ok value (normalize.after callingLater) :=
    exists_run_of_returns (by decide +kernel)
  rcases run with ⟨⟨⟩, run⟩
  rcases normalize_frame callingLater with ⟨normalizes, idle⟩
  exact ⟨normalizes, by decide +kernel, by decide +kernel, _, run, idle _ run⟩

end Build

end Sparql
