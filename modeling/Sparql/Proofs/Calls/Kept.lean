import Sparql.Proofs.Calls.Nested
import Sparql.Proofs.Steps.Operation

/-!
The record of calls is in order. Calls add to it, and settling takes out the names that have a
definition; nothing else touches it.
-/

namespace Sparql

namespace Build

variable {α : Type} {steps : Steps}

/-! ## Invariants of steps -/

theorem Takes.preserves {invariant : Query → Prop} {x : Build α} (takes : Takes steps x)
    (changes : ∀ query query' : Query, steps.change query query' →
      query'.options = query.options → invariant query → invariant query')
    (reports : ∀ query log, invariant query → invariant { query with log }) :
    Preserves invariant (fun _ => invariant) x := by
  induction takes with
  | pure value => exact preserves_pure value
  | throw _ => exact preserves_throw fun _ => id
  | report _ =>
      intro query holds
      rw [ends_report]
      split <;> exact reports query _ holds
  | modify quiet allowed =>
      exact preserves_modify fun query => changes _ _ (allowed query) (quiet.options query)
  | ask _ _ induction => exact preserves_get_bind fun query => induction query query
  | bind _ _ first rest => exact first.bind rest

theorem Takes.adds {added : List Expr} {may : Query → Prop} {x : Build α}
    (takes : Takes (.adding added may) x) (query : Query) :
    query.Adds added may (x.after query) := by
  have kept : Preserves (query.Adds added may) (fun _ => query.Adds added may) x :=
    takes.preserves (fun _ _ adds _ before => before.trans adds)
      fun _ _ before => before.trans (Query.adds_nothing rfl rfl rfl rfl)
  exact kept.after (Query.adds_nothing rfl rfl rfl rfl)

theorem Takes.options_eq {x : Build α} (takes : Takes steps x) (query : Query) :
    (x.after query).options = query.options := by
  have kept : Preserves (·.options = query.options) (fun _ query' => query'.options = query.options)
      x :=
    takes.preserves (fun _ _ _ same before => same.trans before) fun _ _ => id
  exact kept.after rfl

end Build

/-! ## The record -/

namespace Functions

theorem Kept.congr {functions functions' : Functions} (kept : functions.Kept)
    (same : functions'.deferred = functions.deferred) : functions'.Kept := by
  refine ⟨?_, ?_⟩
  · rw [undefinedNames, same]
    exact kept.ordered
  · rw [same]
    exact kept.called

theorem Kept.unsettled {functions : Functions} (kept : functions.Kept) (functions' : Functions) :
    Kept { functions' with deferred := functions.unsettled } where
  ordered := by
    have names : (functions.deferred.filter fun entry => !functions.isDefined entry.1).map (·.1) =
        functions.missing := by
      rw [missing, undefinedNames, List.filter_map]
      rfl
    rw [undefinedNames, Functions.unsettled, names]
    exact kept.ordered.filter _
  called entry member := kept.called entry (List.mem_filter.mp member).1

end Functions

theorem Query.kept_settled {query : Query} (kept : query.functions.Kept) :
    query.settled.functions.Kept := by
  rw [Query.settled]
  split
  · exact kept
  · exact kept.unsettled _

namespace Build

/-! ## Normalizing -/

theorem ends_kept_normalizeWith (normalizeSub : Build Unit) {query : Query}
    (lenient : query.options.strict = false) (kept : query.functions.Kept) :
    Ends (normalizeWith normalizeSub) query (fun _ query' => query'.functions.Kept)
      fun _ query' => query'.functions.Kept := by
  have subqueries : Ends (normalizeSubqueries normalizeSub) query
      (fun _ query' => query'.options.strict = false ∧ query'.functions.Kept)
      fun _ query' => query'.functions.Kept := by
    apply (ends_normalizeSubqueries normalizeSub query).imp
    · rintro _ _ ⟨_, rfl⟩
      exact ⟨lenient, kept⟩
    · rintro _ _ ⟨_, log, rfl⟩
      exact kept
  rw [normalizeWith_eq, ends_bind, ends_get]
  split
  · exact kept
  · apply subqueries.bind
    rintro _ between ⟨lenient', kept'⟩
    apply (ends_normalizeRest lenient').imp
    · rintro _ _ ⟨formed, shape, rfl⟩
      exact (congrArg Functions.Kept shape.alike.functions).mpr (Query.kept_settled kept')
    · rintro _ formed ⟨shape, _⟩
      exact (congrArg Functions.Kept shape.alike.functions).mpr (Query.kept_settled kept')

theorem kept_normalize {query : Query} (lenient : query.options.strict = false)
    (kept : query.functions.Kept) : (normalize.after query).functions.Kept := by
  have same : normalize.after query = (normalizeWith normalize).after query := by
    rw [after, after, run_normalize_eq]
  rw [same]
  exact (ends_kept_normalizeWith normalize lenient kept).after

/-! ## Operations -/

theorem kept_defer {x : Build α} (takes : Takes ⟨Defers, fun _ => True, fun _ => True⟩ x)
    {query : Query} (kept : query.functions.Kept) : (x.after query).functions.Kept := by
  have keeps : Preserves (·.functions.Kept) (fun _ query => query.functions.Kept) x := by
    apply takes.preserves
    · rintro query _ ⟨key, count, rfl⟩ _ kept
      exact kept.defer key count
    · exact fun _ _ => id
  exact keeps.after kept

theorem kept_define (name : String) (params : List Variable) (body : Expr) {query : Query}
    (kept : query.functions.Kept) : ((define name params body).after query).functions.Kept := by
  have takes : Takes ⟨Defines, fun _ => True, fun _ => True⟩ (define name params body) :=
    takes_define (fun _ _ => trivial) (fun _ _ => id) name params body
  have keeps : Preserves (·.functions.Kept) (fun _ query => query.functions.Kept)
      (define name params body) := by
    apply takes.preserves
    · rintro query _ ⟨definition, rfl⟩ _ kept
      exact kept.congr rfl
    · exact fun _ _ => id
  exact keeps.after kept

theorem kept_run (operation : Operation) {query : Query} (lenient : query.options.strict = false)
    (kept : query.functions.Kept) : (operation.run.after query).functions.Kept := by
  cases concerns : operation.concernsFunctions with
  | false =>
      have adds := (takes_attaching concerns).adds query
      exact kept.congr (congrArg Functions.deferred adds.functions)
  | true =>
      have complains : Steps.Complains ⟨Defers, fun _ => True, fun _ => True⟩ := fun _ _ => trivial
      cases operation with
      | call name args =>
          exact kept_defer ((takes_aggregate complains (fun _ _ => id) name args _ _).map _) kept
      | aggregate name args distinct separator =>
          exact kept_defer ((takes_aggregate complains (fun _ _ => id) name args _ _).map _) kept
      | define name params body =>
          rw [Operation.run, Operation.silent, after_map]
          exact kept_define name params body kept
      | normalize =>
          rw [Operation.run, Operation.silent, after_map]
          exact kept_normalize lenient kept
      | _ => cases concerns

end Build

/-! ## Reachable queries -/

theorem Query.Reachable.kept {query : Query} (reachable : query.Reachable)
    (lenient : query.options.strict = false) : query.functions.Kept := by
  induction reachable with
  | empty options namespaces library labelOrder => exact Functions.kept_empty
  | @step query operation _ _ _ before _ =>
      rw [(Build.takes_run operation).options_eq] at lenient
      exact Build.kept_run operation lenient (before lenient)

end Sparql
