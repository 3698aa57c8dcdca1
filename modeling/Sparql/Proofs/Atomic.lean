import Sparql.Proofs.Steps.Operation

/-!
Operations that fail leave no trace but the report of what went wrong. An operation looks around
first, then complains, and makes its changes at the end. What is refused when it looks around leaves
the query as it was, a complaint stops only a strict query, and no change can fail.
-/

namespace Sparql

/-! ## Failures -/

namespace Query

/-- The operation was refused, and the query is as it was. -/
structure Refused (query : Query) (failure : Failure) (query' : Query) : Prop where
  isRefusal : failure.isRefusal = true
  unchanged : query' = query

/-- A strict query did not go on after an error. The error is reported, once, and the query marked
as incorrect. Nothing else has changed. -/
structure Stopped (query : Query) (failure : Failure) (query' : Query) : Prop where
  strict : query.options.strict = true
  raised : ∃ diagnostic, failure = .strict diagnostic ∧ diagnostic.isError = true ∧
    query' = { query with
      log := { entries := query.log.entries ++ [diagnostic], correct := false } }

end Query

namespace Build

variable {α β : Type}

def Atomic (x : Build α) : Prop :=
  ∀ query, Ends x query (fun _ _ => True)
    fun failure query' => query.Refused failure query' ∨ query.Stopped failure query'

def Stoppable (x : Build α) : Prop := ∀ query, Ends x query (fun _ _ => True) query.Stopped

theorem Stoppable.atomic {x : Build α} (stoppable : Stoppable x) : Atomic x :=
  fun query => (stoppable query).imp (fun _ _ => id) fun _ _ => .inr

/-! ## Looking around -/

def Steps.probing : Steps where
  change _ _ := False
  report _ := False
  fail failure := failure.isRefusal = true

theorem Steps.refuses_probing : probing.Refuses := fun _ => id

theorem Takes.ends_of_probing {x : Build α} (takes : Takes .probing x) (query : Query) :
    Ends x query (fun _ query' => query' = query) query.Refused := by
  induction takes generalizing query with
  | pure value => rfl
  | throw allowed => exact ⟨allowed, rfl⟩
  | report allowed => exact allowed.elim
  | modify _ allowed => exact (allowed query).elim
  | ask _ _ induction => exact induction query query
  | bind _ _ first rest =>
      apply (first query).bind
      rintro value _ rfl
      exact rest value _

theorem Takes.atomic {x : Build α} (takes : Takes .probing x) : Atomic x :=
  fun query => (takes.ends_of_probing query).imp (fun _ _ _ => trivial) fun _ _ => .inl

theorem Takes.bind_atomic {x : Build α} {next : α → Build β} (takes : Takes .probing x)
    (rest : ∀ value, Atomic (next value)) : Atomic (x >>= next) := by
  intro query
  apply ((takes.ends_of_probing query).imp (fun _ _ => id) fun _ _ => .inl).bind
  rintro value _ rfl
  exact rest value _

/-! ## Complaining -/

def Steps.complaining : Steps where
  change _ _ := False
  report diagnostic := diagnostic.isError = true
  fail _ := False

theorem Steps.complains_complaining : complaining.Complains := fun _ => id

/-- The query went on: there were no complaints, or it is one that collects them. -/
structure WentOn (query query' : Query) : Prop where
  options : query'.options = query.options
  unchanged : query.options.strict = true → query' = query

theorem WentOn.refl (query : Query) : WentOn query query := ⟨rfl, fun _ => rfl⟩

theorem WentOn.trans {query query' query'' : Query} (first : WentOn query query')
    (second : WentOn query' query'') : WentOn query query'' where
  options := second.options.trans first.options
  unchanged strict := by
    have same := first.unchanged strict
    subst same
    exact second.unchanged strict

theorem WentOn.stopped {query query' query'' : Query} {failure : Failure}
    (went : WentOn query query') (stopped : query'.Stopped failure query'') :
    query.Stopped failure query'' := by
  have strict := stopped.strict
  rw [went.options] at strict
  have same := went.unchanged strict
  subst same
  exact stopped

theorem Takes.ends_of_complaining {x : Build α} (takes : Takes .complaining x) (query : Query) :
    Ends x query (fun _ query' => WentOn query query') query.Stopped := by
  induction takes generalizing query with
  | pure value => exact .refl query
  | throw allowed => exact allowed.elim
  | @report diagnostic isError =>
      rw [ends_report, isError, Bool.true_and]
      split
      · next strict =>
          refine ⟨strict, diagnostic, rfl, isError, ?_⟩
          rw [Log.add, isError, Bool.not_true, Bool.and_false]
      · next lenient => exact ⟨rfl, fun strict => absurd strict lenient⟩
  | modify _ allowed => exact (allowed query).elim
  | ask _ _ induction => exact induction query query
  | bind _ _ first rest =>
      apply (first query).bind
      intro value query' went
      exact (rest value query').imp (fun _ _ => went.trans) fun _ _ => went.stopped

theorem Takes.bind_stoppable {x : Build α} {next : α → Build β} (takes : Takes .complaining x)
    (rest : ∀ value, Stoppable (next value)) : Stoppable (x >>= next) := by
  intro query
  apply (takes.ends_of_complaining query).bind
  intro value query' went
  exact (rest value query').imp (fun _ _ => id) fun _ _ => went.stopped

theorem Takes.stoppable {x : Build α} (takes : Takes .complaining x) : Stoppable x :=
  fun query => (takes.ends_of_complaining query).imp (fun _ _ _ => trivial) fun _ _ => id

/-! ## Changing -/

def Steps.changing : Steps where
  change _ _ := True
  report _ := False
  fail _ := False

theorem Takes.returns {x : Build α} (takes : Takes .changing x) : Stoppable x := by
  intro query
  have ends : Ends x query (fun _ _ => True) fun _ _ => False := by
    induction takes generalizing query with
    | pure value => trivial
    | throw allowed => exact allowed
    | report allowed => exact allowed.elim
    | modify _ _ => trivial
    | ask _ _ induction => exact induction query query
    | bind _ _ first rest => exact (first query).bind fun value query' _ => rest value query'
  exact ends.imp (fun _ _ => id) fun _ _ => False.elim

/-! ## Operations -/

theorem Atomic.map {x : Build α} (atomic : Atomic x) (change : α → β) : Atomic (change <$> x) :=
  fun query => (ends_map x change _).mpr (atomic query)

theorem Stoppable.map {x : Build α} (stoppable : Stoppable x) (change : α → β) :
    Stoppable (change <$> x) :=
  fun query => (ends_map x change _).mpr (stoppable query)

theorem stoppable_get_bind {next : Query → Build α} (stoppable : ∀ query, Stoppable (next query)) :
    Stoppable (get >>= next) :=
  fun query => stoppable query query

theorem stoppable_resolveUser (call : Call) (args : List Expr) :
    Stoppable (resolveUser call args) := by
  apply stoppable_get_bind
  intro query
  split
  · have checked := takes_checkParameters Steps.complains_complaining call.key
    exact ((checked _ _).bind fun _ => .pure _).stoppable
  · apply Takes.returns
    apply Takes.bind
    · exact .modify ⟨fun _ => rfl, fun _ => rfl, fun _ => rfl⟩ fun _ => trivial
    · exact fun _ => .pure _

theorem stoppable_prepare (call : Call) (args : List Expr) : Stoppable (prepare call args) := by
  have complains := Steps.complains_complaining
  apply (takes_checkArguments complains call args).bind_stoppable
  intro _
  split
  · exact (Takes.pure _).stoppable
  · exact (Takes.pure _).stoppable
  · exact ((takes_prepareRegex complains call args 2 true).bind fun _ => .pure _).stoppable
  · exact ((takes_prepareRegex complains call args 3 false).bind fun _ => .pure _).stoppable
  · exact ((takes_linkExternal complains call).bind fun _ => .pure _).stoppable
  · rw [bind_pure_comp]
    exact (stoppable_resolveUser call args).map _
  · exact (Takes.pure _).stoppable

theorem stoppable_aggregate (name : String) (args : List Expr) (distinct : Bool)
    (separator : Option String) : Stoppable (aggregate name args distinct separator) :=
  (takes_calledName Steps.complains_complaining name).bind_stoppable fun _ =>
    stoppable_prepare _ args

theorem stoppable_define (name : String) (params : List Variable) (body : Expr) :
    Stoppable (define name params body) := by
  apply (takes_calledName Steps.complains_complaining name).bind_stoppable
  intro _
  apply Takes.returns
  exact .modify ⟨fun _ => rfl, fun _ => rfl, fun _ => rfl⟩ fun _ => trivial

theorem Steps.changes_changing : changing.Changes Query.Alike := fun _ _ _ => trivial

theorem stoppable_triple (subject : Expr) (predicate : Predicate) (object : Expr) :
    Stoppable (triple subject predicate object) := by
  rw [triple_eq]
  apply (takes_planned Steps.complains_complaining predicate.path).bind_stoppable
  intro path
  exact (takes_placeTriple Steps.changes_changing subject _ object path).returns

theorem stoppable_push (p : Pattern Query) : Stoppable (push p) := by
  intro query
  trivial

theorem stoppable_modify (change : Query → Query) : Stoppable (modify change) := fun _ => trivial

theorem atomic_addAround (id : PatternId) (p : Pattern Query) : Atomic (do known id; push p) :=
  (takes_known Steps.refuses_probing id).bind_atomic fun _ => (stoppable_push p).atomic

theorem atomic_setKnown (id : PatternId) (change : Clauses → Clauses) :
    Atomic (do known id; modifyClauses change) :=
  (takes_known Steps.refuses_probing id).bind_atomic fun _ => (stoppable_modify _).atomic

theorem atomic_union (left right : PatternId) : Atomic (union left right) :=
  (takes_known Steps.refuses_probing left).bind_atomic fun _ => atomic_addAround right _

theorem atomic_addToGroup (id child : PatternId) : Atomic (addToGroup id child) := by
  apply (takes_known Steps.refuses_probing child).bind_atomic
  intro _
  apply (takes_look Steps.refuses_probing (fair_group id)).bind_atomic
  exact fun _ => (stoppable_modify _).atomic

end Build

namespace Operation

/-- The operation makes a part of a query, rather than going over the query as a whole. -/
def isMaking : Operation → Bool
  | normalize | check => false
  | _ => true

theorem atomic_run {operation : Operation} (making : operation.isMaking = true) :
    Build.Atomic operation.run := by
  have probes := Build.Steps.refuses_probing
  have complains := Build.Steps.complains_complaining
  have changes := Build.Steps.changes_changing
  cases operation with
  | normalize | check => cases making
  | freshVariable => exact (Build.takes_freshVariable changes).returns.atomic.map _
  | blank label => exact (Build.takes_blank changes label).returns.atomic.map _
  | blankConstant label => exact (Build.takes_blankConstant changes label).returns.atomic.map _
  | pathPredicate path => exact (Build.takes_pathPredicate changes path).returns.atomic.map _
  | collection items => exact (Build.takes_collection changes items).returns.atomic.map _
  | prefixedName name => exact (Build.takes_prefixedName complains name).stoppable.atomic.map _
  | literal label datatype lang =>
      exact (Build.takes_literal complains label datatype lang).stoppable.atomic.map _
  | call name args => exact (Build.stoppable_aggregate name args false none).atomic.map _
  | aggregate name args distinct separator =>
      exact (Build.stoppable_aggregate name args distinct separator).atomic.map _
  | define name params body => exact (Build.stoppable_define name params body).atomic.map _
  | triple subject predicate object =>
      exact (Build.stoppable_triple subject predicate object).atomic.map _
  | number label => exact (Build.takes_number probes label).atomic.map _
  | patternExists id negated => exact (Build.takes_patternExists probes id negated).atomic.map _
  | pathOperator symbol operand =>
      exact (Build.takes_pathOperator probes symbol operand).atomic.map _
  | repeated least most operand =>
      exact (Build.takes_repeated probes least most operand).atomic.map _
  | pathPair symbol left right => exact (Build.takes_pathPair probes symbol left right).atomic.map _
  | collectionHead id => exact (Build.takes_collectionHead probes id).atomic.map _
  | addToGroup id child => exact (Build.atomic_addToGroup id child).map _
  | union left right => exact (Build.atomic_union left right).map _
  | optional body | minus body | service _ _ body | graph _ body =>
      exact (Build.atomic_addAround body _).map _
  | setBody id | setConstruct id | setInsert id | setDelete id =>
      exact (Build.atomic_setKnown id _).map _
  | group _ | filter _ | bind _ _ | values _ | subquery _ =>
      exact (Build.stoppable_push _).atomic.map _
  | setNamespaces _ | setSubmitting _ | setForm _ | setDataUpdate _ | select _ _ | setSelectAll _
  | setDistinct _ | setReduced _ | describe _ | groupBy _ | having _ | orderBy _ _ | setLimit _
  | setOffset _ | setValues _ =>
      exact (Build.stoppable_modify _).atomic.map _

/-- An operation that fails leaves the query as it was, except for the report that stopped a strict
one. -/
theorem unchanged_of_error {operation : Operation} (making : operation.isMaking = true)
    {query query' : Query} {failure : Failure}
    (failed : operation.run.run query = .error failure query') :
    query.Refused failure query' ∨ query.Stopped failure query' :=
  (atomic_run making query).of_error failed

def literalStep : Operation :=
  .triple (.var (.ofName "s"))
    { node := .var (.ofName "p"), path := some (.const (.literal "1" Vocabulary.xsdString)) }
    (.var (.ofName "o"))

theorem literalStep_unchanged :
    literalStep.run.run { options := { strict := true } } =
        .error (.strict (Problem.constantAsPathStep "\"1\"").toDiagnostic)
          (literalStep.run.after { options := { strict := true } }) ∧
      (Query.Refused { options := { strict := true } }
          (.strict (Problem.constantAsPathStep "\"1\"").toDiagnostic)
          (literalStep.run.after { options := { strict := true } }) ∨
        Query.Stopped { options := { strict := true } }
          (.strict (Problem.constantAsPathStep "\"1\"").toDiagnostic)
          (literalStep.run.after { options := { strict := true } })) := by
  have failed : literalStep.run.run { options := { strict := true } } =
      .error (.strict (Problem.constantAsPathStep "\"1\"").toDiagnostic)
        (literalStep.run.after { options := { strict := true } }) := rfl
  exact ⟨failed, unchanged_of_error rfl failed⟩

end Operation

end Sparql
