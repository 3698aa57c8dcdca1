import Sparql.Proofs.Calls.Kept
import Sparql.Proofs.Calls.Stepwise

/-!
Functions may be defined before or after they are called. Filters and definitions come to the same
in any order, as long as no function is defined twice.
-/

namespace Sparql

namespace Recipe.Step

variable {options : Options} {namespaces : Namespaces} {arity? : String → Option Nat}

/-! ## Outcomes -/

/-- What has come of steps, when all calls are settled. -/
structure Outcome where
  reports : List Diagnostic
  undefined : List String
  definition? : String → Option Definition
  condition : Recipe → Expr

/-- The query has all of it, with the conditions in the filters that the steps made. -/
structure Outcome.Holds (outcome : Outcome) (placed : List (Step × Option PatternId))
    (query : Query) : Prop where
  reports : query.log.entries.Perm outcome.reports
  undefined : query.functions.undefinedNames.Perm outcome.undefined
  definitions : ∀ key, query.functions.definition? key = outcome.definition? key
  conditions : ∀ condition id?, (.filter condition, id?) ∈ placed → ∃ id, id? = some id ∧
    query.arena.get? id = some (.filter (outcome.condition condition))

theorem exists_fits {functions : Functions} {steps : List Step}
    (distinct : Distinct namespaces steps)
    (new : ∀ step ∈ steps, ∀ key, step.key? namespaces = some key →
      functions.isDefined key = false) :
    ∃ arity?, functions.Within arity? ∧ (∀ step ∈ steps, step.Fits namespaces arity?) ∧
      ∀ key, (∀ step ∈ steps, step.key? namespaces ≠ some key) →
        arity? key = functions.arity? key := by
  refine ⟨fun key =>
    match steps.find? fun step => step.key? namespaces = some key with
    | some step => step.params?
    | none => functions.arity? key, ?_, ?_, ?_⟩
  · intro key params found
    dsimp only
    split
    · next step here =>
        have defines := List.find?_some here
        have isNew := new step (List.mem_of_find?_eq_some here) key (of_decide_eq_true defines)
        rw [← Functions.isSome_arity?, found] at isNew
        cases isNew
    · exact found
  · intro step member key here
    dsimp only
    split
    · next step' here' =>
        have defines := List.find?_some here'
        rw [distinct.eq (List.mem_of_find?_eq_some here') member (of_decide_eq_true defines) here]
    · next absent =>
        have other := List.find?_eq_none.mp absent step member
        exact absurd (decide_eq_true here) other
  · intro key absent
    have none : steps.find? (fun step => step.key? namespaces = some key) = none := by
      apply List.find?_eq_none.mpr
      intro step member defines
      exact absent step member (of_decide_eq_true defines)
    dsimp only
    rw [none]

theorem Ran.arity?_eq {held : Step → Expr} {steps : List Step} {query query' : Query}
    {placed : List (Step × Option PatternId)}
    (ran : Ran namespaces arity? held steps query placed query')
    (fits : ∀ step ∈ steps, step.Fits namespaces arity?)
    (others : ∀ key, (∀ step ∈ steps, step.key? namespaces ≠ some key) →
      arity? key = query.functions.arity? key) : query'.functions.arity? = arity? := by
  funext key
  by_cases here : ∃ step ∈ steps, step.key? namespaces = some key
  · rcases here with ⟨step, member, here⟩
    rcases ran.defines step member key here with ⟨body, found, _⟩
    rw [Functions.arity?, found, fits step member key here]
    cases step with
    | filter condition => rfl
    | define name params body' => simp [definition?, params?]
  · have absent : ∀ step ∈ steps, step.key? namespaces ≠ some key :=
      fun step member equal => here ⟨step, member, equal⟩
    rw [Functions.arity?, ran.others key absent, others key absent]
    rfl

/-! ## Settled queries -/

section

variable {query query' : Query} {cost : List Diagnostic} {names : List String}

theorem mem_missing_iff (spends : query.Spends arity? query' cost names)
    (same : query'.functions.arity? = arity?) (key : String) :
    key ∈ query'.functions.missing ↔
      (key ∈ query.functions.undefinedNames ∨ key ∈ names) ∧ arity? key = none := by
  rw [Functions.missing, List.mem_filter, ← Functions.isSome_arity?, same]
  cases undefined : arity? key with
  | none => simp [spends.missing key undefined]
  | some params => simp

theorem log_settled_perm (spends : query.Spends arity? query' cost names)
    (same : query'.functions.arity? = arity?) :
    query'.settled.log.entries.Perm
      (query.log.entries ++ query.functions.waiting.filterMap (Functions.misfit? arity?) ++ cost ++
        query'.functions.missing.map fun key => (Problem.undefinedFunction key).toDiagnostic) := by
  have settles := query'.functions.settlement_perm
  rw [same] at settles
  rw [Query.log_settled]
  apply (settles.append_left _).trans
  rw [← List.append_assoc]
  exact spends.spent.append_right _

end

end Recipe.Step

/-! ## Order -/

/-- Functions of the query may still be defined: it has no subqueries and its calls are not settled,
and those in the functions that it has are on record. -/
structure Query.Open (query : Query) : Prop where
  reachable : query.Reachable
  lenient : query.options.strict = false
  new : query.normalized = false
  whole : ∀ sub : Query, ¬ sub.IsPartOf query
  records : ∀ key definition, query.functions.definition? key = some definition →
    query.functions.Records definition.body

namespace Recipe.Step

section

variable {held : Step → Expr} {start query : Query} {order : List Step}
  {placed : List (Step × Option PatternId)} {cost : List Diagnostic} {names : List String}

theorem Ran.definition?_settled (ran : Ran namespaces arity? held order start placed query)
    (spends : start.Spends arity? query cost names)
    (same : query.functions.arity? = arity?) (records : ∀ key definition,
      start.functions.definition? key = some definition → start.functions.Records definition.body)
    (key : String) :
    query.settled.functions.definition? key =
      match order.find? fun step => step.key? namespaces = some key with
      | some step => step.definition? namespaces (held step)
      | none =>
        (start.functions.definition? key).map (.resolved fun key => (arity? key).isSome) := by
  have isDefined : query.functions.isDefined = fun key => (arity? key).isSome := by
    funext key
    rw [← Functions.isSome_arity?, same]
  split
  · next step here =>
      have defines := List.find?_some here
      replace defines := of_decide_eq_true defines
      rcases ran.defines step (List.mem_of_find?_eq_some here) key defines with
        ⟨body, found, resolved, onRecord⟩
      rw [Query.definition?_settled, found, isDefined, ← resolved]
      · cases step <;> rfl
      · intro definition found'
        cases step with
        | filter condition => cases defines
        | define name params body' =>
            cases found.symm.trans found'
            exact onRecord
  · next absent =>
      have absent' : ∀ step ∈ order, step.key? namespaces ≠ some key := by
        intro step member equal
        exact List.find?_eq_none.mp absent step member (decide_eq_true equal)
      rw [Query.definition?_settled, ran.others key absent', isDefined]
      · rfl
      · intro definition found
        rw [ran.others key absent'] at found
        exact spends.records (records key definition found)

theorem Ran.get?_settled (ran : Ran namespaces arity? held order start placed query)
    (same : query.functions.arity? = arity?) {condition : Recipe} {id? : Option PatternId}
    (member : (.filter condition, id?) ∈ placed) : ∃ id, id? = some id ∧
      query.settled.arena.get? id = some (.filter (held (.filter condition))) := by
  have isDefined : query.functions.isDefined = fun key => (arity? key).isSome := by
    funext key
    rw [← Functions.isSome_arity?, same]
  rcases ran.filters condition id? member with ⟨id, e, equal, found, resolved, onRecord⟩
  refine ⟨id, equal, ?_⟩
  rw [Query.get?_settled_filter found onRecord, isDefined, resolved]

end

theorem Distinct.find?_eq {steps order : List Step} (distinct : Distinct namespaces steps)
    (perm : steps.Perm order) (key : String) :
    (order.find? fun step => step.key? namespaces = some key) =
      steps.find? fun step => step.key? namespaces = some key := by
  cases found : order.find? fun step => step.key? namespaces = some key with
  | none =>
      apply Eq.symm
      apply List.find?_eq_none.mpr
      intro step member
      exact List.find?_eq_none.mp found step (perm.mem_iff.mp member)
  | some step =>
      have member := perm.mem_iff.mpr (List.mem_of_find?_eq_some found)
      have defines := List.find?_some found
      cases found' : steps.find? fun step => step.key? namespaces = some key with
      | none => exact absurd defines (List.find?_eq_none.mp found' step member)
      | some step' =>
          have defines' := List.find?_some found'
          rw [distinct.eq member (List.mem_of_find?_eq_some found') (of_decide_eq_true defines)
            (of_decide_eq_true defines')]

/-- Filters and definitions have one outcome, in whatever order they are made. -/
theorem exists_outcome {start : Query} (isOpen : start.Open) {steps : List Step}
    (distinct : Distinct start.namespaces steps)
    (new : ∀ step ∈ steps, ∀ key, step.key? start.namespaces = some key →
      start.functions.isDefined key = false) :
    ∃ outcome : Outcome, ∀ order, steps.Perm order → ∃ placed query,
      (runAll order).run start = .ok placed query ∧ placed.map (·.1) = order ∧
        outcome.Holds placed (Build.normalize.after query) := by
  have kept := isOpen.reachable.kept isOpen.lenient
  rcases exists_fits distinct new with ⟨arity?, within, fits, others⟩
  rcases exists_ran isOpen.lenient start.namespaces start.library arity?
    with ⟨held, cost, names, runs⟩
  have orders (order : List Step) (perm : steps.Perm order) :=
    runs order (distinct.perm perm) (fun step member => fits step (perm.mem_iff.mpr member)) start
      rfl rfl rfl within
  rcases orders steps (.refl steps) with ⟨placed, query, _, ran, spends⟩
  have same := ran.arity?_eq fits others
  refine ⟨{
    reports := start.log.entries ++
      start.functions.waiting.filterMap (Functions.misfit? arity?) ++ steps.flatMap cost ++
      query.functions.missing.map fun key => (Problem.undefinedFunction key).toDiagnostic
    undefined := query.functions.missing
    definition? := fun key =>
      match steps.find? fun step => step.key? start.namespaces = some key with
      | some step => step.definition? start.namespaces (held step)
      | none =>
        (start.functions.definition? key).map (.resolved fun key => (arity? key).isSome)
    condition := fun condition => held (.filter condition) }, ?_⟩
  intro order perm
  rcases orders order perm with ⟨placed', query', run, ran', spends'⟩
  refine ⟨placed', query', run, ran'.made, ?_⟩
  have same' := ran'.arity?_eq (fun step member => fits step (perm.mem_iff.mpr member))
    fun key absent => others key fun step member => absent step (perm.mem_iff.mp member)
  have missing : query'.functions.missing.Perm query.functions.missing := by
    apply (List.perm_ext_iff_of_nodup (spends'.kept kept).nodup_missing
      (spends.kept kept).nodup_missing).mpr
    intro key
    rw [mem_missing_iff spends' same', mem_missing_iff spends same,
      (perm.flatMap_right names).mem_iff]
  have settles := Build.settles_of_whole (spends'.options ▸ isOpen.lenient)
    (spends'.normalized.trans isOpen.new) (ran'.whole isOpen.whole)
  constructor
  · rw [settles.log]
    apply (log_settled_perm spends' same').trans
    exact ((perm.flatMap_right cost).symm.append_left _).append (missing.map _)
  · rw [settles.functions, Query.undefinedNames_settled]
    exact missing
  · intro key
    rw [settles.functions, ran'.definition?_settled spends' same' isOpen.records,
      distinct.find?_eq perm]
  · intro condition id? member
    rcases ran'.get?_settled same' member with ⟨id, equal, found⟩
    exact ⟨id, equal, settles.places id _ rfl found⟩

def callsAndDefines (params : List Variable) : List Step :=
  [.filter (.call "f" (params.map .var)), .define "f" params (.const (.iri "c"))]

theorem callsAndDefines_outcome :
    ({} : Query).Open ∧ Distinct ({} : Query).namespaces (callsAndDefines []) ∧
      (∀ step ∈ callsAndDefines [], ∀ key, step.key? ({} : Query).namespaces = some key →
        ({} : Query).functions.isDefined key = false) ∧
      ∃ outcome : Outcome, ∀ order, (callsAndDefines []).Perm order → ∃ placed query,
        (runAll order).run {} = .ok placed query ∧ placed.map (·.1) = order ∧
          outcome.Holds placed (Build.normalize.after query) := by
  have isOpen : ({} : Query).Open := by
    refine ⟨.empty {} _ _ _, rfl, rfl, ?_, nofun⟩
    rintro sub ⟨id, found⟩
    simp [Arena.get?] at found
  have distinct : Distinct ({} : Query).namespaces (callsAndDefines []) :=
    List.nodup_cons.mpr ⟨List.not_mem_nil, List.nodup_nil⟩
  exact ⟨isOpen, distinct, fun _ _ _ _ => rfl, exists_outcome isOpen distinct fun _ _ _ _ => rfl⟩

/-! ## Where the order matters

It does if the calls are settled already, if a function was defined before, and if the body of a
function has calls that were made of another query. -/

def settledAfter (start : Query) (steps : List Step) : Query :=
  Build.normalize.after ((runAll steps).after start)

def normalizedFirst : Query := Operation.normalize.run.after {}

def definedFirst : Query :=
  (Operation.define "f" [.ofName "x"] (.var (.ofName "x"))).run.after {}

def borrowedFirst : Query :=
  (Operation.define "g" [] (.call { name := "f", operator := .undefined } [])).run.after {}

theorem order_matters :
    (∀ start ∈ [normalizedFirst, definedFirst, borrowedFirst], start.Reachable ∧
      start.options.strict = false ∧ ∀ sub : Query, ¬ sub.IsPartOf start) ∧
    (settledAfter normalizedFirst (callsAndDefines [])).functions.undefinedNames = ["f"] ∧
    (settledAfter normalizedFirst (callsAndDefines []).reverse).functions.undefinedNames = [] ∧
    (settledAfter definedFirst (callsAndDefines [])).log.entries.length = 1 ∧
    (settledAfter definedFirst (callsAndDefines []).reverse).log.entries.length = 0 ∧
    ((settledAfter borrowedFirst (callsAndDefines [])).functions.definition? "g").map
      (·.body.calls.map (·.operator)) = some [.userFunction] ∧
    ((settledAfter borrowedFirst (callsAndDefines []).reverse).functions.definition? "g").map
      (·.body.calls.map (·.operator)) = some [.undefined] := by
  have reachable (operation : Operation) (other : ∀ sub, operation ≠ .subquery sub) :
      (operation.run.after {}).Reachable :=
    .step operation (.empty {} _ _ _) trivial fun sub equal => absurd equal (other sub)
  have defines (name : String) (params : List Variable) (body : Expr) :=
    reachable (.define name params body) (by simp)
  refine ⟨?_, by decide +kernel, by decide +kernel, by decide +kernel, by decide +kernel,
    by decide +kernel, by decide +kernel⟩
  have empty {query : Query} (none : query.arena.patterns = []) (sub : Query) :
      ¬ sub.IsPartOf query := by
    rintro ⟨id, found⟩
    simp [Arena.get?, none] at found
  intro start member
  simp only [List.mem_cons, List.not_mem_nil, or_false] at member
  rcases member with rfl | rfl | rfl
  · exact ⟨reachable .normalize (by simp), rfl, empty rfl⟩
  · exact ⟨defines "f" _ _, rfl, empty rfl⟩
  · exact ⟨defines "g" _ _, rfl, empty rfl⟩

end Recipe.Step

end Sparql
