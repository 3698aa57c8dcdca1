import Sparql.Proofs.Calls.Recipe
import Sparql.Proofs.Operation

/-!
Filters and definitions that are made one after another: what one step leaves in the query, and what
all of them do when no function is defined twice.
-/

namespace Sparql

namespace Recipe

/-! ## Steps -/

/-- What a recipe is made for: the condition of a filter, or the body of a function. -/
inductive Step where
  | filter (condition : Recipe)
  | define (name : String) (params : List Variable) (body : Recipe)

namespace Step

def run : Step → Build (Option PatternId)
  | filter condition => do return some (← Build.filter (← condition.build))
  | define name params body => do
    Build.define name params (← body.build)
    return none

def runAll : List Step → Build (List (Step × Option PatternId))
  | [] => return []
  | step :: rest => do return (step, ← step.run) :: (← runAll rest)

def recipe : Step → Recipe
  | filter condition => condition
  | define _ _ body => body

def definition? (namespaces : Namespaces) (body : Expr) : Step → Option Definition
  | filter _ => none
  | define name params _ =>
    some
      { name := namespaces.key name
        params := params.map fun param => { param with scope := .parameter }
        body }

def key? (namespaces : Namespaces) : Step → Option String
  | filter _ => none
  | define name _ _ => some (namespaces.key name)

def params? : Step → Option Nat
  | filter _ => none
  | define _ params _ => some params.length

end Step

end Recipe

def Definition.resolved (defined : String → Bool) (definition : Definition) : Definition :=
  { definition with body := definition.body.resolved defined }

namespace Recipe.Step

variable {options : Options} {namespaces : Namespaces} {arity? : String → Option Nat}

/-! ## One step -/

def Fits (namespaces : Namespaces) (arity? : String → Option Nat) (step : Step) : Prop :=
  ∀ key, step.key? namespaces = some key → arity? key = step.params?

/-- What has become of a query after a step that holds an expression, in the filter or the function
that it makes. -/
structure Leaves (namespaces : Namespaces) (arity? : String → Option Nat) (step : Step)
    (held : Expr) (query : Query) (id? : Option PatternId) (query' : Query) : Prop where
  stays : ∀ id p, query.arena.get? id = some p → query'.arena.get? id = some p
  whole : (∀ sub : Query, ¬ sub.IsPartOf query) → ∀ sub : Query, ¬ sub.IsPartOf query'
  filters : ∀ condition, step = .filter condition → ∃ id e, id? = some id ∧
    query'.arena.get? id = some (.filter e) ∧
    e.resolved (fun key => (arity? key).isSome) = held ∧ query'.functions.Records e
  defines : ∀ key, step.key? namespaces = some key → ∃ body,
    query'.functions.definition? key = step.definition? namespaces body ∧
    body.resolved (fun key => (arity? key).isSome) = held ∧ query'.functions.Records body
  others : ∀ key, step.key? namespaces ≠ some key →
    query'.functions.definition? key = query.functions.definition? key

theorem Leaves.within {step : Step} {held : Expr} {query query' : Query} {id? : Option PatternId}
    (leaves : Leaves namespaces arity? step held query id? query')
    (fits : step.Fits namespaces arity?) (within : query.functions.Within arity?) :
    query'.functions.Within arity? := by
  intro key params found
  by_cases here : step.key? namespaces = some key
  · rcases leaves.defines key here with ⟨body, defined, _⟩
    rw [fits key here]
    rw [Functions.arity?, defined] at found
    cases step with
    | filter condition => cases here
    | define name params' body' => simpa [definition?, params?] using found
  · apply within key params
    rwa [Functions.arity?, ← leaves.others key here]

theorem run_filter {condition : Recipe} {query between : Query} {e : Expr}
    (made : condition.build.run query = .ok e between) :
    (filter condition).run.run query =
      .ok (some between.arena.size)
        { between with arena := between.arena.push (.filter e) } := by
  rw [run, EStateM.run_bind, made]
  rfl

theorem leaves_filter {query between : Query} {condition : Recipe} {e held : Expr}
    {cost : List Diagnostic} {names : List String}
    (brings : Build.Brings arity? [held] cost names query [e] between) :
    Leaves namespaces arity? (.filter condition) held query (some between.arena.size)
      { between with arena := between.arena.push (.filter e) } where
  stays id p found := by
    rw [← brings.arena] at found
    have inside : id < between.arena.size := (List.getElem?_eq_some_iff.mp found).1
    rw [Arena.get?_push, if_neg (Nat.ne_of_lt inside), found]
  whole whole sub part := by
    rcases part with ⟨id, found⟩
    rw [Arena.get?_push] at found
    split at found
    · cases found
    · rw [brings.arena] at found
      exact whole sub ⟨id, found⟩
  filters _ _ := by
    have equal := List.head_eq_of_cons_eq brings.resolved
    refine ⟨_, e, rfl, ?_, equal, brings.records e (List.mem_singleton_self e)⟩
    rw [Arena.get?_push, if_pos rfl]
  defines key none := by cases none
  others key _ := by
    rw [Functions.definition?, Functions.definition?]
    exact congrArg (List.lookup key) brings.definitions

theorem run_define {name : String} {params : List Variable} {recipe : Recipe} {body : Expr}
    {query between query' : Query} (made : recipe.build.run query = .ok body between)
    (defined : (Build.define name params body).run between = .ok () query') :
    (define name params recipe).run.run query = .ok none query' := by
  rw [run, EStateM.run_bind, made]
  dsimp only
  rw [EStateM.run_bind, defined]
  rfl

theorem leaves_define {query between query' : Query} {name : String} {params : List Variable}
    {recipe : Recipe} {body held : Expr} {cost reports : List Diagnostic} {names : List String}
    (brings : Build.Brings arity? [held] cost names query [body] between)
    (equal : query' = { between.reporting reports with
      functions := between.functions.define
        { name := namespaces.key name
          params := params.map fun param => { param with scope := .parameter }
          body } }) :
    Leaves namespaces arity? (.define name params recipe) held query none query' := by
  have resolved := List.head_eq_of_cons_eq brings.resolved
  subst equal
  have arena := brings.arena
  refine ⟨?_, ?_, nofun, ?_, ?_⟩
  · intro id p found
    rw [← arena] at found
    exact found
  · intro whole sub part
    rcases part with ⟨id, found⟩
    change between.arena.get? id = _ at found
    rw [arena] at found
    exact whole sub ⟨id, found⟩
  · intro key here
    cases here
    refine ⟨body, ?_, resolved, brings.records body (List.mem_singleton_self body)⟩
    exact (Functions.definition?_define _ _ _).trans (if_pos rfl)
  · intro key other
    have different : key ≠ namespaces.key name := fun same => other (congrArg some same.symm)
    refine (Functions.definition?_define _ _ _).trans ((if_neg different).trans ?_)
    exact congrArg (List.lookup key) brings.definitions

theorem exists_leaves (lenient : options.strict = false) (namespaces : Namespaces)
    (library : Regex.Library) (arity? : String → Option Nat) (step : Step) :
    ∃ held cost names, ∀ query : Query, query.options = options → query.namespaces = namespaces →
      query.library = library → query.functions.Within arity? →
      ∃ id? query', step.run.run query = .ok id? query' ∧
        Leaves namespaces arity? step held query id? query' ∧
        query.Spends arity? query' cost names := by
  rcases @exists_comes _ namespaces library lenient arity? step.recipe
    with ⟨held, cost, names, comes⟩
  cases step with
  | filter condition =>
      refine ⟨held, cost ++ [], names ++ [], fun query same same' same'' within => ?_⟩
      rcases comes query same same' same'' within with ⟨e, between, made, brings⟩
      refine ⟨_, _, run_filter made, leaves_filter brings, brings.spends.trans ?_⟩
      exact between.spends_nothing arity? rfl rfl rfl rfl rfl rfl
  | define name params body =>
      rcases @Build.exists_run_define _ namespaces library lenient name params
        with ⟨reports, defines⟩
      refine ⟨held, cost ++ (reports ++ []), names ++ ([] ++ []),
        fun query same same' same'' within => ?_⟩
      rcases comes query same same' same'' within with ⟨e, between, made, brings⟩
      rcases defines e between (brings.spends.options.trans same)
        (brings.spends.namespaces.trans same') (brings.spends.library.trans same'') with
        ⟨query', run', equal⟩
      refine ⟨none, query', run_define made run', leaves_define brings equal,
        brings.spends.trans ?_⟩
      subst equal
      apply (between.spends_reporting arity? reports).trans
      exact Query.spends_nothing arity? rfl rfl rfl rfl rfl rfl

/-! ## All steps -/

def Distinct (namespaces : Namespaces) (steps : List Step) : Prop :=
  (steps.filterMap (key? namespaces)).Nodup

theorem Distinct.tail {step : Step} {rest : List Step}
    (distinct : Distinct namespaces (step :: rest)) : Distinct namespaces rest := by
  rw [Distinct, List.filterMap_cons] at distinct
  cases found : step.key? namespaces with
  | none =>
      rw [found] at distinct
      exact distinct
  | some key =>
      rw [found] at distinct
      exact (List.nodup_cons.mp distinct).2

theorem Distinct.head {step : Step} {rest : List Step}
    (distinct : Distinct namespaces (step :: rest)) {key : String}
    (here : step.key? namespaces = some key) :
    ∀ other ∈ rest, other.key? namespaces ≠ some key := by
  rw [Distinct, List.filterMap_cons, here] at distinct
  intro other member equal
  exact (List.nodup_cons.mp distinct).1 (List.mem_filterMap.mpr ⟨other, member, equal⟩)

theorem Distinct.perm {steps steps' : List Step} (distinct : Distinct namespaces steps)
    (order : steps.Perm steps') : Distinct namespaces steps' :=
  (order.filterMap _).nodup_iff.mp distinct

theorem Distinct.eq {steps : List Step} (distinct : Distinct namespaces steps) {step step' : Step}
    {key : String} (member : step ∈ steps) (member' : step' ∈ steps)
    (here : step.key? namespaces = some key) (here' : step'.key? namespaces = some key) :
    step = step' := by
  induction steps with
  | nil => simp at member
  | cons first rest induction =>
      rcases List.mem_cons.mp member with equal | member
      · rcases List.mem_cons.mp member' with equal' | member'
        · rw [equal, equal']
        · exact absurd here' (distinct.head (equal ▸ here) step' member')
      · rcases List.mem_cons.mp member' with equal' | member'
        · exact absurd here (distinct.head (equal' ▸ here') step member)
        · exact induction distinct.tail member member'

structure Ran (namespaces : Namespaces) (arity? : String → Option Nat) (held : Step → Expr)
    (steps : List Step) (query : Query) (placed : List (Step × Option PatternId))
    (query' : Query) : Prop where
  made : placed.map (·.1) = steps
  stays : ∀ id p, query.arena.get? id = some p → query'.arena.get? id = some p
  whole : (∀ sub : Query, ¬ sub.IsPartOf query) → ∀ sub : Query, ¬ sub.IsPartOf query'
  within : query'.functions.Within arity?
  filters : ∀ condition id?, (.filter condition, id?) ∈ placed → ∃ id e, id? = some id ∧
    query'.arena.get? id = some (.filter e) ∧
    e.resolved (fun key => (arity? key).isSome) = held (.filter condition) ∧
    query'.functions.Records e
  defines : ∀ step ∈ steps, ∀ key, step.key? namespaces = some key → ∃ body,
    query'.functions.definition? key = step.definition? namespaces body ∧
    body.resolved (fun key => (arity? key).isSome) = held step ∧ query'.functions.Records body
  others : ∀ key, (∀ step ∈ steps, step.key? namespaces ≠ some key) →
    query'.functions.definition? key = query.functions.definition? key

theorem ran_nil (held : Step → Expr) {query : Query} (within : query.functions.Within arity?) :
    Ran namespaces arity? held [] query [] query where
  made := rfl
  stays _ _ := id
  whole := id
  within := within
  filters _ _ member := by simp at member
  defines _ member := by simp at member
  others _ _ := rfl

theorem Ran.cons {held : Step → Expr} {step : Step} {rest : List Step}
    {query between query' : Query} {id? : Option PatternId}
    {placed : List (Step × Option PatternId)} {cost : List Diagnostic}
    {names : List String} (distinct : Distinct namespaces (step :: rest))
    (leaves : Leaves namespaces arity? step (held step) query id? between)
    (ran : Ran namespaces arity? held rest between placed query')
    (spends : between.Spends arity? query' cost names) :
    Ran namespaces arity? held (step :: rest) query ((step, id?) :: placed) query' where
  made := by rw [List.map_cons, ran.made]
  stays id p found := ran.stays id p (leaves.stays id p found)
  whole whole := ran.whole (leaves.whole whole)
  within := ran.within
  filters condition other member := by
    rcases List.mem_cons.mp member with equal | member
    · cases equal
      rcases leaves.filters condition rfl with ⟨id, e, same, found, resolved, records⟩
      exact ⟨id, e, same, ran.stays id _ found, resolved, spends.records records⟩
    · exact ran.filters condition other member
  defines other member key here := by
    rcases List.mem_cons.mp member with equal | member
    · subst equal
      rcases leaves.defines key here with ⟨body, found, resolved, records⟩
      refine ⟨body, ?_, resolved, spends.records records⟩
      rw [ran.others key (distinct.head here), found]
    · exact ran.defines other member key here
  others key absent := by
    rcases List.forall_mem_cons.mp absent with ⟨here, there⟩
    rw [ran.others key there, leaves.others key here]

theorem exists_ran (lenient : options.strict = false) (namespaces : Namespaces)
    (library : Regex.Library) (arity? : String → Option Nat) :
    ∃ (held : Step → Expr) (cost : Step → List Diagnostic) (names : Step → List String),
      ∀ steps, Distinct namespaces steps →
      (∀ step ∈ steps, step.Fits namespaces arity?) → ∀ query : Query, query.options = options →
      query.namespaces = namespaces → query.library = library → query.functions.Within arity? →
      ∃ placed query', (runAll steps).run query = .ok placed query' ∧
        Ran namespaces arity? held steps query placed query' ∧
        query.Spends arity? query' (steps.flatMap cost) (steps.flatMap names) := by
  have comes := Classical.skolem.mp (exists_leaves lenient namespaces library arity?)
  rcases comes with ⟨held, comes⟩
  rcases Classical.skolem.mp comes with ⟨cost, comes⟩
  rcases Classical.skolem.mp comes with ⟨names, makes⟩
  refine ⟨held, cost, names, ?_⟩
  intro steps
  induction steps with
  | nil =>
      intro _ _ query _ _ _ within
      exact ⟨[], query, rfl, ran_nil held within,
        query.spends_nothing arity? rfl rfl rfl rfl rfl rfl⟩
  | cons step rest induction =>
      intro distinct fits query same same' same'' within
      rcases List.forall_mem_cons.mp fits with ⟨fits, fits'⟩
      rcases makes step query same same' same'' within with ⟨id?, between, run, leaves, spends⟩
      rcases induction distinct.tail fits' between (spends.options.trans same)
        (spends.namespaces.trans same') (spends.library.trans same'') (leaves.within fits within)
        with ⟨placed, query', run', ran, spends'⟩
      refine ⟨(step, id?) :: placed, query', ?_, ran.cons distinct leaves spends', ?_⟩
      · rw [runAll, EStateM.run_bind, run]
        dsimp only
        rw [EStateM.run_bind, run']
        rfl
      · rw [List.flatMap_cons, List.flatMap_cons]
        exact spends.trans spends'

end Recipe.Step

end Sparql
