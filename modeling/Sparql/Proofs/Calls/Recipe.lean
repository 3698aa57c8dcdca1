import Sparql.Proofs.Calls.Settle

/-!
Nested calls as recipes. What a recipe costs in reports, and the expression that comes of it once
all calls are resolved, do not depend on which functions are defined when it is made.
-/

namespace Sparql

/-! ## Recipes -/

inductive Recipe where
  | var (v : Variable)
  | const (c : Constant)
  | prefixed (name : String)
  | call (name : String) (args : List Recipe)

namespace Recipe

mutual
def build : Recipe → Build Expr
  | var v => return .var v
  | const c => return .const c
  | prefixed name => do return .const (← Build.prefixedName name)
  | call name args => do Build.call name (← buildAll args)

def buildAll : List Recipe → Build (List Expr)
  | [] => return []
  | recipe :: rest => do return (← build recipe) :: (← buildAll rest)
end

end Recipe

namespace Functions

/-- What is defined so far is defined in the end, with as many parameters. -/
def Within (functions : Functions) (arity? : String → Option Nat) : Prop :=
  ∀ key params, functions.arity? key = some params → arity? key = some params

end Functions

namespace Query

/-! ## What calls cost

A call that is made after the definition of its function is reported at once, and another is
reported when calls are settled. Both are accounted for when the call is made. -/

/-- The query has gone on at the cost of some reports, now or when its calls are settled by the
definitions in the end. Some names are called, whether or not they are on record. -/
structure Spends (arity? : String → Option Nat) (query query' : Query) (cost : List Diagnostic)
    (names : List String) : Prop where
  options : query'.options = query.options
  namespaces : query'.namespaces = query.namespaces
  library : query'.library = query.library
  normalized : query'.normalized = query.normalized
  spent : (query'.log.entries ++ query'.functions.waiting.filterMap (Functions.misfit? arity?)).Perm
    (query.log.entries ++ query.functions.waiting.filterMap (Functions.misfit? arity?) ++ cost)
  missing : ∀ key, arity? key = none →
    (key ∈ query'.functions.undefinedNames ↔ key ∈ query.functions.undefinedNames ∨ key ∈ names)
  keeps : ∀ key ∈ query.functions.undefinedNames, key ∈ query'.functions.undefinedNames
  kept : query.functions.Kept → query'.functions.Kept

variable {arity? : String → Option Nat} {query query' query'' : Query}
  {cost cost' : List Diagnostic} {names names' : List String}

theorem Spends.trans (first : query.Spends arity? query' cost names)
    (second : query'.Spends arity? query'' cost' names') :
    query.Spends arity? query'' (cost ++ cost') (names ++ names') where
  options := second.options.trans first.options
  namespaces := second.namespaces.trans first.namespaces
  library := second.library.trans first.library
  normalized := second.normalized.trans first.normalized
  spent := by
    apply second.spent.trans
    rw [← List.append_assoc]
    exact first.spent.append_right cost'
  missing key undefined := by
    rw [second.missing key undefined, first.missing key undefined, List.mem_append, or_assoc]
  keeps key member := second.keeps key (first.keeps key member)
  kept kept := second.kept (first.kept kept)

theorem spends_nothing (arity? : String → Option Nat) {query query' : Query}
    (options : query'.options = query.options) (namespaces : query'.namespaces = query.namespaces)
    (library : query'.library = query.library)
    (normalized : query'.normalized = query.normalized) (log : query'.log = query.log)
    (deferred : query'.functions.deferred = query.functions.deferred) :
    query.Spends arity? query' [] [] where
  options := options
  namespaces := namespaces
  library := library
  normalized := normalized
  spent := by
    rw [List.append_nil, log, Functions.waiting, deferred]
    exact .refl _
  missing key _ := by
    rw [Functions.undefinedNames, deferred]
    simp [Functions.undefinedNames]
  keeps key member := by
    rw [Functions.undefinedNames, deferred]
    exact member
  kept kept := by
    refine ⟨?_, ?_⟩
    · rw [Functions.undefinedNames, deferred]
      exact kept.ordered
    · rw [deferred]
      exact kept.called

theorem spends_reporting (arity? : String → Option Nat) (query : Query)
    (reports : List Diagnostic) : query.Spends arity? (query.reporting reports) reports [] where
  options := rfl
  namespaces := rfl
  library := rfl
  normalized := rfl
  spent := by
    rw [entries_reporting, functions_reporting, List.append_assoc, List.append_assoc]
    exact List.perm_append_comm.append_left _
  missing key _ := by simp
  keeps _ := id
  kept := id

theorem spends_defer (arity? : String → Option Nat) (query : Query) (key : String) (count : Nat) :
    query.Spends arity? { query with functions := query.functions.defer key count }
      (Functions.misfit? arity? (key, count)).toList [key] where
  options := rfl
  namespaces := rfl
  library := rfl
  normalized := rfl
  spent := by
    have waiting := (query.functions.waiting_defer key count).filterMap (Functions.misfit? arity?)
    rw [List.filterMap_append, List.filterMap_cons, List.filterMap_nil] at waiting
    rw [List.append_assoc]
    apply List.Perm.append_left
    revert waiting
    cases Functions.misfit? arity? (key, count) <;> exact id
  missing other _ := by
    rw [Functions.mem_undefinedNames_defer, List.mem_singleton]
    exact or_comm
  keeps other member := (Functions.mem_undefinedNames_defer _ _ _ _).mpr (.inr member)
  kept kept := kept.defer key count

theorem spends_counted {key : String} {count : Nat} (within : query.functions.Within arity?)
    (isDefined : query.functions.isDefined key = true) :
    query.Spends arity?
      (query.reporting (Functions.misfit? query.functions.arity? (key, count)).toList)
      (Functions.misfit? arity? (key, count)).toList [key] := by
  rw [← Functions.isSome_arity?] at isDefined
  rcases Option.isSome_iff_exists.mp isDefined with ⟨params, found⟩
  have found' := within key params found
  have same : Functions.misfit? query.functions.arity? (key, count) =
      Functions.misfit? arity? (key, count) := Functions.misfit?_congr (found.trans found'.symm)
  rw [same]
  refine { query.spends_reporting arity? _ with missing := ?_ }
  intro other undefined
  have different : other ≠ key := by
    intro equal
    rw [equal, found'] at undefined
    cases undefined
  simp [different]

theorem Spends.records (spends : query.Spends arity? query' cost names) {e : Expr}
    (records : query.functions.Records e) : query'.functions.Records e :=
  fun call member undefined => spends.keeps call.key (records call member undefined)

end Query

/-! ## What recipes come to -/

namespace Build

/-- A run that makes an expression: what it holds once all calls are resolved is as given, and the
calls that are not resolved yet are on record. Nothing but calls and reports is new. -/
structure Brings (arity? : String → Option Nat) (resolved : List Expr) (cost : List Diagnostic)
    (names : List String) (query : Query) (made : List Expr) (query' : Query) : Prop where
  resolved : Expr.resolvedAll (fun key => (arity? key).isSome) made = resolved
  records : ∀ e ∈ made, query'.functions.Records e
  spends : query.Spends arity? query' cost names
  arena : query'.arena = query.arena
  definitions : query'.functions.definitions = query.functions.definitions

section

variable {arity? : String → Option Nat} {resolved resolved' made made' : List Expr}
  {cost cost' : List Diagnostic} {names names' : List String} {query query' query'' : Query}

theorem Brings.within (brings : Brings arity? resolved cost names query made query')
    (within : query.functions.Within arity?) : query'.functions.Within arity? := by
  intro key params found
  apply within key params
  rwa [Functions.arity?, Functions.definition?, ← brings.definitions]

theorem Brings.since (first : Brings arity? resolved cost names query made query')
    (second : Brings arity? resolved' cost' names' query' made' query'') :
    Brings arity? resolved' (cost ++ cost') (names ++ names') query made' query'' where
  resolved := second.resolved
  records := second.records
  spends := first.spends.trans second.spends
  arena := second.arena.trans first.arena
  definitions := second.definitions.trans first.definitions

theorem Brings.append (first : Brings arity? resolved cost names query made query')
    (second : Brings arity? resolved' cost' names' query' made' query'') :
    Brings arity? (resolved ++ resolved') (cost ++ cost') (names ++ names') query
      (made ++ made') query'' where
  resolved := by
    rw [← first.resolved, ← second.resolved]
    simp only [Expr.resolvedAll_eq_map, List.map_append]
  records e member := by
    rcases List.mem_append.mp member with member | member
    · exact second.spends.records (first.records e member)
    · exact second.records e member
  spends := first.spends.trans second.spends
  arena := second.arena.trans first.arena
  definitions := second.definitions.trans first.definitions

theorem brings_reporting (reports : List Diagnostic)
    (equal : Expr.resolvedAll (fun key => (arity? key).isSome) made = resolved)
    (records : ∀ e ∈ made, query.functions.Records e) :
    Brings arity? resolved reports [] query made (query.reporting reports) :=
  ⟨equal, records, query.spends_reporting arity? reports, rfl, rfl⟩

theorem brings_asked (within : query.functions.Within arity?) {head : Call} {args : List Expr}
    (undefined : head.operator = .undefined)
    (equal : Expr.resolvedAll (fun key => (arity? key).isSome) args = resolved)
    (records : ∀ e ∈ args, query.functions.Records e) :
    Brings arity? [.call (head.resolved fun key => (arity? key).isSome) resolved]
      (Functions.misfit? arity? (head.key, resolved.length)).toList [head.key] query
      [(asked query head args).1] (asked query head args).2 := by
  have count : args.length = resolved.length := by
    rw [← equal, Expr.length_resolvedAll]
  rw [asked]
  cases found : query.functions.definition? head.key with
  | some definition =>
      have isDefined : query.functions.isDefined head.key = true := by
        rw [Functions.isDefined, found]
        rfl
      have arity : query.functions.arity? head.key = some definition.params.length := by
        rw [Functions.arity?, found]
        rfl
      refine ⟨?_, ?_, ?_, rfl, rfl⟩
      · have here : (arity? head.key).isSome = true := by
          rw [within _ _ arity]
          rfl
        rw [Expr.resolvedAll, Expr.resolvedAll, Expr.resolved, equal, Call.resolved,
          if_neg (by simp), Call.resolved, if_pos ⟨undefined, here⟩]
      · intro e member call inside undefined'
        rw [List.mem_singleton.mp member] at inside
        rcases List.mem_cons.mp inside with same | inside
        · rw [same] at undefined'
          cases undefined'
        · rcases Expr.mem_callsOf.mp inside with ⟨e, member, inside⟩
          exact records e member call inside undefined'
      · rw [count]
        exact Query.spends_counted within isDefined
  | none =>
      have spends := query.spends_defer arity? head.key args.length
      refine ⟨?_, ?_, ?_, rfl, rfl⟩
      · rw [Expr.resolvedAll, Expr.resolvedAll, Expr.resolved, equal]
      · intro e member call inside undefined'
        rw [List.mem_singleton.mp member] at inside
        rcases List.mem_cons.mp inside with same | inside
        · rw [same]
          exact (Functions.mem_undefinedNames_defer _ _ _ _).mpr (.inl rfl)
        · rcases Expr.mem_callsOf.mp inside with ⟨e, member, inside⟩
          exact spends.records (records e member) call inside undefined'
      · rw [← count]
        exact spends

end

/-- The operation comes to the same, whatever is defined or called before. -/
def Comes {α : Type} (options : Options) (namespaces : Namespaces) (library : Regex.Library)
    (arity? : String → Option Nat) (x : Build α) (made : α → List Expr) (resolved : List Expr)
    (cost : List Diagnostic) (names : List String) : Prop :=
  ∀ query : Query, query.options = options → query.namespaces = namespaces →
    query.library = library → query.functions.Within arity? →
    ∃ value query', x.run query = .ok value query' ∧
      Brings arity? resolved cost names query (made value) query'

section

variable {options : Options} {namespaces : Namespaces} {library : Regex.Library}
  (lenient : options.strict = false) (arity? : String → Option Nat)

theorem Yields.comes {x : Build Expr} {e : Expr} {reports : List Diagnostic}
    (yields : Yields options namespaces library x e reports) (plain : e.calls = []) :
    Comes options namespaces library arity? x (fun e => [e])
      [e.resolved fun key => (arity? key).isSome] reports [] := by
  intro query same same' same'' _
  refine ⟨e, _, yields query same same' same'', brings_reporting reports rfl ?_⟩
  intro e' member call inside
  rw [List.mem_singleton.mp member, plain] at inside
  simp at inside

include lenient

theorem exists_comes_call (name : String) (resolved : List Expr) : ∃ resolved' cost names,
    ∀ query : Query, query.options = options → query.namespaces = namespaces →
      query.library = library → query.functions.Within arity? → ∀ args,
        Expr.resolvedAll (fun key => (arity? key).isSome) args = resolved →
        (∀ e ∈ args, query.functions.Records e) →
        ∃ e query', (call name args).run query = .ok e query' ∧
          Brings arity? [resolved'] cost names query [e] query' := by
  by_cases undefined : Operator.ofName (namespaces.key name) = .undefined
  · rcases @exists_run_aggregate_of_undefined _ namespaces library lenient name false none
      undefined with
      ⟨head, reports, undefined, key, about, runs⟩
    refine ⟨.call (head.resolved fun key => (arity? key).isSome) resolved,
      reports ++ (Functions.misfit? arity? (head.key, resolved.length)).toList, [] ++ [head.key],
      fun query same same' same'' within args equal records =>
      ⟨_, _, runs args query same same' same'', ?_⟩⟩
    have reported : Brings arity? resolved reports [] query args (query.reporting reports) :=
      brings_reporting reports equal records
    exact reported.since (brings_asked (reported.within within) undefined equal records)
  · rcases @exists_yields_aggregate _ namespaces library lenient name false none undefined
      (fun key => (arity? key).isSome) resolved with ⟨head, reports, operator, key, yields⟩
    have meant : head.operator ≠ .undefined := by rwa [operator]
    refine ⟨.call head (builtArgs head resolved), reports, [],
      fun query same same' same'' within args equal records =>
      ⟨_, _, yields args equal query same same' same'', brings_reporting reports ?_ ?_⟩⟩
    · rw [Expr.resolvedAll, Expr.resolvedAll, Expr.resolved, Call.resolved_of_ne meant,
        resolvedAll_builtArgs, equal]
    · intro e member call inside undefined'
      rw [List.mem_singleton.mp member] at inside
      rcases List.mem_cons.mp inside with same | inside
      · rw [same] at undefined'
        exact absurd undefined' meant
      · rw [callsOf_builtArgs] at inside
        rcases Expr.mem_callsOf.mp inside with ⟨e, member, inside⟩
        exact records e member call inside undefined'

end

end Build

/-! ## Recipes -/

namespace Recipe

variable {options : Options} {namespaces : Namespaces} {library : Regex.Library}

mutual
/-- What a recipe comes to. The induction is on the recipe; the definitions at hand may be any that
the query has in the end. -/
theorem exists_comes (lenient : options.strict = false) (arity? : String → Option Nat)
    (recipe : Recipe) : ∃ resolved cost names,
    Build.Comes options namespaces library arity? recipe.build (fun e => [e]) [resolved] cost
      names := by
  cases recipe with
  | var v => exact ⟨_, _, _, (Build.yields_pure _).comes arity? rfl⟩
  | const c => exact ⟨_, _, _, (Build.yields_pure _).comes arity? rfl⟩
  | prefixed name =>
      rcases @Build.exists_yields_prefixedName _ namespaces library lenient name
        with ⟨c, reports, yields⟩
      have made :
          Build.Yields options namespaces library (prefixed name).build (.const c)
            (reports ++ []) :=
        yields.bind (Build.yields_pure _)
      exact ⟨_, _, _, made.comes arity? rfl⟩
  | call name args =>
      rcases exists_comes_all lenient arity? args with ⟨resolved, cost, names, comes⟩
      rcases Build.exists_comes_call lenient arity? name resolved with
        ⟨resolved', cost', names', calls⟩
      refine ⟨resolved', cost ++ cost', names ++ names', ?_⟩
      intro query same same' same'' within
      rcases comes query same same' same'' within with ⟨made, between, run, brings⟩
      rcases calls between (brings.spends.options.trans same)
        (brings.spends.namespaces.trans same') (brings.spends.library.trans same'')
        (brings.within within) made brings.resolved brings.records with ⟨e, query', run', brings'⟩
      refine ⟨e, query', ?_, brings.since brings'⟩
      rw [build, EStateM.run_bind, run]
      exact run'

theorem exists_comes_all (lenient : options.strict = false) (arity? : String → Option Nat)
    (recipes : List Recipe) : ∃ resolved cost names,
    Build.Comes options namespaces library arity? (buildAll recipes) id resolved cost names := by
  cases recipes with
  | nil =>
      refine ⟨[], [], [], fun query _ _ _ _ => ⟨[], query, rfl, ?_⟩⟩
      have nothing := @Build.brings_reporting arity? [] [] query [] rfl (by simp)
      rwa [query.reporting_nil] at nothing
  | cons recipe rest =>
      rcases exists_comes lenient arity? recipe with ⟨resolved, cost, names, comes⟩
      rcases exists_comes_all lenient arity? rest with ⟨resolved', cost', names', comes'⟩
      refine ⟨resolved :: resolved', cost ++ cost', names ++ names', ?_⟩
      intro query same same' same'' within
      rcases comes query same same' same'' within with ⟨e, between, run, brings⟩
      rcases comes' between (brings.spends.options.trans same)
        (brings.spends.namespaces.trans same') (brings.spends.library.trans same'')
        (brings.within within) with
        ⟨made, query', run', brings'⟩
      refine ⟨e :: made, query', ?_, brings.append brings'⟩
      rw [buildAll, EStateM.run_bind, run]
      dsimp only
      rw [EStateM.run_bind, run']
      rfl
end

end Recipe

end Sparql
