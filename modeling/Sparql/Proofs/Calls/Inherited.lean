import Sparql.Proofs.Calls.Nearest
import Sparql.Proofs.Calls.Stepwise
import Sparql.Proofs.Describe.Formed

/-!
What becomes of a function that a query gets from around it. It is copied into each subquery before
the calls in its body are resolved, and each query resolves the calls in its own copy, by the
functions that it knows, but only if any of its own calls are on record. So a copy is the function
that it was copied from exactly if the two queries agree on each undefined call in the body:
`inherited_of_normalize`.
-/

namespace Sparql

/-! ## Bodies -/

namespace Expr

variable {defined defined' : String → Bool}

mutual
theorem resolved_congr {e : Expr} (same : ∀ call ∈ e.calls, call.operator = .undefined →
    defined call.key = defined' call.key) : e.resolved defined = e.resolved defined' := by
  cases e with
  | var v => rfl
  | const c => rfl
  | call head args =>
      rcases List.forall_mem_cons.mp same with ⟨here, inside⟩
      have head_same : head.resolved defined = head.resolved defined' := by
        by_cases undefined : head.operator = .undefined
        · rw [Call.resolved, Call.resolved, here undefined]
        · rw [Call.resolved_of_ne undefined, Call.resolved_of_ne undefined]
      rw [resolved, resolved, head_same, resolvedAll_congr inside]

theorem resolvedAll_congr {args : List Expr} (same : ∀ call ∈ callsOf args,
    call.operator = .undefined → defined call.key = defined' call.key) :
    resolvedAll defined args = resolvedAll defined' args := by
  cases args with
  | nil => rfl
  | cons e rest =>
      rcases List.forall_mem_append.mp same with ⟨here, there⟩
      rw [resolvedAll, resolvedAll, resolved_congr here, resolvedAll_congr there]
end

/-- Two ways to resolve an expression give the same exactly if they agree on its undefined calls. -/
theorem resolved_eq_iff (e : Expr) : e.resolved defined = e.resolved defined' ↔
    ∀ call ∈ e.calls, call.operator = .undefined → defined call.key = defined' call.key := by
  refine ⟨fun same call member undefined => ?_, resolved_congr⟩
  have calls := congrArg Expr.calls same
  rw [calls_resolved, calls_resolved] at calls
  have operators := congrArg Call.operator (List.map_inj_left.mp calls call member)
  rw [Call.operator_resolved undefined, Call.operator_resolved undefined] at operators
  cases here : defined call.key <;> cases there : defined' call.key <;> simp_all

end Expr

/-! ## Functions of a tree of queries -/

/-- Whether the query makes calls of the name in the bodies of functions into calls of a function:
it goes through them only if it has calls on record. -/
def Query.resolvesBy (definition? : String → Option Definition) (query : Query) (key : String) :
    Bool :=
  !query.functions.deferred.isEmpty && (definition? key).isSome

theorem Definition.resolved_eq_iff {defined defined' : String → Bool} (definition : Definition) :
    definition.resolved defined = definition.resolved defined' ↔
      ∀ call ∈ definition.body.calls, call.operator = .undefined →
        defined call.key = defined' call.key := by
  rw [← Expr.resolved_eq_iff]
  exact ⟨fun same => congrArg Definition.body same, fun same => by rw [resolved, same, resolved]⟩

/-- The definition of the innermost query that has one, or else from around the line. -/
def known? (outer : List (String × Definition)) (line : List Query) (key : String) :
    Option Definition :=
  (nearest? line key).or (outer.lookup key)

theorem known?_nil (line : List Query) : known? [] line = nearest? line := by
  funext key
  rw [known?, List.lookup_nil, Option.or_none]

theorem known?_singleton (outer : List (String × Definition)) (query : Query) :
    known? outer [query] = (query.functions.inherit outer).definition? := by
  funext key
  rw [Functions.definition?_inherit, known?, nearest?, List.findSome?_cons]
  cases query.functions.definition? key <;> rfl

theorem known?_append (outer : List (String × Definition)) (line : List Query) (query : Query) :
    known? outer (line ++ [query]) = known? (query.functions.inherit outer).definitions line := by
  funext key
  have inherited := query.functions.definition?_inherit outer key
  rw [Functions.definition?] at inherited
  rw [known?, known?, inherited, Build.nearest?_append, Option.or_assoc]

/-- The queries of a line, each normalized with the functions of those around it and of `outer`. -/
inductive Inherit (outer : List (String × Definition)) : List Query → List Query → Prop
  | nil : Inherit outer [] []
  | cons {query query' : Query} {around around' : List Query}
      (here : ∀ key, query'.functions.definition? key =
        (known? outer (query :: around) key).map
          (Definition.resolved (query.resolvesBy (known? outer (query :: around)))))
      (rest : Inherit outer around around') : Inherit outer (query :: around) (query' :: around')

theorem Inherit.here {outer : List (String × Definition)} {query query' : Query}
    {around around' : List Query} (inherit : Inherit outer (query :: around) (query' :: around'))
    (key : String) : query'.functions.definition? key = (known? outer (query :: around) key).map
      (Definition.resolved (query.resolvesBy (known? outer (query :: around)))) := by
  cases inherit with
  | cons here _ => exact here key

theorem Inherit.length_eq {outer : List (String × Definition)} {line line' : List Query}
    (inherit : Inherit outer line line') : line'.length = line.length := by
  induction inherit with
  | nil => rfl
  | cons _ _ induction => exact congrArg Nat.succ induction

theorem Inherit.exists_append {outer : List (String × Definition)}
    {inner around line' : List Query}
    (inherit : Inherit outer (inner ++ around) line') :
    ∃ inner' around', line' = inner' ++ around' ∧ inner'.length = inner.length ∧
      Inherit outer around around' := by
  induction inner generalizing line' with
  | nil => exact ⟨[], line', rfl, rfl, inherit⟩
  | cons first rest induction =>
      cases inherit with
      | cons _ beyond =>
          rcases induction beyond with ⟨inner', around', rfl, length, there⟩
          exact ⟨_ :: inner', around', rfl, congrArg Nat.succ length, there⟩

theorem Inherit.append {outer : List (String × Definition)} {query query' : Query}
    {line line' : List Query}
    (inner : Inherit (query.functions.inherit outer).definitions line line')
    (last : Inherit outer [query] [query']) :
    Inherit outer (line ++ [query]) (line' ++ [query']) := by
  induction inner with
  | nil => exact last
  | @cons first first' between between' here rest induction =>
      refine .cons (fun key => ?_) induction
      have known := known?_append outer (first :: between) query
      rw [List.cons_append] at known
      change _ = (known? outer (first :: (between ++ [query])) key).map
        (Definition.resolved (first.resolvesBy (known? outer (first :: (between ++ [query])))))
      rw [known]
      exact here key

namespace Build

variable {query query' : Query}

theorem definition?_settled_of_bodies (query : Query) (key : String) :
    query.settled.functions.definition? key =
      (query.functions.definition? key).map
        (Definition.resolved (query.resolvesBy query.functions.definition?)) := by
  rw [Query.settled]
  split
  · next empty =>
      have same (definition : Definition) :
          definition.resolved (query.resolvesBy query.functions.definition?) = definition := by
        have body : definition.body.resolved (query.resolvesBy query.functions.definition?) =
            definition.body :=
          Expr.resolved_eq_self _ fun call _ _ => by rw [Query.resolvesBy, empty]; rfl
        rw [Definition.resolved, body]
      rw [funext same]
      exact (Option.map_id' ..).symm
  · next waiting =>
      have resolves : query.resolvesBy query.functions.definition? = query.functions.isDefined := by
        funext key
        rw [Query.resolvesBy, Bool.eq_false_iff.mpr waiting]
        rfl
      rw [resolves]
      exact Functions.definition?_mapBodies _ query.functions key

theorem functions_settled_leniently (query : Query) :
    (withNormalized query.leniently).settled.functions =
      (withNormalized query).settled.functions := by
  have same : (withNormalized query.leniently).functions.deferred =
      (withNormalized query).functions.deferred := rfl
  rw [Query.settled, Query.settled, same]
  split <;> rfl

theorem settled_of_run_normalize (new : query.normalized = false)
    (run : normalize.run query = .ok () query') :
    failed? query = none ∧ query'.functions = (withNormalized query).settled.functions ∧
      ∀ id sub, (withNormalized query).arena.get? id = some (.subquery sub) →
        query'.arena.get? id = some (.subquery sub) := by
  have new' : query.leniently.normalized = false := new
  rcases (ends_normalize rfl new').of_ok (run_leniently takes_normalize run) with
    ⟨whole, formed, shape, equal⟩
  have settles := shape.settles
  have functions : query'.leniently.functions = formed.functions := by rw [equal]
  have arena : query'.leniently.arena = formed.arena := by rw [equal]
  refine ⟨whole, ?_, fun id sub found => ?_⟩
  · exact functions.trans (settles.functions.trans (functions_settled_leniently query))
  · change query'.leniently.arena.get? id = some (.subquery sub)
    rw [arena]
    exact settles.places id _ rfl ((Query.get?_settled_subquery _ sub id).mpr found)

theorem inherit_of_run_normalize {outer : List (String × Definition)}
    (new : query.normalized = false)
    (run : normalize.run (query.inheriting outer) = .ok () query') :
    Inherit outer [query] [query'] := by
  have new' : (query.inheriting outer).normalized = false := new
  rcases settled_of_run_normalize new' run with ⟨_, functions, _⟩
  refine .cons (fun key => ?_) .nil
  rw [functions, definition?_settled_of_bodies, known?_singleton]
  rfl

theorem exists_inherit {outer : List (String × Definition)}
    (new : query.Everywhere (·.normalized = false))
    (run : normalize.run (query.inheriting outer) = .ok () query') {path : List PatternId}
    {line : List Query} (found : query.line? path = some line) :
    ∃ line', query'.line? path = some line' ∧ Inherit outer line line' := by
  -- The induction is on the path, from the outside in.
  induction path generalizing query query' outer line with
  | nil =>
      cases found
      exact ⟨_, rfl, inherit_of_run_normalize new.here run⟩
  | cons id rest induction =>
      have last := inherit_of_run_normalize new.here run
      cases line with
      | nil => exact absurd found (line?_ne_nil query _)
      | cons there around =>
          rcases exists_sub_of_line? found with ⟨sub, between, part, inner, rfl⟩
          have new' : (query.inheriting outer).normalized = false := new.here
          rcases settled_of_run_normalize new' run with ⟨whole, _, places⟩
          have place :=
            @exists_normalized normalize (query.functions.inherit outer).definitions _ id sub part
          rcases place with ⟨sub', here, ⟨failed, _⟩ | ⟨_, succeeds⟩⟩
          · exact absurd whole failed
          · rcases induction (new.part ⟨id, part⟩) (succeeds whole) inner with
              ⟨line', inside, inherit⟩
            refine ⟨line' ++ [query'], ?_, inherit.append last⟩
            rw [line?_cons (places id sub' here), inside]
            rfl

/-- Whether or not the queries are strict. The inner query has no definition of the name, and those
between have none. In the end it has the function of the nearest query with one, with the same
parameters, and with the body that was given; but each of the two resolves the calls in its own copy
of the body. -/
theorem inherited_of_normalize {root root' : Query} (new : root.Everywhere (·.normalized = false))
    (run : normalize.run root = .ok () root') {path : List PatternId} {there definer : Query}
    {between beyond : List Query}
    (line : root.line? path = some (there :: between ++ definer :: beyond)) {key : String}
    (inherited : nearest? (there :: between) key = none) {definition : Definition}
    (defined : definer.functions.definition? key = some definition) :
    ∃ there' between' definer' beyond',
      root'.line? path = some (there' :: between' ++ definer' :: beyond') ∧
        between'.length = between.length ∧ beyond'.length = beyond.length ∧
        there'.functions.definition? key = some (definition.resolved
          (there.resolvesBy (nearest? (there :: between ++ definer :: beyond)))) ∧
        definer'.functions.definition? key = some (definition.resolved
          (definer.resolvesBy (nearest? (definer :: beyond)))) ∧
        (there'.functions.definition? key = definer'.functions.definition? key ↔
          ∀ call ∈ definition.body.calls, call.operator = .undefined →
            there.resolvesBy (nearest? (there :: between ++ definer :: beyond)) call.key =
              definer.resolvesBy (nearest? (definer :: beyond)) call.key) := by
  rw [← Query.inheriting_nil root] at run
  rcases exists_inherit new run line with ⟨line', here, inherit⟩
  rcases inherit.exists_append with ⟨inner', around', rfl, length, around⟩
  rcases List.exists_cons_of_length_eq_add_one length with ⟨there', between', rfl⟩
  have nearest : nearest? (definer :: beyond) key = some definition := by
    rw [nearest?, List.findSome?_cons, defined]
  have found : nearest? (there :: between ++ definer :: beyond) key = some definition := by
    rw [nearest?, List.findSome?_append]
    change (nearest? (there :: between) key).or (nearest? (definer :: beyond) key) = _
    rw [inherited, nearest]
    rfl
  cases around with
  | @cons _ definer' _ beyond' outside rest =>
      have first : Inherit [] (there :: (between ++ definer :: beyond))
          (there' :: (between' ++ definer' :: beyond')) := inherit
      have inside := first.here key
      have outside := outside key
      rw [← List.cons_append, known?_nil, found] at inside
      rw [known?_nil, nearest] at outside
      refine ⟨there', between', definer', beyond', here, Nat.succ.inj length, rest.length_eq,
        inside, outside, ?_⟩
      rw [inside, outside, Option.map_some, Option.map_some, Option.some_inj,
        Definition.resolved_eq_iff]

/-! ## Copies -/

def callingG : Query := (Operation.call "g" []).run.after {}

/-- The second query has the first one in it, and defines a function that calls another one. -/
def sharing (inner outer : Query) : Query :=
  (Operation.define "g" [] (.const (.iri "c"))).run.after
    ((Operation.define "f" [] (.call { name := "g", operator := .undefined } [])).run.after
      ((Operation.subquery inner).run.after outer))

theorem everywhere_sharing {property : Query → Prop} {inner outer : Query}
    (patterns : (sharing inner outer).arena.patterns = [.subquery inner])
    (alone : inner.arena.patterns = []) (here : property (sharing inner outer))
    (inside : property inner) : (sharing inner outer).Everywhere property := by
  have whole : inner.Everywhere property := .alone inside (by rw [Query.subqueries, alone]; rfl)
  have parts : (sharing inner outer).subqueries = [inner] := by
    rw [Query.subqueries, patterns]
    rfl
  exact .of_subqueries here (parts ▸ List.forall_mem_singleton.mpr whole)

def bodyMeanings (query : Query) (key : String) : Option (List Operator) :=
  (query.functions.definition? key).map fun definition =>
    definition.body.calls.map (·.operator)

theorem sharing_inherited :
    (sharing callingG callingG).Everywhere (·.normalized = false) ∧
      normalize.run (sharing callingG callingG) =
        .ok () (normalize.after (sharing callingG callingG)) ∧
      ∃ there' definer',
        (normalize.after (sharing callingG callingG)).line? [0] = some [there', definer'] ∧
          there'.functions.definition? "f" = definer'.functions.definition? "f" := by
  have new := @everywhere_sharing (·.normalized = false) callingG callingG rfl rfl rfl rfl
  have run : normalize.run (sharing callingG callingG) =
      .ok () (normalize.after (sharing callingG callingG)) := rfl
  have line : (sharing callingG callingG).line? [0] =
      some (callingG :: [] ++ sharing callingG callingG :: []) := rfl
  have defined : (sharing callingG callingG).functions.definition? "f" = some
      { name := "f", params := [], body := .call { name := "g", operator := .undefined } [] } := rfl
  rcases inherited_of_normalize new run line rfl defined with
    ⟨there', between', definer', beyond', here, none, none', _, _, same⟩
  cases List.eq_nil_of_length_eq_zero none
  cases List.eq_nil_of_length_eq_zero none'
  refine ⟨new, run, there', definer', here, same.mpr fun call member _ => ?_⟩
  cases List.mem_singleton.mp member
  decide +kernel

theorem sharing_apart :
    (sharing {} callingG).Everywhere
        (fun query => query.options.strict = false ∧ query.normalized = false) ∧
      (∃ query', normalize.run (sharing {} callingG) = .ok () query') ∧
      (sharing {} callingG).line? [0] = some [{}, sharing {} callingG] ∧
      ((normalize.after (sharing {} callingG)).line? [0]).map (·.map (bodyMeanings · "f")) =
        some [some [.undefined], some [.userFunction]] ∧
      (sharing callingG {}).Everywhere
        (fun query => query.options.strict = false ∧ query.normalized = false) ∧
      (∃ query', normalize.run (sharing callingG {}) = .ok () query') ∧
      (sharing callingG {}).line? [0] = some [callingG, sharing callingG {}] ∧
      ((normalize.after (sharing callingG {})).line? [0]).map (·.map (bodyMeanings · "f")) =
        some [some [.userFunction], some [.undefined]] := by
  refine ⟨everywhere_sharing rfl rfl ⟨rfl, rfl⟩ ⟨rfl, rfl⟩, ⟨_, rfl⟩, rfl, ?_,
    everywhere_sharing rfl rfl ⟨rfl, rfl⟩ ⟨rfl, rfl⟩, ⟨_, rfl⟩, rfl, ?_⟩
  · decide +kernel
  · decide +kernel

end Build

end Sparql
