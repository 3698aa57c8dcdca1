import Sparql.Proofs.Calls.Made
import Sparql.Proofs.Calls.Nested

/-!
Which definition a call gets in a tree of queries: the nearest one, in the query itself or in those
around it. Normalizing the outermost query settles the calls of each query in the tree by these
definitions.
-/

namespace Sparql

/-! ## Lines of queries -/

/-- The query at a path, which leads through subqueries by their ids, and those around it, from the
inside out. -/
def Query.line? (query : Query) : List PatternId → Option (List Query)
  | [] => some [query]
  | id :: rest =>
    match query.arena.get? id with
    | some (.subquery sub) => (sub.line? rest).map (· ++ [query])
    | _ => none

def nearest? (line : List Query) (key : String) : Option Definition :=
  line.findSome? (·.functions.definition? key)

/-! ## Settled calls -/

/-- The calls of a query with such a history are settled by the definitions. -/
structure Query.SettlesBy (definition? : String → Option Definition) (query : Query)
    (history : History) (query' : Query) : Prop where
  expressions : query'.expressions =
    query.expressions.map (Expr.resolved fun key => (definition? key).isSome)
  operators : ∀ e ∈ query'.expressions, ∀ call ∈ e.calls, call.isPath = false →
    Operator.ofName call.key = .undefined →
      (call.operator = .userFunction ↔ (definition? call.key).isSome = true)
  reports : ∃ gained, query'.log.entries = query.log.entries ++ gained ∧
    (history.reports ++ gained).Perm
      (history.calls.filterMap (Functions.misfit? fun key =>
          (definition? key).map (·.params.length)) ++
        query'.functions.undefinedNames.map fun key =>
          (Problem.undefinedFunction key).toDiagnostic)
  distinct : query'.functions.undefinedNames.Nodup
  undefined : ∀ key, key ∈ query'.functions.undefinedNames ↔
    (∃ count, (key, count) ∈ history.calls) ∧ definition? key = none

namespace Query

variable {query query' : Query} {history : History} {outer : List (String × Definition)}

/-- The query that has the functions around it, and its subqueries normalized. -/
structure Receives (query : Query) (outer : List (String × Definition)) (query' : Query) :
    Prop where
  functions : query'.functions = query.functions.inherit outer
  log : query'.log = query.log
  expressions : query'.expressions = query.expressions

theorem Receives.definition? (receives : query.Receives outer query') (key : String) :
    query'.functions.definition? key =
      (query.functions.definition? key).or (outer.lookup key) := by
  rw [receives.functions, Functions.definition?_inherit]

theorem Receives.isDefined (receives : query.Receives outer query') :
    query'.functions.isDefined = fun key =>
      ((query.functions.definition? key).or (outer.lookup key)).isSome := by
  funext key
  rw [Functions.isDefined, receives.definition?]

theorem Receives.arity? (receives : query.Receives outer query') :
    query'.functions.arity? = fun key =>
      ((query.functions.definition? key).or (outer.lookup key)).map (·.params.length) := by
  funext key
  rw [Functions.arity?, receives.definition?]

theorem Receives.isDefined_of_own (receives : query.Receives outer query') {key : String}
    (own : query.functions.isDefined key = true) : query'.functions.isDefined key = true := by
  rcases Option.isSome_iff_exists.mp own with ⟨definition, found⟩
  rw [Functions.isDefined, receives.definition?, found]
  rfl

theorem Receives.arity?_of_own (receives : query.Receives outer query') {key : String}
    (own : query.functions.isDefined key = true) :
    query'.functions.arity? key = query.functions.arity? key := by
  rcases Option.isSome_iff_exists.mp own with ⟨definition, found⟩
  rw [Functions.arity?, Functions.arity?, receives.definition?, found]
  rfl

theorem Receives.deferred (receives : query.Receives outer query') :
    query'.functions.deferred = query.functions.deferred := by
  rw [receives.functions]
  rfl

theorem Receives.undefinedNames (receives : query.Receives outer query') :
    query'.functions.undefinedNames = query.functions.undefinedNames := by
  rw [receives.functions]
  rfl

theorem Receives.waiting (receives : query.Receives outer query') :
    query'.functions.waiting = query.functions.waiting := by
  rw [receives.functions]
  rfl

/-! ## Accounts -/

section

variable (accounts : query.Accounts history) (receives : query.Receives outer query')

include accounts receives

theorem expressions_received :
    query'.settled.expressions =
      query.expressions.map (Expr.resolved query'.functions.isDefined) := by
  rw [expressions_settled, receives.expressions]
  intro e member call inside undefined
  rw [receives.expressions] at member
  rw [receives.undefinedNames]
  exact (accounts.knows_own (accounts.expressions e member) call inside).recorded undefined

theorem operators_received : ∀ e ∈ query'.settled.expressions, ∀ call ∈ e.calls,
    call.isPath = false → Operator.ofName call.key = .undefined →
      (call.operator = .userFunction ↔ query'.functions.isDefined call.key = true) := by
  intro e member call inside other named
  rw [expressions_received accounts receives] at member
  rcases List.mem_map.mp member with ⟨made, there, rfl⟩
  rw [Expr.calls_resolved] at inside
  rcases List.mem_map.mp inside with ⟨first, before, rfl⟩
  rw [Call.key_resolved] at named ⊢
  rw [Call.isPath_resolved] at other
  have knows := accounts.knows_own (accounts.expressions made there) first before
  rcases knows.resolved named other with undefined | ⟨resolved, own⟩
  · rw [Call.operator_resolved undefined]
    cases query'.functions.isDefined first.key <;> simp
  · rw [Call.resolved_of_ne (by simp [resolved])]
    exact iff_of_true resolved (receives.isDefined_of_own own)

theorem settlement_received :
    (history.reports ++ query'.functions.settlement).Perm
      (history.calls.filterMap (Functions.misfit? query'.functions.arity?) ++
        query'.functions.missing.map fun key => (Problem.undefinedFunction key).toDiagnostic) := by
  rcases accounts.ledger with ⟨counted, calls, own, reported⟩
  have same : counted.filterMap (Functions.misfit? query.functions.arity?) =
      counted.filterMap (Functions.misfit? query'.functions.arity?) := by
    apply List.filterMap_congr
    intro call member
    exact Functions.misfit?_congr (receives.arity?_of_own (own call member)).symm
  have settles := query'.functions.settlement_perm
  rw [receives.waiting] at settles
  rw [same] at reported
  apply (reported.append settles).trans
  rw [← List.append_assoc]
  apply List.Perm.append_right
  apply List.perm_append_comm.trans
  rw [← List.filterMap_append]
  exact (calls.filterMap _).symm

theorem mem_missing_received (key : String) :
    key ∈ query'.functions.missing ↔
      (∃ count, (key, count) ∈ history.calls) ∧ query'.functions.isDefined key = false := by
  rcases accounts.ledger with ⟨counted, calls, own, _⟩
  rw [Functions.missing, List.mem_filter, receives.undefinedNames,
    accounts.kept.mem_undefinedNames_iff, Bool.not_eq_true']
  constructor
  · rintro ⟨⟨count, waits⟩, undefined⟩
    exact ⟨⟨count, calls.mem_iff.mpr (List.mem_append_left _ waits)⟩, undefined⟩
  · rintro ⟨⟨count, called⟩, undefined⟩
    rcases List.mem_append.mp (calls.mem_iff.mp called) with waits | isCounted
    · exact ⟨⟨count, waits⟩, undefined⟩
    · rw [receives.isDefined_of_own (own _ isCounted)] at undefined
      cases undefined

theorem settlesBy_received {query'' : Query} (log : query''.log = query'.settled.log)
    (functions : query''.functions = query'.settled.functions)
    (expressions : query''.expressions = query'.settled.expressions) :
    query.SettlesBy
      (fun key => (query.functions.definition? key).or (outer.lookup key)) history query'' where
  expressions := by
    rw [expressions, expressions_received accounts receives, receives.isDefined]
  operators e member call inside other named := by
    rw [expressions] at member
    rw [operators_received accounts receives e member call inside other named, receives.isDefined]
  reports := by
    refine ⟨query'.functions.settlement, ?_, ?_⟩
    · rw [log, log_settled, receives.log]
    · rw [functions, undefinedNames_settled, ← receives.arity?]
      exact settlement_received accounts receives
  distinct := by
    rw [functions, undefinedNames_settled]
    have kept : query'.functions.Kept := accounts.kept.congr receives.deferred
    exact kept.nodup_missing
  undefined key := by
    rw [functions, undefinedNames_settled, mem_missing_received accounts receives,
      receives.isDefined]
    simp

end

end Query

/-! ## Trees -/

namespace Build

variable {query query' : Query} {history : History} {outer : List (String × Definition)}

theorem receives_withNormalized (query : Query) (outer : List (String × Definition)) :
    query.Receives outer (withNormalized (query.inheriting outer)) where
  functions := rfl
  log := rfl
  expressions := by
    rw [Query.expressions, Query.expressions, withNormalized, values_normalizePatterns]
    rfl

/-- Either the calls are settled, or the query is left with them as they were. -/
inductive Ended (definition? : String → Option Definition) (query : Query) (failed : Prop)
    (query' : Query) : Prop
  | settled (settles : ∀ history, query.Made history →
      query.SettlesBy definition? history query')
  | left (failed : failed) (expressions : query'.expressions = query.expressions)
      (names : query'.functions.undefinedNames = query.functions.undefinedNames)
      (normalized : query'.normalized = false)

theorem Ended.imp {definition? definition?' : String → Option Definition} {failed failed' : Prop}
    (ended : Ended definition? query failed query') (same : definition? = definition?')
    (weaker : failed → failed') : Ended definition?' query failed' query' := by
  subst same
  cases ended with
  | settled settles => exact .settled settles
  | left failed expressions names normalized =>
      exact .left (weaker failed) expressions names normalized

theorem ended_normalize (made : query.Made history) (outer : List (String × Definition)) :
    Ended (fun key => (query.functions.definition? key).or (outer.lookup key)) query
      (Fails (query.inheriting outer)) (normalize.after (query.inheriting outer)) := by
  have lenient : (query.inheriting outer).options.strict = false := made.accounts.lenient
  have new : (query.inheriting outer).normalized = false := made.accounts.new
  have receives := receives_withNormalized query outer
  rcases after_normalize lenient new with settles | ⟨failed, log, equal⟩
  · apply Ended.settled
    intro history made
    exact Query.settlesBy_received made.accounts receives settles.log settles.functions
      settles.expressions
  · rw [equal]
    exact .left (fails_of_failed? lenient new failed) receives.expressions rfl new

theorem line?_ne_nil (query : Query) (path : List PatternId) : query.line? path ≠ some [] := by
  cases path with
  | nil => simp [Query.line?]
  | cons id rest =>
      rw [Query.line?]
      split
      · simp
      · simp

theorem line?_cons {id : PatternId} {sub : Query}
    (found : query.arena.get? id = some (.subquery sub)) (rest : List PatternId) :
    query.line? (id :: rest) = (sub.line? rest).map (· ++ [query]) := by
  rw [Query.line?, found]

theorem nearest?_append (line : List Query) (query : Query) (key : String) :
    nearest? (line ++ [query]) key = (nearest? line key).or (query.functions.definition? key) := by
  have last : nearest? [query] key = query.functions.definition? key := by
    rw [nearest?, List.findSome?_cons]
    cases query.functions.definition? key <;> rfl
  rw [← last]
  exact List.findSome?_append

theorem exists_sub_of_line? {id : PatternId} {rest : List PatternId} {there : Query}
    {around : List Query} (line : query.line? (id :: rest) = some (there :: around)) :
    ∃ sub between, query.arena.get? id = some (.subquery sub) ∧
      sub.line? rest = some (there :: between) ∧ around = between ++ [query] := by
  rw [Query.line?] at line
  split at line
  · next sub found =>
      rcases Option.map_eq_some_iff.mp line with ⟨inner, inside, equal⟩
      cases inner with
      | nil => exact absurd inside (line?_ne_nil sub rest)
      | cons first between =>
          cases equal
          exact ⟨sub, between, found, inside, rfl⟩
  · cases line

/-- A subquery is normalized in its place with the functions here and around, or it is left as it is
when normalizing fails before. -/
theorem exists_normalized_sub (made : query.Made history) (outer : List (String × Definition))
    {id : PatternId} {sub : Query} (found : query.arena.get? id = some (.subquery sub)) :
    ∃ sub', (normalize.after (query.inheriting outer)).arena.get? id = some (.subquery sub') ∧
      (Fails (query.inheriting outer) ∧ sub' = sub ∨
        sub' = normalize.after (sub.inheriting (query.functions.inherit outer).definitions) ∧
          (Fails (sub.inheriting (query.functions.inherit outer).definitions) →
            Fails (query.inheriting outer))) := by
  have lenient : (query.inheriting outer).options.strict = false := made.accounts.lenient
  have new : (query.inheriting outer).normalized = false := made.accounts.new
  have place :=
    @exists_normalized normalize (query.functions.inherit outer).definitions _ id sub found
  rcases place with ⟨sub', there, ended⟩
  refine ⟨sub', get?_normalize lenient new there, ?_⟩
  rcases ended with ⟨failed, equal⟩ | ⟨equal, succeeds⟩
  · exact .inl ⟨fails_of_failed? lenient new failed, equal⟩
  · exact .inr ⟨equal, fun fails => fails_of_failed? lenient new fun none =>
      fails sub' (succeeds none)⟩

/-- The induction is on the path: what a query has defined or got from around it goes before all
that is farther out. -/
theorem exists_ended (made : query.Made history) (outer : List (String × Definition))
    {path : List PatternId} {there : Query} {around : List Query}
    (line : query.line? path = some (there :: around)) : ∃ there' around',
      (normalize.after (query.inheriting outer)).line? path = some (there' :: around') ∧
        (∃ inside, there.Made inside) ∧
        Ended (fun key => (nearest? (there :: around) key).or (outer.lookup key)) there
          (Fails (query.inheriting outer)) there' := by
  induction path generalizing query history outer there around with
  | nil =>
      cases line
      refine ⟨_, [], rfl, ⟨history, made⟩, ?_⟩
      apply (ended_normalize made outer).imp _ id
      funext key
      rw [nearest?, List.findSome?_cons]
      cases query.functions.definition? key <;> rfl
  | cons id rest induction =>
      rcases exists_sub_of_line? line with ⟨sub, between, found, inner, rfl⟩
      rcases made.inside sub ⟨id, found⟩ with ⟨inside, madeSub⟩
      rcases exists_normalized_sub made outer found with
        ⟨_, here, ⟨failed, rfl⟩ | ⟨rfl, onward⟩⟩
      · rcases induction madeSub [] inner with ⟨_, _, _, ⟨_, madeThere⟩, _⟩
        refine
          ⟨there, between ++ [normalize.after (query.inheriting outer)], ?_, ⟨_, madeThere⟩, ?_⟩
        · rw [line?_cons here, inner]
          rfl
        · exact .left failed rfl rfl madeThere.accounts.new
      · rcases induction madeSub (query.functions.inherit outer).definitions inner with
          ⟨there', around', line', madeThere, ended⟩
        refine ⟨there', around' ++ [normalize.after (query.inheriting outer)], ?_, madeThere, ?_⟩
        · rw [line?_cons here, line']
          rfl
        · apply ended.imp _ onward
          funext key
          have inherited := query.functions.definition?_inherit outer key
          rw [Functions.definition?] at inherited
          rw [inherited, ← List.cons_append, nearest?_append, Option.or_assoc]

/-! ## Failures -/

/-- Some query in the tree cannot be brought into form when its subqueries are normalized and its
calls are settled. -/
inductive Flawed : Query → Prop
  | here {query : Query} (unformed : Unformed (withNormalized query).settled) : Flawed query
  | inside {query sub : Query} (part : sub.IsPartOf query)
      (flawed : Flawed (sub.inheriting query.functions.definitions)) : Flawed query

theorem flawed_of_fails (made : query.Made history) (outer : List (String × Definition))
    (fails : Fails (query.inheriting outer)) : Flawed (query.inheriting outer) := by
  -- The induction is on the level, as subqueries get the functions around them first.
  induction level : query.level using Nat.strongRecOn generalizing query history outer with
  | ind _ induction =>
      have lenient : (query.inheriting outer).options.strict = false := made.accounts.lenient
      have new : (query.inheriting outer).normalized = false := made.accounts.new
      cases run : normalize.run (query.inheriting outer) with
      | ok value final => exact absurd run (fails final)
      | error failure final =>
          rcases (ends_normalize lenient new).of_error run with ⟨failed, _⟩ | ⟨_, unformed⟩
          · rcases exists_error_of_normalizePatterns failed with ⟨sub, member, _, _, stops⟩
            rcases List.getElem?_of_mem member with ⟨id, found⟩
            rcases made.inside sub ⟨id, found⟩ with ⟨inside, madeSub⟩
            have less : sub.level < query.level := Query.level_lt_of_get? found
            have failsSub : Fails (sub.inheriting (query.functions.inherit outer).definitions) := by
              intro final' run'
              cases run'.symm.trans stops
            exact .inside ⟨id, found⟩ (induction _ (level ▸ less) madeSub _ failsSub rfl)
          · exact .here unformed

/-- Normalizing the outermost query settles the calls of each query in its tree by the nearest
definitions, unless it fails before it gets there, as some query cannot be brought into form. -/
theorem exists_ended_of_made {root : Query} (made : root.Made history) {path : List PatternId}
    {there : Query} {around : List Query} (line : root.line? path = some (there :: around)) :
    ∃ there' around', (normalize.after root).line? path = some (there' :: around') ∧
      (∃ inside, there.Made inside) ∧
      Ended (nearest? (there :: around)) there (Fails root ∧ Flawed root) there' := by
  rcases exists_ended made [] line with ⟨there', around', line', madeThere, ended⟩
  have flawed := flawed_of_fails made []
  rw [Query.inheriting_nil] at line' ended flawed
  refine ⟨there', around', line', madeThere, ended.imp ?_ fun fails => ⟨fails, flawed fails⟩⟩
  funext key
  rw [List.lookup_nil, Option.or_none]

/-! ## Calls that are not reached -/

def unfounded : Query :=
  (Operation.setForm .construct).run.after ((Operation.setBody 0).run.after
    ((Operation.group [1]).run.after {}))

def calling : Query :=
  (Operation.filter (.call { name := "f", operator := .undefined } [])).run.after
    ((Operation.call "f" []).run.after {})

/-- The function is defined around the query, and another query is put before it. -/
def definesAround (first : Query) : Query :=
  (Operation.define "f" [] (.const (.iri "c"))).run.after
    ((Operation.subquery calling).run.after ((Operation.subquery first).run.after {}))

theorem made_empty : ({} : Query).Made {} := .empty {} _ _ _ rfl

theorem exists_made_unfounded : ∃ history, unfounded.Made history := by
  have grouped := made_empty.bare (.group [1]) rfl rfl (by simp)
  have withBody := grouped.bare (.setBody 0) rfl rfl (by simp)
  exact ⟨_, withBody.bare (.setForm .construct) rfl rfl (by simp)⟩

theorem exists_made_calling : ∃ history, calling.Made history := by
  have called := made_empty.step (.call "f" []) (by simp) (by simp [Operation.operands]) (by simp)
    (fun _ => {}) (by simp)
  refine ⟨_, called.step (.filter _) (by simp) ?_ (by simp) (fun _ => {}) (by simp)⟩
  exact fun e member => .inr member

theorem exists_made_definesAround {first : Query} {history : History} (made : first.Made history) :
    ∃ history, (definesAround first).Made history := by
  rcases exists_made_calling with ⟨inside, madeCalling⟩
  have around := (made_empty.around made).around madeCalling
  refine ⟨_, around.step (.define "f" [] _) (by simp) ?_ ?_ (fun _ => {}) (by simp)⟩
  · simp [Operation.operands, Expr.Own, Expr.calls]
  · intro name params body equal
    rfl

theorem definesAround_ended :
    (∃ query', normalize.run (definesAround calling) = .ok () query') ∧
      (∃ history, (definesAround calling).Made history) ∧
      (definesAround calling).line? [1] = some [calling, definesAround calling] ∧
      ∃ there' around',
        (normalize.after (definesAround calling)).line? [1] = some (there' :: around') ∧
          (∃ inside, calling.Made inside) ∧
          Ended (nearest? [calling, definesAround calling]) calling
            (Fails (definesAround calling) ∧ Flawed (definesAround calling)) there' := by
  rcases exists_made_calling with ⟨_, madeCalling⟩
  rcases exists_made_definesAround madeCalling with ⟨history, made⟩
  have line : (definesAround calling).line? [1] = some [calling, definesAround calling] := rfl
  exact ⟨⟨_, rfl⟩, ⟨history, made⟩, line, exists_ended_of_made made line⟩

def meanings (query : Query) : List Operator :=
  (query.expressions.flatMap Expr.calls).map (·.operator)

theorem definesAround_unreached :
    (∃ history, (definesAround unfounded).Made history) ∧
      (definesAround unfounded).line? [1] = some [calling, definesAround unfounded] ∧
      ∃ there' around',
        (normalize.after (definesAround unfounded)).line? [1] = some (there' :: around') ∧
          ∀ inside, ¬ calling.SettlesBy (nearest? [calling, definesAround unfounded]) inside
            there' := by
  rcases exists_made_unfounded with ⟨_, madeUnfounded⟩
  refine ⟨exists_made_definesAround madeUnfounded, rfl, ?_⟩
  have left : ((normalize.after (definesAround unfounded)).line? [1]).map (·.map meanings) =
      some [[.undefined], []] := by decide +kernel
  rcases Option.map_eq_some_iff.mp left with ⟨line', equal, means⟩
  rcases List.map_eq_cons_iff.mp means with ⟨there', around', rfl, undefined, _⟩
  refine ⟨there', around', equal, ?_⟩
  intro inside settles
  have resolved : ((calling.expressions.map (Expr.resolved fun key =>
      (nearest? [calling, definesAround unfounded] key).isSome)).flatMap Expr.calls).map
        (·.operator) = [.userFunction] := by decide +kernel
  rw [meanings, settles.expressions, resolved] at undefined
  cases undefined

end Build

end Sparql
