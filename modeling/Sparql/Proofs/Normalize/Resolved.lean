import Mathlib.Data.List.Forall2
import Sparql.Proofs.Calls.Stops

/-!
What becomes of an expression when its calls are resolved: calls of known names that had no meaning
become calls of functions of the query, and nothing else about the expression changes. Settling the
calls of a query does no more than that to its patterns, its clauses and the bodies of its
functions, whether it returns or stops.
-/

namespace Sparql

/-! ## Expressions -/

/-- The same call, or one that had no meaning as a call of a function with a known name. -/
inductive Call.Resolves (known : String → Prop) (call : Call) : Call → Prop
  | same : Resolves known call call
  | user (undefined : call.operator = .undefined) (isKnown : known call.key) :
      Resolves known call { call with operator := .userFunction }

/-- The same expression but for its calls, which may be resolved at any depth. -/
inductive Expr.Resolves (known : String → Prop) : Expr → Expr → Prop
  | var (v : Variable) : Resolves known (.var v) (.var v)
  | const (c : Constant) : Resolves known (.const c) (.const c)
  | call {head head' : Call} {args args' : List Expr} (here : head.Resolves known head')
      (inside : List.Forall₂ (Resolves known) args args') :
      Resolves known (.call head args) (.call head' args')

variable {known : String → Prop}

theorem Call.resolves_resolved {defined : String → Bool}
    (told : ∀ key, defined key = true → known key) (call : Call) :
    call.Resolves known (call.resolved defined) := by
  rw [resolved]
  split
  · next both => exact .user both.1 (told _ both.2)
  · exact .same

namespace Expr

mutual
theorem resolves_resolved {defined : String → Bool}
    (told : ∀ key, defined key = true → known key) (e : Expr) :
    e.Resolves known (e.resolved defined) := by
  cases e with
  | var v => exact .var v
  | const c => exact .const c
  | call head args => exact .call (head.resolves_resolved told) (resolves_resolvedAll told args)

theorem resolves_resolvedAll {defined : String → Bool}
    (told : ∀ key, defined key = true → known key) (args : List Expr) :
    List.Forall₂ (Resolves known) args (resolvedAll defined args) := by
  cases args with
  | nil => exact .nil
  | cons e rest => exact .cons (resolves_resolved told e) (resolves_resolvedAll told rest)
end

@[refl] theorem Resolves.refl (e : Expr) : e.Resolves known e := by
  have none : e.resolved (fun _ => false) = e := e.resolved_eq_self _ fun _ _ _ => rfl
  have resolves : e.Resolves known (e.resolved fun _ => false) := e.resolves_resolved nofun
  rwa [none] at resolves

end Expr

/-- A change of expressions that does no more than to resolve calls of known names. -/
def ResolvesAll (known : String → Prop) (change : Expr → Expr) : Prop :=
  ∀ e : Expr, e.Resolves known (change e)

/-! ## Queries -/

/-- The same pattern, but for its condition or the expression that it binds. -/
inductive Pattern.Resolves (known : String → Prop) : Pattern Query → Pattern Query → Prop
  | same (p : Pattern Query) : Resolves known p p
  | filter {condition condition' : Expr} (resolves : condition.Resolves known condition') :
      Resolves known (.filter condition) (.filter condition')
  | bind {value value' : Expr} (resolves : value.Resolves known value') (target : Variable) :
      Resolves known (.bind value target) (.bind value' target)

/-- The same clauses, but for the expressions in the projection and in the solution modifiers. -/
structure Clauses.Resolves (known : String → Prop) (clauses clauses' : Clauses) : Prop where
  select : List.Forall₂ (fun item item' => item'.target = item.target ∧
    Option.Rel (Expr.Resolves known) item.value item'.value) clauses.select clauses'.select
  groupBy : List.Forall₂ (Expr.Resolves known) clauses.groupBy clauses'.groupBy
  having : List.Forall₂ (Expr.Resolves known) clauses.having clauses'.having
  orderBy : List.Forall₂ (fun sort sort' => sort.key.Resolves known sort'.key ∧
    sort'.descending = sort.descending) clauses.orderBy clauses'.orderBy
  rest : clauses' = { clauses with
    select := clauses'.select
    groupBy := clauses'.groupBy
    having := clauses'.having
    orderBy := clauses'.orderBy }

structure Definition.Resolves (known : String → Prop) (definition definition' : Definition) :
    Prop where
  name : definition'.name = definition.name
  params : definition'.params = definition.params
  body : definition.body.Resolves known definition'.body

/-- The same query, but for the calls that are resolved, the record of calls and the reports. -/
structure Query.Resolves (known : String → Prop) (query query' : Query) : Prop where
  patterns : ∀ id p, query.arena.get? id = some p →
    ∃ p', query'.arena.get? id = some p' ∧ p.Resolves known p'
  clauses : query.clauses.Resolves known query'.clauses
  definitions : List.Forall₂ (fun entry entry' =>
    entry'.1 = entry.1 ∧ entry.2.Resolves known entry'.2)
    query.functions.definitions query'.functions.definitions
  rest : query' = { query with
    arena := query'.arena
    clauses := query'.clauses
    functions := query'.functions
    log := query'.log }

theorem forall₂_map_self {α : Type} {relation : α → α → Prop} {change : α → α}
    (relates : ∀ value, relation value (change value)) (values : List α) :
    List.Forall₂ relation values (values.map change) :=
  List.forall₂_map_right_iff.mpr (List.forall₂_same.mpr fun value _ => relates value)

theorem Pattern.resolves_mapValues {change : Expr → Expr} (resolves : ResolvesAll known change)
    (p : Pattern Query) : p.Resolves known (p.mapValues change) := by
  cases p with
  | filter condition => exact .filter (resolves condition)
  | bind value target => exact .bind (resolves value) target
  | _ => exact .same _

theorem Clauses.resolves_mapValues {change : Expr → Expr} (resolves : ResolvesAll known change)
    (clauses : Clauses) : clauses.Resolves known (clauses.mapValues change) where
  select := by
    apply forall₂_map_self
    intro item
    refine ⟨rfl, ?_⟩
    cases item.value with
    | none => exact .none
    | some value => exact .some (resolves value)
  groupBy := forall₂_map_self resolves _
  having := forall₂_map_self resolves _
  orderBy := forall₂_map_self (fun sort => ⟨resolves sort.key, rfl⟩) _
  rest := rfl

theorem Query.resolves_mapValues {change : Expr → Expr} (resolves : ResolvesAll known change)
    (query : Query) (deferred : List (String × List Nat)) (log : Log) :
    query.Resolves known
      { query.mapValues change with
        functions := { (query.mapValues change).functions with deferred }
        log } where
  patterns _ p found :=
    ⟨_, (List.getElem?_map ..).trans (congrArg (Option.map _) found), p.resolves_mapValues resolves⟩
  clauses := query.clauses.resolves_mapValues resolves
  definitions := forall₂_map_self (fun entry => ⟨rfl, rfl, rfl, resolves entry.2.body⟩) _
  rest := rfl

theorem Clauses.Resolves.refl (clauses : Clauses) : clauses.Resolves known clauses where
  select := by
    rw [List.forall₂_same]
    intro item _
    refine ⟨rfl, ?_⟩
    cases item.value with
    | none => exact .none
    | some value => exact .some (.refl value)
  groupBy := List.forall₂_same.mpr fun e _ => .refl e
  having := List.forall₂_same.mpr fun e _ => .refl e
  orderBy := List.forall₂_same.mpr fun sort _ => ⟨.refl sort.key, rfl⟩
  rest := rfl

namespace Query

theorem Resolves.refl (query : Query) : query.Resolves known query where
  patterns _ p found := ⟨p, found, .same p⟩
  clauses := .refl query.clauses
  definitions := List.forall₂_same.mpr fun entry _ => ⟨rfl, rfl, rfl, .refl entry.2.body⟩
  rest := by cases query; rfl

theorem resolves_settled (query : Query) :
    query.Resolves (query.functions.isDefined ·) query.settled := by
  rw [settled]
  split
  · exact .refl query
  · exact query.resolves_mapValues (Expr.resolves_resolved fun _ => id) _ _

theorem resolves_resolved_reporting (query : Query) (reports : List Diagnostic) :
    query.Resolves (query.functions.isDefined ·) (query.resolved.reporting reports) :=
  query.resolves_mapValues (Expr.resolves_resolved fun _ => id) _ _

end Query

namespace Build

theorem ends_resolves_settleCalls (query : Query) :
    Ends settleCalls query (fun _ => query.Resolves (query.functions.isDefined ·))
      fun _ => query.Resolves (query.functions.isDefined ·) :=
  (ends_settleCalls query).imp (fun _ _ equal => equal ▸ query.resolves_settled)
    fun _ _ stopped => by
      rcases stopped with ⟨report, _, _, _, rfl⟩
      exact query.resolves_resolved_reporting [report]

end Build

end Sparql
