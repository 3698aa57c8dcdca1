import Sparql.Query.Deferred

/-!
Where expressions stand in a query: in conditions and bindings among its patterns, in its projection
and in its solution modifiers. `Alike` yields of two queries that they have the same expressions and
subqueries in the same places, and the same functions.
-/

namespace Sparql

/-! ## Expressions -/

def Pattern.value? {Sub : Type} : Pattern Sub → Option Expr
  | filter condition => some condition
  | bind value _ => some value
  | _ => none

def Clauses.expressions (clauses : Clauses) : List Expr :=
  clauses.select.filterMap (·.value) ++ clauses.groupBy ++ clauses.having ++
    clauses.orderBy.map (·.key)

namespace Query

def expressions (query : Query) : List Expr :=
  query.arena.patterns.filterMap Pattern.value? ++ query.clauses.expressions

end Query

theorem Pattern.value?_mapValues (change : Expr → Expr) (p : Pattern Query) :
    (p.mapValues change).value? = p.value?.map change := by
  cases p <;> rfl

theorem Query.expressions_mapValues (change : Expr → Expr) (query : Query) :
    (query.mapValues change).expressions = query.expressions.map change := by
  simp [expressions, mapValues, Clauses.expressions, Clauses.mapValues, List.filterMap_map,
    List.map_filterMap, Function.comp_def, Pattern.value?_mapValues]

/-! ## Places -/

def Pattern.place? : Pattern Query → Option (Pattern Query)
  | filter condition => some (filter condition)
  | bind value target => some (bind value target)
  | subquery sub => some (subquery sub)
  | _ => none

theorem Pattern.value?_eq (p : Pattern Query) : p.value? = p.place?.bind Pattern.value? := by
  cases p <;> rfl

theorem Pattern.eq_of_place? {p place : Pattern Query} (here : p.place? = some place) :
    p = place := by
  cases p <;> simp_all [Pattern.place?]

namespace Query

/-- The same functions, and the same expressions and subqueries in the same places. Other patterns
may be added. -/
structure Alike (query query' : Query) : Prop where
  functions : query'.functions = query.functions
  normalized : query'.normalized = query.normalized
  clauses : query'.clauses.expressions = query.clauses.expressions
  places : ∃ added, query'.arena.patterns.map Pattern.place? =
    query.arena.patterns.map Pattern.place? ++ List.replicate added none

namespace Alike

variable {query query' query'' : Query}

theorem refl (query : Query) : query.Alike query := ⟨rfl, rfl, rfl, 0, by simp⟩

theorem trans (first : query.Alike query') (second : query'.Alike query'') :
    query.Alike query'' where
  functions := second.functions.trans first.functions
  normalized := second.normalized.trans first.normalized
  clauses := second.clauses.trans first.clauses
  places := by
    rcases first.places with ⟨count, places⟩
    rcases second.places with ⟨count', places'⟩
    refine ⟨count + count', ?_⟩
    rw [places', places, List.append_assoc, List.replicate_append_replicate]

theorem expressions (alike : query.Alike query') : query'.expressions = query.expressions := by
  have values (query : Query) : query.arena.patterns.filterMap Pattern.value? =
      (query.arena.patterns.map Pattern.place?).filterMap (·.bind Pattern.value?) := by
    rw [List.filterMap_map]
    exact congrFun (congrArg List.filterMap (funext Pattern.value?_eq)) _
  rcases alike.places with ⟨added, places⟩
  rw [Query.expressions, Query.expressions, alike.clauses, values, values, places,
    List.filterMap_append]
  simp

theorem get?_iff (alike : query.Alike query') {p : Pattern Query} (place : p.place? = some p)
    (id : PatternId) : query'.arena.get? id = some p ↔ query.arena.get? id = some p := by
  have found (query : Query) : query.arena.get? id = some p ↔
      (query.arena.patterns.map Pattern.place?)[id]? = some (some p) := by
    rw [List.getElem?_map, Arena.get?]
    constructor
    · intro here
      rw [here, Option.map_some, place]
    · intro here
      rcases Option.map_eq_some_iff.mp here with ⟨p', here', equal⟩
      rw [here', Pattern.eq_of_place? equal]
  rcases alike.places with ⟨added, places⟩
  rw [found, found, places, List.getElem?_append]
  split
  · rfl
  · next outside =>
      rw [List.getElem?_eq_none (Nat.le_of_not_lt outside), List.getElem?_replicate]
      split <;> simp

end Alike

/-! ## Additions -/

/-- The same functions, and no expressions and subqueries but those that were there and those that
may be added. -/
structure Adds (added : List Expr) (may : Query → Prop) (query query' : Query) : Prop where
  functions : query'.functions = query.functions
  normalized : query'.normalized = query.normalized
  expressions : ∀ e ∈ query'.expressions, e ∈ query.expressions ∨ e ∈ added
  parts : ∀ sub, .subquery sub ∈ query'.arena.patterns →
    .subquery sub ∈ query.arena.patterns ∨ may sub

section

variable {added : List Expr} {may : Query → Prop} {query query' query'' : Query}

theorem adds_nothing (arena : query'.arena = query.arena) (clauses : query'.clauses = query.clauses)
    (functions : query'.functions = query.functions)
    (normalized : query'.normalized = query.normalized) : query.Adds added may query' where
  functions := functions
  normalized := normalized
  expressions e member := by
    rw [expressions, arena, clauses] at member
    exact .inl member
  parts sub member := .inl (arena ▸ member)

theorem Adds.trans (first : query.Adds added may query') (second : query'.Adds added may query'') :
    query.Adds added may query'' where
  functions := second.functions.trans first.functions
  normalized := second.normalized.trans first.normalized
  expressions e member := (second.expressions e member).elim (first.expressions e) .inr
  parts sub member := (second.parts sub member).elim (first.parts sub) .inr

theorem Alike.adds (alike : query.Alike query') (added : List Expr) (may : Query → Prop) :
    query.Adds added may query' where
  functions := alike.functions
  normalized := alike.normalized
  expressions _ member := .inl (alike.expressions ▸ member)
  parts sub member := by
    rcases List.getElem?_of_mem member with ⟨id, found⟩
    exact .inl (List.mem_of_getElem? ((alike.get?_iff rfl id).mp found))

theorem adds_push (query : Query) {p : Pattern Query} (given : ∀ e, p.value? = some e → e ∈ added)
    (part : ∀ sub, p = .subquery sub → may sub) :
    query.Adds added may { query with arena := query.arena.push p } := by
  refine ⟨rfl, rfl, fun e member => ?_, fun sub member => ?_⟩
  · simp only [expressions, Arena.push, List.filterMap_append, List.mem_append] at member ⊢
    rcases member with (there | here) | there
    · exact .inl (.inl there)
    · rcases List.mem_filterMap.mp here with ⟨p', equal, value⟩
      exact .inr (given e (List.mem_singleton.mp equal ▸ value))
    · exact .inl (.inr there)
  · rcases List.mem_append.mp member with there | here
    · exact .inl there
    · exact .inr (part sub (List.mem_singleton.mp here).symm)

theorem adds_set (query : Query) (id : PatternId) {p : Pattern Query} (plain : p.value? = none)
    (part : ∀ sub, p = .subquery sub → may sub) :
    query.Adds added may { query with arena := query.arena.set id p } := by
  refine ⟨rfl, rfl, fun e member => .inl ?_, fun sub member => ?_⟩
  · simp only [expressions, Arena.set, List.mem_append] at member ⊢
    rcases member with here | there
    · rcases List.mem_filterMap.mp here with ⟨p', inside, value⟩
      rcases List.mem_or_eq_of_mem_set inside with old | equal
      · exact .inl (List.mem_filterMap.mpr ⟨p', old, value⟩)
      · rw [equal, plain] at value
        cases value
    · exact .inr there
  · exact (List.mem_or_eq_of_mem_set member).imp_right fun equal => part sub equal.symm

theorem adds_clauses (query : Query) {change : Clauses → Clauses}
    (given : ∀ clauses, ∀ e ∈ (change clauses).expressions, e ∈ clauses.expressions ∨ e ∈ added) :
    query.Adds added may { query with clauses := change query.clauses } := by
  refine ⟨rfl, rfl, fun e member => ?_, fun _ => .inl⟩
  simp only [expressions, List.mem_append] at member ⊢
  rcases member with there | here
  · exact .inl (.inl there)
  · exact (given _ e here).imp_left .inr

end

/-! ## Changes that keep the places -/

theorem alike_push (query : Query) {p : Pattern Query} (plain : p.place? = none) :
    query.Alike { query with arena := query.arena.push p } :=
  ⟨rfl, rfl, rfl, 1, by simp [Arena.push, plain]⟩

theorem alike_clauses (query : Query) {change : Clauses → Clauses}
    (same : ∀ clauses, (change clauses).expressions = clauses.expressions) :
    query.Alike { query with clauses := change query.clauses } :=
  ⟨rfl, rfl, same query.clauses, 0, by simp⟩

theorem expressions_select (clauses : Clauses) (target : Variable) :
    (if target.occursIn clauses.selected then clauses
      else { clauses with select := clauses.select ++ [{ target }] }).expressions =
      clauses.expressions := by
  split
  · rfl
  · simp [Clauses.expressions]

end Query

end Sparql
