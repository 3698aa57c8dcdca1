import Sparql.Proofs.Union.Formed

/-!
Queries with the branches of unions exchanged, in the queries themselves or in their subqueries. A
check does not show that: `Query.Exchanged.agrees`.
-/

namespace Sparql

/-! ## Turned arenas -/

namespace Arena.Turns

variable {nested nested' : Query → Query → Prop} {arena arena' : Arena Query}

theorem exists_get?_of_turned (turns : Turns nested arena arena') {id : PatternId}
    {p' : Pattern Query} (found : arena'.get? id = some p') :
    ∃ p, arena.get? id = some p ∧ Pattern.Turns nested p p' := by
  rcases List.getElem?_eq_some_iff.mp found with ⟨inside, equal⟩
  have inside' : id < arena.patterns.length := turns.length_eq ▸ inside
  exact ⟨_, List.getElem?_eq_getElem inside', equal ▸ turns.get inside' inside⟩

theorem imp (turns : Turns nested arena arena')
    (weaker : ∀ sub sub', .subquery sub ∈ arena.patterns → nested sub sub' → nested' sub sub') :
    Turns nested' arena arena' := by
  rw [Turns] at turns ⊢
  generalize arena.patterns = patterns, arena'.patterns = patterns' at turns weaker
  induction turns with
  | nil => exact .nil
  | @cons p p' rest rest' here _ induction =>
      refine .cons ?_ (induction fun sub sub' member => weaker sub sub' (.tail _ member))
      cases here with
      | same plain => exact .same plain
      | union left right => exact .union left right
      | subquery inside => exact .subquery (weaker _ _ (.head _) inside)

theorem holdsTriple (turns : Turns nested arena arena') {id : PatternId}
    (holds : arena.HoldsTriple id) : arena'.HoldsTriple id := by
  rcases holds with ⟨t, found⟩
  rcases turns.exists_get? found with ⟨p', found', same⟩
  cases same
  exact ⟨t, found'⟩

theorem cellsAreTriples (turns : Turns nested arena arena') (cells : arena.CellsAreTriples) :
    arena'.CellsAreTriples := by
  intro id head cells' found' cell member
  rcases turns.exists_get?_of_turned found' with ⟨p, found, same⟩
  cases same
  exact turns.holdsTriple (cells id head cells' found cell member)

end Arena.Turns

namespace Query

/-! ## Exchanged branches -/

/-- The branches of some unions are exchanged, in the query or in its subqueries, and nothing else
is changed. -/
inductive Exchanged : Query → Query → Prop
  | intro {query query' : Query} (rest : query' = { query with arena := query'.arena })
      (patterns : List.Forall₂ (Pattern.Turns Exchanged) query.arena.patterns
        query'.arena.patterns) : Exchanged query query'

/-- What a check needs of a query and what it writes down, as it is of those that are built. -/
structure Firm (query : Query) : Prop where
  checkable : query.Checkable
  cells : query.arena.CellsAreTriples
  sincere : query.log.Sincere

namespace Exchanged

variable {query query' : Query}

theorem refl (query : Query) : query.Exchanged query := by
  -- The induction is on the level of the query.
  induction equal : query.level using Nat.strong_induction_on generalizing query with
  | h level induction =>
      have patterns : List.Forall₂ (Pattern.Turns Exchanged) query.arena.patterns
          query.arena.patterns := by
        refine List.forall₂_same.mpr fun p member => ?_
        rcases List.getElem?_of_mem member with ⟨id, found⟩
        cases p with
        | subquery sub => exact .subquery (induction _ (equal ▸ level_lt_of_get? found) sub rfl)
        | _ => exact .same rfl
      cases query
      exact .intro rfl patterns

theorem turns (exchanged : query.Exchanged query') : query.Turns Exchanged query' := by
  cases exchanged with
  | intro rest patterns => exact ⟨rest, patterns⟩

theorem everywhere {property : Query → Prop}
    (keeps : ∀ query query' : Query, query.Exchanged query' → property query → property query')
    (exchanged : query.Exchanged query') (holds : query.Everywhere property) :
    query'.Everywhere property := by
  induction holds generalizing query' with
  | intro here _ induction =>
      refine .intro (keeps _ _ exchanged here) fun sub' part => ?_
      rcases part with ⟨id, found'⟩
      rcases exchanged.turns.patterns.exists_get?_of_turned found' with ⟨p, found, same⟩
      cases same with
      | same plain => cases plain
      | subquery inside => exact induction _ ⟨id, found⟩ inside

theorem firm (exchanged : query.Exchanged query') (firm : query.Everywhere Firm) :
    query'.Everywhere Firm := by
  refine exchanged.everywhere (fun query query' exchanged firm => ?_) firm
  have turns := exchanged.turns
  refine ⟨⟨?_, turns.sound firm.checkable.sound⟩, turns.patterns.cellsAreTriples firm.cells, ?_⟩
  · rw [turns.rest]
    exact firm.checkable.lenient
  · rw [turns.rest]
    exact firm.sincere

end Exchanged

theorem Everywhere.ready_of_firm {query : Query} (firm : query.Everywhere Firm) : query.Ready :=
  (firm.imp fun _ => Firm.checkable).ready (firm.imp fun _ => Firm.cells)

theorem Turned.agrees_of_firm {base : Clauses} {added added' : List Variable}
    {query query' : Query} (turned : Turned base added added' query query')
    (firm : query.Everywhere Firm) (firm' : query'.Everywhere Firm) : query.Agrees query' :=
  turned.agrees firm.ready_of_firm firm'.ready_of_firm firm.here.checkable.lenient
    firm'.here.checkable.lenient (firm.imp fun _ => Firm.sincere)

theorem Exchanged.agrees {query query' : Query} (exchanged : query.Exchanged query')
    (firm : query.Everywhere Firm) : query.Agrees query' := by
  -- The induction is on the tree of queries.
  induction equal : query.level using Nat.strong_induction_on generalizing query query' with
  | h level induction =>
      have turns := exchanged.turns
      have nested : query.Turns Query.Agrees query' := by
        refine ⟨turns.rest, turns.patterns.imp fun sub sub' member inside => ?_⟩
        rcases List.getElem?_of_mem member with ⟨id, found⟩
        exact induction sub.level (equal ▸ level_lt_of_get? found) inside
          (firm.part ⟨id, found⟩) rfl
      exact (nested.turned firm.here.checkable.sound).agrees_of_firm firm (exchanged.firm firm)

end Query

namespace Build

def withUnion (left right : PatternId) (query : Query) : Query :=
  if (query.arena.get? left).isSome && (query.arena.get? right).isSome then
    { query with arena := query.arena.push (.union left right) }
  else query

theorem after_union (left right : PatternId) (query : Query) :
    (union left right).after query = withUnion left right query := by
  have ends : Ends (union left right) query (fun _ query' => query' = withUnion left right query)
      fun _ query' => query' = withUnion left right query := by
    rw [union, known, known, ends_bind, ends_discard, ends_pattern, withUnion]
    cases query.arena.get? left with
    | none => rfl
    | some p =>
        dsimp only
        rw [ends_bind, ends_discard, ends_pattern]
        cases query.arena.get? right with
        | none => rfl
        | some p' => rfl
  exact ends.after

theorem exchanged_union (left right : PatternId) (query : Query) :
    ((union left right).after query).Exchanged ((union right left).after query) := by
  rw [after_union, after_union, withUnion, withUnion, Bool.and_comm]
  split
  · refine .intro rfl (List.rel_append ?_ (.cons (.union left right) .nil))
    exact (Query.Exchanged.refl query).turns.patterns
  · exact .refl query

end Build

end Sparql
