import Sparql.Proofs.Names
import Sparql.Query.Normalize

/-!
Descriptions of terms. Each is made of patterns of its own and of the next four variables, so that
no two descriptions share any: `ends_descriptions`.
-/

namespace Sparql

/-! ## Descriptions -/

/-- Where a description stands: its union, and that union as an optional part. And the variables of
its two triples. -/
structure Description where
  either : PatternId
  optional : PatternId
  predicate : Variable
  value : Variable
  predicate' : Variable
  value' : Variable

def Arena.HoldsAlone (arena : Arena Query) (id : PatternId) (nodes : List Expr) : Prop :=
  ∃ cell t, arena.get? id = some (.group [cell]) ∧ arena.get? cell = some (.triple t) ∧
    t.nodes = nodes ∧ t.path = none

namespace Description

def vars (description : Description) : List Variable :=
  [description.predicate, description.value, description.predicate', description.value']

/-- The description is of the term: it asks for the triples from the term and those to it. -/
structure Of (arena : Arena Query) (term : Expr) (description : Description) : Prop where
  optional : arena.get? description.optional = some (.optional description.either)
  either : ∃ outgoing incoming,
    arena.get? description.either = some (.union outgoing incoming) ∧
    arena.HoldsAlone outgoing [term, .var description.predicate, .var description.value] ∧
    arena.HoldsAlone incoming [.var description.value', .var description.predicate', term]

/-- The description was added to those patterns that were there. -/
structure After (arena : Arena Query) (description : Description) : Prop where
  either : arena.size ≤ description.either
  optional : arena.size ≤ description.optional

end Description

/-! ## Additions -/

def Query.nextVars (query : Query) (count : Nat) : List Variable :=
  (List.range' query.supply.vars count).map fun number => { name := (Name.var number).text }

/-- Patterns were added, and so many variables were made up. -/
structure Query.Extends (count : Nat) (query query' : Query) : Prop where
  clauses : query'.clauses = query.clauses
  patterns : query.arena.patterns <+: query'.arena.patterns
  vars : query'.supply.vars = query.supply.vars + count

namespace Query.Extends

variable {count count' : Nat} {query query' query'' : Query}

theorem refl (query : Query) : query.Extends 0 query := ⟨rfl, List.prefix_refl _, rfl⟩

theorem trans (first : query.Extends count query') (second : query'.Extends count' query'') :
    query.Extends (count + count') query'' where
  clauses := second.clauses.trans first.clauses
  patterns := first.patterns.trans second.patterns
  vars := by rw [second.vars, first.vars, Nat.add_assoc]

theorem get? (extends' : query.Extends count query') {id : PatternId} {p : Pattern Query}
    (found : query.arena.get? id = some p) : query'.arena.get? id = some p :=
  Arena.get?_of_added extends'.patterns found

theorem size_le (extends' : query.Extends count query') : query.arena.size ≤ query'.arena.size :=
  extends'.patterns.length_le

theorem holdsAlone (extends' : query.Extends count query') {id : PatternId} {nodes : List Expr}
    (holds : query.arena.HoldsAlone id nodes) : query'.arena.HoldsAlone id nodes := by
  rcases holds with ⟨cell, t, group, triple, nodes, path⟩
  exact ⟨cell, t, extends'.get? group, extends'.get? triple, nodes, path⟩

theorem of (extends' : query.Extends count query') {term : Expr} {description : Description}
    (holds : description.Of query.arena term) : description.Of query'.arena term where
  optional := extends'.get? holds.optional
  either := by
    rcases holds.either with ⟨outgoing, incoming, union, alone, alone'⟩
    exact ⟨outgoing, incoming, extends'.get? union, extends'.holdsAlone alone,
      extends'.holdsAlone alone'⟩

theorem nextVars (extends' : query.Extends count query') (count' : Nat) :
    query.nextVars (count + count') = query.nextVars count ++ query'.nextVars count' := by
  have apart : List.range' query.supply.vars (count + count') =
      List.range' query.supply.vars count ++ List.range' query'.supply.vars count' := by
    rw [extends'.vars, List.range'_append_1]
  rw [Query.nextVars, Query.nextVars, Query.nextVars, apart, List.map_append]

end Query.Extends

namespace Build

theorem ends_freshVariable (query : Query) :
    Ends freshVariable query
      (fun v query' => query.Extends 1 query' ∧ query.nextVars 1 = [v]) fun _ _ => False := by
  simp only [freshVariable, ofName_var, ends_bind, ends_get, ends_modify, ends_pure]
  exact ⟨⟨rfl, List.prefix_refl _, rfl⟩, rfl⟩

theorem ends_added (p : Pattern Query) (query : Query) :
    Ends (push p) query
      (fun id query' => query.Extends 0 query' ∧ query.arena.size ≤ id ∧
        query'.arena.get? id = some p)
      fun _ _ => False := by
  simp only [push, ends_bind, ends_get, ends_modify, ends_pure]
  refine ⟨⟨rfl, List.prefix_append _ _, rfl⟩, Nat.le_refl _, ?_⟩
  rw [Arena.get?_push, if_pos rfl]

theorem ends_pathless (subject node object : Expr) (query : Query) :
    Ends (triple subject { node } object) query
      (fun id query' => query.Extends 0 query' ∧
        ∃ t, query'.arena.get? id = some (.triple t) ∧ t.nodes = [subject, node, object] ∧
          t.path = none)
      fun _ _ => False := by
  simp only [triple, Option.mapM_none, push, ends_bind, ends_pure, ends_get, ends_modify]
  have added (t : Triple) : (query.arena.push (.triple t)).get? query.arena.size =
      some (.triple t) :=
    (Arena.get?_push ..).trans (if_pos rfl)
  split
  · exact ⟨⟨rfl, List.prefix_append _ _, rfl⟩, _, added _, rfl, rfl⟩
  · exact ⟨⟨rfl, List.prefix_append _ _, rfl⟩, _, added _, rfl, rfl⟩

theorem ends_union {left right : PatternId} {query : Query} {p p' : Pattern Query}
    (found : query.arena.get? left = some p) (found' : query.arena.get? right = some p') :
    Ends (union left right) query
      (fun id query' => query.Extends 0 query' ∧ query.arena.size ≤ id ∧
        query'.arena.get? id = some (.union left right))
      fun _ _ => False := by
  rw [union, known, known, ends_bind, ends_discard, ends_pattern, found]
  dsimp only
  rw [ends_bind, ends_discard, ends_pattern, found']
  exact ends_added _ query

theorem ends_optional {body : PatternId} {query : Query} {p : Pattern Query}
    (found : query.arena.get? body = some p) :
    Ends (optional body) query
      (fun id query' => query.Extends 0 query' ∧ query.arena.size ≤ id ∧
        query'.arena.get? id = some (.optional body))
      fun _ _ => False := by
  rw [optional, known, ends_bind, ends_discard, ends_pattern, found]
  exact ends_added _ query

/-! ## One description -/

theorem ends_description (term : Expr) (query : Query) :
    Ends (description term) query
      (fun ids query' => ∃ made : Description, ids = (made.either, made.optional) ∧
        query.Extends 4 query' ∧ made.Of query'.arena term ∧ made.After query.arena ∧
        made.vars = query.nextVars 4)
      fun _ _ => False := by
  apply (ends_freshVariable query).bind
  rintro p query₁ ⟨named₁, vars₁⟩
  apply (ends_freshVariable query₁).bind
  rintro v query₂ ⟨named₂, vars₂⟩
  apply (ends_freshVariable query₂).bind
  rintro p' query₃ ⟨named₃, vars₃⟩
  apply (ends_freshVariable query₃).bind
  rintro v' query₄ ⟨named₄, vars₄⟩
  apply (ends_pathless ..).bind
  rintro cell query₅ ⟨added₁, t, found, nodes, path⟩
  apply (ends_pathless ..).bind
  rintro cell' query₆ ⟨added₂, t', found', nodes', path'⟩
  apply (ends_added (.group [cell]) query₆).bind
  rintro outgoing query₇ ⟨added₃, _, group⟩
  apply (ends_added (.group [cell']) query₇).bind
  rintro incoming query₈ ⟨added₄, _, group'⟩
  apply (ends_union (added₄.get? group) group').bind
  rintro either query₉ ⟨added₅, sizeEither, union⟩
  apply (ends_optional union).bind
  rintro part query' ⟨added₆, sizePart, optional⟩
  have named : query.Extends 4 query₄ := ((named₁.trans named₂).trans named₃).trans named₄
  have vars : query.nextVars 4 = [p, v, p', v'] := by
    calc query.nextVars 4
        = query.nextVars 1 ++ (query₁.nextVars 1 ++ (query₂.nextVars 1 ++ query₃.nextVars 1)) := by
          rw [← named₃.nextVars, ← named₂.nextVars, ← named₁.nextVars]
      _ = [p, v, p', v'] := by rw [vars₁, vars₂, vars₃, vars₄]; rfl
  have before : query.Extends 4 query₈ := (named.trans (added₁.trans added₂)).trans
    (added₃.trans added₄)
  have after := added₅.trans added₆
  refine ⟨⟨either, part, p, v, p', v'⟩, rfl, before.trans after, ⟨optional, outgoing, incoming,
    added₆.get? union, ?_, ?_⟩, ⟨before.size_le.trans sizeEither,
    (before.trans added₅).size_le.trans sizePart⟩, vars.symm⟩
  · exact after.holdsAlone
      ⟨cell, t, added₄.get? group, (added₃.trans added₄).get? (added₂.get? found), nodes, path⟩
  · exact after.holdsAlone
      ⟨cell', t', group', (added₃.trans added₄).get? found', nodes', path'⟩

/-! ## All descriptions -/

theorem ends_descriptions (terms : List Expr) (query : Query) :
    Ends (terms.mapM description) query
      (fun ids query' => ∃ descriptions : List Description,
        ids = descriptions.map (fun made => (made.either, made.optional)) ∧
        query.Extends (4 * terms.length) query' ∧
        List.Forall₂ (Description.Of query'.arena) terms descriptions ∧
        (∀ made ∈ descriptions, made.After query.arena) ∧
        descriptions.flatMap (·.vars) = query.nextVars (4 * terms.length))
      fun _ _ => False := by
  induction terms generalizing query with
  | nil =>
      rw [List.mapM_nil, ends_pure]
      exact ⟨[], rfl, .refl query, .nil, by simp, by simp [Query.nextVars]⟩
  | cons term rest induction =>
      rw [List.mapM_cons]
      apply (ends_description term query).bind
      rintro _ query₁ ⟨made, rfl, added, is, after, vars⟩
      apply (induction query₁).bind
      rintro _ query₂ ⟨others, rfl, added', are, afters, vars'⟩
      have count : 4 * (term :: rest).length = 4 + 4 * rest.length := by
        rw [List.length_cons]
        omega
      refine ⟨made :: others, rfl, ?_, .cons (added'.of is) are, ?_, ?_⟩
      · rw [count]
        exact added.trans added'
      · intro other member
        rcases List.mem_cons.mp member with rfl | member
        · exact after
        · have later := afters other member
          exact ⟨added.size_le.trans later.either, added.size_le.trans later.optional⟩
      · rw [count, added.nextVars, List.flatMap_cons, vars, vars']

end Build

end Sparql
