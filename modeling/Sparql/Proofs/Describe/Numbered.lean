import Sparql.Proofs.Describe.Shape

/-!
Where descriptions stand. Their patterns and their variables are numbered on from those that were
there, and so they are told by the described terms and by where they start: `ends_describeNumbered`.
-/

namespace Sparql

namespace Description

/-- The patterns of a description of the term, where patterns, variables and triples are numbered
from these on. -/
def patterns (start vars triples : Nat) (term : Expr) : List (Pattern Query) :=
  let fresh (count : Nat) : Expr := .var { name := (Name.var (vars + count)).text }
  [.triple { number := triples, subject := term, predicate := fresh 0, object := fresh 1 },
    .triple
      { number := triples + 1, subject := fresh 3, predicate := fresh 2, object := term },
    .group [start], .group [start + 1], .union (start + 2) (start + 3), .optional (start + 4)]

def allPatterns (start vars triples : Nat) : List Expr → List (Pattern Query)
  | [] => []
  | term :: rest =>
    patterns start vars triples term ++ allPatterns (start + 6) (vars + 4) (triples + 2) rest

/-- The unions of so many descriptions, and these unions as optional parts. -/
def places (start : Nat) : (count : Nat) → List (PatternId × PatternId)
  | 0 => []
  | count + 1 => (start + 4, start + 5) :: places (start + 6) count

theorem length_allPatterns (start vars triples : Nat) (terms : List Expr) :
    (allPatterns start vars triples terms).length = 6 * terms.length := by
  induction terms generalizing start vars triples with
  | nil => rfl
  | cons term rest induction =>
      rw [allPatterns, List.length_append, induction, List.length_cons, Nat.mul_succ,
        Nat.add_comm]
      rfl

theorem isSubquery_of_mem_allPatterns {start vars triples : Nat} {terms : List Expr}
    {p : Pattern Query} (member : p ∈ allPatterns start vars triples terms) :
    p.isSubquery = false := by
  induction terms generalizing start vars triples with
  | nil => cases member
  | cons term rest induction =>
      rcases List.mem_append.mp member with here | later
      · have all : ∀ p ∈ patterns start vars triples term, p.isSubquery = false := by
          simp [patterns, Pattern.isSubquery]
        exact all p here
      · exact induction later

end Description

def Arena.DescribesFrom (arena : Arena Query) (start : Nat) (term : Expr) : Prop :=
  ∃ vars triples, ∀ offset p, (Description.patterns start vars triples term)[offset]? = some p →
    arena.get? (start + offset) = some p

theorem Description.exists_of_mem_places {arena : Arena Query} {after : List (Pattern Query)}
    {terms : List Expr} {before : List (Pattern Query)} {vars triples : Nat}
    (patterns : arena.patterns =
      before ++ allPatterns before.length vars triples terms ++ after)
    {place : PatternId × PatternId} (member : place ∈ places before.length terms.length) :
    ∃ start, place = (start + 4, start + 5) ∧ ∃ term ∈ terms, arena.DescribesFrom start term := by
  induction terms generalizing before vars triples with
  | nil => cases member
  | cons term rest induction =>
      rw [allPatterns] at patterns
      rcases List.mem_cons.mp member with rfl | later
      · refine ⟨before.length, rfl, term, List.mem_cons_self .., vars, triples, ?_⟩
        intro offset p here
        rw [Arena.get?, patterns, List.append_assoc, List.append_assoc,
          List.getElem?_append_right (Nat.le_add_right ..), Nat.add_sub_cancel_left]
        exact (List.getElem?_append_left (List.getElem?_eq_some_iff.mp here).1).trans here
      · have size : (before ++ Description.patterns before.length vars triples term).length =
            before.length + 6 := List.length_append
        rw [← List.append_assoc, ← size] at patterns
        rw [← size] at later
        rcases induction patterns later with ⟨start, place, term', member', describes⟩
        exact ⟨start, place, term', List.mem_cons_of_mem _ member', describes⟩

namespace Query

/-- The other query has these patterns after its own, and has numbered on from its own numbers. -/
structure Gains (added : List (Pattern Query)) (vars triples : Nat) (query query' : Query) :
    Prop where
  clauses : query'.clauses = query.clauses
  patterns : query'.arena.patterns = query.arena.patterns ++ added
  vars : query'.supply.vars = query.supply.vars + vars
  triples : query'.supply.triples = query.supply.triples + triples

namespace Gains

variable {added added' : List (Pattern Query)} {vars vars' triples triples' : Nat}
  {query query' query'' : Query}

theorem trans (first : query.Gains added vars triples query')
    (second : query'.Gains added' vars' triples' query'') :
    query.Gains (added ++ added') (vars + vars') (triples + triples') query'' where
  clauses := second.clauses.trans first.clauses
  patterns := by rw [second.patterns, first.patterns, List.append_assoc]
  vars := by rw [second.vars, first.vars, Nat.add_assoc]
  triples := by rw [second.triples, first.triples, Nat.add_assoc]

theorem size_eq (gains : query.Gains added vars triples query') :
    query'.arena.size = query.arena.size + added.length := by
  rw [Arena.size, gains.patterns, List.length_append]
  rfl

theorem extends' (gains : query.Gains added vars triples query') : query.Extends vars query' :=
  ⟨gains.clauses, ⟨added, gains.patterns.symm⟩, gains.vars⟩

end Gains

def naming (query : Query) : Clauses :=
  { query.clauses.selecting (query.missing query.bound) with describe := query.named query.bound }

/-- After the patterns of the query stand the descriptions of the terms, then the new body, and at
last the template. -/
structure Arranges (terms : List Expr) (query query' : Query) : Prop where
  patterns : query'.arena.patterns = query.arena.patterns ++
    Description.allPatterns query.arena.size query.supply.vars query.supply.triples terms ++
    [.group (query.bodyPartIds ++ (Description.places query.arena.size terms.length).map (·.2)),
      .group ((Description.places query.arena.size terms.length).map (·.1))]
  body : query'.clauses.body = some (query.arena.size + 6 * terms.length)
  template : query'.clauses.construct = some (query.arena.size + 6 * terms.length + 1)

namespace Arranges

variable {terms : List Expr} {query query' : Query} (arranges : query.Arranges terms query')

include arranges

theorem size_eq : query'.arena.size = query.arena.size + 6 * terms.length + 2 := by
  rw [Arena.size, arranges.patterns, List.length_append, List.length_append,
    Description.length_allPatterns]
  rfl

theorem get?_body : query'.arena.get? (query.arena.size + 6 * terms.length) =
    some (.group
      (query.bodyPartIds ++ (Description.places query.arena.size terms.length).map (·.2))) := by
  have size : (query.arena.patterns ++ Description.allPatterns query.arena.size query.supply.vars
      query.supply.triples terms).length = query.arena.size + 6 * terms.length := by
    rw [List.length_append, Description.length_allPatterns]
    rfl
  rw [Arena.get?, arranges.patterns, ← size, List.getElem?_append_right (Nat.le_refl _),
    Nat.sub_self]
  rfl

end Arranges

end Query

namespace Build

theorem ends_numberedVariable (query : Query) :
    Ends freshVariable query
      (fun v query' => query.Gains [] 1 0 query' ∧
        v = { name := (Name.var query.supply.vars).text })
      fun _ _ => False := by
  simp only [freshVariable, ofName_var, ends_bind, ends_get, ends_modify, ends_pure]
  exact ⟨⟨rfl, (List.append_nil _).symm, rfl, rfl⟩, trivial⟩

theorem ends_numberedPattern (p : Pattern Query) (query : Query) :
    Ends (push p) query
      (fun id query' => query.Gains [p] 0 0 query' ∧ id = query.arena.size) fun _ _ => False := by
  simp only [push, ends_bind, ends_get, ends_modify, ends_pure]
  exact ⟨⟨rfl, rfl, rfl, rfl⟩, trivial⟩

theorem ends_numberedTriple (subject node object : Expr) (query : Query) :
    Ends (triple subject { node } object) query
      (fun id query' =>
        query.Gains [.triple
          { number := query.supply.triples, subject, predicate := node, object }] 0 1 query' ∧
          id = query.arena.size)
      fun _ _ => False := by
  simp only [triple, Option.mapM_none, push, ends_bind, ends_pure, ends_get, ends_modify]
  split
  · exact ⟨⟨rfl, rfl, rfl, rfl⟩, rfl⟩
  · exact ⟨⟨rfl, rfl, rfl, rfl⟩, rfl⟩

theorem ends_known_bind {α : Type} {id : PatternId} {query : Query}
    (inside : id < query.arena.size) {x : Build α} {returns : α → Query → Prop}
    {fails : Failure → Query → Prop} (ends : Ends x query returns fails) :
    Ends (known id >>= fun _ => x) query returns fails := by
  rw [ends_bind, known, ends_discard, ends_pattern, Arena.get?, List.getElem?_eq_getElem inside]
  exact ends

theorem ends_numberedUnion {left right : PatternId} {query : Query}
    (inside : left < query.arena.size) (inside' : right < query.arena.size) :
    Ends (union left right) query
      (fun id query' => query.Gains [.union left right] 0 0 query' ∧ id = query.arena.size)
      fun _ _ => False :=
  ends_known_bind inside (ends_known_bind inside' (ends_numberedPattern _ query))

theorem ends_numberedOptional {body : PatternId} {query : Query}
    (inside : body < query.arena.size) :
    Ends (optional body) query
      (fun id query' => query.Gains [.optional body] 0 0 query' ∧ id = query.arena.size)
      fun _ _ => False :=
  ends_known_bind inside (ends_numberedPattern _ query)

theorem ends_numberedDescription (term : Expr) (query : Query) :
    Ends (description term) query
      (fun ids query' =>
        query.Gains (Description.patterns query.arena.size query.supply.vars query.supply.triples
          term) 4 2 query' ∧
        ids = (query.arena.size + 4, query.arena.size + 5))
      fun _ _ => False := by
  apply (ends_numberedVariable query).bind
  rintro _ query₁ ⟨named₁, rfl⟩
  apply (ends_numberedVariable query₁).bind
  rintro _ query₂ ⟨named₂, rfl⟩
  apply (ends_numberedVariable query₂).bind
  rintro _ query₃ ⟨named₃, rfl⟩
  apply (ends_numberedVariable query₃).bind
  rintro _ query₄ ⟨named₄, rfl⟩
  have named := ((named₁.trans named₂).trans named₃).trans named₄
  have vars₁ : query₁.supply.vars = query.supply.vars + 1 := named₁.vars
  have vars₂ : query₂.supply.vars = query.supply.vars + 2 := (named₁.trans named₂).vars
  have vars₃ : query₃.supply.vars = query.supply.vars + 3 :=
    ((named₁.trans named₂).trans named₃).vars
  have size₄ : query₄.arena.size = query.arena.size := named.size_eq
  have triples₄ : query₄.supply.triples = query.supply.triples := named.triples
  apply (ends_numberedTriple ..).bind
  rintro _ query₅ ⟨added₁, rfl⟩
  have with₁ := named.trans added₁
  have size₅ : query₅.arena.size = query.arena.size + 1 := with₁.size_eq
  have triples₅ : query₅.supply.triples = query.supply.triples + 1 := with₁.triples
  apply (ends_numberedTriple ..).bind
  rintro _ query₆ ⟨added₂, rfl⟩
  have with₂ := with₁.trans added₂
  have size₆ : query₆.arena.size = query.arena.size + 2 := with₂.size_eq
  apply (ends_numberedPattern _ query₆).bind
  rintro _ query₇ ⟨added₃, rfl⟩
  have with₃ := with₂.trans added₃
  have size₇ : query₇.arena.size = query.arena.size + 3 := with₃.size_eq
  apply (ends_numberedPattern _ query₇).bind
  rintro _ query₈ ⟨added₄, rfl⟩
  have with₄ := with₃.trans added₄
  have size₈ : query₈.arena.size = query.arena.size + 4 := with₄.size_eq
  have left : query₆.arena.size < query₈.arena.size := by omega
  have right : query₇.arena.size < query₈.arena.size := by omega
  apply (ends_numberedUnion left right).bind
  rintro _ query₉ ⟨added₅, rfl⟩
  have with₅ := with₄.trans added₅
  have size₉ : query₉.arena.size = query.arena.size + 5 := with₅.size_eq
  have inside : query₈.arena.size < query₉.arena.size := by omega
  apply (ends_numberedOptional inside).bind
  rintro _ query' ⟨added₆, rfl⟩
  have with₆ := with₅.trans added₆
  rw [vars₁, vars₂, vars₃, size₄, triples₄, size₅, triples₅, size₆, size₇, size₈] at with₆
  rw [size₈, size₉]
  exact ⟨with₆, rfl⟩

/-! ## All descriptions -/

theorem ends_numberedDescriptions (terms : List Expr) (query : Query) :
    Ends (terms.mapM description) query
      (fun ids query' =>
        query.Gains (Description.allPatterns query.arena.size query.supply.vars
          query.supply.triples terms) (4 * terms.length) (2 * terms.length) query' ∧
        ids = Description.places query.arena.size terms.length)
      fun _ _ => False := by
  induction terms generalizing query with
  | nil =>
      rw [List.mapM_nil, ends_pure]
      exact ⟨⟨rfl, (List.append_nil _).symm, rfl, rfl⟩, rfl⟩
  | cons term rest induction =>
      rw [List.mapM_cons]
      apply (ends_numberedDescription term query).bind
      rintro _ query₁ ⟨first, rfl⟩
      apply (induction query₁).bind
      rintro _ query₂ ⟨others, rfl⟩
      have size : query₁.arena.size = query.arena.size + 6 := first.size_eq
      have all := first.trans others
      rw [size, first.vars, first.triples] at all
      rw [size]
      refine ⟨?_, ?_⟩
      · rw [List.length_cons, Nat.mul_succ, Nat.mul_succ, Nat.add_comm _ 4, Nat.add_comm _ 2]
        exact all
      · rfl

/-! ## Queries -/

theorem ends_numberedPlaces {query : Query} (known : KnowsBody query) (parts : List PatternId)
    (are : query.bodyPartIds = parts) (ids : List (PatternId × PatternId)) :
    Ends (placeDescriptions ids) query
      (fun _ query' =>
        query'.arena.patterns = query.arena.patterns ++
          [.group (parts ++ ids.map (·.2)), .group (ids.map (·.1))] ∧
        query'.clauses.body = some query.arena.size ∧
        query'.clauses.construct = some (query.arena.size + 1))
      fun _ _ => False := by
  apply (ends_bodyParts known).bind
  rintro _ query ⟨rfl, rfl⟩
  rw [are]
  apply (ends_numberedPattern _ query).bind
  rintro _ query₁ ⟨added₁, rfl⟩
  rw [ends_bind, modifyClauses, ends_modify]
  apply (ends_numberedPattern _ _).bind
  rintro _ query₂ ⟨added₂, rfl⟩
  have size : query₁.arena.size = query.arena.size + 1 := added₁.size_eq
  rw [modifyClauses, ends_modify]
  refine ⟨?_, ?_, ?_⟩
  · exact added₂.patterns.trans (by rw [added₁.patterns, List.append_assoc]; rfl)
  · exact congrArg Clauses.body added₂.clauses
  · exact congrArg some size

theorem ends_arrangeNamed {query : Query} (known : KnowsBody query) :
    Ends describeNamed query (fun _ query' => query.Arranges (described query.clauses) query')
      fun _ _ => False := by
  rw [describeNamed, ends_bind, ends_get]
  apply (ends_numberedDescriptions _ query).bind
  rintro _ query₁ ⟨gains, rfl⟩
  rw [ends_bind, modifyClauses, ends_modify]
  have known₁ := known.of_extends gains.extends'
  have parts := bodyPartIds_of_extends gains.extends' known
  have size := gains.size_eq
  rw [Description.length_allPatterns] at size
  refine (ends_numberedPlaces ?_ query.bodyPartIds ?_ _).imp ?_ fun _ _ => id
  · exact known₁
  · exact parts
  rintro _ query' ⟨patterns, body, template⟩
  refine ⟨patterns.trans ?_, body.trans (congrArg some size), template.trans ?_⟩
  · exact congrArg (· ++ _) gains.patterns
  · exact congrArg (fun size => some (size + 1)) size

theorem ends_arrange (query : Query) :
    Ends normalizeDescribe query (fun _ query' => query.Arranges (described query.naming) query')
      fun _ _ => query.Unbindable := by
  rw [normalizeDescribe_eq]
  apply (ends_bodyVariables query).bind
  rintro _ query ⟨rfl, rfl, known⟩
  rw [ends_bind, ends_get, Query.naming, Query.named, Query.missing]
  cases all : query.clauses.selectAll with
  | false =>
      have none : query.clauses.selecting (if false = true then
          Variable.unseen query.clauses.selected query.bound else []) = query.clauses :=
        Clauses.selecting_nil _
      rw [none]
      exact (ends_arrangeNamed known).imp (fun _ _ => id) fun _ _ => False.elim
  | true =>
      rw [if_pos rfl, ends_bind]
      refine .of_run_ok (run_describeAll query.bound query) ?_
      refine (ends_arrangeNamed ?_).imp ?_ fun _ _ => False.elim
      · exact known
      rintro _ query' arranges
      exact ⟨arranges.patterns, arranges.body, arranges.template⟩

end Build

end Sparql
