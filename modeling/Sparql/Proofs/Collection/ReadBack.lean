import Sparql.Proofs.Fresh

/-!
Collections are lists that can be read back. From the node that a collection begins with, its
triples lead through cells that nothing else in the query names, each with one item and one next
node, up to `rdf:nil`.
-/

namespace Sparql

/-! ## Reading -/

def objects (said : List (Expr × Expr × Expr)) (node : Expr) (property : String) : List Expr :=
  (said.filter fun (subject, predicate, _) =>
    subject.same node && predicate.same (.const (.iri property))).map fun (_, _, object) => object

/-- The cells of the list that begins with a node, with their items. Each cell has to have a single
item and a single next node, and in so many steps the list has to end. -/
def listFrom (said : List (Expr × Expr × Expr)) (steps : Nat) (node : Expr) :
    Option (List (Expr × Expr)) :=
  if node.same Build.nil then some []
  else match steps with
    | 0 => none
    | steps + 1 =>
      match objects said node Vocabulary.rdfFirst, objects said node Vocabulary.rdfRest with
      | [item], [next] => (listFrom said steps next).map ((node, item) :: ·)
      | _, _ => none

namespace Build

abbrev headOf (pairs : List (Expr × Expr)) : Expr := (pairs.head?.map (·.1)).getD nil

theorem objects_statements_append {before : List (Expr × Expr)} {node : Expr}
    (elsewhere : ∀ pair ∈ before, pair.1.same node = false) (rest : List (Expr × Expr))
    (property : String) :
    objects (statements (before ++ rest)) node property =
      objects (statements rest) node property := by
  induction before with
  | nil => rfl
  | cons pair before induction =>
      have other := elsewhere pair List.mem_cons_self
      rw [← induction fun pair' member => elsewhere pair' (List.mem_cons_of_mem _ member)]
      simp only [List.cons_append, statements, objects, List.filter_cons, other, Bool.false_and,
        Bool.false_eq_true, if_false]

theorem objects_statements_of_elsewhere {pairs : List (Expr × Expr)} {node : Expr}
    (elsewhere : ∀ pair ∈ pairs, pair.1.same node = false) (property : String) :
    objects (statements pairs) node property = [] := by
  have all := objects_statements_append elsewhere [] property
  rwa [List.append_nil] at all

theorem objects_statements_cons {node : Expr} (item : Expr) {rest : List (Expr × Expr)}
    (self : node.same node = true) (elsewhere : ∀ pair ∈ rest, pair.1.same node = false) :
    objects (statements ((node, item) :: rest)) node Vocabulary.rdfFirst = [item] ∧
      objects (statements ((node, item) :: rest)) node Vocabulary.rdfRest = [headOf rest] := by
  have none := objects_statements_of_elsewhere elsewhere
  have first := none Vocabulary.rdfFirst
  have next := none Vocabulary.rdfRest
  have same (c : Constant) : (Expr.const c).same (.const c) = true := by simp [Expr.same]
  have differ : (Expr.const (.iri Vocabulary.rdfFirst)).same (.const (.iri Vocabulary.rdfRest)) =
      false := by decide
  have differ' : (Expr.const (.iri Vocabulary.rdfRest)).same (.const (.iri Vocabulary.rdfFirst)) =
      false := by decide
  rw [objects] at first next
  constructor
  · simp [statements, objects, self, same, differ', first]
  · simp [statements, objects, self, same, differ, next]

theorem listFrom_statements (before rest : List (Expr × Expr))
    (self : ∀ pair ∈ rest, pair.1.same pair.1 = true ∧ pair.1.same nil = false)
    (distinct : (before ++ rest).Pairwise fun pair pair' =>
      pair.1.same pair'.1 = false ∧ pair'.1.same pair.1 = false) :
    listFrom (statements (before ++ rest)) rest.length (headOf rest) = some rest := by
  induction rest generalizing before with
  | nil => rfl
  | cons pair rest induction =>
      rcases pair with ⟨node, item⟩
      have nodeSelf := self (node, item) List.mem_cons_self
      rcases List.pairwise_append.mp distinct with ⟨_, restDistinct, apart⟩
      have outside : ∀ pair ∈ before, pair.1.same node = false := fun pair member =>
        (apart pair member (node, item) List.mem_cons_self).1
      have later : ∀ pair ∈ rest, pair.1.same node = false := fun pair member =>
        ((List.pairwise_cons.mp restDistinct).1 pair member).2
      have said := objects_statements_cons item nodeSelf.1 later
      have moved : before ++ (node, item) :: rest = (before ++ [(node, item)]) ++ rest := by simp
      have tail : listFrom (statements (before ++ (node, item) :: rest)) rest.length
          (headOf rest) = some rest := by
        rw [moved]
        refine induction (before ++ [(node, item)]) ?_ (moved ▸ distinct)
        exact fun pair member => self pair (List.mem_cons_of_mem _ member)
      rw [List.length_cons, listFrom]
      simp only [headOf, List.head?_cons, Option.map_some, Option.getD_some, nodeSelf.2,
        Bool.false_eq_true, if_false, objects_statements_append outside, said.1, said.2]
      rw [tail, Option.map_some]

/-! ## Cells -/

theorem listFrom_statements_zip {cells : List Variable} {items : List Expr}
    (distinct : (cells.map (·.name)).Nodup) (length : cells.length = items.length) :
    listFrom (statements ((cells.map Expr.var).zip items)) items.length
      (((cells.map Expr.var).head?).getD nil) = some ((cells.map Expr.var).zip items) := by
  have nodes : ((cells.map Expr.var).zip items).map Prod.fst = cells.map Expr.var :=
    List.map_fst_zip (by rw [List.length_map, length])
  have isCell : ∀ pair ∈ (cells.map Expr.var).zip items, ∃ cell : Variable, pair.1 = .var cell := by
    intro pair member
    have inside := List.mem_map_of_mem (f := Prod.fst) member
    rw [nodes] at inside
    rcases List.mem_map.mp inside with ⟨cell, _, equal⟩
    exact ⟨cell, equal.symm⟩
  have apart : ((cells.map Expr.var).zip items).Pairwise fun pair pair' =>
      pair.1.same pair'.1 = false ∧ pair'.1.same pair.1 = false := by
    have nodesApart : (cells.map Expr.var).Pairwise fun node node' =>
        node.same node' = false ∧ node'.same node = false := by
      refine List.pairwise_map.mpr ((List.pairwise_map.mp distinct).imp ?_)
      intro cell cell' differ
      simp [Expr.same, Variable.same, differ, differ.symm]
    rw [← nodes] at nodesApart
    exact List.pairwise_map.mp nodesApart
  have self : ∀ pair ∈ (cells.map Expr.var).zip items,
      pair.1.same pair.1 = true ∧ pair.1.same nil = false := by
    intro pair member
    rcases isCell pair member with ⟨cell, equal⟩
    simp [equal, Expr.same, Variable.same, nil]
  have read := listFrom_statements [] _ self apart
  rw [List.nil_append, headOf, ← List.head?_map, nodes] at read
  simpa [length] using read

end Build

/-! ## Fresh cells -/

/-- The variable is a blank node that is neither among these names nor any that can be written. -/
structure Variable.Fresh (names : List String) (cell : Variable) : Prop where
  blank : cell.blank = true
  unminted : cell.name ∉ names
  unnamed : ∀ label : String, '#' ∉ label.toList →
    cell.name ≠ (ofBlank label).name ∧ cell.name ≠ (Constant.ofBlank label).text

theorem mem_toList_bareLabel {label : String} {letter : Char}
    (member : letter ∈ (bareLabel label).toList) : letter ∈ label.toList := by
  rw [bareLabel] at member
  split at member
  · rename_i rest equal
    rw [String.toList_ofList] at member
    rw [equal]
    exact List.mem_cons_of_mem _ (List.mem_cons_of_mem _ member)
  · exact member

theorem blank_text_ne {label : String} (plain : '#' ∉ label.toList) (number : Nat) :
    (Name.blank number).text ≠ "_:" ++ bareLabel label := by
  intro equal
  have made : '#' ∈ (Name.blank number).text.toList := by simp [Name.text, toString]
  rw [equal, String.toList_append, List.mem_append] at made
  rcases made with prefixed | inside
  · exact absurd prefixed (by decide)
  · exact plain (mem_toList_bareLabel inside)

theorem Query.Counts.fresh {may : Operation → Prop} {query : Query} {names : List String}
    (counts : query.Counts may names) {number : Nat} (next : query.supply.blanks ≤ number) :
    Variable.Fresh names { name := (Name.blank number).text, blank := true } where
  blank := rfl
  unminted member := Nat.not_lt_of_le next ((counts.labels number).mp member)
  unnamed _ plain := ⟨blank_text_ne plain number, blank_text_ne plain number⟩

/-! ## Collections -/

/-- The triples chain so many different cells as there are items, from the head to `rdf:nil`. -/
structure Chained (items : List Expr) (head : Expr) (ts : List Triple) (cells : List Variable) :
    Prop where
  triples : ts.length = 2 * items.length
  length : cells.length = items.length
  distinct : (cells.map (·.name)).Nodup
  empty : items = [] → head = Build.nil
  read : listFrom (ts.map Triple.said) items.length head = some ((cells.map Expr.var).zip items)

/-- A collection of the items can be made and read back, and its cells are fresh. -/
def Query.ReadsBack (query : Query) (names : List String) (items : List Expr) : Prop :=
  ∃ id query' head ids ts cells,
    (Build.collection items).run query = .ok id query' ∧
    (Build.collectionHead id).run query' = .ok head query' ∧
    query'.arena.get? id = some (.collection head ids) ∧
    ids.map query'.arena.get? = ts.map (fun t => some (.triple t)) ∧
    Chained items head ts cells ∧ ∀ cell ∈ cells, cell.Fresh names

namespace Build

theorem run_collectionHead {query : Query} {id : PatternId} {head : Expr} {ids : List PatternId}
    (found : query.arena.get? id = some (.collection head ids)) :
    (collectionHead id).run query = .ok head query := by
  rw [collectionHead, EStateM.run_bind, run_pattern_ok.mpr ⟨found, rfl⟩]
  rfl

/-- Collections of all items, made in any query that can be built, are read back. -/
theorem collection_readsBack {may : Operation → Prop} {query : Query}
    {names : List PatternId → List String} (mints : query.Mints may names) (items : List Expr) :
    query.ReadsBack (names []) items := by
  rcases (ends_collection items query).exists_ok with ⟨id, query', run, _, ids, found, say⟩
  rcases say with ⟨ts, triples, said⟩
  have length := length_cellVariables query.supply.blanks items.length
  have distinct := nodup_names_cellVariables query.supply.blanks items.length
  rw [cellNodes] at found said
  refine ⟨id, query', _, ids, ts, cellVariables query.supply.blanks items.length, run,
    run_collectionHead found, found, ?_, ?_, ?_⟩
  · clear found run said
    induction triples with
    | nil => rfl
    | cons here _ induction => rw [List.map_cons, List.map_cons, here, induction]
  · refine ⟨?_, length, distinct, ?_, ?_⟩
    · rw [← List.length_map (f := Triple.said), said, length_statements, List.length_zip,
        List.length_map, length, Nat.min_self]
    · rintro rfl
      rfl
    · rw [said]
      exact listFrom_statements_zip distinct length
  · intro cell member
    rcases List.mem_map.mp member with ⟨number, inside, rfl⟩
    exact mints.counts.fresh (List.mem_range'_1.mp inside).1

theorem aboutAnonymous_readsBack :
    aboutAnonymous.Mints Operation.IsPlain oneLabel ∧
      aboutAnonymous.ReadsBack (oneLabel []) [.var (.ofName "x"), .var (.ofBlank "_b#0")] :=
  ⟨aboutAnonymous_mints, collection_readsBack aboutAnonymous_mints _⟩

end Build

end Sparql
