import Sparql.Proofs.Describe.Returns

/-!
Queries whose patterns form a tree: each is referred to from one place at most. Such a query is
sound, `IsTree.sound`, and nothing leads to a pattern that a clause refers to,
`IsTree.eq_of_reaches`.
-/

namespace Sparql.Query

/-- Which patterns are referred to, by the clauses that a check descends from and by other patterns,
each as often as it is. -/
def references (query : Query) : List PatternId :=
  query.roots ++ query.arena.patterns.flatMap Pattern.parts

structure IsTree (query : Query) : Prop where
  allocated : ∀ id ∈ query.references, id < query.arena.size
  unique : query.references.Nodup

namespace IsTree

variable {query query' : Query}

theorem congr (tree : query.IsTree) (roots : query'.roots = query.roots)
    (parts : query'.arena.patterns.map Pattern.parts = query.arena.patterns.map Pattern.parts) :
    query'.IsTree := by
  have references : query'.references = query.references := by
    rw [Query.references, Query.references, roots, List.flatMap_def, List.flatMap_def, parts]
  refine ⟨?_, ?_⟩
  · rw [references, Arena.size_of_map parts]
    exact tree.allocated
  · rw [references]
    exact tree.unique

/-! ## References -/

theorem mem_parts_of_refers {id child : PatternId} (refers : query.arena.Refers id child) :
    child ∈ query.arena.patterns.flatMap Pattern.parts := by
  rcases refers with ⟨p, found, member⟩
  exact List.mem_flatMap.mpr ⟨p, List.mem_of_getElem? found, member⟩

theorem not_refers_root (tree : query.IsTree) {root : PatternId} (member : root ∈ query.roots)
    (id : PatternId) : ¬ query.arena.Refers id root := by
  intro refers
  have apart := (List.nodup_append'.mp tree.unique).2.2
  exact apart member (mem_parts_of_refers refers)

theorem eq_of_refers (tree : query.IsTree) {id id' child : PatternId}
    (refers : query.arena.Refers id child) (refers' : query.arena.Refers id' child) : id = id' := by
  have unique := (List.nodup_append'.mp tree.unique).2.1
  have apart := (List.nodup_flatMap.mp unique).2
  rcases refers with ⟨p, found, member⟩
  rcases refers' with ⟨p', found', member'⟩
  rcases List.getElem?_eq_some_iff.mp found with ⟨inside, rfl⟩
  rcases List.getElem?_eq_some_iff.mp found' with ⟨inside', rfl⟩
  by_contra different
  rcases Nat.lt_or_gt_of_ne different with below | above
  · exact List.pairwise_iff_getElem.mp apart id id' inside inside' below member member'
  · exact List.pairwise_iff_getElem.mp apart id' id inside' inside above member' member

theorem eq_of_reaches (tree : query.IsTree) {id root : PatternId} (member : root ∈ query.roots)
    (reaches : query.arena.Reaches id root) : id = root := by
  rcases reaches.cases_tail with rfl | ⟨last, _, refers⟩
  · rfl
  · exact absurd refers (tree.not_refers_root member last)

/-! ## Soundness -/

theorem cycle_of_reaches (tree : query.IsTree) {id next : PatternId}
    (reaches : query.arena.Reaches id next)
    (cycle : Relation.TransGen query.arena.Refers next next) :
    Relation.TransGen query.arena.Refers id id := by
  induction reaches using Relation.ReflTransGen.head_induction_on with
  | refl => exact cycle
  | head refers _ cycle =>
      rcases Relation.TransGen.tail'_iff.mp cycle with ⟨last, onward, refers'⟩
      rcases tree.eq_of_refers refers refers' with rfl
      exact .head' refers onward

theorem sound (tree : query.IsTree) : query.Sound := by
  intro root member
  refine ⟨fun id reaches => ?_, fun id reaches cycle => ?_⟩
  · rcases reaches.cases_tail with rfl | ⟨last, _, refers⟩
    · exact tree.allocated _ (List.mem_append_left _ member)
    · exact tree.allocated _ (List.mem_append_right _ (mem_parts_of_refers refers))
  · rcases Relation.TransGen.tail'_iff.mp (tree.cycle_of_reaches reaches cycle) with
      ⟨last, _, refers⟩
    exact tree.not_refers_root member last refers

theorem nodup_roots (tree : query.IsTree) : query.roots.Nodup :=
  (List.nodup_append'.mp tree.unique).1

end IsTree

end Sparql.Query
