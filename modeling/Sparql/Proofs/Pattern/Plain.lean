import Sparql.Proofs.Pattern.Gathered

/-!
Arenas with the same patterns, whatever is in their subqueries. What is asked of such an arena
without a look into its subqueries has the same answer in the other one.
-/

namespace Sparql

namespace Pattern

def plain? {Sub : Type} : Pattern Sub → Option (Pattern Sub)
  | subquery _ => none
  | p => some p

theorem parts_of_plain? {Sub : Type} {p p' : Pattern Sub} (plain : p'.plain? = p.plain?) :
    p'.parts = p.parts := by
  cases p <;> cases p' <;> cases plain <;> rfl

theorem eq_or_subquery {Sub : Type} {p p' : Pattern Sub} (plain : p'.plain? = p.plain?) :
    p' = p ∨ (∃ sub, p = subquery sub) ∧ ∃ sub', p' = subquery sub' := by
  cases p <;> cases p' <;> cases plain <;> simp

end Pattern

namespace Arena

variable {Sub : Type} {arena arena' : Arena Sub}

theorem get?_of_frame
    (frame : arena'.patterns.map Pattern.plain? = arena.patterns.map Pattern.plain?)
    (id : PatternId) :
    (arena'.get? id).map Pattern.plain? = (arena.get? id).map Pattern.plain? := by
  have here := congrArg (·[id]?) frame
  rwa [List.getElem?_map, List.getElem?_map] at here

theorem get?_of_plain
    (frame : arena'.patterns.map Pattern.plain? = arena.patterns.map Pattern.plain?)
    {id : PatternId} {p : Pattern Sub} (found : arena.get? id = some p)
    (plain : p.plain? = some p) : arena'.get? id = some p := by
  have here := get?_of_frame frame id
  rw [found, Option.map_some, Option.map_eq_some_iff] at here
  rcases here with ⟨p', found', same⟩
  rcases Pattern.eq_or_subquery same with rfl | ⟨⟨sub, rfl⟩, _⟩
  · exact found'
  · cases plain

theorem exists_subquery_of_frame
    (frame : arena'.patterns.map Pattern.plain? = arena.patterns.map Pattern.plain?)
    {id : PatternId} {sub : Sub} (found : arena.get? id = some (.subquery sub)) :
    ∃ sub', arena'.get? id = some (.subquery sub') := by
  have here := get?_of_frame frame id
  rw [found, Option.map_some, Option.map_eq_some_iff] at here
  rcases here with ⟨p', found', plain⟩
  rcases Pattern.eq_or_subquery plain with rfl | ⟨_, sub', rfl⟩
  · exact ⟨sub, found'⟩
  · exact ⟨sub', found'⟩

theorem keepsParts_of_frame
    (frame : arena'.patterns.map Pattern.plain? = arena.patterns.map Pattern.plain?) :
    arena.KeepsParts arena' := by
  intro id p found
  have here := get?_of_frame frame id
  rw [found, Option.map_some, Option.map_eq_some_iff] at here
  rcases here with ⟨p', found', plain⟩
  exact ⟨p', found', Pattern.parts_of_plain? plain⟩

theorem triplesBelow_of_frame
    (frame : arena'.patterns.map Pattern.plain? = arena.patterns.map Pattern.plain?)
    (root : PatternId) : arena'.triplesBelow root = arena.triplesBelow root := by
  have same (found : List PatternId) (pending : List (Nat × PatternId)) :
      arena'.collectTriples found pending = arena.collectTriples found pending := by
    induction found, pending using collectTriples.induct arena with
    | case1 found => rw [collectTriples, collectTriples]
    | case2 found id pending => rw [collectTriples, collectTriples]
    | case3 found levels id pending missing =>
        have missing' := get?_of_frame frame id
        rw [missing, Option.map_none, Option.map_eq_none_iff] at missing'
        rw [collectTriples_cons_none missing, collectTriples_cons_none missing']
    | case4 found levels id pending p known isTriple induction =>
        have known' := get?_of_frame frame id
        rw [known, Option.map_some, Option.map_eq_some_iff] at known'
        rcases known' with ⟨p', known', plain⟩
        rw [collectTriples_cons known, collectTriples_cons known', if_pos isTriple, ← induction]
        rcases Pattern.eq_or_subquery plain with rfl | ⟨⟨sub, rfl⟩, _⟩
        · rw [if_pos isTriple]
        · cases isTriple
    | case5 found levels id pending p known other induction =>
        have known' := get?_of_frame frame id
        rw [known, Option.map_some, Option.map_eq_some_iff] at known'
        rcases known' with ⟨p', known', plain⟩
        rw [collectTriples_cons known, collectTriples_cons known', if_neg other, ← induction]
        rcases Pattern.eq_or_subquery plain with rfl | ⟨⟨sub, rfl⟩, sub', rfl⟩
        · rw [if_neg other]
        · rfl
  rw [triplesBelow, triplesBelow, levels, levels, size_of_map frame, same]

end Arena

end Sparql
