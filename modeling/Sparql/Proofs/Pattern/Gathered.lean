import Sparql.Proofs.Pattern.Reach

/-!
The triples below a pattern, and their order. They are those that the children of patterns lead to,
and each pattern is left before the next one is entered: `gathers_of_triplesBelow`,
`Gathers.mem_iff`.
-/

namespace Sparql.Arena

variable {Sub : Type} {arena arena' : Arena Sub}

/-- The triples found by visiting patterns from left to right. A triple is found itself, and in
place of any other pattern its children are visited. -/
inductive Gathers (arena : Arena Sub) : List PatternId → List PatternId → Prop
  | nil : Gathers arena [] []
  | triple {id : PatternId} {t : Triple} {rest found : List PatternId}
      (here : arena.get? id = some (.triple t)) (onward : Gathers arena rest found) :
      Gathers arena (id :: rest) (id :: found)
  | parts {id : PatternId} {p : Pattern Sub} {rest inner found : List PatternId}
      (here : arena.get? id = some p) (other : p.isTriple = false)
      (inside : Gathers arena p.children inner) (onward : Gathers arena rest found) :
      Gathers arena (id :: rest) (inner ++ found)

def Contains (arena : Arena Sub) : PatternId → PatternId → Prop :=
  Relation.ReflTransGen fun id child => ∃ p, arena.get? id = some p ∧ child ∈ p.children

namespace Gathers

variable {pending pending' found found' : List PatternId}

theorem unique (gathers : arena.Gathers pending found) (gathers' : arena.Gathers pending found') :
    found = found' := by
  induction gathers generalizing found' with
  | nil =>
      cases gathers'
      rfl
  | triple here _ onward =>
      cases gathers' with
      | triple _ onward' => rw [onward onward']
      | parts here' other _ _ =>
          cases here.symm.trans here'
          cases other
  | parts here other _ _ inside onward =>
      cases gathers' with
      | triple here' _ =>
          cases here.symm.trans here'
          cases other
      | parts here' _ inside' onward' =>
          cases here.symm.trans here'
          rw [inside inside', onward onward']

theorem of_append (gathers : arena.Gathers (pending ++ pending') found) :
    ∃ first second, found = first ++ second ∧ arena.Gathers pending first ∧
      arena.Gathers pending' second := by
  induction pending generalizing found with
  | nil => exact ⟨[], found, rfl, .nil, gathers⟩
  | cons id rest induction =>
      cases gathers with
      | triple here onward =>
          rcases induction onward with ⟨first, second, rfl, before, after⟩
          exact ⟨id :: first, second, rfl, .triple here before, after⟩
      | @parts _ _ _ inner _ here other inside onward =>
          rcases induction onward with ⟨first, second, rfl, before, after⟩
          exact ⟨inner ++ first, second, (List.append_assoc ..).symm,
            .parts here other inside before, after⟩

theorem of_added (added : arena.patterns <+: arena'.patterns)
    (gathers : arena.Gathers pending found) : arena'.Gathers pending found := by
  induction gathers with
  | nil => exact .nil
  | triple here _ onward => exact .triple (get?_of_added added here) onward
  | parts here other _ _ inside onward =>
      exact .parts (get?_of_added added here) other inside onward

theorem congr (same : arena'.patterns.map (fun p => (p.isTriple, p.children)) =
    arena.patterns.map fun p => (p.isTriple, p.children))
    (gathers : arena.Gathers pending found) : arena'.Gathers pending found := by
  have there {id : PatternId} {p : Pattern Sub} (here : arena.get? id = some p) :
      ∃ p', arena'.get? id = some p' ∧ p'.isTriple = p.isTriple ∧ p'.children = p.children := by
    rcases exists_get?_of_map same here with ⟨p', found, equal⟩
    exact ⟨p', found, (Prod.mk.inj equal).1, (Prod.mk.inj equal).2⟩
  induction gathers with
  | nil => exact .nil
  | triple here _ onward =>
      rcases there here with ⟨p', here', isTriple, _⟩
      rcases holdsTriple_of_isTriple here' isTriple with ⟨t, triple⟩
      exact .triple triple onward
  | parts here other _ _ inside onward =>
      rcases there here with ⟨p', here', isTriple, children⟩
      rw [← children] at inside
      exact .parts here' (isTriple.trans other) inside onward

theorem mem_iff (gathers : arena.Gathers pending found) {id : PatternId} :
    id ∈ found ↔ ∃ root ∈ pending, arena.Contains root id ∧ arena.HoldsTriple id := by
  induction gathers with
  | nil => simp
  | @triple root t rest found here _ onward =>
      rw [List.mem_cons, List.exists_mem_cons_iff, onward]
      refine or_congr ⟨?_, ?_⟩ .rfl
      · rintro rfl
        exact ⟨.refl, t, here⟩
      · rintro ⟨contains, _⟩
        rcases contains.cases_head with rfl | ⟨_, ⟨p, here', child⟩, _⟩
        · rfl
        · cases here.symm.trans here'
          cases child
  | @parts root p rest inner found here other _ _ inside onward =>
      rw [List.mem_append, List.exists_mem_cons_iff, inside, onward]
      refine or_congr ⟨?_, ?_⟩ .rfl
      · rintro ⟨child, member, contains, triple⟩
        exact ⟨.head ⟨p, here, member⟩ contains, triple⟩
      · rintro ⟨contains, triple⟩
        rcases contains.cases_head with rfl | ⟨child, ⟨p', here', member⟩, below⟩
        · rcases triple with ⟨t, here'⟩
          cases here.symm.trans here'
          cases other
        · cases here.symm.trans here'
          exact ⟨child, member, below, triple⟩

end Gathers

theorem gathers_of_collectTriples {found ids : List PatternId} {pending : List (Nat × PatternId)}
    (collected : arena.collectTriples found pending = .ok ids) :
    ∃ later, arena.Gathers (pending.map (·.2)) later ∧ ids = found.reverse ++ later := by
  induction found, pending using collectTriples.induct arena generalizing ids with
  | case1 found =>
      rw [collectTriples] at collected
      cases collected
      exact ⟨[], .nil, (List.append_nil _).symm⟩
  | case2 found id pending =>
      rw [collectTriples] at collected
      cases collected
  | case3 found levels id pending missing =>
      rw [collectTriples_cons_none missing] at collected
      cases collected
  | case4 found levels id pending p known isTriple induction =>
      rw [collectTriples_cons known, if_pos isTriple] at collected
      rcases induction collected with ⟨later, gathers, rfl⟩
      rcases holdsTriple_of_isTriple known isTriple with ⟨t, here⟩
      exact ⟨id :: later, .triple here gathers, by simp⟩
  | case5 found levels id pending p known other induction =>
      rw [collectTriples_cons known, if_neg other] at collected
      rcases induction collected with ⟨later, gathers, rfl⟩
      rw [List.map_append, List.map_map] at gathers
      rcases gathers.of_append with ⟨inner, rest, rfl, inside, onward⟩
      have children : p.children.map ((·.2) ∘ fun child => (levels, child)) = p.children :=
        List.map_id _
      rw [children] at inside
      exact ⟨inner ++ rest, .parts known (Bool.eq_false_iff.mpr other) inside onward, rfl⟩

theorem gathers_of_triplesBelow {root : PatternId} {ids : List PatternId}
    (collected : arena.triplesBelow root = .ok ids) : arena.Gathers [root] ids := by
  rcases gathers_of_collectTriples collected with ⟨later, gathers, rfl⟩
  exact gathers

theorem triplesBelow_of_added {root : PatternId} {ids : List PatternId}
    (added : arena.patterns <+: arena'.patterns) (sound : arena.Sound root)
    (collected : arena.triplesBelow root = .ok ids) : arena'.triplesBelow root = .ok ids := by
  have sound' := sound.of_keepsParts (keepsParts_of_added added)
  rcases triplesBelow_ok sound'.fits with ⟨ids', collected', _⟩
  have gathers := (gathers_of_triplesBelow collected).of_added added
  rw [collected', gathers.unique (gathers_of_triplesBelow collected')]

end Sparql.Arena
