import Sparql.Proofs.Adoption
import Sparql.Proofs.Union.Described

/-!
Queries whose patterns are turned, brought into form. Their patterns are turned then as well, as are
the templates that are made of the triples of their bodies: `Query.Turns.formed`.
-/

namespace Sparql

open Build

def Clauses.formed (clauses : Clauses) : Clauses :=
  { clauses with
    limit := if clauses.form = .ask then 1 else clauses.limit
    construct :=
      if clauses.form = .construct ∨ clauses.form = .update then
        clauses.construct.or clauses.insert
      else clauses.construct }

theorem Query.formed_eq_self {query : Query} (unlimited : query.clauses.form ≠ .ask)
    (template : query.clauses.form = .construct ∨ query.clauses.form = .update →
      query.clauses.construct.or query.clauses.insert = query.clauses.construct) :
    { query with clauses := query.clauses.formed } = query := by
  have same : query.clauses.formed = query.clauses := by
    rw [Clauses.formed, if_neg unlimited]
    split
    · next makes => rw [template makes]
    · rfl
  rw [same]
  cases query
  rfl

theorem Build.run_bringIntoForm_plain {query : Query} (described : query.clauses.form ≠ .describe)
    (adopted : query.LacksTemplate → query.clauses.body = none) :
    bringIntoForm.run query =
      .ok () { query with clauses := query.clauses.formed, normalized := true } := by
  suffices run : normalizeForm.run query =
      .ok () { query with clauses := query.clauses.formed } by
    rw [bringIntoForm, EStateM.run_bind, run]
    rfl
  rw [normalizeForm, EStateM.run_bind, EStateM.run_get]
  dsimp only
  cases form : query.clauses.form with
  | describe => exact absurd form described
  | select =>
      rw [Query.formed_eq_self (by simp [form]) (by simp [form])]
      rfl
  | ask => simp [Clauses.formed, form, modifyClauses]
  | update => simp [Clauses.formed, form, normalizeUpdate, modifyClauses]
  | construct =>
      cases template : query.clauses.construct with
      | some _ =>
          rw [Query.formed_eq_self (by simp [form]) (by simp [template])]
          simp [normalizeConstruct, template]
      | none =>
          cases insert : query.clauses.insert with
          | some _ =>
              simp [normalizeConstruct, Clauses.formed, form, template, insert, modifyClauses]
          | none =>
              have here := adopted (.inl ⟨form, template, insert⟩)
              rw [Query.formed_eq_self (by simp [form]) (by simp [template, insert])]
              simp [normalizeConstruct, template, insert, here]
  | delete =>
      rw [Query.formed_eq_self (by simp [form]) (by simp [form])]
      cases template : query.clauses.delete with
      | some _ => simp [normalizeDelete, template]
      | none =>
          have here := adopted (.inr ⟨form, template⟩)
          simp [normalizeDelete, template, here]

theorem Build.exists_run_normalizeDescribe {query query' : Query}
    (form : query.clauses.form = .describe) (run : bringIntoForm.run query = .ok () query') :
    ∃ described, normalizeDescribe.run query = .ok () described ∧
      query' = { described with normalized := true } := by
  have describes : normalizeForm.run query = normalizeDescribe.run query := by
    rw [normalizeForm, EStateM.run_bind, EStateM.run_get]
    simp only [form]
  rw [bringIntoForm, EStateM.run_bind, describes] at run
  cases ran : normalizeDescribe.run query with
  | ok _ described =>
      rw [ran] at run
      cases run
      exact ⟨described, rfl, rfl⟩
  | error _ _ =>
      rw [ran] at run
      cases run

theorem Clauses.body_adopting (clauses : Clauses) (template : PatternId) :
    (clauses.adopting template).body = clauses.body := by
  rw [adopting]
  split <;> rfl

namespace Query.Turns

variable {query query' : Query}

theorem turned (turns : query.Turns Query.Agrees query') (sound : query.Sound) :
    Query.Turned query.clauses [] [] query query' where
  clauses := (Clauses.selecting_nil _).symm
  clauses' := by rw [Clauses.selecting_nil, turns.clauses]
  alike := .refl []
  distinct := List.nodup_nil
  distinct' := List.nodup_nil
  all _ := ⟨rfl, rfl⟩
  size := turns.patterns.size_eq
  ledger := by
    rw [turns.rest]
    rfl
  checked := by rw [turns.rest]
  body _ here := turns.patterns.turned (sound.body here).fits
  roots root member := by
    refine turns.patterns.turned (sound root ?_).fits
    rw [matched, List.append_assoc]
    exact List.mem_append_right _ member

theorem adopting (turns : query.Turns Query.Agrees query') (sound : query.Sound)
    (lacks : query.LacksTemplate) {body : PatternId} (here : query.clauses.body = some body)
    {ids ids' : List PatternId} (collected : query.arena.triplesBelow body = .ok ids)
    (collected' : query'.arena.triplesBelow body = .ok ids') :
    Query.Turned (query.clauses.adopting query.arena.size) [] [] (query.adopting ids)
      (query'.adopting ids') := by
  have size := turns.patterns.size_eq
  have rest := turns.turned sound
  have added (query : Query) (ids : List PatternId) :
      query.arena.patterns <+: (query.adopting ids).arena.patterns := List.prefix_append _ _
  have kept {hides : Prop} {id : PatternId}
      (turned : Arena.Turned False query.arena query'.arena id) :
      Arena.Turned hides (query.adopting ids).arena (query'.adopting ids').arena id :=
    turned.of_added (added query ids) (added query' ids')
  have turned : Arena.Turned False query.arena query'.arena body :=
    turns.patterns.turned (sound.body here).fits
  have fits := (sound.body here).fits
  have fits' := ((turns.sound sound).body (turns.clauses ▸ here)).fits
  have below (id : PatternId) : id ∈ ids ↔ query.arena.Yields body id := by
    have under : id ∈ query.arena.triplesUnder body ↔ query.arena.Yields body id :=
      Arena.mem_triplesUnder fits
    rwa [Arena.triplesUnder, collected] at under
  have members (id : PatternId) : id ∈ ids ↔ id ∈ ids' := by
    have under := turned.mem_triplesUnder fits fits' id
    rwa [Arena.triplesUnder, collected, Arena.triplesUnder, collected'] at under
  have template : Arena.Turned False (query.adopting ids).arena (query'.adopting ids').arena
      query.arena.size := by
    refine .triples ((Arena.get?_push ..).trans (if_pos rfl)) ?_ members fun cell member => ?_
    · rw [← size]
      exact (Arena.get?_push ..).trans (if_pos rfl)
    · have yields := (below cell).mp member
      rcases yields.2 with ⟨t, found⟩
      have found' := (turned.get?_below yields).trans found
      exact ⟨t, Arena.get?_of_added (added query ids) found,
        Arena.get?_of_added (added query' ids') found'⟩
  constructor
  · exact (Clauses.selecting_nil _).symm
  · rw [Clauses.selecting_nil, Query.adopting, size, turns.clauses]
  · exact .refl []
  · exact List.nodup_nil
  · exact List.nodup_nil
  · exact fun _ => ⟨rfl, rfl⟩
  · rw [Query.adopting, Query.adopting, Arena.size_push, Arena.size_push, size]
  · exact rest.ledger
  · exact rest.checked
  · intro root root'
    rw [Clauses.body_adopting, here] at root'
    cases root'
    exact kept turned
  · intro root member
    have old : root ∈ query.selectTested ++ query.templates ∨ root = query.arena.size := by
      rcases lacks with ⟨form, _⟩ | ⟨form, none⟩
      · rw [Query.selectTested, Query.templates, Query.adopting,
          Clauses.adopting_construct form] at member
        exact .inl member
      · rw [Query.selectTested, Query.templates, Query.adopting,
          Clauses.adopting_delete form] at member
        rcases List.mem_append.mp member with tested | template
        · exact .inl (List.mem_append_left _ tested)
        · rcases List.mem_append.mp template with insert | delete
          · exact .inl (List.mem_append_right _ (List.mem_append_left _ insert))
          · exact .inr (List.mem_singleton.mp delete)
    rcases old with old | rfl
    · exact kept (rest.roots root old)
    · exact template

theorem formed {start start' : Query} (turns : start.Turns Query.Agrees start')
    (sound : start.Sound) (run : bringIntoForm.run start = .ok () query)
    (run' : bringIntoForm.run start' = .ok () query') :
    ∃ base added added', Query.Turned base added added' query query' := by
  have clauses := turns.clauses
  have sound' := turns.sound sound
  have form : start'.clauses.form = start.clauses.form := by rw [clauses]
  have lacks' (lacks : start.LacksTemplate) : start'.LacksTemplate := by
    rwa [LacksTemplate, clauses]
  by_cases describes : start.clauses.form = .describe
  · rcases exists_run_normalizeDescribe describes run with ⟨described, described', rfl⟩
    rcases exists_run_normalizeDescribe (form.trans describes) run' with ⟨other, other', rfl⟩
    rcases turns.describes sound describes described' other' with ⟨base, added, added', turned⟩
    exact ⟨base, added, added', turned.clauses, turned.clauses', turned.alike, turned.distinct,
      turned.distinct', turned.all, turned.size, turned.ledger, turned.checked, turned.body,
      turned.roots⟩
  · by_cases adopts : start.LacksTemplate → start.clauses.body = none
    · have adopts' : start'.LacksTemplate → start'.clauses.body = none := by
        rwa [LacksTemplate, clauses]
      have plain := run_bringIntoForm_plain describes adopts
      have plain' := run_bringIntoForm_plain (form ▸ describes) adopts'
      cases run.symm.trans plain
      cases run'.symm.trans plain'
      refine ⟨_, [], [], Query.Turns.turned ⟨?_, turns.patterns⟩ sound⟩
      rw [turns.rest]
    · rcases Classical.not_imp.mp adopts with ⟨lacks, some⟩
      rcases Option.ne_none_iff_exists'.mp some with ⟨body, here⟩
      rcases Arena.triplesBelow_ok (sound.body here).fits with ⟨ids, collected, _⟩
      have here' : start'.clauses.body = .some body := clauses ▸ here
      rcases Arena.triplesBelow_ok (sound'.body here').fits with ⟨ids', collected', _⟩
      cases run.symm.trans (run_bringIntoForm_of_lacks lacks here collected)
      cases run'.symm.trans (run_bringIntoForm_of_lacks (lacks' lacks) here' collected')
      exact ⟨_, [], [], turns.adopting sound lacks here collected collected'⟩

end Query.Turns

end Sparql
