import Sparql.Proofs.Check.Blanks
import Sparql.Proofs.Parallel.Forms

/-!
Templates that a query adopts from its body. An adopted template holds every triple of the body, and
a check of the query does not show that there is one: `Build.adopted_normalize`.
-/

namespace Sparql

/-! ## Adopted templates -/

namespace Query

def LacksTemplate (query : Query) : Prop :=
  query.clauses.form = .construct ∧ query.clauses.construct = none ∧ query.clauses.insert = none ∨
    query.clauses.form = .delete ∧ query.clauses.delete = none

def template? (query : Query) : Option PatternId :=
  match query.clauses.form with
  | .construct => query.clauses.construct
  | .delete => query.clauses.delete
  | _ => none

/-- The template of the other query is a new group of all triples below the body, which stays. -/
structure Adopts (query : Query) (body : PatternId) (query' : Query) : Prop where
  template : ∃ template ids, query'.template? = some template ∧ query.arena.size ≤ template ∧
    query'.arena.get? template = some (.group ids) ∧ query.arena.Gathers [body] ids ∧
    ∀ id, id ∈ ids ↔ query.arena.Contains body id ∧ query.arena.HoldsTriple id
  body : query'.clauses.body = some body

end Query

def Clauses.adopting (clauses : Clauses) (template : PatternId) : Clauses :=
  match clauses.form with
  | .construct => { clauses with construct := some template }
  | _ => { clauses with delete := some template }

theorem Clauses.adopting_construct {clauses : Clauses} (form : clauses.form = .construct)
    (template : PatternId) :
    clauses.adopting template = { clauses with construct := some template } := by
  rw [adopting, form]

theorem Clauses.adopting_delete {clauses : Clauses} (form : clauses.form = .delete)
    (template : PatternId) :
    clauses.adopting template = { clauses with delete := some template } := by
  rw [adopting, form]

def Query.adopting (query : Query) (ids : List PatternId) : Query :=
  { query with
    arena := query.arena.push (.group ids)
    clauses := query.clauses.adopting query.arena.size
    normalized := true }

namespace Build

variable {query : Query} {body : PatternId} {ids : List PatternId}

theorem run_templateOf (collected : query.arena.triplesBelow body = .ok ids) :
    (templateOf body).run query =
      .ok query.arena.size { query with arena := query.arena.push (.group ids) } := by
  rw [templateOf, EStateM.run_bind, run_inspect, collected]
  rfl

theorem run_bringIntoForm_of_lacks (lacks : query.LacksTemplate)
    (here : query.clauses.body = some body) (collected : query.arena.triplesBelow body = .ok ids) :
    bringIntoForm.run query = .ok () (query.adopting ids) := by
  rw [bringIntoForm, EStateM.run_bind, normalizeForm, EStateM.run_bind, EStateM.run_get]
  dsimp only
  rcases lacks with ⟨form, none, insert⟩ | ⟨form, none⟩
  · simp only [form]
    rw [normalizeConstruct, EStateM.run_bind, EStateM.run_get]
    simp only [none, insert, here]
    rw [EStateM.run_bind, run_templateOf collected, Query.adopting,
      Clauses.adopting_construct form]
    rfl
  · simp only [form]
    rw [normalizeDelete, EStateM.run_bind, EStateM.run_get]
    simp only [none, here]
    rw [EStateM.run_bind, run_templateOf collected, Query.adopting, Clauses.adopting_delete form]
    rfl

theorem run_bringIntoForm_select (query : Query) :
    bringIntoForm.run (query.inForm .select) =
      .ok () { query.inForm .select with normalized := true } := rfl

/-! ## Checks -/

theorem idle_adopted {c : Comparison} {template : PatternId} {levels : Nat}
    (group : c.whole.get? template = some (.group ids))
    (triples : ∀ id ∈ ids, c.whole.HoldsTriple id) :
    c.Idle (checkTemplate ids (levels + 2) template template) ⟨⟩ := by
  rw [checkTemplate]
  refine (Comparison.idle_pattern group rfl).bind (Comparison.idle_forM fun id member => ?_)
  rcases triples id member with ⟨t, here⟩
  rw [checkTemplate]
  refine (Comparison.idle_pattern here rfl).bind ?_
  have skipped : id ∈ ids := member
  dsimp only
  rw [if_pos skipped]
  exact Comparison.idle_pure _

theorem sharesBody_adopting (ground : query.clauses.dataUpdate = .none) (ids : List PatternId) :
    query.SharesBody [.group ids] (query.adopting ids) := by
  have none {clauses : Clauses} (ground : clauses.dataUpdate = .none) :
      groundTemplate? clauses = none := by rw [groundTemplate?, ground]
  unfold Query.adopting Clauses.adopting
  split
  all_goals
    refine ⟨rfl, ⟨rfl, rfl, rfl, rfl⟩, rfl, rfl, rfl, rfl, rfl, ?_, fun _ => rfl⟩
    rw [none ground]
    apply none
    exact ground

theorem check_adopting (sound : query.Sound) (lacks : query.LacksTemplate)
    (ground : query.clauses.dataUpdate = .none) (here : query.clauses.body = some body)
    (collected : query.arena.triplesBelow body = .ok ids) :
    (check.after query).LooksLike (check.after (query.adopting ids)) := by
  have shares := sharesBody_adopting ground ids
  rcases lacks with ⟨form, _⟩ | ⟨form, none⟩
  · have templates : (query.adopting ids).templates = query.templates ++ [] := by
      rw [Query.templates, Query.adopting, Clauses.adopting_construct form, List.append_nil]
      rfl
    exact Query.check_of_sameBody shares sound templates fun _ _ => List.forall_mem_nil _
  · have templates : (query.adopting ids).templates = query.templates ++ [query.arena.size] := by
      rw [Query.templates, Query.templates, Query.adopting, Clauses.adopting_delete form, none]
      simp
    refine Query.check_of_sameBody shares sound templates fun ids' collected' template member => ?_
    cases collected.symm.trans (collected' body here)
    rcases List.mem_singleton.mp member with rfl
    have levels : (query.adopting ids).arena.levels = query.arena.size + 2 := by
      rw [Query.adopting, Arena.levels, Arena.size_push]
    rw [levels]
    refine idle_adopted ?_ fun id inside => ?_
    · exact (Arena.get?_push ..).trans (if_pos rfl)
    · rcases (Arena.gathers_of_triplesBelow collected).mem_iff.mp inside with
        ⟨_, _, _, t, triple⟩
      exact ⟨t, Comparison.whole_get? triple⟩

/-! ## Normalized queries -/

theorem gathers_settled (gathers : (withNormalized query).settled.arena.Gathers [body] ids) :
    query.arena.Gathers [body] ids := by
  rcases (withNormalized query).rephrased_settled with ⟨change, _, patterns, _, _⟩
  refine gathers.congr ?_
  have told : (withNormalized query).arena.patterns.map (fun p => (p.isTriple, p.children)) =
      query.arena.patterns.map fun p => (p.isTriple, p.children) :=
    map_normalizePatterns _ fun _ _ => rfl
  rw [patterns, List.map_map, ← told]
  refine List.map_congr_left fun p _ => ?_
  cases p <;> rfl

theorem lacks_settled (lacks : query.LacksTemplate) :
    (withNormalized query).settled.LacksTemplate := by
  rcases (withNormalized query).rephrased_settled with ⟨change, _, _, clauses, _⟩
  rw [Query.LacksTemplate, clauses]
  exact lacks

theorem template?_adopting (lacks : query.LacksTemplate) (ids : List PatternId) :
    (query.adopting ids).template? = some query.arena.size := by
  rcases lacks with ⟨form, _⟩ | ⟨form, _⟩
  · rw [Query.template?, Query.adopting, Clauses.adopting_construct form]
    simp only [form]
  · rw [Query.template?, Query.adopting, Clauses.adopting_delete form]
    simp only [form]

theorem adopts_adopting (lacks : query.LacksTemplate) (here : query.clauses.body = some body)
    (ground : query.clauses.dataUpdate = .none)
    (collected : (withNormalized query).settled.arena.triplesBelow body = .ok ids) :
    query.Adopts body ((withNormalized query).settled.adopting ids) := by
  have gathers := gathers_settled (Arena.gathers_of_triplesBelow collected)
  rcases (withNormalized query).rephrased_settled with ⟨change, _, patterns, clauses, _⟩
  have size : query.arena.size = (withNormalized query).settled.arena.size := by
    have parts : (withNormalized query).arena.patterns.map Pattern.parts =
        query.arena.patterns.map Pattern.parts := map_normalizePatterns _ fun _ _ => rfl
    rw [← Arena.size_of_map parts, Arena.size, Arena.size, patterns, List.length_map]
  refine ⟨⟨_, ids, template?_adopting (lacks_settled lacks) ids, size.le, ?_, gathers, ?_⟩, ?_⟩
  · exact (Arena.get?_push ..).trans (if_pos rfl)
  · intro id
    rw [gathers.mem_iff]
    simp
  · rw [(sharesBody_adopting _ ids).body, clauses]
    · exact here
    · rw [clauses]
      exact ground

theorem check_select_of_lacks (sound : query.Sound) (lacks : query.LacksTemplate) :
    (check.after query).LooksLike (check.after (query.inForm .select)) := by
  refine Query.check_inForm sound .select fun _ => ?_
  rcases lacks with ⟨form, _⟩ | ⟨form, _⟩ <;> rw [form] <;> rfl

/-- The query is normalized as in the form of solutions, and adopts its template besides, unless a
subquery fails. -/
theorem run_normalize_of_lacks (checkable : query.Checkable) (lacks : query.LacksTemplate)
    (here : query.clauses.body = some body) (new : query.normalized = false) :
    (∃ failure log, ∀ form, normalize.run (query.inForm form) =
      .error failure ({ withNormalized query with log }.inForm form)) ∨
    ∃ ids, (withNormalized query).settled.arena.triplesBelow body = .ok ids ∧
      normalize.run query = .ok () ((withNormalized query).settled.adopting ids) ∧
      normalize.run (query.inForm .select) =
        .ok () { (withNormalized query).settled.inForm .select with normalized := true } := by
  refine (run_normalize_inForm checkable.lenient new).imp id fun formed => ?_
  have rephrased := (withNormalized query).rephrased_settled
  have sound := rephrased.sound (sound_withNormalized checkable.sound)
  rcases rephrased with ⟨change, _, _, clauses, _⟩
  have here' : (withNormalized query).settled.clauses.body = some body := by
    rw [clauses]
    exact here
  have form : (withNormalized query).settled.clauses.form = query.clauses.form := by
    rw [clauses]
    rfl
  rcases Arena.triplesBelow_ok (sound.body here').fits with ⟨ids, collected, _⟩
  have run := formed query.clauses.form
  rw [query.inForm_self, ← form, Query.inForm_self,
    run_bringIntoForm_of_lacks (lacks_settled lacks) here' collected] at run
  exact ⟨ids, collected, run, (formed .select).trans (run_bringIntoForm_select _)⟩

theorem check_normalize_of_lacks (checkable : query.Checkable) (lacks : query.LacksTemplate)
    (ground : query.clauses.dataUpdate = .none) (here : query.clauses.body = some body) :
    (check.after (normalize.after query)).LooksLike
      (check.after (normalize.after (query.inForm .select))) := by
  by_cases old : query.normalized = true
  · have old' : (query.inForm .select).normalized = true := old
    rw [after_of_run_ok (run_normalize_of_normalized old),
      after_of_run_ok (run_normalize_of_normalized old')]
    exact check_select_of_lacks checkable.sound lacks
  · have new := Bool.eq_false_iff.mpr old
    have sound := sound_withNormalized checkable.sound
    rcases run_normalize_of_lacks checkable lacks here new with
      ⟨failure, log, stuck⟩ | ⟨ids, collected, run, run'⟩
    · let query' : Query := { withNormalized query with log }
      have run := stuck query.clauses.form
      have self : query'.inForm query.clauses.form = query' := query'.inForm_self
      rw [query.inForm_self, self] at run
      rw [after_of_run_error run, after_of_run_error (stuck .select)]
      have sound' : query'.Sound := sound
      have lacks' : query'.LacksTemplate := lacks
      exact check_select_of_lacks sound' lacks'
    · let settled : Query := { (withNormalized query).settled with normalized := true }
      have rephrased := (withNormalized query).rephrased_settled
      have sound' : settled.Sound := rephrased.sound sound
      have lacks' : settled.LacksTemplate := lacks_settled lacks
      rcases rephrased with ⟨change, _, _, clauses, _⟩
      have here' : settled.clauses.body = some body := by
        rw [show settled.clauses = _ from clauses]
        exact here
      have ground' : settled.clauses.dataUpdate = .none := by
        rw [show settled.clauses = _ from clauses]
        exact ground
      rw [after_of_run_ok run, after_of_run_ok run']
      exact (check_adopting sound' lacks' ground' here' collected).symm.trans
        (check_select_of_lacks sound' lacks')

/-- A query without the template that it needs adopts all triples of its body when it is normalized,
from left to right, and is then checked like a query that needs no template. -/
theorem adopted_normalize (checkable : query.Checkable) (lacks : query.LacksTemplate)
    (ground : query.clauses.dataUpdate = .none) (here : query.clauses.body = some body) :
    (query.normalized = false →
      (query.Everywhere Query.Checkable → ∃ query', normalize.run query = .ok () query') ∧
        ∀ query', normalize.run query = .ok () query' → query.Adopts body query') ∧
      (check.after (normalize.after query)).log =
        (check.after (normalize.after (query.inForm .select))).log ∧
      (check.after (normalize.after query)).clauses.selected =
        (check.after (normalize.after (query.inForm .select))).clauses.selected := by
  have looks := (check_normalize_of_lacks checkable lacks ground here).symm
  refine ⟨fun new => ⟨fun nested => ?_, fun query' run => ?_⟩, looks.log,
    congrArg (List.map Projection.target) looks.select⟩
  · rcases exists_run_normalize nested with ⟨query', run, _⟩
    exact ⟨query', run⟩
  · rcases run_normalize_of_lacks checkable lacks here new with
      ⟨failure, log, stuck⟩ | ⟨ids, collected, run', _⟩
    · have failed := stuck query.clauses.form
      rw [query.inForm_self] at failed
      cases failed.symm.trans run
    · cases run'.symm.trans run
      exact adopts_adopting lacks here ground collected

/-- A query that deletes what it matches: a triple about a blank node, and perhaps another one. -/
def deletingOptional : Query :=
  (Operation.setForm .delete).run.after
    ((Operation.setBody 4).run.after
      ((Operation.group [1, 3]).run.after
        ((Operation.optional 2).run.after
          ((Operation.triple (.var (.ofName "x")) { node := .const (.iri "p") }
            (.var (.ofName "y"))).run.after aboutBlank))))

theorem deletingOptional_checkable : deletingOptional.Everywhere Query.Checkable := by
  exact .alone ⟨rfl, Query.sound_of_descends (by decide) (by decide)⟩ rfl

theorem deletingOptional_adopts :
    deletingOptional.Checkable ∧ deletingOptional.LacksTemplate ∧
      deletingOptional.clauses.dataUpdate = .none ∧ deletingOptional.clauses.body = some 4 ∧
      (∃ query', normalize.run deletingOptional = .ok () query' ∧
        deletingOptional.Adopts 4 query') ∧
      (check.after (normalize.after deletingOptional)).log =
        (check.after (normalize.after (deletingOptional.inForm .select))).log ∧
      (check.after (normalize.after deletingOptional)).clauses.selected =
        (check.after (normalize.after (deletingOptional.inForm .select))).clauses.selected := by
  have lacks : deletingOptional.LacksTemplate := .inr ⟨rfl, rfl⟩
  have adopted := adopted_normalize deletingOptional_checkable.here lacks rfl rfl
  rcases (adopted.1 rfl).1 deletingOptional_checkable with ⟨query', run⟩
  exact ⟨deletingOptional_checkable.here, lacks, rfl, rfl,
    ⟨query', run, (adopted.1 rfl).2 query' run⟩, adopted.2⟩

/-- A query that was normalized when it asked for solutions, and now is to make triples. -/
def constructingLate : Query :=
  (Operation.setForm .construct).run.after
    (Operation.normalize.run.after ((Operation.setBody 1).run.after aboutBlank))

theorem constructingLate_unadopted :
    constructingLate.Everywhere Query.Checkable ∧ constructingLate.LacksTemplate ∧
      constructingLate.clauses.dataUpdate = .none ∧ constructingLate.clauses.body = some 1 ∧
      normalize.run constructingLate = .ok () constructingLate ∧
      ¬ constructingLate.Adopts 1 constructingLate := by
  refine ⟨.alone ⟨rfl, Query.sound_of_descends (by decide) (by decide)⟩ rfl,
    .inl ⟨rfl, rfl, rfl⟩, rfl, rfl, run_normalize_of_normalized rfl, fun adopts => ?_⟩
  rcases adopts.template with ⟨template, ids, here, _⟩
  cases here

end Build

end Sparql
