import Sparql.Proofs.Check.Levels
import Sparql.Proofs.Check.Visits

/-!
The query in the middle of a check that is not strict. Its arena stays as it was, but for the
subqueries that are checked already, and no descent from the patterns of a ready query fails.
-/

namespace Sparql

def Query.Checks (query : Query) : Prop :=
  ∃ correct, Build.check.run query = .ok correct query.afterCheck ∧
    query.afterCheck.checked = true

theorem Query.Checks.again {query : Query} (checks : query.Checks) :
    Build.check.run query.afterCheck = .ok query.afterCheck.log.correct query.afterCheck :=
  Build.run_check_of_checked checks.choose_spec.2

/-- The query in the middle of a check that began with another. -/
structure Query.Stage (start query : Query) : Prop where
  lenient : query.options.strict = false
  clauses : query.clauses = start.clauses
  size : query.arena.size = start.arena.size
  settled : ∀ id p, start.arena.get? id = some p →
    query.arena.get? id = some p ∨
      ∃ sub, p = .subquery sub ∧ query.arena.get? id = some (.subquery sub.afterCheck)

/-! ## The arena in the middle of a check -/

namespace Query.Stage

variable {start query : Query}

theorem get?_eq (stage : start.Stage query) {id : PatternId} {p : Pattern Query}
    (found : start.arena.get? id = some p) (plain : p.kind ≠ .subquery) :
    query.arena.get? id = some p := by
  rcases stage.settled id p found with same | ⟨sub, rfl, _⟩
  · exact same
  · exact absurd rfl plain

theorem get?_none (stage : start.Stage query) {id : PatternId}
    (missing : start.arena.get? id = none) : query.arena.get? id = none := by
  have outside : start.arena.size ≤ id := List.getElem?_eq_none_iff.mp missing
  exact List.getElem?_eq_none_iff.mpr (stage.size.le.trans outside)

theorem levels_eq (stage : start.Stage query) : query.arena.levels = start.arena.levels := by
  rw [Arena.levels, Arena.levels, stage.size]

theorem replace (stage : start.Stage query) {id : PatternId} {sub : Query}
    (found : start.arena.get? id = some (.subquery sub)) :
    start.Stage
      { query with arena := query.arena.set id (.subquery sub.afterCheck) } where
  lenient := stage.lenient
  clauses := stage.clauses
  size := (Arena.size_set ..).trans stage.size
  settled id' p found' := by
    obtain ⟨p', here⟩ : ∃ p', query.arena.get? id = some p' := by
      rcases stage.settled id _ found with same | ⟨_, _, same⟩ <;> exact ⟨_, same⟩
    rw [Arena.get?_set here]
    split
    · next equal =>
        subst equal
        rw [found] at found'
        cases found'
        exact .inr ⟨sub, rfl, rfl⟩
    · exact stage.settled id' p found'

theorem fits (stage : start.Stage query) {levels : Nat} {id : PatternId}
    (fits : start.arena.Fits levels id) : query.arena.Fits levels id := by
  induction levels generalizing id with
  | zero => exact fits.elim
  | succ levels induction =>
      rcases fits with ⟨p, found, fit⟩
      rcases stage.settled id p found with same | ⟨sub, rfl, same⟩
      · exact ⟨p, same, fun part member => induction (fit part member)⟩
      · exact ⟨_, same, nofun⟩

theorem collectTriples_eq (stage : start.Stage query) (found : List PatternId)
    (pending : List (Nat × PatternId)) :
    query.arena.collectTriples found pending = start.arena.collectTriples found pending := by
  induction found, pending using Arena.collectTriples.induct start.arena with
  | case1 found => rw [Arena.collectTriples, Arena.collectTriples]
  | case2 found id pending => rw [Arena.collectTriples, Arena.collectTriples]
  | case3 found levels id pending missing =>
      rw [Arena.collectTriples_cons_none missing,
        Arena.collectTriples_cons_none (stage.get?_none missing)]
  | case4 found levels id pending p known isTriple induction =>
      rw [Arena.collectTriples_cons known, if_pos isTriple, ← induction]
      rcases stage.settled id p known with same | ⟨sub, rfl, _⟩
      · rw [Arena.collectTriples_cons same, if_pos isTriple]
      · cases isTriple
  | case5 found levels id pending p known other induction =>
      rw [Arena.collectTriples_cons known, if_neg other, ← induction]
      rcases stage.settled id p known with same | ⟨sub, rfl, same⟩
      · rw [Arena.collectTriples_cons same, if_neg other]
      · rw [Arena.collectTriples_cons same]
        rfl

theorem triplesBelow_eq (stage : start.Stage query) (root : PatternId) :
    query.arena.triplesBelow root = start.arena.triplesBelow root := by
  rw [Arena.triplesBelow, Arena.triplesBelow, stage.levels_eq, stage.collectTriples_eq]

end Query.Stage

/-! ## Descents -/

/-- A descent from the pattern does not run out of levels, and checks of the subqueries that it
meets return. -/
structure Build.Opens (start : Query) (levels : Nat) (id : PatternId) : Prop where
  fits : start.arena.Fits levels id
  parts : ∀ next sub, start.arena.Reaches id next →
    start.arena.get? next = some (.subquery sub) → sub.Checks

theorem Build.Opens.part {start : Query} {levels : Nat} {id part : PatternId} {p : Pattern Query}
    (opens : Opens start (levels + 1) id) (found : start.arena.get? id = some p)
    (member : part ∈ p.parts) : Opens start levels part where
  fits := by
    rcases opens.fits with ⟨p', found', fit⟩
    rw [found] at found'
    cases found'
    exact fit part member
  parts next sub reaches := opens.parts next sub (.head ⟨p, found, member⟩ reaches)

theorem foldlM_ok {α β : Type} {look : α → β → Except Failure α} {values : List β}
    (returns : ∀ value ∈ values, ∀ found, ∃ found', look found value = .ok found') (found : α) :
    ∃ found', values.foldlM look found = .ok found' := by
  induction values generalizing found with
  | nil => exact ⟨found, rfl⟩
  | cons value rest induction =>
      rcases returns value (List.mem_cons_self ..) found with ⟨found', equal⟩
      rw [List.foldlM_cons, equal]
      exact induction (fun value member => returns value (List.mem_cons_of_mem _ member)) found'

theorem Arena.addBindable_ok {arena : Arena Query} {levels : Nat} {id : PatternId}
    (fits : arena.Fits levels id) (found : List Variable) :
    ∃ vars, arena.addBindable levels found id = .ok vars := by
  induction levels generalizing id found with
  | zero => exact fits.elim
  | succ levels induction =>
      rcases fits with ⟨p, known, fit⟩
      have looked : arena.get id = .ok p := by rw [Arena.get, known]
      have children (found : List Variable) :
          ∃ vars, p.children.foldlM (arena.addBindable levels) found = .ok vars :=
        foldlM_ok (fun child member => induction (fit child (List.mem_append_left _ member))) found
      rw [Arena.addBindable, looked]
      cases p with
      | triple _ | bind _ _ | values _ | subquery _ | minus _ | filter _ => exact ⟨_, rfl⟩
      | graph name body => exact induction (fit body (List.mem_cons_self ..)) _
      | group _ | union _ _ | optional _ | collection _ _ | service _ _ _ => exact children found

/-! ## Roots -/

theorem Build.groundTemplate_mem {query : Query} {template : PatternId} {context : String}
    (ground : groundTemplate? query.clauses = some (template, context)) :
    template ∈ query.templates := by
  unfold groundTemplate? at ground
  split at ground
  · cases ground
  · rcases Option.map_eq_some_iff.mp ground with ⟨_, here, equal⟩
    cases equal
    simp [Query.templates, here]
  · rcases Option.map_eq_some_iff.mp ground with ⟨_, here, equal⟩
    cases equal
    simp [Query.templates, here]

namespace Query

def selectTested (query : Query) : List PatternId :=
  query.clauses.select.flatMap fun item => item.value.toList.flatMap Expr.patterns

def matched (query : Query) : List PatternId :=
  query.clauses.body.toList ++ query.selectTested

def Lenient (query : Query) : Prop := query.options.strict = false

theorem Lenient.begun {start : Query} (lenient : start.Lenient) :
    start.Stage { start with blankOwners := [] } :=
  ⟨lenient, rfl, rfl, fun _ _ found => .inl found⟩

def Sound (query : Query) : Prop :=
  ∀ root ∈ query.matched ++ query.templates, query.arena.Sound root

theorem sound_of_descends {query : Query} (descends : query.arena.Descends)
    (inside : ∀ root ∈ query.matched ++ query.templates, root < query.arena.size) : query.Sound :=
  fun root member => descends.sound (inside root member)

/-- No descent of a check runs out of levels, or meets a subquery whose check does not return. -/
structure Ready (query : Query) : Prop where
  cells : query.arena.CellsAreTriples
  matched : ∀ root ∈ query.matched, Build.Opens query query.arena.levels root
  templates : ∀ template ∈ query.templates, query.arena.Fits query.arena.levels template

theorem Ready.body {query : Query} (ready : query.Ready) {body : PatternId}
    (here : query.clauses.body = some body) : Build.Opens query query.arena.levels body :=
  ready.matched body (by simp [Query.matched, here])

theorem Ready.tested {query : Query} (ready : query.Ready) {item : Projection}
    (member : item ∈ query.clauses.select) {value : Expr} (here : item.value = some value)
    {id : PatternId} (tested : id ∈ value.patterns) :
    Build.Opens query query.arena.levels id := by
  refine ready.matched id (List.mem_append_right _ ?_)
  exact List.mem_flatMap.mpr ⟨item, member, by simpa [here] using tested⟩

theorem same_scopeOfBody (query : Query) :
    Scope.Same
      ((query.clauses.values.toList.flatMap (·.vars)).foldl Scope.bind
        ((query.clauses.body.toList.flatMap query.arena.visible).foldl Scope.bind []))
      query.scopeOfBody := by
  have empty : Scope.Same [] [] := fun _ => rfl
  exact (empty.foldl_bind (query.clauses.body.toList.flatMap query.arena.visible)).foldl_bind _

end Query

end Sparql
