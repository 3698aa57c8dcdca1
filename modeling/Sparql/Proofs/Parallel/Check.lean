import Sparql.Proofs.Parallel.Basic
import Sparql.Proofs.Pattern.Gathered

/-!
Checks of two queries side by side. If the bodies, the templates and what the bodies bind are
checked in parallel, then so are the queries: `parallel_checkRest`.
-/

namespace Sparql

open Build

namespace Comparison

variable {c : Comparison} {query query' : Query}

/-! ## Clauses -/

namespace Holds

theorem select_eq (holds : c.Holds query query') :
    query'.clauses.select = query.clauses.select := by rw [holds.clauses']

theorem dataUpdate_eq (holds : c.Holds query query') :
    query'.clauses.dataUpdate = query.clauses.dataUpdate := by
  rw [holds.clauses', holds.clauses, c.asks.dataUpdate]

theorem values_eq (holds : c.Holds query query') :
    query'.clauses.values = query.clauses.values := by
  rw [holds.clauses', holds.clauses, c.asks.values]

theorem selectAll_eq (holds : c.Holds query query') :
    query'.clauses.selectAll = query.clauses.selectAll := by
  rw [holds.clauses', holds.clauses, c.asks.selectAll]

theorem groupBy_eq (holds : c.Holds query query') :
    query'.clauses.groupBy = query.clauses.groupBy := by
  rw [holds.clauses', holds.clauses, c.asks.groupBy]

end Holds

theorem levels_le (c : Comparison) : c.arena.levels ≤ c.whole.levels := by
  rw [Arena.levels, Arena.levels, Arena.size, Arena.size, whole, List.length_append]
  omega

/-! ## Blank nodes -/

theorem parallel_checkBlank (label : String) {owner owner' : PatternId}
    (stands : owner' = c.owner owner) :
    c.Parallel (checkBlank label owner) (checkBlank label owner') fun _ _ => True := by
  subst stands
  refine parallel_get_bind fun query query' holds => ?_
  rw [holds.lookup_owners, holds.dataUpdate_eq, holds.isReported_eq]
  cases query.blankOwners.lookup label with
  | none =>
      refine ⟨trivial, { holds with owners := ?_ }⟩
      rw [holds.owners, List.map_append]
      rfl
  | some first =>
      have same : c.owner first = c.owner owner ↔ first = owner := c.owner_injective.eq_iff
      simp only [Option.map_some, same]
      split
      · exact parallel_pure trivial query query' holds
      · exact parallel_problem _ query query' holds

theorem parallel_checkBlanks (labels : List String) {owner owner' : PatternId}
    (stands : owner' = c.owner owner) :
    c.Parallel (labels.forM (checkBlank · owner)) (labels.forM (checkBlank · owner'))
      fun _ _ => True :=
  parallel_forM fun label _ => parallel_checkBlank label stands

theorem parallel_checkTriple (scope : Scope) (t : Triple) {owner owner' : PatternId}
    (stands : owner' = c.owner owner) :
    c.Parallel (checkTriple scope t owner) (checkTriple scope t owner') (· = ·) :=
  (parallel_checkBlanks t.blankLabels stands).bind fun _ _ _ => parallel_pure rfl

theorem parallel_triple {id : PatternId} {p : Pattern Query} (found : c.arena.get? id = some p) :
    c.Parallel (inspect (·.triple id)) (inspect (·.triple id)) (· = ·) := by
  refine parallel_inspect fun query query' holds => ?_
  rcases holds.exists_get? found with ⟨p', here, here', _⟩
  have same : query'.arena.triple id = query.arena.triple id := by
    rw [Arena.triple, Arena.triple, Arena.get, Arena.get, here, here']
  rw [same]
  cases query.arena.triple id with
  | ok t => exact .inl ⟨t, t, rfl, rfl, rfl⟩
  | error failure => exact .inr ⟨failure, rfl, rfl⟩

theorem parallel_checkCells (scope : Scope) {cells : List PatternId}
    (found : ∀ cell ∈ cells, ∃ p, c.arena.get? cell = some p) {owner owner' : PatternId}
    (stands : owner' = c.owner owner) :
    c.Parallel (checkCells scope cells owner) (checkCells scope cells owner') (· = ·) := by
  refine parallel_foldlM scope fun cell member scope => ?_
  rcases found cell member with ⟨p, here⟩
  refine (parallel_triple here).bind ?_
  rintro t _ rfl
  exact parallel_checkTriple scope t stands

/-! ## Inline data -/

theorem parallel_checkRows (width row : Nat) (rows : List (List (Option Expr))) :
    c.Parallel (checkRows width row rows) (checkRows width row rows) fun _ _ => True := by
  induction rows generalizing row with
  | nil => exact parallel_pure trivial
  | cons cells rest induction =>
      rw [checkRows]
      split
      · exact induction (row + 1)
      · exact (parallel_problem _).bind fun _ _ _ => induction (row + 1)

theorem parallel_checkTable (scope : Scope) (table : InlineData) :
    c.Parallel (checkTable scope table) (checkTable scope table) (· = ·) :=
  (parallel_checkRows _ _ _).bind fun _ _ _ => parallel_pure rfl

/-! ## Patterns -/

theorem parallel_pattern {id : PatternId} {p : Pattern Query} (found : c.arena.get? id = some p) :
    c.Parallel (pattern id) (pattern id) fun p₁ p₂ => p₁ = p₂ ∧ p₁.plain? = p.plain? := by
  refine parallel_inspect fun query query' holds => ?_
  rcases holds.exists_get? found with ⟨p', here, here', plain⟩
  exact .inl ⟨p', p', by rw [Arena.get, here], by rw [Arena.get, here'], rfl, plain⟩

theorem Holds.set {id : PatternId} {sub : Query} (holds : c.Holds query query')
    (found : c.arena.get? id = some (.subquery sub)) (sub' : Query) :
    c.Holds { query with arena := query.arena.set id (.subquery sub') }
      { query' with arena := query'.arena.set id (.subquery sub') } := by
  rcases holds.exists_subquery found with ⟨sub₁, here⟩
  have inside : id < query.arena.patterns.length := (List.getElem?_eq_some_iff.mp here).1
  refine { holds with frame := ?_, arena := ?_ }
  · rw [← holds.frame]
    refine List.ext_getElem? fun next => ?_
    have looked : (query.arena.set id (.subquery sub')).get? next =
        if next = id then some (.subquery sub') else query.arena.get? next :=
      Arena.get?_set here next
    rw [Arena.get?, Arena.get?] at looked
    rw [List.getElem?_map, List.getElem?_map, looked]
    split
    · next equal =>
        rw [equal, show query.arena.patterns[id]? = some (.subquery sub₁) from here]
        rfl
    · rfl
  · rw [Arena.set, Arena.set, holds.arena, List.set_append_left _ _ inside]

theorem parallel_checkSubquery (checkSub : Build Bool) (scope : Scope) {id : PatternId}
    {sub : Query} (found : c.arena.get? id = some (.subquery sub)) (fixed : c.owner id = id)
    (sub' : Query) :
    c.Parallel (checkSubquery checkSub scope id sub') (checkSubquery checkSub scope id sub')
      (· = ·) := by
  have replace (sub' : Query) := c.parallel_modify fun _ _ holds => holds.set found sub'
  unfold checkSubquery
  split
  · exact (replace _).bind fun _ _ _ => parallel_throw _
  · next value sub' _ =>
      refine (replace sub').bind fun _ _ _ => ?_
      refine (parallel_forM fun diagnostic _ => parallel_report diagnostic).bind fun _ _ _ => ?_
      refine (parallel_checkBlanks sub'.blankLabels fixed.symm).bind fun _ _ _ => ?_
      exact parallel_pure rfl

theorem Covers.exists_get? {levels : Nat} {id : PatternId} (covers : c.Covers levels id) :
    ∃ p, c.arena.get? id = some p := by
  cases levels with
  | zero => exact covers.elim
  | succ levels =>
      rcases covers with ⟨_, p, found, _⟩
      exact ⟨p, found⟩

theorem parallel_checkChild {checkSub : Build Bool} {levels levels' : Nat} {child : PatternId}
    (covers : c.Covers levels child) (scope : Scope)
    (inner : c.Parallel (checkPattern checkSub levels scope child)
      (checkPattern checkSub levels' scope child) (· = ·))
    {owner owner' : PatternId} (stands : owner' = c.owner owner) :
    c.Parallel (checkChild checkSub levels owner scope child)
      (checkChild checkSub levels' owner' scope child) (· = ·) := by
  cases levels with
  | zero => exact covers.elim
  | succ levels =>
      rcases covers with ⟨_, p, found, cover⟩
      refine (parallel_pattern found).bind ?_
      rintro p' _ ⟨rfl, plain⟩
      have same := Pattern.parts_of_plain? plain
      cases p' with
      | triple t => exact parallel_checkTriple scope t stands
      | collection head cells =>
          refine parallel_checkCells scope (fun cell member => ?_) stands
          exact (cover cell (same ▸ List.mem_append_left _ member)).exists_get?
      | _ => exact inner

theorem Parallel.checkChild {x : Build Scope} {checkSub : Build Bool} {levels : Nat}
    {child owner : PatternId} {scope : Scope} {p : Pattern Query}
    (found : c.arena.get? child = some p) (other : p.ownsLabels = false)
    (inner : c.Parallel x (checkPattern checkSub levels scope child) (· = ·)) :
    c.Parallel x (Build.checkChild checkSub levels owner scope child) (· = ·) := by
  intro query query' holds
  have ends := inner query query' holds
  rcases holds.exists_get? found with ⟨p', _, here, plain⟩
  have looked : (pattern child).run query' = .ok p' query' := run_pattern_ok.mpr ⟨here, rfl⟩
  unfold Agrees at ends ⊢
  rw [Build.checkChild, EStateM.run_bind, looked]
  rcases Pattern.eq_or_subquery plain with rfl | ⟨_, sub', rfl⟩
  · cases p' with
    | triple _ | collection _ _ => cases other
    | _ => exact ends
  · exact ends

theorem parallel_checkPattern (checkSub : Build Bool) {levels levels' : Nat} {id : PatternId}
    (covers : c.Covers levels id) (le : levels ≤ levels') (scope : Scope) :
    c.Parallel (checkPattern checkSub levels scope id) (checkPattern checkSub levels' scope id)
      (· = ·) := by
  induction levels generalizing levels' scope id with
  | zero => exact covers.elim
  | succ levels induction =>
      obtain ⟨levels', rfl⟩ := Nat.exists_eq_add_one_of_ne_zero (Nat.ne_zero_of_lt le)
      have le := Nat.le_of_succ_le_succ le
      rcases covers with ⟨fixed, p, found, cover⟩
      rw [checkPattern, checkPattern]
      refine (parallel_pattern found).bind ?_
      rintro p' _ ⟨rfl, plain⟩
      rcases Pattern.eq_or_subquery plain with rfl | ⟨⟨sub, rfl⟩, sub', rfl⟩
      · have inner (scope : Scope) {part : PatternId} (member : part ∈ p'.parts) :=
          induction (cover part member) le scope
        have tested {ids : List PatternId} (members : ∀ id ∈ ids, id ∈ p'.parts) :=
          c.parallel_forM fun id (member : id ∈ ids) => (inner scope (members id member)).discard
        cases p' with
        | triple t => exact parallel_checkTriple scope t fixed.symm
        | group children =>
            refine parallel_foldlM scope fun child member scope => ?_
            have part : child ∈ (Pattern.group children : Pattern Query).parts :=
              List.mem_append_left _ member
            exact parallel_checkChild (cover child part) scope (inner scope part) fixed.symm
        | collection head cells =>
            refine parallel_checkCells scope (fun cell member => ?_) fixed.symm
            exact (cover cell (List.mem_append_left _ member)).exists_get?
        | union left right =>
            refine (inner scope (by simp [Pattern.parts, Pattern.children])).discard.bind ?_
            intro _ _ _
            refine (inner scope (by simp [Pattern.parts, Pattern.children])).discard.bind ?_
            exact fun _ _ _ => parallel_pure rfl
        | optional body | minus body =>
            refine (inner scope (List.mem_cons_self ..)).discard.bind ?_
            exact fun _ _ _ => parallel_pure rfl
        | filter condition =>
            exact (tested fun id member => member).bind fun _ _ _ => parallel_pure rfl
        | bind value target =>
            refine (tested fun id member => member).bind fun _ _ _ => ?_
            split
            · exact (parallel_problem _).bind fun _ _ _ => parallel_pure rfl
            · exact parallel_pure rfl
        | values table => exact parallel_checkTable scope table
        | service endpoint silent body => exact inner _ (List.mem_cons_self ..)
        | graph name body => exact inner _ (List.mem_cons_self ..)
        | subquery sub => exact parallel_checkSubquery checkSub scope found fixed sub
      · exact parallel_checkSubquery checkSub scope found fixed sub'

theorem parallel_checkFrom (checkSub : Build Bool) {id : PatternId}
    (covers : c.Covers c.arena.levels id) (scope : Scope) :
    c.Parallel (checkFrom checkSub scope id) (checkFrom checkSub scope id) (· = ·) := by
  refine parallel_get_bind fun query query' holds => ?_
  rw [holds.levels_eq.1, holds.levels_eq.2]
  exact parallel_checkPattern checkSub covers c.levels_le scope query query' holds

/-! ## Ground data -/

theorem parallel_triplesBelow {root root' : PatternId} {ids ids' : List PatternId}
    (collected : c.arena.triplesBelow root = .ok ids)
    (collected' : c.whole.triplesBelow root' = .ok ids') :
    c.Parallel (inspect (·.triplesBelow root)) (inspect (·.triplesBelow root'))
      fun found found' => found = ids ∧ found' = ids' := by
  refine parallel_inspect fun query query' holds => ?_
  rw [Arena.triplesBelow_of_frame holds.frame, Arena.triplesBelow_of_frame holds.frame_whole]
  exact .inl ⟨ids, ids', collected, collected', rfl, rfl⟩

theorem idle_triplesBelow {root : PatternId} {ids : List PatternId}
    (collected : c.whole.triplesBelow root = .ok ids) :
    c.Idle (inspect (·.triplesBelow root)) ids := by
  intro query query' holds
  rw [run_inspect, Arena.triplesBelow_of_frame holds.frame_whole, collected]

theorem parallel_checkGroundNode (dataUpdate : DataUpdate) (context : String) (node : Expr) :
    c.Parallel (checkGroundNode dataUpdate context node) (checkGroundNode dataUpdate context node)
      fun _ _ => True := by
  rw [checkGroundNode]
  split
  · split
    · exact parallel_problem _
    · exact parallel_pure trivial
  · split
    · exact parallel_problem _
    · exact parallel_pure trivial

theorem parallel_checkGroundData (same : groundTemplate? c.clauses' = groundTemplate? c.clauses)
    (sound : ∀ template context, groundTemplate? c.clauses = some (template, context) →
      c.arena.Sound template) :
    c.Parallel checkGroundData checkGroundData fun _ _ => True := by
  refine parallel_get_bind fun query query' holds => ?_
  have ground : groundTemplate? query.clauses = groundTemplate? c.clauses := by
    rw [holds.clauses]
    rfl
  have ground' : groundTemplate? query'.clauses = groundTemplate? c.clauses := by
    rw [holds.clauses', ← same]
    rfl
  dsimp only
  rw [ground, ground', holds.dataUpdate_eq]
  split
  · exact parallel_pure trivial query query' holds
  · next template context here =>
      have sound := sound _ _ here
      rcases Arena.triplesBelow_ok sound.fits with ⟨ids, collected, triples⟩
      have collected' : c.whole.triplesBelow template = .ok ids :=
        Arena.triplesBelow_of_added (List.prefix_append _ _) sound collected
      refine ((parallel_triplesBelow collected collected').bind ?_) query query' holds
      rintro _ _ ⟨rfl, rfl⟩
      refine parallel_forM fun id member => ?_
      rcases triples id member with ⟨t, found⟩
      refine (parallel_triple found).bind ?_
      rintro t _ rfl
      exact parallel_forM fun node _ => parallel_checkGroundNode _ _ node

/-! ## Templates -/

/-- The triples of the second body are those of the first and others without blank labels. -/
structure Skips (c : Comparison) (ids ids' : List PatternId) : Prop where
  subset : ∀ id ∈ ids, id ∈ ids'
  others : ∀ id ∈ ids', id ∈ ids ∨ ∀ t, c.whole.get? id = some (.triple t) → t.blankLabels = []

theorem Skips.refl (c : Comparison) (ids : List PatternId) : c.Skips ids ids :=
  ⟨fun _ => id, fun _ => .inl⟩

theorem whole_get? {id : PatternId} {p : Pattern Query} (found : c.arena.get? id = some p) :
    c.whole.get? id = some p :=
  Arena.get?_of_added (List.prefix_append _ _) found

theorem parallel_checkTemplate {ids ids' : List PatternId} (skips : c.Skips ids ids')
    {levels levels' : Nat} {id : PatternId} (covers : c.Covers levels id) (le : levels ≤ levels')
    {owner : PatternId} (fixed : c.owner owner = owner) :
    c.Parallel (checkTemplate ids levels owner id) (checkTemplate ids' levels' owner id)
      fun _ _ => True := by
  induction levels generalizing levels' owner id with
  | zero => exact covers.elim
  | succ levels induction =>
      obtain ⟨levels', rfl⟩ := Nat.exists_eq_add_one_of_ne_zero (Nat.ne_zero_of_lt le)
      have le := Nat.le_of_succ_le_succ le
      rcases covers with ⟨fixed', p, found, cover⟩
      rw [checkTemplate, checkTemplate]
      refine (parallel_pattern found).bind ?_
      rintro p' _ ⟨rfl, plain⟩
      have descend (owner : PatternId) (fixed : c.owner owner = owner) :
          c.Parallel (p'.children.forM (checkTemplate ids levels owner))
            (p'.children.forM (checkTemplate ids' levels' owner)) fun _ _ => True := by
        refine parallel_forM fun child member => ?_
        have part : child ∈ p.parts :=
          Pattern.parts_of_plain? plain ▸ List.mem_append_left _ member
        exact induction (cover child part) le fixed
      cases p' with
      | triple t =>
          have here : c.whole.get? id = some (.triple t) := by
            rcases Pattern.eq_or_subquery plain with rfl | ⟨_, sub, other⟩
            · exact whole_get? found
            · cases other
          dsimp only
          by_cases skipped : id ∈ ids
          · rw [if_pos skipped, if_pos (skips.subset id skipped)]
            exact parallel_pure trivial
          · rw [if_neg skipped]
            split
            · next skipped' =>
                have none := (skips.others id skipped').resolve_left skipped t here
                rw [none]
                exact parallel_pure trivial
            · exact parallel_checkBlanks t.blankLabels fixed.symm
      | group children => exact descend id fixed'
      | _ => exact descend owner fixed

theorem parallel_checkTemplates {ids ids' more : List PatternId}
    (triples : c.Parallel bodyTriples bodyTriples
      fun found found' => found = ids ∧ found' = ids')
    (skips : c.Skips ids ids')
    (covers : ∀ template ∈ c.clauses.insert.toList ++ c.clauses.delete.toList,
      c.Covers c.arena.levels template)
    (templates : c.clauses'.insert.toList ++ c.clauses'.delete.toList =
      c.clauses.insert.toList ++ c.clauses.delete.toList ++ more)
    (idle : ∀ template ∈ more,
      c.Idle (checkTemplate ids' c.whole.levels template template) ⟨⟩) :
    c.Parallel checkTemplates checkTemplates fun _ _ => True := by
  apply triples.bind
  rintro _ _ ⟨rfl, rfl⟩
  refine parallel_get_bind fun query query' holds => ?_
  rw [holds.clauses, holds.clauses', holds.levels_eq.1, holds.levels_eq.2]
  dsimp only
  have apart (first : List PatternId) (check : PatternId → Build PUnit) :
      forM (first ++ more) check = forM first check >>= fun _ => forM more check :=
    List.forM_append
  rw [List.forM_eq_forM, templates, apart]
  refine Parallel.bind_idle ?_ (fun _ => idle_forM idle) query query' holds
  refine parallel_forM fun template member => ?_
  have cover := covers template member
  refine parallel_checkTemplate skips cover c.levels_le ?_
  rw [Arena.levels] at cover
  exact cover.1

/-! ## Projection -/

/-- The bodies bind the same, or variables that are never bound do not count. -/
def Binds (c : Comparison) (vars vars' : List Variable) : Prop :=
  vars' = vars ∨ c.clauses.selectAll = false ∧
    ∀ name, c.counts (Problem.neverBound name).toDiagnostic = false

theorem parallel_checkItem (checkSub : Build Bool) {vars vars' : List Variable}
    (binds : c.Binds vars vars') (scope : Scope) {item : Projection}
    (covers : ∀ value, item.value = some value → ∀ id ∈ value.patterns,
      c.Covers c.arena.levels id) :
    c.Parallel (checkItem checkSub vars scope item) (checkItem checkSub vars' scope item)
      (· = ·) := by
  rw [checkItem, checkItem]
  cases here : item.value with
  | some value =>
      refine (parallel_forM fun id member =>
        (parallel_checkFrom checkSub (covers value here id member) scope).discard).bind ?_
      intro _ _ _
      dsimp only
      split
      · exact (parallel_problem _).bind fun _ _ _ => parallel_pure rfl
      · exact parallel_pure rfl
  | none =>
      refine parallel_get_bind fun query query' holds => ?_
      rw [holds.selectAll_eq]
      rcases binds with rfl | ⟨_, uncounted⟩
      · dsimp only
        split
        · exact parallel_pure rfl query query' holds
        · exact ((parallel_problem _).bind fun _ _ _ => parallel_pure rfl) query query' holds
      · have reported := holds.report_uncounted (uncounted item.target.text)
        rcases reported with ⟨added, added', run, run', alike, alike'⟩
        have report : (problem (.neverBound item.target.text)).run query = .ok () added := run
        have report' : (problem (.neverBound item.target.text)).run query' = .ok () added' := run'
        dsimp only
        split <;> split
        · exact parallel_pure rfl query query' holds
        · rw [Agrees, EStateM.run_bind, report']
          exact ⟨rfl, alike'⟩
        · rw [Agrees, EStateM.run_bind, report]
          exact ⟨rfl, alike⟩
        · exact ((parallel_problem _).bind fun _ _ _ => parallel_pure rfl) query query' holds

theorem parallel_checkTrailing {vars vars' : List Variable} (binds : c.Binds vars vars')
    (scope : Scope) :
    c.Parallel (checkTrailing vars scope) (checkTrailing vars' scope)
      fun (found found' : List Variable × Scope) =>
        c.Binds found.1 found'.1 ∧ found.2 = found'.2 := by
  refine parallel_get_bind fun query query' holds => ?_
  rw [holds.values_eq]
  split
  · next table _ =>
      refine ((parallel_checkTable scope table).bind ?_) query query' holds
      rintro scope _ rfl
      refine parallel_pure ⟨?_, rfl⟩
      rcases binds with rfl | uncounted
      · exact .inl rfl
      · exact .inr uncounted
  · exact ⟨⟨binds, rfl⟩, holds⟩

theorem flatMap_patterns_project (vars : List Variable) (items : List Projection) :
    (vars.foldl
      (fun items v =>
        if v.occursIn (items.map (·.target)) then items else items ++ [{ target := v }])
      items).flatMap (fun item => item.value.toList.flatMap Expr.patterns) =
        items.flatMap fun item => item.value.toList.flatMap Expr.patterns := by
  rw [← List.flatMap_assoc, ← List.filterMap_eq_flatMap_toList, values_projectAll,
    List.filterMap_eq_flatMap_toList, List.flatMap_assoc]

theorem parallel_projectAll (vars : List Variable) :
    c.Parallel (projectAll vars) (projectAll vars) fun _ _ => True := by
  refine parallel_modify fun query query' holds => ?_
  have select := holds.select_eq
  refine { holds with clauses := ?_, clauses' := ?_, tested := ?_ }
  · rw [holds.clauses]
  · dsimp only
    rw [select]
    conv_lhs => rw [holds.clauses']
  · intro id member
    rw [Query.selectTested, flatMap_patterns_project] at member
    exact holds.tested id member

theorem parallel_checkSelect (checkSub : Build Bool) (scope : Scope)
    (vars : c.Parallel bodyVariables bodyVariables c.Binds)
    (form : c.clauses.selectAll = true →
      (c.clauses'.form != .describe) = (c.clauses.form != .describe)) :
    c.Parallel (checkSelect checkSub scope) (checkSelect checkSub scope) fun _ _ => True := by
  refine vars.bind fun vars vars' binds => (parallel_checkTrailing binds scope).bind ?_
  rintro ⟨vars, scope⟩ ⟨vars', _⟩ ⟨binds, rfl⟩
  change c.Binds vars vars' at binds
  refine parallel_get_bind fun query query' holds => ?_
  have tested : ∀ item ∈ query.clauses.select, ∀ value, item.value = some value →
      ∀ id ∈ value.patterns, c.Covers c.arena.levels id := by
    intro item member value here id test
    apply holds.tested id
    exact List.mem_flatMap.mpr ⟨item, member, by simpa [here] using test⟩
  have items := (c.parallel_foldlM scope fun item member scope =>
    parallel_checkItem checkSub binds scope (tested item member)).discard
  rw [holds.select_eq]
  refine (items.bind fun _ _ _ => ?_) query query' holds
  · refine parallel_get_bind fun query query' holds => ?_
    have selectAll : query.clauses.selectAll = c.clauses.selectAll := by rw [holds.clauses]
    have forms : query.clauses.form = c.clauses.form ∧ query'.clauses.form = c.clauses'.form := by
      rw [holds.clauses, holds.clauses']
      exact ⟨rfl, rfl⟩
    dsimp only
    rw [holds.selectAll_eq, selectAll, forms.1, forms.2]
    cases all : c.clauses.selectAll with
    | false => exact parallel_pure trivial query query' holds
    | true =>
        rw [form all]
        rcases binds with rfl | ⟨none, _⟩
        · split
          · exact parallel_projectAll vars' query query' holds
          · exact parallel_pure trivial query query' holds
        · cases all.symm.trans none

/-! ## Grouping -/

theorem parallel_checkGrouping : c.Parallel checkGrouping checkGrouping fun _ _ => True := by
  refine parallel_get_bind fun query query' holds => ?_
  have grouped : isGrouped query'.clauses = isGrouped query.clauses := by
    rw [isGrouped, isGrouped, holds.groupBy_eq, holds.select_eq]
  dsimp only
  rw [grouped, holds.groupBy_eq, holds.select_eq]
  split
  · exact parallel_pure trivial query query' holds
  · exact parallel_forM (fun v _ => parallel_problem _) query query' holds

/-! ## Queries -/

/-- A check of a query that is not checked yet, once no pattern owns a blank label. -/
def checkRest (checkSub : Build Bool) : Build Bool := do
  let scope ← checkBody checkSub
  checkGroundData
  checkTemplates
  checkSelect checkSub scope
  checkGrouping
  modify fun query => { query with checked := true }
  return (← get).log.correct

theorem checkWith_eq (checkSub : Build Bool) :
    checkWith checkSub = (do
      if (← get).checked then return (← get).log.correct
      modify fun query => { query with blankOwners := [] }
      checkRest checkSub) := rfl

theorem parallel_checkRest {checkSub : Build Bool}
    (body : c.Parallel (checkBody checkSub) (checkBody checkSub) (· = ·))
    (ground : c.Parallel checkGroundData checkGroundData fun _ _ => True)
    (templates : c.Parallel checkTemplates checkTemplates fun _ _ => True)
    (select : ∀ scope, c.Parallel (checkSelect checkSub scope) (checkSelect checkSub scope)
      fun _ _ => True) :
    c.Parallel (checkRest checkSub) (checkRest checkSub) (· = ·) := by
  apply body.bind
  rintro scope _ rfl
  apply ground.bind
  intro _ _ _
  apply templates.bind
  intro _ _ _
  apply (select scope).bind
  intro _ _ _
  apply parallel_checkGrouping.bind
  intro _ _ _
  refine (parallel_modify fun query query' holds => ?_).bind fun _ _ _ => ?_
  · exact { holds with }
  · exact parallel_get_bind fun query query' holds => ⟨holds.correct.symm, holds⟩

structure Resembles (c : Comparison) (query query' : Query) : Prop where
  reports : query'.log.entries.filter c.counts = query.log.entries.filter c.counts
  correct : query'.log.correct = query.log.correct
  select : query'.clauses.select = query.clauses.select

theorem Holds.resembles (holds : c.Holds query query') : c.Resembles query query' :=
  ⟨holds.reports, holds.correct, holds.select_eq⟩

theorem run_check_of_unchecked {query : Query} (unchecked : query.checked = false) :
    check.run query = (checkRest check).run { query with blankOwners := [] } := by
  rw [check_eq, checkWith_eq, EStateM.run_bind, EStateM.run_get]
  dsimp only
  rw [if_neg (Bool.eq_false_iff.mp unchecked)]
  rfl

theorem resembles_check (parallel : c.Parallel (checkRest check) (checkRest check) (· = ·))
    (holds : c.Holds { query with blankOwners := [] } { query' with blankOwners := [] })
    (checked : query'.checked = query.checked) :
    c.Resembles (check.after query) (check.after query') := by
  by_cases old : query.checked = true
  · rw [after_of_run_ok (run_check_of_checked old),
      after_of_run_ok (run_check_of_checked (checked.trans old))]
    exact ⟨holds.reports, holds.correct, holds.select_eq⟩
  · have new := Bool.eq_false_iff.mpr old
    have ends := parallel _ _ holds
    unfold Agrees at ends
    rw [after, after, run_check_of_unchecked new, run_check_of_unchecked (checked.trans new)]
    split at ends
    · next run run' =>
        rw [run, run']
        exact ends.2.resembles
    · next run run' =>
        rw [run, run']
        exact ends.2.resembles
    · exact ends.elim

end Comparison

end Sparql
