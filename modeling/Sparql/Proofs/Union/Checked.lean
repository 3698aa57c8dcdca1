import Sparql.Proofs.Check.Sincere
import Sparql.Proofs.Describe.Shape
import Sparql.Proofs.Union.Turned

/-!
Checks of queries whose patterns are turned. They take the same notes in some order, and so what
they report and project is the same in some order: `Query.Turned.agrees`.
-/

namespace Sparql

/-! ## Projections -/

namespace Clauses

def describesAll (clauses : Clauses) : Bool := clauses.selectAll && clauses.form == .describe

theorem mentioned_selecting (clauses : Clauses) (vars : List Variable) :
    Build.mentioned (clauses.selecting vars).select =
      Build.mentioned clauses.select ++
        Variable.unseen (Build.mentioned clauses.select) vars := by
  rw [← Variable.foldl_addTo, selecting, Build.mentioned, List.foldl_append, List.foldl_map]
  rfl

theorem isGrouped_selecting (clauses : Clauses) (vars : List Variable) :
    Build.isGrouped (clauses.selecting vars) = Build.isGrouped clauses := by
  simp [Build.isGrouped, selecting, List.filterMap_map]

theorem mem_groupingNotes {clauses : Clauses} {vars vars' : List Variable}
    (alike : Scope.Alike vars vars') (distinct : (vars.map (·.name)).Nodup)
    (distinct' : (vars'.map (·.name)).Nodup) (note : Note) :
    note ∈ (clauses.selecting vars).groupingNotes ↔
      note ∈ (clauses.selecting vars').groupingNotes := by
  have later := alike.unseen (fun _ => rfl : Scope.Same (Build.mentioned clauses.select) _)
    distinct distinct'
  have mentions := (Scope.Alike.refl (Build.mentioned clauses.select)).append later
  rw [groupingNotes, groupingNotes, isGrouped_selecting, isGrouped_selecting, mentioned_selecting,
    mentioned_selecting]
  split
  · exact .rfl
  · refine (mentions.filter fun v w same => ?_).mem_map (fun v w same => ?_) note
    · exact congrArg Bool.not (Variable.occursIn_of_traits same _)
    · rcases Prod.mk.inj same with ⟨name, traits⟩
      rw [Variable.text, Variable.text, name, (Prod.mk.inj traits).1]

end Clauses

/-! ## Turned queries -/

namespace Query

/-- The patterns are turned, and the variables that are projected last are in any order. Those are
all that the body binds, if there are any, and then inside of the body descriptions may differ. -/
structure Turned (base : Clauses) (added added' : List Variable) (query query' : Query) :
    Prop where
  clauses : query.clauses = base.selecting added
  clauses' : query'.clauses = { base.selecting added' with describe := query'.clauses.describe }
  alike : Scope.Alike added added'
  distinct : (added.map (·.name)).Nodup
  distinct' : (added'.map (·.name)).Nodup
  all : base.describesAll = false → added = [] ∧ added' = []
  size : query'.arena.size = query.arena.size
  ledger : query'.ledger = query.ledger
  checked : query'.checked = query.checked
  body : ∀ body, base.body = some body →
    Arena.Turned (base.describesAll = true) query.arena query'.arena body
  roots : ∀ root ∈ query.selectTested ++ query.templates,
    Arena.Turned False query.arena query'.arena root

theorem bodyTripleIds_eq (query : Query) :
    query.bodyTripleIds = query.clauses.body.toList.flatMap query.arena.triplesUnder := by
  rw [bodyTripleIds]
  cases query.clauses.body with
  | none => rfl
  | some body =>
      rw [Option.map_some, Option.toList_some, List.flatMap_singleton, Arena.triplesUnder]
      cases query.arena.triplesBelow body <;> rfl

theorem nodup_bodyBinds (offered : Query → List Variable) (query : Query) :
    ((query.bodyBinds offered).map (·.name)).Nodup := by
  rw [bodyBinds]
  cases query.clauses.body with
  | none => exact List.nodup_nil
  | some body =>
      rw [Option.toList_some, List.flatMap_singleton]
      exact (Variable.nodup_unseen _ _).1

theorem nodup_boundVars (query : Query) : (query.boundVars.map (·.name)).Nodup := by
  rcases Variable.nodup_unseen query.bodyVars query.tableVars with ⟨trailing, apart⟩
  rw [boundVars, List.map_append]
  refine (query.nodup_bodyBinds _).append trailing fun name bound later => ?_
  rcases List.mem_map.mp later with ⟨v, member, rfl⟩
  exact Bool.eq_false_iff.mp (apart v member) (Variable.occursIn_iff.mpr bound)

namespace Turned

variable {base : Clauses} {added added' : List Variable} {query query' : Query}
  (turned : Turned base added added' query query')

include turned

/-! ## Clauses -/

theorem selectTested_eq : query.selectTested = base.select.flatMap fun item =>
    item.value.toList.flatMap Expr.patterns := by
  simp [selectTested, turned.clauses, Clauses.selecting, List.flatMap_map]

theorem tested {item : Projection} (member : item ∈ base.select) {value : Expr}
    (here : item.value = some value) {id : PatternId} (tested : id ∈ value.patterns) :
    Arena.Turned False query.arena query'.arena id := by
  refine turned.roots id (List.mem_append_left _ ?_)
  rw [turned.selectTested_eq]
  exact List.mem_flatMap.mpr ⟨item, member, by simpa [here] using tested⟩

theorem templates_eq : query'.templates = query.templates := by
  rw [Query.templates, Query.templates, turned.clauses', turned.clauses]
  rfl

theorem mayShare_eq : query'.mayShare = query.mayShare := by
  rw [mayShare, mayShare, turned.clauses', turned.clauses]
  rfl

theorem tableVars_eq : query'.tableVars = query.tableVars := by
  rw [tableVars, tableVars, turned.clauses', turned.clauses]
  rfl

theorem levels_eq : query'.arena.levels = query.arena.levels := congrArg (· + 1) turned.size

/-! ## The body -/

theorem mem_notes {hides : Prop} {id : PatternId}
    (here : Arena.Turned hides query.arena query'.arena id) {before before' : Scope}
    (same : Scope.Same before before') (note : Note) :
    note ∈ query.arena.notes before id ↔ note ∈ query'.arena.notes before' id := by
  rw [Arena.notes, Arena.notes, turned.levels_eq]
  exact here.mem_notesAt _ none same note

theorem mem_bodyNotes (note : Note) : note ∈ query.bodyNotes ↔ note ∈ query'.bodyNotes := by
  rw [bodyNotes, bodyNotes, turned.clauses, turned.clauses']
  refine mem_flatMap_congr (fun _ => .rfl) (fun body member => ?_) note
  exact turned.mem_notes (turned.body body (Option.mem_toList.mp member)) fun _ => rfl

theorem same_scopeOfBody : Scope.Same query.scopeOfBody query'.scopeOfBody := by
  rw [scopeOfBody, scopeOfBody, turned.clauses, turned.clauses']
  refine Scope.Same.append ?_ fun _ => rfl
  refine Scope.Alike.ordinary (Scope.alike_flatMap (fun _ => .rfl) fun body member => ?_)
  rw [Arena.visible, Arena.visible, turned.levels_eq]
  exact (turned.body body (Option.mem_toList.mp member)).visibleAt _

/-! ## Projection -/

theorem alike_bodyVars (explicit : base.describesAll = false) :
    Scope.Alike query.bodyVars query'.bodyVars := by
  rw [bodyVars, bodyVars, bodyBinds, bodyBinds, turned.clauses, turned.clauses']
  refine Scope.alike_flatMap (fun _ => .rfl) fun body member => ?_
  have here : Arena.Turned False query.arena query'.arena body :=
    (turned.body body (Option.mem_toList.mp member)).mono (Bool.eq_false_iff.mp explicit)
  rw [Arena.binds, Arena.binds, turned.levels_eq]
  exact (here.bindsAt (fun _ _ agrees => agrees.projected) _).seen

theorem alike_boundVars (explicit : base.describesAll = false) :
    Scope.Alike query.boundVars query'.boundVars := by
  have binds := turned.alike_bodyVars explicit
  rw [boundVars, boundVars, turned.tableVars_eq, Scope.unseen_congr binds.same]
  exact binds.append (.refl _)

theorem mem_itemNotes {item : Projection} (member : item ∈ base.select) {before before' : Scope}
    (same : Scope.Same before before') (note : Note) :
    note ∈ query.itemNotes before item ↔ note ∈ query'.itemNotes before' item := by
  rw [itemNotes, itemNotes]
  cases value : item.value with
  | some value' =>
      dsimp only
      rw [List.mem_append, List.mem_append, targetNotes, targetNotes, same item.target]
      refine or_congr_left (mem_flatMap_congr (fun _ => .rfl) (fun id tested => ?_) note)
      exact turned.mem_notes (turned.tested member value tested) same
  | none =>
      have bound : (item.target.occursIn query.boundVars || item.target.occursIn before ||
            query.clauses.selectAll) =
          (item.target.occursIn query'.boundVars || item.target.occursIn before' ||
            query'.clauses.selectAll) := by
        have all : query.clauses.selectAll = base.selectAll := by rw [turned.clauses]; rfl
        have all' : query'.clauses.selectAll = base.selectAll := by rw [turned.clauses']; rfl
        rw [all, all', same item.target]
        cases selects : base.selectAll with
        | true => rw [Bool.or_true, Bool.or_true]
        | false =>
            have explicit : base.describesAll = false := by
              rw [Clauses.describesAll, selects, Bool.false_and]
            rw [(turned.alike_boundVars explicit).same item.target]
      dsimp only
      rw [bound]

theorem mem_selectNotes (note : Note) : note ∈ query.selectNotes ↔ note ∈ query'.selectNotes := by
  have quiet (query : Query) (vars : List Variable)
      (all : vars ≠ [] → query.clauses.selectAll = true) :
      ∀ item ∈ vars.map fun v => ({ target := v } : Projection), ∀ before,
        query.itemNotes before item = [] := by
    intro item member before
    rcases List.mem_map.mp member with ⟨v, isVar, rfl⟩
    rw [itemNotes, all (List.ne_nil_of_mem isVar), Bool.or_true, if_pos rfl]
  have all {vars : List Variable} (none : base.describesAll = false → vars = [])
      (some : vars ≠ []) : base.selectAll = true := by
    cases describes : base.describesAll with
    | false => exact absurd (none describes) some
    | true => exact ((Bool.and_eq_true _ _).mp describes).1
  have selectAll : query.clauses.selectAll = base.selectAll := by rw [turned.clauses]; rfl
  have selectAll' : query'.clauses.selectAll = base.selectAll := by rw [turned.clauses']; rfl
  have select : query.clauses.select = base.select ++ added.map fun v => { target := v } := by
    rw [turned.clauses]
    rfl
  have select' : query'.clauses.select = base.select ++ added'.map fun v => { target := v } := by
    rw [turned.clauses']
    rfl
  have values : query'.clauses.values = query.clauses.values := by
    rw [turned.clauses', turned.clauses]
    rfl
  rw [selectNotes, selectNotes, select, select', values]
  rw [Note.inOrder_append_quiet _ (quiet query added fun some =>
    selectAll.trans (all (fun explicit => (turned.all explicit).1) some))]
  rw [Note.inOrder_append_quiet _ (quiet query' added' fun some =>
    selectAll'.trans (all (fun explicit => (turned.all explicit).2) some))]
  rw [List.mem_append, List.mem_append]
  refine or_congr_right (Note.mem_inOrder_congr turned.same_scopeOfBody
    (fun _ _ => .refl _) (fun item member before before' same => ?_) note)
  exact turned.mem_itemNotes member same

theorem completed_eq : ∃ more more' : List Variable, Scope.Alike more more' ∧
    (more.map (·.name)).Nodup ∧ (more'.map (·.name)).Nodup ∧
    query.completed = base.selecting more ∧
    query'.completed = { base.selecting more' with describe := query'.clauses.describe } := by
  cases projects : base.projectsAll with
  | true =>
      have explicit : base.describesAll = false := by
        rw [Clauses.projectsAll, Bool.and_eq_true, bne_iff_ne] at projects
        rw [Clauses.describesAll, beq_eq_false_iff_ne.mpr projects.2, Bool.and_false]
      rcases turned.all explicit with ⟨rfl, rfl⟩
      have clauses : query.clauses = base := turned.clauses.trans (Clauses.selecting_nil base)
      have clauses' : query'.clauses = { base with describe := query'.clauses.describe } :=
        turned.clauses'.trans (by rw [Clauses.selecting_nil])
      refine ⟨_, _, (turned.alike_boundVars explicit).unseen (fun _ => rfl) query.nodup_boundVars
        query'.nodup_boundVars, (Variable.nodup_unseen base.selected _).1,
        (Variable.nodup_unseen _ _).1, ?_, ?_⟩
      · rw [completed, clauses, if_pos projects]
        rfl
      · have projects' : query'.clauses.projectsAll = true := by rwa [clauses']
        have selected : query'.clauses.selected = base.selected := by rw [clauses']; rfl
        rw [completed, if_pos projects', selected, clauses']
        rfl
  | false =>
      have partly : ¬ query.clauses.projectsAll = true := by
        rw [turned.clauses]
        exact Bool.eq_false_iff.mp projects
      have partly' : ¬ query'.clauses.projectsAll = true := by
        rw [turned.clauses']
        exact Bool.eq_false_iff.mp projects
      refine ⟨added, added', turned.alike, turned.distinct, turned.distinct', ?_, ?_⟩
      · rw [completed, if_neg partly, turned.clauses]
      · rw [completed, if_neg partly']
        exact turned.clauses'

/-! ## Templates -/

variable (ready : query.Ready) (ready' : query'.Ready)

include ready ready'

theorem mem_bodyTripleIds (id : PatternId) :
    id ∈ query.bodyTripleIds ↔ id ∈ query'.bodyTripleIds := by
  have body : query.clauses.body = base.body := by rw [turned.clauses]; rfl
  have body' : query'.clauses.body = base.body := by rw [turned.clauses']; rfl
  rw [bodyTripleIds_eq, bodyTripleIds_eq, body, body']
  refine mem_flatMap_congr (fun _ => .rfl) (fun root member => ?_) id
  have here := Option.mem_toList.mp member
  exact (turned.body root here).mem_triplesUnder (ready.body (body.trans here)).fits
    (ready'.body (body'.trans here)).fits

theorem mem_templateNotes (note : Note) :
    note ∈ query.templateNotes ↔ note ∈ query'.templateNotes := by
  refine mem_flatMap_congr (fun visit => ?_) (fun _ _ _ => .rfl) note
  rw [templateVisits, templateVisits, turned.templates_eq, turned.levels_eq]
  refine mem_flatMap_congr (fun _ => .rfl) (fun template member => ?_) visit
  exact (turned.roots template (List.mem_append_right _ member)).mem_templateVisitsAt
    (turned.mem_bodyTripleIds ready ready') _ _

theorem mem_groundNotes (note : Note) :
    note ∈ query.groundNotes ↔ note ∈ query'.groundNotes := by
  have ground : Build.groundTemplate? query'.clauses = Build.groundTemplate? query.clauses := by
    rw [turned.clauses', turned.clauses]
    rfl
  have dataUpdate : query'.clauses.dataUpdate = query.clauses.dataUpdate := by
    rw [turned.clauses', turned.clauses]
    rfl
  rw [groundNotes, groundNotes, ground, dataUpdate]
  split
  · exact .rfl
  · next template context found =>
      have member := Build.groundTemplate_mem found
      have here := turned.roots template (List.mem_append_right _ member)
      have fits := ready.templates template member
      have fits' := ready'.templates template (turned.templates_eq ▸ member)
      refine mem_flatMap_congr (here.mem_triplesUnder fits fits') (fun id inside => ?_) note
      have same := here.get?_below ((Arena.mem_triplesUnder fits).mp inside)
      rw [Arena.nodesOf, Arena.nodesOf, same]
      exact fun _ => .rfl

theorem mem_allNotes (note : Note) : note ∈ query.notes ↔ note ∈ query'.notes := by
  have grouping : note ∈ query.completed.groupingNotes ↔ note ∈ query'.completed.groupingNotes := by
    rcases turned.completed_eq with ⟨more, more', alike, distinct, distinct', completed, completed'⟩
    rw [completed, completed']
    exact Clauses.mem_groupingNotes alike distinct distinct' note
  rw [notes, notes, List.mem_append, List.mem_append, List.mem_append, List.mem_append,
    List.mem_append, List.mem_append, List.mem_append, List.mem_append]
  exact or_congr (or_congr (or_congr (or_congr (turned.mem_bodyNotes note)
    (turned.mem_groundNotes ready ready' note)) (turned.mem_templateNotes ready ready' note))
    (turned.mem_selectNotes note)) grouping

/-! ## Checks -/

theorem agrees (lenient : query.Lenient) (lenient' : query'.Lenient) (sincere : query.Sincere) :
    query.Agrees query' := by
  have selected : Scope.Alike query.clauses.selected query'.clauses.selected := by
    have equal : query.clauses.selected = base.selected ++ added := by
      rw [turned.clauses, Clauses.selected_selecting]
    have equal' : query'.clauses.selected = base.selected ++ added' := by
      rw [turned.clauses']
      exact Clauses.selected_selecting base added'
    rw [equal, equal']
    exact (Scope.Alike.refl _).append turned.alike
  cases checked : query.checked with
  | true =>
      have after : query.afterCheck = query :=
        Build.after_of_run_ok (Build.run_check_of_checked checked)
      have after' : query'.afterCheck = query' :=
        Build.after_of_run_ok (Build.run_check_of_checked (turned.checked.trans checked))
      refine ⟨selected, ?_, ?_⟩
      · rwa [after, after']
      · rw [after, after', turned.ledger]
        exact ⟨fun _ => .rfl, fun _ => .rfl⟩
  | false =>
      rcases ready.written_afterCheck lenient checked with ⟨clauses, ledger⟩
      rcases ready'.written_afterCheck lenient' (turned.checked.trans checked) with
        ⟨clauses', ledger'⟩
      refine ⟨selected, ?_, ?_⟩
      · rcases turned.completed_eq with ⟨more, more', alike, _, _, completed, completed'⟩
        have equal : query.completed.selected = base.selected ++ more := by
          rw [completed, Clauses.selected_selecting]
        have equal' : query'.completed.selected = base.selected ++ more' := by
          rw [completed']
          exact Clauses.selected_selecting base more'
        rw [clauses, clauses', equal, equal']
        exact (Scope.Alike.refl _).append alike
      · have after : query.afterCheck.ledger.log.Sincere := sincere.afterCheck.here
        rw [ledger] at after
        rw [ledger, ledger', turned.ledger, turned.mayShare_eq]
        exact Ledger.alike_taking after (turned.mem_allNotes ready ready')

end Turned

end Query

end Sparql
