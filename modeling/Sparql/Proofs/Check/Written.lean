import Sparql.Proofs.Bindable.Projected
import Sparql.Proofs.Check.Notes

/-!
All that a check makes of a query that is not strict, if the patterns it descends into are sound:
the notes that it takes, from the body to the grouping, and the projection that it completes:
`written_afterCheck`.
-/

namespace Sparql

/-! ## Notes of queries -/

def Visit.notes : Visit → List Note
  | triple t owner => t.notes owner
  | bind target before => targetNotes .targetBound before target
  | subquery id sub => sub.relayed id

def Arena.notes (arena : Arena Query) (before : Scope) (id : PatternId) : List Note :=
  arena.notesAt arena.levels none before id

def groundNotes (dataUpdate : DataUpdate) (context : String) (node : Expr) : List Note :=
  if node.isBlank then
    if dataUpdate = .deletion then [.told (Problem.blankInDeleteData node.text).toDiagnostic]
    else []
  else
    match node.asVariable? with
    | some v => [.told (Problem.variableInData v.text context).toDiagnostic]
    | none => []

def Arena.triplesUnder (arena : Arena Query) (root : PatternId) : List PatternId :=
  match arena.triplesBelow root with
  | .ok ids => ids
  | .error _ => []

def Arena.nodesOf (arena : Arena Query) (id : PatternId) : List Expr :=
  ((arena.get? id).bind Pattern.triple?).toList.flatMap Triple.nodes

def Clauses.groupingNotes (clauses : Clauses) : List Note :=
  if !Build.isGrouped clauses then []
  else
    ((Build.mentioned clauses.select).filter fun v =>
        !v.occursIn (clauses.groupBy.filterMap Expr.asVariable?)).map fun v =>
      .told (Problem.notGroupKey v.text).toDiagnostic

namespace Query

def bodyNotes (query : Query) : List Note :=
  query.clauses.body.toList.flatMap (query.arena.notes [])

def groundNotes (query : Query) : List Note :=
  match Build.groundTemplate? query.clauses with
  | none => []
  | some (template, context) =>
    (query.arena.triplesUnder template).flatMap fun id =>
      (query.arena.nodesOf id).flatMap (Sparql.groundNotes query.clauses.dataUpdate context)

def templateNotes (query : Query) : List Note := query.templateVisits.flatMap Visit.notes

def bodyVars (query : Query) : List Variable := query.bodyBinds (·.afterCheck.clauses.selected)

def boundVars (query : Query) : List Variable :=
  query.bodyVars ++ Variable.unseen query.bodyVars query.tableVars

def itemNotes (query : Query) (before : Scope) (item : Projection) : List Note :=
  match item.value with
  | some value =>
    value.patterns.flatMap (query.arena.notes before) ++
      targetNotes .selectTargetBound before item.target
  | none =>
    if (item.target.occursIn query.boundVars || item.target.occursIn before) ||
        query.clauses.selectAll then []
    else [.told (Problem.neverBound item.target.text).toDiagnostic]

def selectNotes (query : Query) : List Note :=
  query.clauses.values.toList.flatMap InlineData.notes ++
    Note.inOrder (fun item => if item.value.isSome then [item.target] else []) query.itemNotes
      query.scopeOfBody query.clauses.select

def completed (query : Query) : Clauses :=
  if query.clauses.projectsAll then
    { query.clauses with
      select := query.clauses.select ++
        (Variable.unseen query.clauses.selected query.boundVars).map ({ target := · }) }
  else query.clauses

def completing (query : Query) : Query := { query with clauses := query.completed }

theorem mayShare_completing (query : Query) : query.completing.mayShare = query.mayShare := by
  rw [mayShare, completing, completed]
  split <;> rfl

def notes (query : Query) : List Note :=
  query.bodyNotes ++ query.groundNotes ++ query.templateNotes ++ query.selectNotes ++
    query.completed.groupingNotes

end Query

namespace Build

variable {α : Type} {start : Query}

theorem Writes.keeping {x : Build α} {returns : α → Prop} {notes : List Note}
    {invariant : Query → Prop} (writes : Writes start x returns notes)
    (preserves : Preserves invariant (fun _ _ => True) x) {query : Query}
    (stage : start.Stage query) (holds : invariant query) :
    Ends x query
      (fun value query' => (returns value ∧ start.Stage query' ∧
        query'.ledger = query.ledger.taking start.mayShare notes) ∧ invariant query')
      fun _ _ => False :=
  ((writes query stage).and (preserves query holds)).imp (fun _ _ => id) fun _ _ => And.left

theorem writes_checkFrom (cells : start.arena.CellsAreTriples) {scope before : Scope}
    {id : PatternId} (opens : Opens start start.arena.levels id)
    (same : Scope.Same scope before) :
    Writes start (checkFrom check scope id)
      (· = (start.arena.visible id).foldl Scope.bind scope) (start.arena.notes before id) := by
  intro query stage
  rw [checkFrom, ends_bind, ends_get, stage.levels_eq]
  exact writes_checkPattern cells opens same query stage

theorem writes_checkBody (ready : start.Ready) :
    Writes start (checkBody check)
      (· = (start.clauses.body.toList.flatMap start.arena.visible).foldl Scope.bind [])
      start.bodyNotes := by
  intro query stage
  rw [checkBody, ends_bind, ends_get, stage.clauses, Query.bodyNotes]
  cases here : start.clauses.body with
  | none => exact ⟨rfl, stage, rfl⟩
  | some body =>
      simp only [Option.toList, List.flatMap_cons, List.flatMap_nil, List.append_nil]
      exact writes_checkFrom ready.cells (ready.body here) (fun _ => rfl) query stage

/-! ## Ground data and templates -/

theorem writes_triplesBelow {root : PatternId}
    (fits : start.arena.Fits start.arena.levels root) :
    Writes start (inspect (·.triplesBelow root))
      (fun ids => ids = start.arena.triplesUnder root ∧
        ∀ id ∈ ids, start.arena.HoldsTriple id) [] := by
  intro query stage
  rcases Arena.triplesBelow_ok fits with ⟨ids, found, triples⟩
  rw [ends_inspect, stage.triplesBelow_eq, found, Arena.triplesUnder, found]
  exact ⟨⟨rfl, triples⟩, stage, rfl⟩

theorem writes_checkGroundNode (dataUpdate : DataUpdate) (context : String) (node : Expr) :
    Writes start (checkGroundNode dataUpdate context node) (fun _ => True)
      (groundNotes dataUpdate context node) := by
  rw [checkGroundNode, groundNotes]
  split
  · split
    · exact writes_problem _
    · exact writes_pure trivial
  · cases node.asVariable? with
    | some v => exact writes_problem _
    | none => exact writes_pure trivial

theorem writes_checkGroundData (ready : start.Ready) :
    Writes start checkGroundData (fun _ => True) start.groundNotes := by
  intro query stage
  rw [checkGroundData, ends_bind, ends_get, stage.clauses, Query.groundNotes]
  dsimp only
  cases ground : groundTemplate? start.clauses with
  | none => exact ⟨trivial, stage, rfl⟩
  | some found =>
      rcases found with ⟨template, context⟩
      have fits := ready.templates _ (groundTemplate_mem ground)
      refine (writes_triplesBelow fits).after ?_ query stage
      rintro ids ⟨rfl, triples⟩
      refine writes_forM fun id member => ?_
      rcases triples id member with ⟨t, found⟩
      have nodes : start.arena.nodesOf id = t.nodes := by
        simp [Arena.nodesOf, found, Pattern.triple?]
      rw [nodes]
      refine (writes_triple found).after ?_
      rintro t rfl
      exact writes_forM fun node _ => writes_checkGroundNode _ _ node

theorem writes_bodyTriples (ready : start.Ready) :
    Writes start bodyTriples (· = start.bodyTripleIds) [] := by
  intro query stage
  rw [bodyTriples, ends_bind, ends_get, stage.clauses, Query.bodyTripleIds]
  cases here : start.clauses.body with
  | none => exact ⟨rfl, stage, rfl⟩
  | some body =>
      refine (writes_triplesBelow (ready.body here).fits query stage).imp ?_ fun _ _ => id
      rintro ids query' ⟨⟨rfl, _⟩, holds⟩
      refine ⟨?_, holds⟩
      rw [Option.map_some, Arena.triplesUnder]
      cases start.arena.triplesBelow body <;> rfl

theorem writes_checkTemplate {levels : Nat} {id : PatternId} (fits : start.arena.Fits levels id)
    (bodyTriples : List PatternId) (owner : PatternId) :
    Writes start (checkTemplate bodyTriples levels owner id) (fun _ => True)
      ((start.arena.templateVisitsAt bodyTriples levels owner id).flatMap Visit.notes) := by
  induction levels generalizing owner id with
  | zero => exact fits.elim
  | succ levels induction =>
      rcases fits with ⟨p, found, fit⟩
      rw [checkTemplate, Arena.templateVisitsAt, found]
      have descend (owner : PatternId) :
          Writes start (p.children.forM (checkTemplate bodyTriples levels owner)) (fun _ => True)
            ((p.children.flatMap (start.arena.templateVisitsAt bodyTriples levels owner)).flatMap
              Visit.notes) := by
        rw [List.flatMap_assoc]
        exact writes_forM fun child member =>
          induction (fit child (List.mem_append_left _ member)) owner
      refine (writes_pattern found).after fun p' settled => ?_
      rcases settled with rfl | ⟨sub, rfl, rfl⟩
      · cases p' with
        | triple t =>
            dsimp only
            split
            · exact writes_pure trivial
            · rw [List.flatMap_singleton]
              exact writes_labels t.blankLabels owner
        | _ => exact descend _
      · exact writes_pure trivial

theorem writes_checkTemplates (ready : start.Ready) :
    Writes start checkTemplates (fun _ => True) start.templateNotes := by
  apply (writes_bodyTriples ready).after
  rintro _ rfl query stage
  rw [ends_bind, ends_get, stage.clauses, stage.levels_eq, Query.templateNotes,
    Query.templateVisits, List.flatMap_assoc]
  refine writes_forM (fun template member => ?_) query stage
  exact writes_checkTemplate (ready.templates template member) _ template

/-! ## Projection -/

theorem ends_bodyVariables_ready (ready : start.Ready) {query : Query}
    (stage : start.Stage query)
    (midway : start.Midway (start.arena.entered start.clauses.body.toList) query) :
    Ends bodyVariables query (fun vars query' => vars = start.bodyVars ∧ query' = query)
      fun _ _ => False := by
  have returns : Ends bodyVariables query (fun _ _ => True) fun _ _ => False := by
    rw [bodyVariables, ends_bind, ends_get, stage.clauses]
    cases here : start.clauses.body with
    | none => trivial
    | some body =>
        rcases Arena.addBindable_ok (stage.fits (ready.body here).fits) [] with ⟨vars, found⟩
        have bindable : query.arena.bindable body = .ok vars := by
          rw [Arena.bindable, stage.levels_eq, found]
        dsimp only
        rw [ends_inspect, bindable]
        trivial
  exact ((ends_bodyVariables_midway midway).and returns).imp (fun _ _ => And.left)
    fun _ _ => And.right

theorem writes_checkTrailing (bodyVars : List Variable) (scope : Scope) :
    Writes start (checkTrailing bodyVars scope)
      (· = (bodyVars ++ Variable.unseen bodyVars start.tableVars,
        start.tableVars.foldl Scope.bind scope))
      (start.clauses.values.toList.flatMap InlineData.notes) := by
  intro query stage
  rw [checkTrailing, ends_bind, ends_get, stage.clauses, Query.tableVars]
  cases start.clauses.values with
  | none => exact ⟨by simp [Variable.unseen], stage, rfl⟩
  | some table =>
      simp only [Option.toList, List.flatMap_cons, List.flatMap_nil, List.append_nil]
      rw [← List.append_nil table.notes]
      refine (writes_checkTable scope table).bind ?_ query stage
      rintro _ rfl
      refine writes_pure ?_
      rw [Variable.foldl_addTo]

theorem writes_checkItem (ready : start.Ready) {scope before : Scope}
    (same : Scope.Same scope before) {item : Projection}
    (member : item ∈ start.clauses.select) :
    Writes start (checkItem check start.boundVars scope item)
      (· = (if item.value.isSome then [item.target] else []).foldl Scope.bind scope)
      (start.itemNotes before item) := by
  rw [checkItem, Query.itemNotes]
  cases here : item.value with
  | some value =>
      have tested : Writes start
          (value.patterns.forM fun tested => discard (checkFrom check scope tested))
          (fun _ => True) (value.patterns.flatMap (start.arena.notes before)) :=
        writes_forM fun id tested =>
          (writes_checkFrom ready.cells (ready.tested member here tested) same).discard
      exact tested.bind fun _ _ => writes_target same .selectTargetBound item.target
  | none =>
      intro query stage
      rw [ends_bind, ends_get, stage.clauses, same item.target]
      dsimp only
      split
      · exact ⟨rfl, stage, rfl⟩
      · have told : Writes start (do problem (.neverBound item.target.text); return scope)
            (· = scope) [.told (Problem.neverBound item.target.text).toDiagnostic] :=
          (writes_problem _).returning rfl
        exact told query stage

theorem writes_checkItems (ready : start.Ready) {scope before : Scope}
    (same : Scope.Same scope before) :
    Writes start (discard (start.clauses.select.foldlM (checkItem check start.boundVars) scope))
      (fun _ => True)
      (Note.inOrder (fun item => if item.value.isSome then [item.target] else [])
        start.itemNotes before start.clauses.select) := by
  refine (writes_inOrder same fun item member scope before same => ?_).discard
  exact writes_checkItem ready same member

/-! ## The end of a check -/

theorem ends_projection_written {query : Query} (stage : start.Stage query) :
    Ends
      (do
        let clauses := (← get).clauses
        if clauses.selectAll && clauses.form != .describe then
          projectAll start.boundVars)
      query (fun _ query' => start.completing.Stage query' ∧ query'.ledger = query.ledger)
      fun _ _ => False := by
  rw [ends_bind, ends_get, stage.clauses]
  dsimp only
  split
  · next all =>
      have all' : start.clauses.projectsAll = true := all
      rw [projectAll, modifyClauses, ends_modify]
      refine ⟨⟨stage.lenient, ?_, stage.size, stage.settled⟩, rfl⟩
      rw [stage.clauses, Query.completing, Query.completed, if_pos all', items_projectAll]
      rfl
  · next partly =>
      have partly' : ¬ start.clauses.projectsAll = true := partly
      refine ⟨⟨stage.lenient, ?_, stage.size, stage.settled⟩, rfl⟩
      rw [stage.clauses, Query.completing, Query.completed, if_neg partly']

theorem ends_checkSelect_written (ready : start.Ready) {query : Query} (stage : start.Stage query)
    (midway : start.Midway (start.arena.entered start.clauses.body.toList) query) :
    Ends (checkSelect check
        ((start.clauses.body.toList.flatMap start.arena.visible).foldl Scope.bind []))
      query
      (fun _ query' => start.completing.Stage query' ∧
        query'.ledger = query.ledger.taking start.mayShare start.selectNotes)
      fun _ _ => False := by
  apply (ends_bodyVariables_ready ready stage midway).bind
  rintro _ query ⟨rfl, rfl⟩
  apply (writes_checkTrailing _ _ query stage).bind
  rintro _ query₁ ⟨rfl, stage₁, ledger₁⟩
  rw [ends_bind, ends_get, stage₁.clauses]
  apply (writes_checkItems ready start.same_scopeOfBody query₁ stage₁).bind
  rintro _ query₂ ⟨_, stage₂, ledger₂⟩
  refine (ends_projection_written stage₂).imp ?_ fun _ _ => id
  rintro _ query' ⟨stage', ledger'⟩
  refine ⟨stage', ?_⟩
  rw [ledger', ledger₂, ledger₁, Query.selectNotes, Ledger.taking_append]

theorem writes_checkGrouping :
    Writes start checkGrouping (fun _ => True) start.clauses.groupingNotes := by
  intro query stage
  rw [checkGrouping, ends_bind, ends_get, stage.clauses, Clauses.groupingNotes]
  dsimp only
  split
  · exact ⟨trivial, stage, rfl⟩
  · exact writes_each (fun v _ => writes_problem _) query stage

theorem check_writes (ready : start.Ready) (lenient : start.Lenient)
    (unchecked : start.checked = false) :
    Ends check start
      (fun _ query' => query'.clauses = start.completed ∧
        query'.ledger =
          { start.ledger with owners := [] }.taking start.mayShare start.notes)
      fun _ _ => False := by
  suffices ends : Ends (checkWith check) start
      (fun _ query' => query'.clauses = start.completed ∧
        query'.ledger =
          { start.ledger with owners := [] }.taking start.mayShare start.notes)
      fun _ _ => False by
    rwa [Ends, check_eq]
  rw [checkWith, ends_bind, ends_get, unchecked, if_neg Bool.false_ne_true, ends_bind, ends_modify]
  have covers := ends_checkBody_midway start
  have closed := closedUnderVisits_midway start (start.arena.entered start.clauses.body.toList)
  have written := (writes_checkBody ready _ lenient.begun).and covers
  apply (written.imp (fun _ _ => id) fun _ _ => And.left).bind
  rintro _ query₁ ⟨⟨rfl, stage₁, ledger₁⟩, midway₁⟩
  apply ((writes_checkGroundData ready).keeping (preserves_checkGroundData closed) stage₁
    midway₁).bind
  rintro _ query₂ ⟨⟨_, stage₂, ledger₂⟩, midway₂⟩
  apply ((writes_checkTemplates ready).keeping (preserves_checkTemplates closed) stage₂
    midway₂).bind
  rintro _ query₃ ⟨⟨_, stage₃, ledger₃⟩, midway₃⟩
  apply (ends_checkSelect_written ready stage₃ midway₃).bind
  rintro _ query₄ ⟨stage₄, ledger₄⟩
  apply (writes_checkGrouping query₄ stage₄).bind
  rintro _ query₅ ⟨_, stage₅, ledger₅⟩
  refine ⟨stage₅.clauses, ?_⟩
  have taken :
      query₅.ledger = { start.ledger with owners := [] }.taking start.mayShare start.notes :=
    calc query₅.ledger
        = query₄.ledger.taking start.mayShare start.completed.groupingNotes := by
          rw [ledger₅, start.mayShare_completing]
          rfl
      _ = _ := by
          rw [ledger₄, ledger₃, ledger₂, ledger₁, Query.notes, Ledger.taking_append,
            Ledger.taking_append, Ledger.taking_append, Ledger.taking_append]
          rfl
  exact taken

end Build

theorem Query.Ready.written_afterCheck {query : Query} (ready : query.Ready)
    (lenient : query.Lenient) (unchecked : query.checked = false) :
    query.afterCheck.clauses = query.completed ∧
      query.afterCheck.ledger =
        { query.ledger with owners := [] }.taking query.mayShare query.notes := by
  rcases (Build.check_writes ready lenient unchecked).exists_ok with ⟨_, query', run, written⟩
  rwa [afterCheck, Build.after_of_run_ok run]

end Sparql
